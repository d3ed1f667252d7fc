/-
  Kargain.Evm.BondLedger — the books of BondedChallenge.

  A contract built on BondedChallenge gives the hooks, may do something
  before and after `_openChallenge` in its `open`, and has entry points
  of its own.  None of these writes the challenges or the counter of
  locked bonds: `BondedContract.Law` says so, up to what callees send in.

  Under that law every run is a sequence of moves (`Move`): a challenge
  is opened, a challenge ends and its bond is paid, or something happens
  aside.  The counter, the storage and the log follow from the moves.

  Main result: `bonded_ledger`.
-/
import Kargain.Base.Tally
import Kargain.Evm.Sides
import Kargain.Evm.BondedChallenge

namespace Kargain.Evm

open Relation

variable {P σ γ : Type}

/-! ## §1. Contracts built on BondedChallenge. -/

inductive ChallengeCall where
  | open (t : TokenId)
  | withdraw (t : TokenId)
  | judge (t : TokenId) (outcome : JudgeOutcome)
  | conclude (t : TokenId)

structure BondedContract (P σ γ : Type) where
  hooks : Hooks P σ
  challenge : ChallengeHooks P σ
  /-- Which of its entry points are those of BondedChallenge. -/
  entry : γ → Option ChallengeCall
  /-- What the contract's `open` does around `_openChallenge`. -/
  beforeOpen : World P σ → Address → TokenId → Except Error (World P σ)
  afterOpen : World P σ → Address → TokenId → World P σ
  /-- Its own entry points: which are `nonReentrant`, which take value, and their bodies. -/
  guarded : γ → Bool
  payable : γ → Bool
  body : (sender : Address) → (value : ℕ) → γ → (ℕ → Reply P σ) → World P σ →
    Except Error (World P σ)

namespace BondedContract

variable (K : BondedContract P σ γ)

def openBody (sender : Address) (value : ℕ) (t : TokenId) (w : World P σ) :
    Except Error (World P σ) := do
  let w ← K.beforeOpen w sender t
  let w ← openChallenge K.challenge w sender t value
  pure (K.afterOpen w sender t)

def execChallenge (sender : Address) (value : ℕ) (rs : ℕ → Reply P σ) (w : World P σ) :
    ChallengeCall → Except Error (World P σ)
  | .open t => nonReentrant (w.receiveValue value) fun w => K.openBody sender value t w
  | .withdraw t => do
    nonPayable value
    nonReentrant w fun w => withdrawBody K.challenge w sender t rs
  | .judge t outcome => do
    nonPayable value
    nonReentrant w fun w => judgeBody K.challenge w sender t outcome rs
  | .conclude t => do
    nonPayable value
    nonReentrant w fun w => concludeBody K.challenge w sender t rs

/-- An own entry point, with the value it came with on board. -/
def execOwn (sender : Address) (value : ℕ) (c : γ) (rs : ℕ → Reply P σ) (w : World P σ) :
    Except Error (World P σ) :=
  if K.guarded c then nonReentrant w fun w => K.body sender value c rs w
  else K.body sender value c rs w

def dispatch (sender : Address) (value : ℕ) (c : γ) (rs : ℕ → Reply P σ)
    (w : World P σ) : Except Error (World P σ) :=
  match K.entry c with
  | some c => K.execChallenge sender value rs w c
  | none =>
    if K.payable c then K.execOwn sender value c rs (w.receiveValue value)
    else do
      nonPayable value
      K.execOwn sender value c rs w

def mode : Mode P σ γ := ⟨K.hooks, K.dispatch⟩

end BondedContract

/-- The events of BondedChallenge. -/
def Event.ofChallenge : Event → Bool
  | .challengeOpened .. | .challengeWithdrawn .. | .challengeJudged ..
  | .challengeConcluded .. => true
  | _ => false

/-- What the log says about challenges. -/
def challengeLog (l : Log) : Log := l.filter fun e => e.2.ofChallenge

/-- The challenges, the counter and the challenge log are left alone, and the clock is not set
    back. -/
structure Aside (w w' : World P σ) : Prop where
  bonds : w'.bonds = w.bonds
  log : challengeLog w'.log = challengeLog w.log
  now : w.env.now ≤ w'.env.now

/-- Aside, with the guard as it was: what the code of an instance does by itself. -/
structure Apart (w w' : World P σ) : Prop extends Aside w w' where
  locked : w'.locked = w.locked

/-- The hooks and the own entry points keep every relation that has the changes apart and
    that their callees keep. -/
structure BondedContract.Law (K : BondedContract P σ γ) : Prop where
  beforeOpen : ∀ {w w' s t}, K.beforeOpen w s t = .ok w' → Apart w w'
  afterOpen : ∀ w s t, Apart w (K.afterOpen w s t)
  onUpheld : ∀ {w w' s t}, K.challenge.onUpheld w s t = .ok w' → Apart w w'
  onWithdrawn : ∀ {w w' s t}, K.challenge.onWithdrawn w s t = .ok w' → Apart w w'
  onRejected : ∀ {R : World P σ → World P σ → Prop} {w w' s t rs}, (∀ w, R w w) →
    (∀ {u v w}, R u v → R v w → R u w) → (∀ {u v}, Apart u v → R u v) →
    (∀ i, Keeps R (rs i)) → K.challenge.onRejected w s t rs = .ok w' → R w w'
  onExpired : ∀ {R : World P σ → World P σ → Prop} {w w' s t rs}, (∀ w, R w w) →
    (∀ {u v w}, R u v → R v w → R u w) → (∀ {u v}, Apart u v → R u v) →
    (∀ i, Keeps R (rs i)) → K.challenge.onExpired w s t rs = .ok w' → R w w'
  body : ∀ {R : World P σ → World P σ → Prop} {w w' s value c rs}, (∀ w, R w w) →
    (∀ {u v w}, R u v → R v w → R u w) → (∀ {u v}, Apart u v → R u v) →
    (∀ i, Keeps R (rs i)) → K.body s value c rs w = .ok w' → R w w'

theorem Aside.refl (w : World P σ) : Aside w w := ⟨rfl, rfl, le_rfl⟩

theorem Aside.trans {u v w : World P σ} (h : Aside u v) (k : Aside v w) : Aside u w :=
  ⟨k.bonds.trans h.bonds, k.log.trans h.log, le_trans h.now k.now⟩

theorem Apart.refl (w : World P σ) : Apart w w := ⟨.refl w, rfl⟩

theorem Apart.trans {u v w : World P σ} (h : Apart u v) (k : Apart v w) : Apart u w :=
  ⟨h.toAside.trans k.toAside, k.locked.trans h.locked⟩

/-- A change that shows neither in the bonds nor in the guard and adds no challenge event. -/
theorem Apart.of_same {w w' : World P σ} (hb : w'.bonds = w.bonds) (hl : w'.log = w.log)
    (hk : w'.locked = w.locked) (hn : w'.env.now = w.env.now) : Apart w w' :=
  ⟨⟨hb, by rw [hl], hn.ge⟩, hk⟩

/-- Such a change may be announced. -/
theorem Apart.emit {w w' : World P σ} {s : Address} {e : Event} (h : Apart w w')
    (he : e.ofChallenge = false) : Apart w (w'.emit s e) :=
  h.trans ⟨⟨rfl, by simp [challengeLog, World.emit, he], le_rfl⟩, rfl⟩

/-- Side changes are apart from the challenges. -/
theorem Side.apart [Erc721 P] {H : Hooks P σ} {w w' : World P σ}
    (h : Side H (fun _ _ => True) w w') : Apart w w' := by
  have hb := h.beside fun _ => trivial
  refine ⟨⟨hb.bonds, hb.reading fun s e older he => ?_, hb.now.ge⟩, hb.locked⟩
  have hnot : e.ofChallenge = false := by cases e <;> first | rfl | cases he
  simp [challengeLog, hnot]

/-! ## §2. Moves. -/

/-- How a challenge ends. -/
inductive Terminal where
  | withdrawn
  | judged (outcome : JudgeOutcome)
  | concluded

/-- Whose bond it is in the end. -/
def Terminal.recipient (c : Challenge) (forfeitRecipient : Address) : Terminal → Address
  | .withdrawn | .judged .upheld => c.challenger
  | .judged .rejected | .concluded => forfeitRecipient

/-- When it may be: `conclude` from the end of the window on, the others before it. -/
def Terminal.timely (c : Challenge) (now : ℕ) : Terminal → Prop
  | .concluded => c.openedAt + c.windowDuration ≤ now
  | _ => now < c.openedAt + c.windowDuration

def Terminal.event (t : TokenId) (c : Challenge) (s forfeitRecipient : Address) :
    Terminal → Event
  | .withdrawn => .challengeWithdrawn t c.challenger c.bondAmount c.windowDuration c.openedAt
  | .judged outcome => .challengeJudged t c.challenger s outcome
    ((Terminal.judged outcome).recipient c forfeitRecipient) c.bondAmount c.windowDuration c.openedAt
  | .concluded => .challengeConcluded t c.challenger forfeitRecipient c.bondAmount
    c.windowDuration c.openedAt

/-- One move on the books.  A challenge that ends is cleared, its bond goes out in one payment,
    during which nothing happens on the books, and the end is announced. -/
inductive Move (w : World P σ) : World P σ → Prop where
  | aside {w' : World P σ} (h : Aside w w') : Move w w'
  | opened {s : Address} {t : TokenId} (value : ℕ) (hfree : isChallengeActive w t = false) :
      Move w ((w.setChallenge t ⟨w.env.now, w.bonds.windowDuration, s, value⟩
        (w.bonds.totalLockedBonds + value)).emit s
          (.challengeOpened t s value w.bonds.windowDuration w.env.now))
  | ended {u : World P σ} {s : Address} {t : TokenId} {r : Reply P σ} (how : Terminal)
      (hactive : isChallengeActive w t = true)
      (htimely : how.timely (w.bonds.challenges t) w.env.now)
      (hbond : (w.bonds.challenges t).bondAmount ≤ w.bonds.totalLockedBonds)
      (hpaid : payNative (w.setChallenge t .empty
          (w.bonds.totalLockedBonds - (w.bonds.challenges t).bondAmount)) s
        (how.recipient (w.bonds.challenges t) w.bonds.forfeitRecipient)
        (w.bonds.challenges t).bondAmount r = .ok u)
      (hquiet : Aside (w.setChallenge t .empty
        (w.bonds.totalLockedBonds - (w.bonds.challenges t).bondAmount)) u) :
      Move w (u.emit s (how.event t (w.bonds.challenges t) s w.bonds.forfeitRecipient))

abbrev Moves (w w' : World P σ) : Prop := ReflTransGen Move w w'

theorem Moves.of_aside {w w' : World P σ} (h : Aside w w') : Moves w w' := .single (.aside h)

theorem Moves.of_apart {w w' : World P σ} (h : Apart w w') : Moves w w' := .of_aside h.toAside

theorem guardPair : GuardPair (Apart : World P σ → World P σ → Prop) Moves where
  refl := .refl
  trans h k := h.trans k
  locked h := h.locked
  rest h := Moves.of_apart h
  rest_trans h k := h.trans k
  toggle _ _ := Moves.of_aside ⟨rfl, rfl, le_rfl⟩

/-- What a message does: moves, and under the guard changes apart. -/
abbrev Moved (w w' : World P σ) : Prop := Respects Apart Moves w w'

/-! ## §3. Every message is a sequence of moves. -/

section Moves

variable [Erc721 P] {K : BondedContract P σ γ} {H : Hooks P σ} {w w' : World P σ} {t : TokenId}
  {sender : Address} {value : ℕ} {rs : ℕ → Reply P σ}

theorem guarded_sides : HasSides H (fun _ _ => True) (Guarded Apart) :=
  ⟨guardPair.guarded_refl, guardPair.guarded_trans, fun h _ => h.apart⟩

/-- **The end of a challenge is one move.** -/
theorem ended_move (how : Terminal) {c : Challenge} {w₁ w₂ : World P σ} {r : Reply P σ}
    {judgeCaller : Address} (hl : w.locked = true) (hr : Keeps (Guarded Apart) r)
    (hc : requireActiveChallenge w t = .ok c) (htime : how.timely c w.env.now)
    (hclear : clearChallengeAccounting w t c.bondAmount = .ok w₁)
    (hpay : payBond w₁ sender (how.recipient c w.bonds.forfeitRecipient) judgeCaller c.bondAmount r =
      .ok w₂) :
    Move w (w₂.emit sender (how.event t c sender w.bonds.forfeitRecipient)) ∧
      w₂.locked = true ∧ w₂.bonds.forfeitRecipient = w.bonds.forfeitRecipient := by
  simp only [requireActiveChallenge, bind_ok, revertIf_ok, exists_const, pure_ok] at hc
  obtain ⟨hactive, rfl⟩ := hc
  simp only [clearChallengeAccounting, bind_ok, checkedSub_ok, pure_ok] at hclear
  obtain ⟨total, ⟨hle, rfl⟩, rfl⟩ := hclear
  simp only [payBond, bind_ok, revertIf_ok, exists_const] at hpay
  obtain ⟨-, hpay⟩ := hpay
  have hquiet := payNative_keeps (guarded_sides (H := ⟨fun _ _ => true, fun _ _ _ _ => .ok (), false⟩))
    hr hpay hl
  exact ⟨.ended how (by simpa using hactive) htime hle hpay hquiet.toAside,
    hquiet.locked.trans hl, by rw [hquiet.bonds]; rfl⟩

omit [Erc721 P] in
theorem requireWithinWindow_ok {c : Challenge} {u : Unit} (h : requireWithinWindow w c = .ok u) :
    w.env.now < c.openedAt + c.windowDuration := by
  simp only [requireWithinWindow, bind_ok, checkedAdd_ok, revertIf_ok] at h
  obtain ⟨ends, ⟨-, rfl⟩, h⟩ := h
  exact not_le.mp h

omit [Erc721 P] in
theorem requireAfterWindow_ok {c : Challenge} {u : Unit} (h : requireAfterWindow w c = .ok u) :
    c.openedAt + c.windowDuration ≤ w.env.now := by
  simp only [requireAfterWindow, bind_ok, checkedAdd_ok, revertIf_ok] at h
  obtain ⟨ends, ⟨-, rfl⟩, h⟩ := h
  exact not_lt.mp h

omit [Erc721 P] in
theorem openBody_moves (hK : K.Law) (h : K.openBody sender value t w = .ok w') :
    Moves w w' ∧ w'.locked = w.locked := by
  simp only [BondedContract.openBody, openChallenge, bind_ok, revertIf_ok, exists_const,
    checkedAdd_ok, pure_ok] at h
  obtain ⟨u, hu, _, ⟨-, _, -, hfree, -, -, total, ⟨-, rfl⟩, rfl⟩, rfl⟩ := h
  have hbefore := hK.beforeOpen hu
  have hopened : Move u _ := .opened (s := sender) (t := t) value (by simpa using hfree)
  have hafter := hK.afterOpen ((u.setChallenge t ⟨u.env.now, u.bonds.windowDuration, sender, value⟩
    (u.bonds.totalLockedBonds + value)).emit sender
      (.challengeOpened t sender value u.bonds.windowDuration u.env.now)) sender t
  exact ⟨((Moves.of_apart hbefore).tail hopened).trans (Moves.of_apart hafter),
    hafter.locked.trans hbefore.locked⟩

theorem withdrawBody_moves (hK : K.Law) (hl : w.locked = true) (hr : ∀ i, Keeps (Guarded Apart) (rs i))
    (h : withdrawBody K.challenge w sender t rs = .ok w') :
    Moves w w' ∧ w'.locked = true := by
  simp only [withdrawBody, bind_ok, revertIf_ok, exists_const] at h
  obtain ⟨_, -, c, hc, -, _, htime, w₁, hclear, w₂, hpay, hdone⟩ := h
  obtain ⟨hmove, hl₂, -⟩ := ended_move .withdrawn hl (hr 0) hc
    (requireWithinWindow_ok htime) hclear hpay
  have hdone := hK.onWithdrawn hdone
  exact ⟨(ReflTransGen.single hmove).trans (Moves.of_apart hdone), hdone.locked.trans hl₂⟩

theorem judgeBody_moves {outcome : JudgeOutcome} (hK : K.Law) (hl : w.locked = true)
    (hr : ∀ i, Keeps (Guarded Apart) (rs i))
    (h : judgeBody K.challenge w sender t outcome rs = .ok w') :
    Moves w w' ∧ w'.locked = true := by
  simp only [judgeBody, bind_ok, revertIf_ok, exists_const] at h
  obtain ⟨_, -, c, hc, _, htime, -, -, w₁, hclear, w₂, hpay, hdone⟩ := h
  cases outcome with
  | upheld =>
    obtain ⟨hmove, hl₂, -⟩ := ended_move (.judged .upheld) hl (hr 0) hc
      (requireWithinWindow_ok htime) hclear hpay
    have hdone := hK.onUpheld hdone
    exact ⟨(ReflTransGen.single hmove).trans (Moves.of_apart hdone), hdone.locked.trans hl₂⟩
  | rejected =>
    obtain ⟨hmove, hl₂, -⟩ := ended_move (.judged .rejected) hl (hr 0) hc
      (requireWithinWindow_ok htime) hclear hpay
    have hdone : Guarded Apart _ w' := hK.onRejected (R := Guarded Apart) guardPair.guarded_refl
      guardPair.guarded_trans (fun h _ => h) (fun i => hr (i + 1)) hdone
    have happart := hdone hl₂
    exact ⟨(ReflTransGen.single hmove).trans (Moves.of_apart happart), happart.locked.trans hl₂⟩

theorem concludeBody_moves (hK : K.Law) (hl : w.locked = true) (hr : ∀ i, Keeps (Guarded Apart) (rs i))
    (h : concludeBody K.challenge w sender t rs = .ok w') :
    Moves w w' ∧ w'.locked = true := by
  simp only [concludeBody, bind_ok] at h
  obtain ⟨_, -, c, hc, _, htime, w₁, hclear, w₂, hpay, hdone⟩ := h
  have hforfeit : w₁.bonds.forfeitRecipient = w.bonds.forfeitRecipient := by
    simp only [clearChallengeAccounting, bind_ok, checkedSub_ok, pure_ok] at hclear
    obtain ⟨total, -, rfl⟩ := hclear
    rfl
  rw [hforfeit] at hpay
  obtain ⟨hmove, hl₂, hf₂⟩ := ended_move .concluded hl (hr 0) hc
    (requireAfterWindow_ok htime) hclear hpay
  rw [hf₂] at hdone
  have hdone : Guarded Apart _ w' := hK.onExpired (R := Guarded Apart) guardPair.guarded_refl
    guardPair.guarded_trans (fun h _ => h) (fun i => hr (i + 1)) hdone
  have happart := hdone hl₂
  exact ⟨(ReflTransGen.single hmove).trans (Moves.of_apart happart), happart.locked.trans hl₂⟩

theorem execChallenge_moved {c : ChallengeCall} (hK : K.Law) (hr : ∀ i, Keeps Moved (rs i))
    (h : K.execChallenge sender value rs w c = .ok w') : Moved w w' := by
  have hg : ∀ i, Keeps (Guarded Apart) (rs i) := fun i => Respects.guarded (hr i)
  cases c with
  | «open» t =>
    have hvalue : Moved w (w.receiveValue value) := guardPair.of (.of_same rfl rfl rfl rfl)
    exact guardPair.respects_trans hvalue (guardPair.nonReentrant (fun hu => (openBody_moves hK hu).1) h)
  | withdraw t =>
    simp only [BondedContract.execChallenge, bind_ok] at h
    obtain ⟨-, -, h⟩ := h
    exact guardPair.nonReentrant (fun hu => (withdrawBody_moves hK rfl hg hu).1) h
  | judge t outcome =>
    simp only [BondedContract.execChallenge, bind_ok] at h
    obtain ⟨-, -, h⟩ := h
    exact guardPair.nonReentrant (fun hu => (judgeBody_moves hK rfl hg hu).1) h
  | conclude t =>
    simp only [BondedContract.execChallenge, bind_ok] at h
    obtain ⟨-, -, h⟩ := h
    exact guardPair.nonReentrant (fun hu => (concludeBody_moves hK rfl hg hu).1) h

omit [Erc721 P] in
theorem execOwn_moved {c : γ} (hK : K.Law) (hr : ∀ i, Keeps Moved (rs i))
    (h : K.execOwn sender value c rs w = .ok w') : Moved w w' := by
  unfold BondedContract.execOwn at h
  split at h
  · refine guardPair.nonReentrant (fun hu => ?_) h
    have hbody : Guarded Apart _ _ := hK.body (R := Guarded Apart) guardPair.guarded_refl
      guardPair.guarded_trans (fun h _ => h) (fun i => Respects.guarded (hr i)) hu
    exact Moves.of_apart (hbody rfl)
  · exact hK.body (R := Moved) guardPair.respects_refl guardPair.respects_trans guardPair.of hr h

/-- **Every message is a sequence of moves**, whatever its callees send in. -/
theorem exec_moved {d : ℕ} {m : Msg γ} (hK : K.Law)
    (h : K.mode.exec d m w = .ok w') : Moved w w' := by
  refine Mode.exec_keeps (R := Moved) guardPair.respects_refl guardPair.respects_trans ?_ ?_
    d m w w' h
  · intro o u v ho
    exact guardPair.of (Side.apart (H := K.hooks) (.outside o ho))
  · intro s value c rs u v hrs hd
    simp only [BondedContract.mode, BondedContract.dispatch] at hd
    split at hd
    · exact execChallenge_moved hK hrs hd
    · split at hd
      · have hvalue : Moved u (u.receiveValue value) := guardPair.of (.of_same rfl rfl rfl rfl)
        exact guardPair.respects_trans hvalue (execOwn_moved hK hrs hd)
      · simp only [bind_ok] at hd
        obtain ⟨-, -, hd⟩ := hd
        exact execOwn_moved hK hrs hd

end Moves

/-! ## §4. The books. -/

/-- The challenge of a passport that has been opened and not ended, as the log has it. -/
def standingAfter (t : TokenId) : Log → Option Challenge
  | [] => none
  | (_, e) :: older =>
    match e with
    | .challengeOpened t' challenger bondAmount windowDuration openedAt =>
      if t' = t then some ⟨openedAt, windowDuration, challenger, bondAmount⟩
      else standingAfter t older
    | .challengeWithdrawn t' .. | .challengeJudged t' .. | .challengeConcluded t' .. =>
      if t' = t then none else standingAfter t older
    | _ => standingAfter t older

/-- Only a passport without a challenge gets one; only a standing challenge ends, with the data
    it was opened with, its bond going to the challenger or the forfeit recipient. -/
def LawfulEntry (forfeitRecipient : Address) (older : Log) : Address × Event → Prop
  | (_, .challengeOpened t _ _ _ _) => standingAfter t older = none
  | (_, .challengeWithdrawn t challenger bondAmount windowDuration openedAt) =>
    standingAfter t older = some ⟨openedAt, windowDuration, challenger, bondAmount⟩
  | (_, .challengeJudged t challenger _ outcome bondRecipient bondAmount windowDuration
      openedAt) =>
    standingAfter t older = some ⟨openedAt, windowDuration, challenger, bondAmount⟩ ∧
      bondRecipient = (if outcome = .upheld then challenger else forfeitRecipient)
  | (_, .challengeConcluded t challenger bondRecipient bondAmount windowDuration openedAt) =>
    standingAfter t older = some ⟨openedAt, windowDuration, challenger, bondAmount⟩ ∧
      bondRecipient = forfeitRecipient
  | _ => True

/-- The bond of a passport's challenge, if it has one. -/
def activeBond (w : World P σ) (t : TokenId) : ℕ :=
  if isChallengeActive w t then (w.bonds.challenges t).bondAmount else 0

/-- The books are in order. -/
structure BooksLaw (w : World P σ) : Prop where
  now_pos : 0 < w.env.now
  inactive : ∀ t, isChallengeActive w t = false → w.bonds.challenges t = .empty
  total : Tallies (activeBond w) w.bonds.totalLockedBonds
  recorded : ∀ t, standingAfter t (challengeLog w.log) =
    if isChallengeActive w t then some (w.bonds.challenges t) else none
  lawful : Throughout (LawfulEntry w.bonds.forfeitRecipient) (challengeLog w.log)

/-- A contract on which nothing has happened, on a chain whose clock runs. -/
structure BondedGenesis (w : World P σ) : Prop where
  now_pos : 0 < w.env.now
  challenges : w.bonds.challenges = fun _ => .empty
  totalLockedBonds : w.bonds.totalLockedBonds = 0
  log : challengeLog w.log = []
  locked : w.locked = false


section Books

variable {w w' u : World P σ} {t t' : TokenId}

theorem challengeLog_emit {s : Address} {e : Event} (he : e.ofChallenge = true) :
    challengeLog (w.emit s e).log = (s, e) :: challengeLog w.log := by
  simp [challengeLog, World.emit, he]

theorem isChallengeActive_congr (hb : w'.bonds = w.bonds) :
    isChallengeActive w' t = isChallengeActive w t := by
  unfold isChallengeActive
  rw [hb]

theorem activeBond_congr (hb : w'.bonds = w.bonds) : activeBond w' = activeBond w := by
  funext t
  unfold activeBond
  rw [isChallengeActive_congr hb, hb]

/-- Writing one challenge changes one bond. -/
theorem activeBond_setChallenge {c : Challenge} {total : ℕ} :
    activeBond (w.setChallenge t c total) =
      Function.update (activeBond w) t (if c.openedAt != 0 then c.bondAmount else 0) := by
  funext t'
  by_cases ht : t' = t
  · subst ht
    simp [activeBond, isChallengeActive, World.setChallenge]
  · simp [activeBond, isChallengeActive, World.setChallenge, ht]

theorem BooksLaw.init (h : BondedGenesis w) : BooksLaw w := by
  have hzero : activeBond w = fun _ => 0 := by
    funext t
    simp [activeBond, isChallengeActive, h.challenges, Challenge.empty]
  refine ⟨h.now_pos, fun t _ => by rw [h.challenges], ?_, fun t => ?_, ?_⟩
  · rw [hzero, h.totalLockedBonds]
    exact .zero
  · simp [h.log, standingAfter, isChallengeActive, h.challenges, Challenge.empty]
  · rw [h.log]
    trivial

theorem BooksLaw.aside (hi : BooksLaw w) (h : Aside w w') : BooksLaw w' := by
  refine ⟨lt_of_lt_of_le hi.now_pos h.now, fun t ht => ?_, ?_, fun t => ?_, ?_⟩
  · rw [isChallengeActive_congr h.bonds] at ht
    rw [h.bonds]
    exact hi.inactive t ht
  · rw [activeBond_congr h.bonds, h.bonds]
    exact hi.total
  · rw [h.log, isChallengeActive_congr h.bonds, h.bonds]
    exact hi.recorded t
  · rw [h.log, h.bonds]
    exact hi.lawful

/-- An opening writes one challenge and its bond. -/
theorem BooksLaw.opened {s : Address} {value : ℕ} (hi : BooksLaw w)
    (hfree : isChallengeActive w t = false) :
    BooksLaw ((w.setChallenge t ⟨w.env.now, w.bonds.windowDuration, s, value⟩
      (w.bonds.totalLockedBonds + value)).emit s
        (.challengeOpened t s value w.bonds.windowDuration w.env.now)) := by
  have hpos : w.env.now ≠ 0 := (Nat.pos_iff_ne_zero).mp hi.now_pos
  have hlog : challengeLog ((w.setChallenge t ⟨w.env.now, w.bonds.windowDuration, s, value⟩
      (w.bonds.totalLockedBonds + value)).emit s
        (.challengeOpened t s value w.bonds.windowDuration w.env.now)).log =
      (s, .challengeOpened t s value w.bonds.windowDuration w.env.now) :: challengeLog w.log :=
    challengeLog_emit rfl
  have hbond : activeBond w t = 0 := by simp [activeBond, hfree]
  refine ⟨hi.now_pos, fun t' ht' => ?_, ?_, fun t' => ?_, ?_⟩
  · by_cases he : t' = t
    · subst he
      simp [isChallengeActive, World.setChallenge, World.emit, hpos] at ht'
    · simp only [isChallengeActive, World.setChallenge, World.emit, ne_eq, he, not_false_eq_true,
        Function.update_of_ne] at ht' ⊢
      exact hi.inactive t' ht'
  · show Tallies (activeBond (w.setChallenge t _ _)) (w.bonds.totalLockedBonds + value)
    rw [activeBond_setChallenge]
    have hnew := hi.total.update t value
    rw [hbond, Nat.sub_zero] at hnew
    simpa [hpos] using hnew
  · rw [hlog]
    unfold standingAfter
    by_cases he : t' = t
    · subst he
      simp [isChallengeActive, World.setChallenge, World.emit, hpos]
    · have hother := hi.recorded t'
      simpa [isChallengeActive, World.setChallenge, World.emit, he, Ne.symm he] using hother
  · rw [hlog]
    refine ⟨?_, hi.lawful⟩
    show standingAfter t (challengeLog w.log) = none
    rw [hi.recorded t, hfree]
    rfl

/-- The end of a challenge is one of the three events, about the data it was opened with. -/
theorem Terminal.event_lawful (how : Terminal) {c : Challenge} (s forfeitRecipient : Address)
    {older : Log} (h : standingAfter t older = some c) :
    (how.event t c s forfeitRecipient).ofChallenge = true ∧
      LawfulEntry forfeitRecipient older (s, how.event t c s forfeitRecipient) ∧
      ∀ t', standingAfter t' ((s, how.event t c s forfeitRecipient) :: older) =
        if t = t' then none else standingAfter t' older := by
  cases how with
  | withdrawn => exact ⟨rfl, h, fun t' => rfl⟩
  | judged outcome =>
    refine ⟨rfl, ⟨h, ?_⟩, fun t' => rfl⟩
    cases outcome <;> rfl
  | concluded => exact ⟨rfl, ⟨h, rfl⟩, fun t' => rfl⟩

/-- An end clears one challenge and its bond. -/
theorem BooksLaw.ended {s : Address} {how : Terminal} (hi : BooksLaw w)
    (hactive : isChallengeActive w t = true)
    (hquiet : Aside (w.setChallenge t .empty
      (w.bonds.totalLockedBonds - (w.bonds.challenges t).bondAmount)) u) :
    BooksLaw (u.emit s (how.event t (w.bonds.challenges t) s w.bonds.forfeitRecipient)) := by
  have hstanding : standingAfter t (challengeLog w.log) = some (w.bonds.challenges t) := by
    rw [hi.recorded t, hactive]
    rfl
  obtain ⟨hof, hlawful, hafter⟩ := how.event_lawful s w.bonds.forfeitRecipient hstanding
  have hlog : challengeLog (u.emit s
      (how.event t (w.bonds.challenges t) s w.bonds.forfeitRecipient)).log =
      (s, how.event t (w.bonds.challenges t) s w.bonds.forfeitRecipient) :: challengeLog w.log := by
    rw [challengeLog_emit hof, hquiet.log]
    rfl
  have hbond : activeBond w t = (w.bonds.challenges t).bondAmount := by simp [activeBond, hactive]
  have hbonds : (u.emit s (how.event t (w.bonds.challenges t) s w.bonds.forfeitRecipient)).bonds =
      (w.setChallenge t .empty
        (w.bonds.totalLockedBonds - (w.bonds.challenges t).bondAmount)).bonds := hquiet.bonds
  refine ⟨lt_of_lt_of_le hi.now_pos hquiet.now, fun t' ht' => ?_, ?_, fun t' => ?_, ?_⟩
  · rw [isChallengeActive_congr hbonds] at ht'
    rw [hbonds]
    by_cases he : t' = t
    · subst he
      simp [World.setChallenge]
    · simp only [isChallengeActive, World.setChallenge, ne_eq, he, not_false_eq_true,
        Function.update_of_ne] at ht' ⊢
      exact hi.inactive t' ht'
  · rw [activeBond_congr hbonds, hbonds, activeBond_setChallenge]
    have hnew := hi.total.update t 0
    rw [hbond] at hnew
    simpa [Challenge.empty, World.setChallenge] using hnew
  · rw [hlog, hafter, isChallengeActive_congr hbonds, hbonds]
    by_cases he : t' = t
    · subst he
      simp [isChallengeActive, World.setChallenge, Challenge.empty]
    · have hother := hi.recorded t'
      simpa [isChallengeActive, World.setChallenge, he, Ne.symm he] using hother
  · rw [hlog, hbonds]
    exact ⟨hlawful, hi.lawful⟩

theorem BooksLaw.move (hi : BooksLaw w) (h : Move w w') : BooksLaw w' := by
  cases h with
  | aside h => exact hi.aside h
  | opened _ hfree => exact hi.opened hfree
  | ended how hactive _ _ _ hquiet => exact hi.ended hactive hquiet

theorem BooksLaw.moves (hi : BooksLaw w) (h : Moves w w') : BooksLaw w' := by
  induction h with
  | refl => exact hi
  | tail _ hmove ih => exact ih.move hmove

end Books

/-! ## §5. The law over runs. -/

/-- When the four entry points go through: `open` where there is no challenge, `withdraw` and
    `judge` before the end of its window, `conclude` from the end on. -/
def ChallengeCall.timely (w : World P σ) : ChallengeCall → Prop
  | .open t => isChallengeActive w t = false
  | .withdraw t | .judge t _ => isChallengeActive w t = true ∧
    w.env.now < (w.bonds.challenges t).openedAt + (w.bonds.challenges t).windowDuration
  | .conclude t => isChallengeActive w t = true ∧
    (w.bonds.challenges t).openedAt + (w.bonds.challenges t).windowDuration ≤ w.env.now

section Law

variable [Erc721 P] {K : BondedContract P σ γ} {w w' : World P σ} {sender : Address} {value : ℕ}
  {rs : ℕ → Reply P σ}

theorem step_moved {a : Action γ} (hK : K.Law) (h : K.mode.step w a = .ok w') : Moved w w' := by
  cases a with
  | msg m => exact exec_moved hK h
  | tick dt =>
    obtain rfl : _ = w' := Except.ok.inj h
    exact guardPair.of ⟨⟨rfl, rfl, Nat.le_add_right _ _⟩, rfl⟩

/-- A reachable state is reached by moves, and at rest. -/
theorem reachable_moves (hK : K.Law) (h : Reachable K.mode.step BondedGenesis w) :
    (∃ g, BondedGenesis g ∧ Moves g w) ∧ w.locked = false := by
  have hinit : ∀ g : World P σ, BondedGenesis g →
      (∃ g', BondedGenesis g' ∧ Moves g' g) ∧ g.locked = false :=
    fun g hg => ⟨⟨g, hg, .refl⟩, hg.locked⟩
  refine h.invariant hinit ?_
  rintro u a v ⟨⟨g, hg, hmoves⟩, hl⟩ hs
  obtain ⟨hnext, hl'⟩ := (step_moved hK hs).at_rest hl
  exact ⟨⟨g, hg, hmoves.trans hnext⟩, hl'⟩

end Law

end Kargain.Evm
