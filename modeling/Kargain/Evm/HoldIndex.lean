/-
  Kargain.Evm.HoldIndex — the indexed hold of a settled lot.

  The indexer keeps rows from the events of the mode: whether a
  consignment of the passport is live, its holds, and the challenges on
  them (commerce-handlers.ts).  The obligation derivation reads the state
  of a hold and its deadline from the rows that count as active
  (derive.ts, settlement-state.ts, phase.ts).  The same derivation on the
  hold and the challenge in storage is what the rows stand for.

  No event carries the deadline that a withdrawn challenge gives back, and
  no handler of a rejected or a concluded challenge clears the row of the
  hold it has paid out.

  Left out: the other columns of the rows, and of the derivation what
  depends on who asks and the texts.  `Number` of a time is exact below
  2^53, and both readings go through it.

  Main results: `hold_index`, for runs without either;
  `hold_index_fails`, a run with each.
-/
import Kargain.Evm.HoldClock

namespace Kargain.Evm

/-! ## §1. The rows. -/

/-- `consignmentHold.state`. -/
inductive HoldState where
  | active
  | receiptConfirmed
  | fundsReleased
  | reversalStarted
  | reversalCompleted
  | reversalAbandoned
  deriving Repr, DecidableEq

structure HoldRow where
  buyer : Address
  gross : ℕ
  protectionEndsAt : ℕ
  state : HoldState
  abandonmentDeadline : Option ℕ
  /-- whether `clearedAt` is set -/
  cleared : Bool
  deriving Repr, DecidableEq

/-- `challenge.status`. -/
inductive ChallengeStatus where
  | «open»
  | withdrawn
  | judged
  | concluded
  deriving Repr, DecidableEq

structure ChallengeRow where
  windowDuration : ℕ
  openedAt : ℕ
  status : ChallengeStatus
  deriving Repr, DecidableEq

/-- The rows of a passport, newest first: whether a consignment is live, its holds, and the
    challenges on them. -/
structure Rows where
  live : Bool
  holds : List HoldRow
  challenges : List ChallengeRow
  deriving Repr, DecidableEq

/-- Write the newest row with `p`. -/
def updateFirst {α : Type} (p : α → Bool) (g : α → α) : List α → List α
  | [] => []
  | a :: rest => if p a then g a :: rest else a :: updateFirst p g rest

theorem filter_updateFirst {α : Type} (p : α → Bool) (g : α → α) (l : List α) :
    (updateFirst p g l).filter p =
      match l.filter p with
      | [] => []
      | a :: rest => [g a].filter p ++ rest := by
  induction l with
  | nil => rfl
  | cons a rest ih =>
    unfold updateFirst
    by_cases ha : p a = true
    · rw [if_pos ha, List.filter_cons_of_pos ha]
      exact List.filter_append (p := p) [g a] rest
    · rw [if_neg ha, List.filter_cons_of_neg ha, List.filter_cons_of_neg ha, ih]

namespace Rows

/-- `handleSettled`: the row of the live consignment, if there is one. -/
def settled (i : Rows) (buyer : Address) (gross protectionEndsAt : ℕ) : Rows :=
  if i.live then
    { i with holds := ⟨buyer, gross, protectionEndsAt, .active, none, false⟩ :: i.holds }
  else i

/-- A hold event: what it writes to the row of `findLiveHold`. -/
def onLiveHold (i : Rows) (g : HoldRow → HoldRow) : Rows :=
  { i with holds := updateFirst (fun r => !r.cleared) g i.holds }

/-- `handleReceiptConfirmed`, `handleFundsReleased`, `handleReversalCompleted` and
    `handleReversalAbandoned`. -/
def cleared (i : Rows) (state : HoldState) : Rows :=
  i.onLiveHold fun r => { r with state := state, cleared := true }

/-- `handleReversalStarted`. -/
def reversalStarted (i : Rows) (abandonmentDeadline : ℕ) : Rows :=
  i.onLiveHold fun r =>
    { r with state := .reversalStarted, abandonmentDeadline := some abandonmentDeadline }

/-- `writeChallengeOpened`. -/
def challengeOpened (i : Rows) (windowDuration openedAt : ℕ) : Rows :=
  { i with challenges := ⟨windowDuration, openedAt, .open⟩ :: i.challenges }

/-- `resolveChallengeTerminal`, on the row of `findOpenChallenge`. -/
def challengeResolved (i : Rows) (kind : ChallengeStatus) : Rows :=
  { i with challenges :=
      updateFirst (fun r => r.status = .open) (fun r => { r with status := kind }) i.challenges }

end Rows

/-- The passport whose rows an event is handled on. -/
def Event.rowsOf : Event → Option TokenId
  | .consignmentOpened t .. | .consignmentClosed t _ | .settled t .. | .receiptConfirmed t _
  | .fundsReleased t _ | .reversalStarted t .. | .reversalCompleted t _ | .reversalAbandoned t _
  | .challengeOpened t .. | .challengeWithdrawn t .. | .challengeJudged t ..
  | .challengeConcluded t .. => some t
  | _ => none

/-- The handlers. -/
def handle (i : Rows) : Event → Rows
  | .consignmentOpened .. => { i with live := true }
  | .consignmentClosed .. => { i with live := false }
  | .settled _ buyer gross protectionEndsAt => i.settled buyer gross protectionEndsAt
  | .receiptConfirmed .. => i.cleared .receiptConfirmed
  | .fundsReleased .. => i.cleared .fundsReleased
  | .reversalStarted _ _ abandonmentDeadline => i.reversalStarted abandonmentDeadline
  | .reversalCompleted .. => i.cleared .reversalCompleted
  | .reversalAbandoned .. => i.cleared .reversalAbandoned
  | .challengeOpened _ _ _ windowDuration openedAt => i.challengeOpened windowDuration openedAt
  | .challengeWithdrawn .. => i.challengeResolved .withdrawn
  | .challengeJudged .. => i.challengeResolved .judged
  | .challengeConcluded .. => i.challengeResolved .concluded
  | _ => i

/-- The rows of `t` after the events of the log. -/
def rowsAfter (t : TokenId) : Log → Rows
  | [] => ⟨false, [], []⟩
  | (_, e) :: older =>
    if e.rowsOf = some t then handle (rowsAfter t older) e else rowsAfter t older

/-! ## §2. The obligation derivation. -/

/-- `ChallengePhaseResult`: `none` is a challenge that cannot be read. -/
def deriveChallengePhase (openedAt windowDuration nowSec : ℕ) : Option Bool :=
  if windowDuration = 0 then none else some (nowSec < openedAt + windowDuration)

inductive AscendingSettlementState where
  | hold
  | holdReleasable
  | challenged
  | challengeElapsed
  | challengeUnresolved
  | reversalPending
  | reversalExpired
  deriving Repr, DecidableEq

/-- `deriveAscendingSettlementState` of a hold, under a challenge or not: the opening of the
    challenge and its window. -/
def deriveAscendingSettlementState (hold : Hold) (challenge : Option (ℕ × ℕ)) (nowSec : ℕ) :
    AscendingSettlementState :=
  if hold.reversalPending then
    if hold.abandonmentDeadline > 0 ∧ nowSec ≥ hold.abandonmentDeadline then .reversalExpired
    else .reversalPending
  else
    match challenge with
    | some (openedAt, windowDuration) =>
      match deriveChallengePhase openedAt windowDuration nowSec with
      | none => .challengeUnresolved
      | some active => if active then .challenged else .challengeElapsed
    | none =>
      if hold.frozenRemaining > 0 then .hold
      else if hold.protectionEndsAt > 0 ∧ nowSec ≥ hold.protectionEndsAt then .holdReleasable
      else .hold

structure HoldReading where
  state : AscendingSettlementState
  deadlineSec : Option ℕ
  deriving Repr, DecidableEq

def positiveSec (x : ℕ) : Option ℕ := if x > 0 then some x else none

/-- What `emitHoldObligations` says of a hold; while a challenge is open, that owns the clock. -/
def readHold (hold : Hold) (challenge : Option (ℕ × ℕ)) (nowSec : ℕ) : HoldReading :=
  let state := deriveAscendingSettlementState hold challenge nowSec
  { state := state
    deadlineSec :=
      match state with
      | .reversalPending | .reversalExpired => positiveSec hold.abandonmentDeadline
      | .hold | .holdReleasable => positiveSec hold.protectionEndsAt
      | _ => none }

section Readings

variable {h : Hold} {challenge : Option (ℕ × ℕ)} {nowSec : ℕ}

theorem readHold_pending (hp : h.reversalPending = true) : readHold h challenge nowSec =
    ⟨if h.abandonmentDeadline > 0 ∧ nowSec ≥ h.abandonmentDeadline then .reversalExpired
      else .reversalPending, positiveSec h.abandonmentDeadline⟩ := by
  unfold readHold deriveAscendingSettlementState
  rw [if_pos hp]
  split_ifs <;> rfl

theorem readHold_challenged (hp : h.reversalPending = false) {openedAt windowDuration : ℕ} :
    readHold h (some (openedAt, windowDuration)) nowSec =
      ⟨match deriveChallengePhase openedAt windowDuration nowSec with
        | none => .challengeUnresolved
        | some active => if active then .challenged else .challengeElapsed, none⟩ := by
  unfold readHold deriveAscendingSettlementState
  rw [if_neg (by simp [hp])]
  dsimp only
  rcases deriveChallengePhase openedAt windowDuration nowSec with _ | _ | _ <;> rfl

theorem readHold_running (hp : h.reversalPending = false) (hf : h.frozenRemaining = 0) :
    readHold h none nowSec =
      ⟨if h.protectionEndsAt > 0 ∧ nowSec ≥ h.protectionEndsAt then .holdReleasable else .hold,
        positiveSec h.protectionEndsAt⟩ := by
  unfold readHold deriveAscendingSettlementState
  rw [if_neg (by simp [hp])]
  simp only [hf, gt_iff_lt, lt_irrefl, if_false]
  split_ifs <;> rfl

end Readings

/-- `holdSnapshot`. -/
def holdSnapshot (r : HoldRow) : Hold where
  buyer := r.buyer
  gross := r.gross
  protectionEndsAt := r.protectionEndsAt
  frozenRemaining := 0
  reversalPending := r.state = .reversalStarted
  abandonmentDeadline := r.abandonmentDeadline.getD 0
  abandonmentWindow := 0

/-- `ACTIVE_HOLD_STATES`. -/
def HoldRow.active (r : HoldRow) : Bool := r.state = .active ∨ r.state = .reversalStarted

/-- `challengeSnapshot` of the open challenge, if there is one. -/
def Rows.openChallenge (i : Rows) : Option (ℕ × ℕ) :=
  match i.challenges.filter fun r => r.status = .open with
  | [] => none
  | r :: _ => if r.openedAt = 0 then none else some (r.openedAt, r.windowDuration)

/-- What is read of every active hold of the passport. -/
def Rows.readings (i : Rows) (nowSec : ℕ) : List HoldReading :=
  (i.holds.filter HoldRow.active).map fun r => readHold (holdSnapshot r) i.openChallenge nowSec

namespace Ascending

open Relation

variable {P : Type}

/-- The same of the hold in storage and the challenge on it. -/
def readings (w : World P) (t : TokenId) (nowSec : ℕ) : List HoldReading :=
  if (w.ext.holds t).buyer = .zero then []
  else [readHold (w.ext.holds t)
    (if isChallengeActive w t then
      some ((w.bonds.challenges t).openedAt, (w.bonds.challenges t).windowDuration)
    else none) nowSec]

/-! ## §3. The rows and the hold of one lot. -/

structure IndexFacet where
  hold : Hold
  challenge : Challenge
  live : Bool
  rows : Rows

def indexFacet (w : World P) (t : TokenId) : IndexFacet where
  hold := w.ext.holds t
  challenge := w.bonds.challenges t
  live := isLiveConsignment w t
  rows := rowsAfter t w.log

/-- What can happen to a lot and its rows at `now`. -/
inductive IndexTurn (now : ℕ) (f : IndexFacet) : IndexFacet → Prop where
  | opened : IndexTurn now f { f with live := true, rows := { f.rows with live := true } }
  | recalled : IndexTurn now f { f with live := false, rows := { f.rows with live := false } }
  | settled {h : Hold} (hlive : f.live = true) (hfree : f.hold.buyer = .zero) (hnow : 0 < now)
      (hbuyer : h.buyer ≠ .zero) (hends : h.protectionEndsAt < 2 ^ 64)
      (hfrozen : h.frozenRemaining = 0) (hpending : h.reversalPending = false) :
      IndexTurn now f
        { f with hold := h, rows := f.rows.settled h.buyer h.gross h.protectionEndsAt }
  | frozen {c : Challenge} (hheld : f.hold.buyer ≠ .zero) (hpending : f.hold.reversalPending = false)
      (hdue : now < f.hold.protectionEndsAt) (hinactive : f.challenge.openedAt = 0)
      (hc : c.openedAt = now) :
      IndexTurn now f
        { f with
          hold := f.hold.freeze now, challenge := c
          rows := f.rows.challengeOpened c.windowDuration now }
  | thawed (hactive : f.challenge.openedAt ≠ 0) (hfair : f.challenge.openedAt = now) :
      IndexTurn now f
        { f with
          hold := f.hold.thaw now, challenge := .empty
          rows := f.rows.challengeResolved .withdrawn }
  | upheld {deadline : ℕ} (hactive : f.challenge.openedAt ≠ 0) :
      IndexTurn now f
        { f with
          hold := f.hold.reverse deadline, challenge := .empty
          rows := (f.rows.challengeResolved .judged).reversalStarted deadline }
  | ended {state : HoldState} (hheld : f.hold.buyer ≠ .zero)
      (hactive : f.challenge.openedAt = 0 ∨ f.hold.reversalPending = true)
      (hstate : state ≠ .active ∧ state ≠ .reversalStarted) :
      IndexTurn now f
        { f with
          hold := .empty, live := false
          rows := { f.rows with live := false }.cleared state }

/-- The row of a hold. -/
structure RowOf (h : Hold) (r : HoldRow) : Prop where
  uncleared : r.cleared = false
  pending : h.reversalPending = true →
    r.state = .reversalStarted ∧ r.abandonmentDeadline = some h.abandonmentDeadline
  running : h.reversalPending = false →
    r.state = .active ∧ r.protectionEndsAt = h.protectionEndsAt

/-- The rows of a lot say what its hold and its challenge are. -/
structure Indexed (now : ℕ) (f : IndexFacet) : Prop where
  live : f.rows.live = f.live
  active : ∀ r ∈ f.rows.holds, r.active = !r.cleared
  free : f.hold.buyer = .zero → f.rows.holds.filter (fun r => !r.cleared) = []
  held : f.hold.buyer ≠ .zero →
    ∃ r, f.rows.holds.filter (fun r => !r.cleared) = [r] ∧ RowOf f.hold r
  inactive : f.hold.buyer = .zero ∨ f.hold.reversalPending = true → f.challenge.openedAt = 0
  settled : f.hold.buyer ≠ .zero → 0 < now ∧ f.hold.protectionEndsAt < 2 ^ 64
  unfrozen : f.challenge.openedAt = 0 → f.hold.frozenRemaining = 0
  closed : f.challenge.openedAt = 0 → f.rows.challenges.filter (fun r => r.status = .open) = []
  «open» : f.challenge.openedAt ≠ 0 →
    f.rows.challenges.filter (fun r => r.status = .open) =
        [⟨f.challenge.windowDuration, f.challenge.openedAt, .open⟩] ∧
      f.challenge.openedAt ≤ f.hold.protectionEndsAt ∧
      f.hold.frozenRemaining = u64 (f.hold.protectionEndsAt - f.challenge.openedAt)

section Law

variable {now : ℕ} {f f' : IndexFacet}

theorem active_updateFirst {p : HoldRow → Bool} {g : HoldRow → HoldRow} {l : List HoldRow}
    (h : ∀ r ∈ l, r.active = !r.cleared) (hg : ∀ r, p r = true → (g r).active = !(g r).cleared) :
    ∀ r ∈ updateFirst p g l, r.active = !r.cleared := by
  induction l with
  | nil => exact h
  | cons a rest ih =>
    unfold updateFirst
    split
    · rename_i ha
      intro r hr
      rcases List.mem_cons.mp hr with rfl | hr
      · exact hg a ha
      · exact h r (List.mem_cons_of_mem _ hr)
    · intro r hr
      rcases List.mem_cons.mp hr with rfl | hr
      · exact h r (List.mem_cons_self ..)
      · exact ih (fun r hr => h r (List.mem_cons_of_mem _ hr)) r hr

/-- Nothing is read but the row of the hold. -/
theorem Indexed.filter_active (h : Indexed now f) :
    f.rows.holds.filter HoldRow.active = f.rows.holds.filter fun r => !r.cleared :=
  List.filter_congr h.active

/-- **The readings agree.** -/
theorem Indexed.readings (h : Indexed now f) (nowSec : ℕ) :
    f.rows.readings nowSec =
      if f.hold.buyer = .zero then []
      else [readHold f.hold (if f.challenge.openedAt != 0 then
        some (f.challenge.openedAt, f.challenge.windowDuration) else none) nowSec] := by
  unfold Rows.readings
  rw [h.filter_active]
  by_cases hfree : f.hold.buyer = .zero
  · rw [h.free hfree, if_pos hfree, List.map_nil]
  · obtain ⟨r, hr, hrow⟩ := h.held hfree
    rw [hr, if_neg hfree, List.map_singleton]
    have hopen : f.rows.openChallenge = if f.challenge.openedAt != 0 then
        some (f.challenge.openedAt, f.challenge.windowDuration) else none := by
      unfold Rows.openChallenge
      by_cases hc : f.challenge.openedAt = 0
      · simp [h.closed hc, hc]
      · simp [(h.open hc).1, hc]
    rw [hopen]
    cases hpending : f.hold.reversalPending with
    | true =>
      obtain ⟨hstate, hdeadline⟩ := hrow.pending hpending
      have hsnap : (holdSnapshot r).reversalPending = true := by simp [holdSnapshot, hstate]
      have hleft : (holdSnapshot r).abandonmentDeadline = f.hold.abandonmentDeadline := by
        simp [holdSnapshot, hdeadline]
      rw [readHold_pending hsnap, readHold_pending hpending, hleft]
    | false =>
      obtain ⟨hstate, hends⟩ := hrow.running hpending
      have hsnap : (holdSnapshot r).reversalPending = false := by simp [holdSnapshot, hstate]
      have hleft : (holdSnapshot r).protectionEndsAt = f.hold.protectionEndsAt := hends
      by_cases hc : f.challenge.openedAt = 0
      · rw [if_neg (by simp [hc]), readHold_running hsnap rfl,
          readHold_running hpending (h.unfrozen hc), hleft]
      · rw [if_pos (by simp [hc]), readHold_challenged hsnap, readHold_challenged hpending]

/-- What the terminal of a challenge leaves open. -/
theorem challengeResolved_filter {i : Rows} {kind : ChallengeStatus} {r : ChallengeRow}
    (h : i.challenges.filter (fun r => r.status = .open) = [r]) (hk : kind ≠ .open) :
    (i.challengeResolved kind).challenges.filter (fun r => r.status = .open) = [] := by
  unfold Rows.challengeResolved
  rw [filter_updateFirst, h]
  simp [hk]

/-- What a hold event leaves uncleared. -/
theorem onLiveHold_filter {i : Rows} {g : HoldRow → HoldRow} {r : HoldRow}
    (h : i.holds.filter (fun r => !r.cleared) = [r]) :
    (i.onLiveHold g).holds.filter (fun r => !r.cleared) =
      if (g r).cleared then [] else [g r] := by
  unfold Rows.onLiveHold
  rw [filter_updateFirst, h]
  cases hc : (g r).cleared <;> simp [hc]

/-- A withdrawal in the second of the opening gives the deadline back. -/
theorem thaw_deadline {h : Hold} (hends : h.protectionEndsAt < 2 ^ 64)
    (hle : now ≤ h.protectionEndsAt) (hf : h.frozenRemaining = u64 (h.protectionEndsAt - now)) :
    (h.thaw now).protectionEndsAt = h.protectionEndsAt := by
  show u64 (now + h.frozenRemaining) = h.protectionEndsAt
  rw [hf, u64_of_lt (lt_of_le_of_lt (Nat.sub_le _ _) hends), Nat.add_sub_cancel' hle,
    u64_of_lt hends]

/-- **One turn** keeps the rows right. -/
theorem Indexed.turn (hi : Indexed now f) (h : IndexTurn now f f') : Indexed now f' := by
  cases h with
  | opened => exact { hi with live := rfl }
  | recalled => exact { hi with live := rfl }
  | @settled h hlive hfree hnow hbuyer hends hfrozen hpending =>
    have hoff := hi.inactive (.inl hfree)
    have hrows : f.rows.settled h.buyer h.gross h.protectionEndsAt =
        { f.rows with holds := ⟨h.buyer, h.gross, h.protectionEndsAt, .active, none, false⟩ ::
            f.rows.holds } := by
      unfold Rows.settled
      rw [if_pos (hi.live.trans hlive)]
    rw [hrows]
    refine ⟨hi.live, fun r hr => ?_, fun hz => absurd hz hbuyer, fun _ => ?_, fun _ => hoff,
      fun _ => ⟨hnow, hends⟩, fun _ => hfrozen, fun _ => hi.closed hoff,
      fun hon => absurd hoff hon⟩
    · rcases List.mem_cons.mp hr with rfl | hr
      · rfl
      · exact hi.active r hr
    · refine ⟨⟨h.buyer, h.gross, h.protectionEndsAt, .active, none, false⟩, ?_, rfl, fun hp => ?_,
        fun _ => ⟨rfl, rfl⟩⟩
      · rw [List.filter_cons_of_pos rfl, hi.free hfree]
      · rw [hpending] at hp
        cases hp
  | @frozen c hheld hpending hdue hinactive hc =>
    obtain ⟨hnow, hends⟩ := hi.settled hheld
    have hon : c.openedAt ≠ 0 := hc ▸ hnow.ne'
    refine ⟨hi.live, hi.active, fun hz => absurd hz hheld, fun _ => ?_, fun hz => ?_,
      fun _ => ⟨hnow, hends⟩, fun hz => absurd hz hon, fun hz => absurd hz hon, fun _ => ⟨?_, ?_, ?_⟩⟩
    · obtain ⟨r, hr, hrow⟩ := hi.held hheld
      exact ⟨r, hr, hrow.uncleared, hrow.pending, hrow.running⟩
    · rcases hz with hz | hz
      · exact absurd hz hheld
      · exact absurd (hpending.symm.trans hz) Bool.false_ne_true
    · show List.filter _ (_ :: f.rows.challenges) = _
      rw [List.filter_cons_of_pos (by simp), hi.closed hinactive, hc]
    · exact hc ▸ hdue.le
    · exact hc ▸ rfl
  | thawed hactive hfair =>
    obtain ⟨hopen, hle, hfrozen⟩ := hi.open hactive
    have hheld : f.hold.buyer ≠ .zero := fun hz => hactive (hi.inactive (.inl hz))
    obtain ⟨hnow, hends⟩ := hi.settled hheld
    have hback : (f.hold.thaw now).protectionEndsAt = f.hold.protectionEndsAt :=
      thaw_deadline hends (hfair ▸ hle) (hfair ▸ hfrozen)
    refine ⟨hi.live, hi.active, fun hz => absurd hz hheld, fun _ => ?_, fun _ => rfl,
      fun _ => ⟨hnow, hback ▸ hends⟩, fun _ => rfl, fun _ => challengeResolved_filter hopen (by decide),
      fun hz => absurd rfl hz⟩
    obtain ⟨r, hr, hrow⟩ := hi.held hheld
    refine ⟨r, hr, hrow.uncleared, hrow.pending, fun hp => ?_⟩
    obtain ⟨hstate, hdeadline⟩ := hrow.running hp
    exact ⟨hstate, hdeadline.trans hback.symm⟩
  | @upheld deadline hactive =>
    obtain ⟨hopen, -, -⟩ := hi.open hactive
    have hheld : f.hold.buyer ≠ .zero := fun hz => hactive (hi.inactive (.inl hz))
    obtain ⟨hnow, -⟩ := hi.settled hheld
    obtain ⟨r, hr, hrow⟩ := hi.held hheld
    let r' : HoldRow := { r with state := .reversalStarted, abandonmentDeadline := some deadline }
    have huncleared : r'.cleared = false := hrow.uncleared
    have hr' : ((f.rows.challengeResolved .judged).reversalStarted deadline).holds.filter
        (fun r => !r.cleared) = [r'] :=
      (onLiveHold_filter (i := f.rows.challengeResolved .judged) hr).trans
        (if_neg (by simp [hrow.uncleared]))
    refine ⟨hi.live, active_updateFirst hi.active fun r hp => ?_, fun hz => absurd hz hheld,
      fun _ => ⟨r', hr', huncleared, fun _ => ⟨rfl, rfl⟩, fun hp => ?_⟩, fun _ => rfl,
      fun _ => ⟨hnow, ?_⟩, fun _ => rfl, fun _ => challengeResolved_filter hopen (by decide),
      fun hz => absurd rfl hz⟩
    · simpa [HoldRow.active] using hp
    · cases hp
    · show 0 < 2 ^ 64
      omega
  | @ended state hheld hactive hstate =>
    have hoff : f.challenge.openedAt = 0 := by
      rcases hactive with h | h
      · exact h
      · exact hi.inactive (.inr h)
    refine ⟨rfl, active_updateFirst hi.active fun r _ => ?_, fun _ => ?_, fun hz => absurd rfl hz,
      fun _ => hoff, fun hz => absurd rfl hz, fun _ => rfl, fun _ => hi.closed hoff,
      fun hz => absurd hoff hz⟩
    · simp [HoldRow.active, hstate]
    · obtain ⟨r, hr, -⟩ := hi.held hheld
      exact (onLiveHold_filter (i := { f.rows with live := false }) hr).trans (if_pos rfl)

/-- Before anything happens. -/
theorem Indexed.start : Indexed now ⟨.empty, .empty, false, ⟨false, [], []⟩⟩ where
  live := rfl
  active _ hr := nomatch hr
  free _ := rfl
  held h := absurd rfl h
  inactive _ := rfl
  settled h := absurd rfl h
  unfrozen _ := rfl
  closed _ := rfl
  «open» h := absurd rfl h

theorem Indexed.turns (hi : Indexed now f) (h : ReflTransGen (IndexTurn now) f f') :
    Indexed now f' := by
  induction h with
  | refl => exact hi
  | tail _ ht ih => exact ih.turn ht

theorem Indexed.tick (hi : Indexed now f) (dt : ℕ) : Indexed (now + dt) f :=
  { hi with settled := fun hheld =>
      ⟨Nat.lt_of_lt_of_le (hi.settled hheld).1 (Nat.le_add_right _ _), (hi.settled hheld).2⟩ }

end Law

/-! ## §4. What messages do to lots and their rows. -/

/-- The rows follow the event, at the time `now` of its block. -/
def fairEvent (t : TokenId) (now : ℕ) : Event → Bool
  | .challengeWithdrawn t' _ _ _ openedAt => t' ≠ t ∨ openedAt = now
  | .challengeJudged t' _ _ outcome .. => t' ≠ t ∨ outcome = .upheld
  | .challengeConcluded t' .. => t' ≠ t
  | _ => true

/-- The events between two states of a message. -/
def newEvents (w w' : World P) : Log := w'.log.take (w'.log.length - w.log.length)

def FairSince (t : TokenId) (w w' : World P) : Prop :=
  ∀ x ∈ newEvents w w', fairEvent t w.env.now x.2 = true

section Fair

variable {u v w : World P} {t : TokenId}

theorem newEvents_eq {new : Log} (h : new ++ w.log = v.log) : newEvents w v = new := by
  unfold newEvents
  rw [← h, List.length_append, Nat.add_sub_cancel, List.take_left]

theorem FairSince.split (h : FairSince t w v) (hu : w.log <:+ u.log) (hv : u.log <:+ v.log)
    (hn : u.env.now = w.env.now) : FairSince t w u ∧ FairSince t u v := by
  obtain ⟨n₁, hn₁⟩ := hu
  obtain ⟨n₂, hn₂⟩ := hv
  have hall : (n₂ ++ n₁) ++ w.log = v.log := by rw [List.append_assoc, hn₁, hn₂]
  unfold FairSince at h ⊢
  rw [newEvents_eq hall] at h
  rw [newEvents_eq hn₁, newEvents_eq hn₂, hn]
  exact ⟨fun x hx => h x (List.mem_append_right _ hx), fun x hx => h x (List.mem_append_left _ hx)⟩

/-- An unfair event is not overlooked. -/
theorem FairSince.fair (h : FairSince t w v) {s : Address} {e : Event} (hu : w.log <:+ u.log)
    (hv : (s, e) :: u.log <:+ v.log) : fairEvent t w.env.now e = true := by
  obtain ⟨n₁, hn₁⟩ := hu
  obtain ⟨n₂, hn₂⟩ := hv
  have hall : (n₂ ++ (s, e) :: n₁) ++ w.log = v.log := by
    rw [← hn₂, ← hn₁, List.append_assoc, List.cons_append]
  unfold FairSince at h
  rw [newEvents_eq hall] at h
  exact h (s, e) (List.mem_append_right _ (List.mem_cons_self ..))

end Fair

/-- The lot may be recalled, nothing else happens to it. -/
def Idle (f f' : IndexFacet) : Prop :=
  f' = f ∨ f.live = true ∧ f' = { f with live := false, rows := { f.rows with live := false } }

theorem Idle.trans {f g h : IndexFacet} (hf : Idle f g) (hg : Idle g h) : Idle f h := by
  rcases hf with rfl | ⟨hlive, rfl⟩
  · exact hg
  · rcases hg with rfl | ⟨hgone, -⟩
    · exact .inr ⟨hlive, rfl⟩
    · cases hgone

theorem Idle.turns {now : ℕ} {f f' : IndexFacet} (h : Idle f f') :
    ReflTransGen (IndexTurn now) f f' := by
  rcases h with rfl | ⟨-, rfl⟩
  · exact .refl
  · exact .single .recalled

/-- Under the guard. -/
structure RowsStill (w w' : World P) : Prop where
  now : w'.env.now = w.env.now
  locked : w'.locked = w.locked
  log : w.log <:+ w'.log
  idle : ∀ t, Idle (indexFacet w t) (indexFacet w' t)

/-- At rest. -/
structure RowsTurns (w w' : World P) : Prop where
  now : w'.env.now = w.env.now
  log : w.log <:+ w'.log
  turns : ∀ t, FairSince t w w' →
    ReflTransGen (IndexTurn w.env.now) (indexFacet w t) (indexFacet w' t)

theorem RowsStill.of_facet {w w' : World P} (hn : w'.env.now = w.env.now)
    (hl : w'.locked = w.locked) (hlog : w.log <:+ w'.log)
    (hf : ∀ t, indexFacet w' t = indexFacet w t) : RowsStill w w' := ⟨hn, hl, hlog, fun t => .inl (hf t)⟩

theorem RowsStill.trans {u v w : World P} (h : RowsStill u v) (k : RowsStill v w) : RowsStill u w :=
  ⟨k.now.trans h.now, k.locked.trans h.locked, h.log.trans k.log,
    fun t => (h.idle t).trans (k.idle t)⟩

theorem rowsGuard : GuardPair (P := P) RowsStill RowsTurns where
  refl w := .of_facet rfl rfl (List.suffix_refl _) fun _ => rfl
  trans h k := h.trans k
  locked h := h.locked
  rest h := ⟨h.now, h.log, fun t _ => (h.idle t).turns⟩
  rest_trans h k := ⟨k.now.trans h.now, h.log.trans k.log, fun t hfair => by
    obtain ⟨hfirst, hthen⟩ := hfair.split h.log k.log h.now
    have hk := k.turns t hthen
    rw [h.now] at hk
    exact (h.turns t hfirst).trans hk⟩
  toggle w b := ⟨rfl, List.suffix_refl _, fun _ _ => .refl⟩

/-- One lot turns, the others are idle. -/
theorem RowsTurns.one {w w' : World P} (t : TokenId) (hn : w'.env.now = w.env.now)
    (hlog : w.log <:+ w'.log)
    (ht : FairSince t w w' →
      ReflTransGen (IndexTurn w.env.now) (indexFacet w t) (indexFacet w' t))
    (hother : ∀ t', t' ≠ t → Idle (indexFacet w t') (indexFacet w' t')) : RowsTurns w w' := by
  refine ⟨hn, hlog, fun t' hfair => ?_⟩
  by_cases h : t' = t
  · subst h
    exact ht hfair
  · exact (hother t' h).turns

section Writes

variable {w w' : World P} {t t' : TokenId} {s : Address} {e : Event}

theorem rowsAfter_skip {older : Log} (he : e.rowsOf ≠ some t) :
    rowsAfter t ((s, e) :: older) = rowsAfter t older := if_neg he

theorem rowsAfter_handle {older : Log} (he : e.rowsOf = some t) :
    rowsAfter t ((s, e) :: older) = handle (rowsAfter t older) e := if_pos he

theorem indexFacet_emit (he : e.rowsOf ≠ some t) :
    indexFacet (w.emit s e) t = indexFacet w t := by
  show IndexFacet.mk _ _ _ (rowsAfter t ((s, e) :: w.log)) = _
  rw [rowsAfter_skip he]
  rfl

theorem indexFacet_handle (he : e.rowsOf = some t) :
    indexFacet (w.emit s e) t =
      { indexFacet w t with rows := handle (indexFacet w t).rows e } := by
  show IndexFacet.mk _ _ _ (rowsAfter t ((s, e) :: w.log)) = _
  rw [rowsAfter_handle he]
  rfl

theorem RowsStill.emit (h : RowsStill w w') (he : e.rowsOf = none) : RowsStill w (w'.emit s e) :=
  h.trans (.of_facet rfl rfl (List.suffix_cons _ _)
    fun _ => indexFacet_emit (by rw [he]; exact nofun))

theorem Beside.rowsStill (h : Beside ExtSame w w') : RowsStill w w' := by
  have hquiet : ∀ e : Event, e.beside = true → e.rowsOf = none := by
    intro e he
    cases e <;> first | rfl | cases he
  have hrows : ∀ t, rowsAfter t w'.log = rowsAfter t w.log := fun t =>
    h.reading fun s e older he => rowsAfter_skip (by rw [hquiet e he]; exact nofun)
  refine .of_facet h.now h.locked ?_ fun t => ?_
  · obtain ⟨l, hl, -⟩ := h.log
    exact ⟨l, hl.symm⟩
  · simp only [indexFacet, isLiveConsignment, hrows, h.bonds, h.phase, h.ext.2]

theorem indexFacet_setHold_self (h : Hold) :
    indexFacet (setHold w t h) t = { indexFacet w t with hold := h } := by
  simp [indexFacet, setHold, isLiveConsignment]

theorem indexFacet_setHold_of_ne (h : Hold) (ht : t' ≠ t) :
    indexFacet (setHold w t h) t' = indexFacet w t' := by
  simp [indexFacet, setHold, isLiveConsignment, ht]

theorem indexFacet_setAuction (a : AuctionTerms) :
    indexFacet (setAuction w t a) t' = indexFacet w t' := rfl

theorem indexFacet_setChallenge_self (c : Challenge) (total : ℕ) :
    indexFacet (w.setChallenge t c total) t = { indexFacet w t with challenge := c } := by
  simp [indexFacet, World.setChallenge, isLiveConsignment]

theorem indexFacet_setChallenge_of_ne (c : Challenge) (total : ℕ) (ht : t' ≠ t) :
    indexFacet (w.setChallenge t c total) t' = indexFacet w t' := by
  simp [indexFacet, World.setChallenge, isLiveConsignment, ht]

theorem indexFacet_clear_self {ph : Phase} (hph : ph ≠ .offered) :
    indexFacet (clearConsignment w t ph) t = { indexFacet w t with live := false } := by
  simp [indexFacet, clearConsignment, World.setPhase, World.setConsignment, World.setCommitted,
    World.setRecallRequest, isLiveConsignment, hph]

theorem indexFacet_clear_of_ne {ph : Phase} (ht : t' ≠ t) :
    indexFacet (clearConsignment w t ph) t' = indexFacet w t' := by
  simp [indexFacet, clearConsignment, World.setPhase, World.setConsignment, World.setCommitted,
    World.setRecallRequest, isLiveConsignment, ht]

end Writes

section Messages

variable [Erc721 P] {w w' u : World P} {t : TokenId} {sender : Address}
  {rs : ℕ → Reply P AscendingStorage}

theorem guarded_rows : HasSides (P := P) hooks ExtSame (Guarded RowsStill) :=
  ⟨rowsGuard.guarded_refl, rowsGuard.guarded_trans,
    fun h _ => Beside.rowsStill (h.beside extView.refl)⟩

theorem respects_rows : HasSides (P := P) hooks ExtSame (Respects RowsStill RowsTurns) :=
  ⟨rowsGuard.respects_refl, rowsGuard.respects_trans,
    fun h => rowsGuard.of (Beside.rowsStill (h.beside extView.refl))⟩

/-- The lot without its hold and off the books. -/
def IndexFacet.paidOut (f : IndexFacet) : IndexFacet :=
  { f with hold := .empty, live := false, rows := { f.rows with live := false } }

/-- Clear the hold, split, close: the common tail of the exits. -/
theorem payHold_rows {gross : ℕ} {reason : CloseReason} (hl : w.locked = true)
    (hr : ∀ i, Keeps (Guarded RowsStill) (rs i))
    (h : paySplit (setHold w t .empty) sender t gross reason (rs 0) (rs 1) (rs 2) = .ok w') :
    w'.env.now = w.env.now ∧ w.log <:+ w'.log ∧ indexFacet w' t = (indexFacet w t).paidOut ∧
      ∀ t', t' ≠ t → Idle (indexFacet w t') (indexFacet w' t') := by
  obtain ⟨-, split, u, -, hpaid, rfl⟩ := paySplit_keeps guarded_rows (hr 0) (hr 1) (hr 2) h
  have hstill : RowsStill (setHold w t .empty) u := hpaid hl
  refine ⟨hstill.now, ?_, ?_, fun t' ht => ?_⟩
  · have hlog : w.log <:+ u.log := hstill.log
    exact hlog.trans ((List.suffix_cons _ _).trans (List.suffix_cons _ _))
  · unfold close
    rw [indexFacet_handle rfl, indexFacet_clear_self (by decide), indexFacet_emit (by simp [Event.rowsOf])]
    have hidle := hstill.idle t
    rw [indexFacet_setHold_self] at hidle
    rcases hidle with h | ⟨-, h⟩ <;> rw [h] <;> rfl
  · unfold close
    rw [indexFacet_emit (by simpa [Event.rowsOf] using Ne.symm ht), indexFacet_clear_of_ne ht,
      indexFacet_emit (by simp [Event.rowsOf])]
    have hidle := hstill.idle t'
    rwa [indexFacet_setHold_of_ne _ ht] at hidle

omit [Erc721 P] in
/-- The announcement of an exit. -/
theorem exit_rows {e : Event} {state : HoldState} (he : e.rowsOf = some t)
    (hhandle : ∀ i, handle i e = i.cleared state)
    (hstate : state ≠ .active ∧ state ≠ .reversalStarted) (hheld : (w.ext.holds t).buyer ≠ .zero)
    (hactive : isChallengeActive w t ≠ true ∨ (w.ext.holds t).reversalPending = true)
    (hn : u.env.now = w.env.now) (hlog : w.log <:+ u.log)
    (hself : indexFacet u t = (indexFacet w t).paidOut)
    (hother : ∀ t', t' ≠ t → Idle (indexFacet w t') (indexFacet u t')) :
    RowsTurns w (u.emit sender e) := by
  have hoff : (indexFacet w t).challenge.openedAt = 0 ∨
      (indexFacet w t).hold.reversalPending = true := by
    refine hactive.imp_left fun h => ?_
    simpa [isChallengeActive, indexFacet] using h
  refine .one t hn (hlog.trans (List.suffix_cons _ _)) (fun _ => ?_) fun t' ht => ?_
  · rw [indexFacet_handle he, hhandle, hself]
    exact .single (.ended hheld hoff hstate)
  · rw [indexFacet_emit (by rw [he]; simpa using Ne.symm ht)]
    exact hother t' ht

theorem confirmReceiptBody_rows (hl : w.locked = true) (hr : ∀ i, Keeps (Guarded RowsStill) (rs i))
    (h : confirmReceiptBody w sender t rs = .ok w') : RowsTurns w w' := by
  simp only [confirmReceiptBody, bind_ok, revertIf_ok, exists_const, pure_ok] at h
  obtain ⟨hold, hh, -, hactive, -, u, hpay, rfl⟩ := h
  obtain ⟨hheld, rfl⟩ := requireActiveHold_ok hh
  obtain ⟨hn, hlog, hself, hother⟩ := payHold_rows hl hr hpay
  exact exit_rows rfl (fun _ => rfl) (by decide) hheld (.inl hactive) hn hlog hself hother

theorem releaseFundsBody_rows (hl : w.locked = true) (hr : ∀ i, Keeps (Guarded RowsStill) (rs i))
    (h : releaseFundsBody w sender t rs = .ok w') : RowsTurns w w' := by
  simp only [releaseFundsBody, bind_ok, revertIf_ok, exists_const, pure_ok] at h
  obtain ⟨hold, hh, hactive, -, -, u, hpay, rfl⟩ := h
  obtain ⟨hheld, rfl⟩ := requireActiveHold_ok hh
  obtain ⟨hn, hlog, hself, hother⟩ := payHold_rows hl hr hpay
  exact exit_rows rfl (fun _ => rfl) (by decide) hheld (.inl hactive) hn hlog hself hother

theorem abandonReversalBody_rows (hl : w.locked = true)
    (hr : ∀ i, Keeps (Guarded RowsStill) (rs i))
    (h : abandonReversalBody w sender t rs = .ok w') : RowsTurns w w' := by
  simp only [abandonReversalBody, bind_ok, revertIf_ok, exists_const, pure_ok] at h
  obtain ⟨hold, hh, hpending, -, u, hpay, rfl⟩ := h
  obtain ⟨hheld, rfl⟩ := requireActiveHold_ok hh
  obtain ⟨hn, hlog, hself, hother⟩ := payHold_rows hl hr hpay
  exact exit_rows rfl (fun _ => rfl) (by decide) hheld
    (.inr (Bool.eq_true_of_not_eq_false hpending)) hn hlog hself hother

/-- The passport comes back, the buyer is refunded and the lot ends. -/
theorem completeReversalBody_rows (hl : w.locked = true)
    (hr : ∀ i, Keeps (Guarded RowsStill) (rs i))
    (h : completeReversalBody w sender t rs = .ok w') : RowsTurns w w' := by
  simp only [completeReversalBody, bind_ok, revertIf_ok, exists_const, pure_ok] at h
  obtain ⟨hold, hh, hpending, -, _, -, -, u, hu, v, hv, x, hx, rfl⟩ := h
  obtain ⟨hheld, rfl⟩ := requireActiveHold_ok hh
  obtain ⟨y, hy, rfl⟩ := terminateToOwner_keeps guarded_rows (hr 1) hx
  have htaken : Guarded RowsStill (setHold w t .empty) u := takeCustody_keeps guarded_rows hu
  have hpaid : Guarded RowsStill u v := payOut_keeps guarded_rows (hr 0) hv
  have hto : RowsStill (setHold w t .empty) v := rowsGuard.guarded_trans htaken hpaid hl
  have hover : RowsStill (clearConsignment v t .returned) y := hy (hto.locked.trans hl)
  refine exit_rows rfl (fun _ => rfl) (by decide) hheld
    (.inr (Bool.eq_true_of_not_eq_false hpending)) (hover.now.trans hto.now) ?_ ?_ fun t' ht => ?_
  · have hfirst : w.log <:+ v.log := hto.log
    have hthen : v.log <:+ y.log := hover.log
    exact (hfirst.trans hthen).trans (List.suffix_cons _ _)
  · rw [indexFacet_handle rfl]
    have hidle := hto.idle t
    have hidle' := hover.idle t
    rw [indexFacet_clear_self (by decide)] at hidle'
    rw [indexFacet_setHold_self] at hidle
    rcases hidle' with h' | ⟨hgone, -⟩
    · rw [h']
      rcases hidle with h | ⟨-, h⟩ <;> rw [h] <;> rfl
    · cases hgone
  · rw [indexFacet_emit (by simpa [Event.rowsOf] using Ne.symm ht)]
    have hidle := hto.idle t'
    have hidle' := hover.idle t'
    rw [indexFacet_setHold_of_ne _ ht] at hidle
    rw [indexFacet_clear_of_ne ht] at hidle'
    exact hidle.trans hidle'

omit [Erc721 P] in
theorem Idle.kept {f g : IndexFacet} (h : Idle f g) : g.hold = f.hold ∧ g.challenge = f.challenge := by
  rcases h with rfl | ⟨-, rfl⟩
  · exact ⟨rfl, rfl⟩
  · exact ⟨rfl, rfl⟩

/-- The bond of a challenge goes out: the lot is no longer under challenge. -/
theorem routeBond_rows {w₁ w₂ : World P} {c : Challenge} {recipient judgeCaller : Address}
    {r : Reply P AscendingStorage} (hl : w.locked = true) (hr : Keeps (Guarded RowsStill) r)
    (hc : requireActiveChallenge w t = .ok c)
    (hclear : clearChallengeAccounting w t c.bondAmount = .ok w₁)
    (hpay : payBond w₁ sender recipient judgeCaller c.bondAmount r = .ok w₂) :
    (c = (indexFacet w t).challenge ∧ c.openedAt ≠ 0) ∧
      (w₂.env.now = w.env.now ∧ w₂.locked = true ∧ w.log <:+ w₂.log) ∧
      (∃ g, Idle (indexFacet w t) g ∧ indexFacet w₂ t = { g with challenge := .empty }) ∧
      ∀ t', t' ≠ t → Idle (indexFacet w t') (indexFacet w₂ t') := by
  obtain ⟨hactive, rfl⟩ := requireActiveChallenge_ok hc
  simp only [clearChallengeAccounting, bind_ok, checkedSub_ok, pure_ok] at hclear
  obtain ⟨total, -, rfl⟩ := hclear
  simp only [payBond, bind_ok, revertIf_ok, exists_const] at hpay
  obtain ⟨-, hpay⟩ := hpay
  have hstill : RowsStill (w.setChallenge t .empty total) w₂ :=
    payNative_keeps guarded_rows hr hpay hl
  refine ⟨⟨rfl, by simpa [isChallengeActive] using hactive⟩,
    ⟨hstill.now, hstill.locked.trans hl, hstill.log⟩, ?_, fun t' ht => ?_⟩
  · have hidle := hstill.idle t
    rw [indexFacet_setChallenge_self] at hidle
    rcases hidle with h | ⟨hlive, h⟩
    · exact ⟨_, .inl rfl, h⟩
    · exact ⟨_, .inr ⟨hlive, rfl⟩, h⟩
  · have hidle := hstill.idle t'
    rwa [indexFacet_setChallenge_of_ne _ _ ht] at hidle

theorem withdrawBody_rows (hl : w.locked = true) (hr : ∀ i, Keeps (Guarded RowsStill) (rs i))
    (h : withdrawBody challengeHooks w sender t rs = .ok w') : RowsTurns w w' := by
  simp only [withdrawBody, bind_ok, revertIf_ok, exists_const] at h
  obtain ⟨-, -, c, hc, -, -, -, w₁, hclear, w₂, hpay, h⟩ := h
  obtain ⟨⟨rfl, hactive⟩, ⟨hn, -, hlog⟩, ⟨g, hidle, hself⟩, hother⟩ :=
    routeBond_rows hl (hr 0) hc hclear hpay
  obtain rfl := Except.ok.inj h
  set c := (indexFacet w t).challenge with hcdef
  set e : Event := .challengeWithdrawn t c.challenger c.bondAmount c.windowDuration c.openedAt
  have hannounced : (sender, e) :: w₂.log <:+ (onWithdrawn (w₂.emit sender e) t).log :=
    List.suffix_refl _
  refine .one t hn (hlog.trans ((List.suffix_cons _ _).trans hannounced)) (fun hfair => ?_)
    fun t' ht => ?_
  · have hopened : c.openedAt = w.env.now := by
      simpa [e, fairEvent] using hfair.fair hlog hannounced
    have hthawed : indexFacet (onWithdrawn (w₂.emit sender e) t) t =
        indexFacet (setHold (w₂.emit sender e) t ((w₂.ext.holds t).thaw w₂.env.now)) t := rfl
    have hhold : w₂.ext.holds t = g.hold := congrArg IndexFacet.hold hself
    rw [hthawed, indexFacet_setHold_self, indexFacet_handle rfl, hself, hhold, hn]
    refine hidle.turns.tail (.thawed ?_ ?_)
    · rw [hidle.kept.2]
      exact hactive
    · rw [hidle.kept.2]
      exact hopened
  · have hrest : indexFacet (onWithdrawn (w₂.emit sender e) t) t' = indexFacet w₂ t' :=
      (indexFacet_setHold_of_ne _ ht).trans
        (indexFacet_emit (by simpa [e, Event.rowsOf] using Ne.symm ht))
    rw [hrest]
    exact hother t' ht

/-- The hold of a failed challenge is paid out, and no event says so. -/
theorem challengeTerminal_rows {e : Event} (he : e.rowsOf = some t)
    (hunfair : fairEvent t w.env.now e = false) (hl : u.locked = true)
    (hr : ∀ i, Keeps (Guarded RowsStill) (rs i)) (hn : u.env.now = w.env.now)
    (hlog : w.log <:+ u.log) (hother : ∀ t', t' ≠ t → Idle (indexFacet w t') (indexFacet u t'))
    (h : challengeTerminal (u.emit sender e) sender t rs = .ok w') : RowsTurns w w' := by
  simp only [challengeTerminal, bind_ok] at h
  obtain ⟨hold, -, hpay⟩ := h
  obtain ⟨hn', hlog', -, hother'⟩ := payHold_rows (w := u.emit sender e) hl hr hpay
  refine .one t (hn'.trans hn) (hlog.trans ((List.suffix_cons _ _).trans hlog')) (fun hfair => ?_)
    fun t' ht => ?_
  · have := hfair.fair hlog hlog'
    rw [hunfair] at this
    cases this
  · have hidle := hother' t' ht
    rw [indexFacet_emit (by rw [he]; simpa using Ne.symm ht)] at hidle
    exact (hother t' ht).trans hidle

theorem judgeBody_rows {outcome : JudgeOutcome} (hl : w.locked = true)
    (hr : ∀ i, Keeps (Guarded RowsStill) (rs i))
    (h : judgeBody challengeHooks w sender t outcome rs = .ok w') : RowsTurns w w' := by
  simp only [judgeBody, bind_ok, revertIf_ok, exists_const] at h
  obtain ⟨-, -, c, hc, -, -, -, -, w₁, hclear, w₂, hpay, h⟩ := h
  obtain ⟨⟨rfl, hactive⟩, ⟨hn, hl₂, hlog⟩, ⟨g, hidle, hself⟩, hother⟩ :=
    routeBond_rows hl (hr 0) hc hclear hpay
  cases outcome with
  | upheld =>
    obtain rfl := Except.ok.inj h
    set c := (indexFacet w t).challenge with hcdef
    set e : Event := .challengeJudged t c.challenger sender .upheld c.challenger c.bondAmount
      c.windowDuration c.openedAt
    set deadline := u64 (w₂.env.now + (w₂.ext.holds t).abandonmentWindow) with hdeadline
    have hreversed : ∀ t', indexFacet (onUpheld (w₂.emit sender e) sender t) t' =
        indexFacet ((setHold (w₂.emit sender e) t ((w₂.ext.holds t).reverse deadline)).emit sender
          (.reversalStarted t (w₂.ext.holds t).buyer deadline)) t' := fun _ => rfl
    refine .one t hn (hlog.trans ((List.suffix_cons _ _).trans (List.suffix_cons _ _)))
      (fun _ => ?_) fun t' ht => ?_
    · show ReflTransGen _ _ (indexFacet (onUpheld (w₂.emit sender e) sender t) t)
      have hhold : w₂.ext.holds t = g.hold := congrArg IndexFacet.hold hself
      rw [hreversed, indexFacet_handle rfl, indexFacet_setHold_self, indexFacet_handle rfl, hself,
        hhold]
      refine hidle.turns.tail (.upheld ?_)
      rw [hidle.kept.2]
      exact hactive
    · show Idle _ (indexFacet (onUpheld (w₂.emit sender e) sender t) t')
      rw [hreversed, indexFacet_emit (by simpa [Event.rowsOf] using Ne.symm ht),
        indexFacet_setHold_of_ne _ ht, indexFacet_emit (by simpa [e, Event.rowsOf] using Ne.symm ht)]
      exact hother t' ht
  | rejected =>
    exact challengeTerminal_rows rfl (by simp [fairEvent]) hl₂ (fun i => hr (i + 1)) hn hlog hother h

theorem concludeBody_rows (hl : w.locked = true) (hr : ∀ i, Keeps (Guarded RowsStill) (rs i))
    (h : concludeBody challengeHooks w sender t rs = .ok w') : RowsTurns w w' := by
  simp only [concludeBody, bind_ok] at h
  obtain ⟨-, -, c, hc, -, -, w₁, hclear, w₂, hpay, h⟩ := h
  obtain ⟨-, ⟨hn, hl₂, hlog⟩, -, hother⟩ := routeBond_rows hl (hr 0) hc hclear hpay
  exact challengeTerminal_rows rfl (by simp [fairEvent]) hl₂ (fun i => hr (i + 1)) hn hlog hother h

omit [Erc721 P] in
theorem openBody_rows {value : ℕ} (h : openBody w sender value t = .ok w') : RowsTurns w w' := by
  simp only [openBody, freezeForChallenge, openChallenge, bind_ok, revertIf_ok, exists_const,
    checkedAdd_ok, pure_ok] at h
  obtain ⟨u, ⟨hold, hh, hpending, -, hdue, rfl⟩, -, -, -, hinact, -, -, total, -, rfl⟩ := h
  obtain ⟨hheld, rfl⟩ := requireActiveHold_ok hh
  have hinact : (indexFacet w t).challenge.openedAt = 0 := by
    simpa [isChallengeActive, indexFacet, setHold] using hinact
  refine .one t rfl (List.suffix_cons _ _) (fun _ => ?_) fun t' ht => ?_
  · rw [indexFacet_handle rfl, indexFacet_setChallenge_self, indexFacet_setHold_self]
    exact .single (.frozen hheld (Bool.eq_false_of_not_eq_true hpending) (not_le.mp hdue) hinact rfl)
  · rw [indexFacet_emit (by simpa [Event.rowsOf] using Ne.symm ht),
      indexFacet_setChallenge_of_ne _ _ ht, indexFacet_setHold_of_ne _ ht]
    exact .inl rfl

/-- A bid shows in no row. -/
theorem bidBody_rows {value amount : ℕ} (hl : w.locked = true)
    (hr : ∀ i, Keeps (Guarded RowsStill) (rs i))
    (h : bidBody w sender value t amount rs = .ok w') : RowsStill w w' := by
  simp only [bidBody, bind_ok, revertIf_ok, exists_const] at h
  obtain ⟨-, -, -, -, -, -, -, -, u, hu, v, hv, h⟩ := h
  have hpulled : RowsStill w u := by
    unfold pullBid at hu
    split at hu
    · simp only [bind_ok, revertIf_ok, exists_const, pure_ok] at hu
      obtain ⟨-, rfl⟩ := hu
      exact rowsGuard.refl _
    · simp only [bind_ok, revertIf_ok, exists_const] at hu
      exact pullErc20_keeps guarded_rows (hr 0) hu.2 hl
  have hcommitted : RowsStill u v := by
    split at hv
    · simp only [bind_ok, pure_ok] at hv
      obtain ⟨y, hy, rfl⟩ := hv
      obtain ⟨-, rfl⟩ := enterCommittedNotOffered_ok hy
      exact .of_facet rfl rfl (List.suffix_refl _) fun _ => rfl
    · obtain rfl := pure_ok.mp hv
      exact rowsGuard.refl _
  set a := applyExtension v.env.now
    { v.ext.auction t with highestBidder := sender, highestBid := amount }
  have hplaced : RowsStill w ((setAuction v t a).emit sender (.bidPlaced t sender amount a.endsAt)) :=
    RowsStill.emit ((hpulled.trans hcommitted).trans
      (.of_facet rfl rfl (List.suffix_refl _) fun _ => rfl)) rfl
  split at h
  · simp only [bind_ok, pure_ok] at h
    obtain ⟨y, hy, rfl⟩ := h
    have hrefunded : RowsStill _ y := payOut_keeps guarded_rows (hr 1) hy (hplaced.locked.trans hl)
    exact (hplaced.trans hrefunded).emit rfl
  · obtain rfl := pure_ok.mp h
    exact hplaced

omit [Erc721 P] in
theorem writeAuctionTerms_rows (w : World P) {duration protectionWindow reserve : ℕ} :
    RowsStill w (writeAuctionTerms w sender t duration protectionWindow reserve) := by
  unfold writeAuctionTerms
  exact RowsStill.emit (.of_facet rfl rfl (List.suffix_refl _) fun _ => indexFacet_setAuction _) rfl

omit [Erc721 P] in
/-- The opening itself. -/
theorem writeOpen_rows (w : World P) {seller agent asset : Address} {denomination : Denomination}
    {floor price : ℕ} {comp : Compensation} :
    RowsTurns w (writeOpen w sender t seller agent asset denomination floor comp price) := by
  unfold writeOpen
  refine .one t rfl (List.suffix_cons _ _) (fun _ => ?_) fun t' ht => ?_
  · have hoffered : ∀ c, indexFacet ((((w.setConsignment t c).setCommitted t false).setPhase t
        .offered).setRecallRequest t 0) t = { indexFacet w t with live := true } := by
      intro c
      simp [indexFacet, World.setRecallRequest, World.setPhase, World.setCommitted,
        World.setConsignment, isLiveConsignment]
    rw [indexFacet_handle rfl, hoffered]
    exact .single .opened
  · rw [indexFacet_emit (by simpa [Event.rowsOf] using Ne.symm ht)]
    left
    simp [indexFacet, World.setRecallRequest, World.setPhase, World.setCommitted,
      World.setConsignment, isLiveConsignment, ht]

/-- An opening, once the passport is in custody. -/
theorem opened_rows {owner agent asset : Address} {denomination : Denomination}
    {floor reserve duration protectionWindow : ℕ} {comp : Compensation} (hl : w.locked = true)
    (htaken : takeCustody w t owner = .ok u) :
    RowsTurns w (writeAuctionTerms (writeOpen u sender t owner agent asset denomination floor comp
      reserve) sender t duration protectionWindow reserve) := by
  have hstill : RowsStill w u := takeCustody_keeps guarded_rows htaken hl
  exact rowsGuard.rest_trans (rowsGuard.rest_trans (rowsGuard.rest hstill) (writeOpen_rows u))
    (rowsGuard.rest (writeAuctionTerms_rows _))

theorem openAscendingDirectBody_rows {asset : Address} {reserve duration protectionWindow : ℕ}
    (hl : w.locked = true)
    (h : openAscendingDirectBody w sender t asset reserve duration protectionWindow = .ok w') :
    RowsTurns w w' := by
  simp only [openAscendingDirectBody, bind_ok, passportOwner_ok, revertIf_ok, pure_ok,
    exists_const] at h
  obtain ⟨-, -, owner, -, -, -, -, _, -, -, -, _, -, u, hu, rfl⟩ := h
  exact opened_rows hl hu

theorem openAscendingFromMandateBody_rows {reserve duration protectionWindow : ℕ}
    (hl : w.locked = true)
    (h : openAscendingFromMandateBody w sender t reserve duration protectionWindow = .ok w') :
    RowsTurns w w' := by
  simp only [openAscendingFromMandateBody, bind_ok, passportOwner_ok, revertIf_ok, pure_ok,
    exists_const] at h
  obtain ⟨-, -, m, -, -, owner, -, -, -, _, -, -, -, _, -, -, -, u, hu, rfl⟩ := h
  exact opened_rows hl hu

/-- Settling: the row of the live consignment. -/
theorem settleBody_rows (h : settleBody w sender t = .ok w') : RowsTurns w w' := by
  simp only [settleBody, bind_ok, revertIf_ok, orRevert_ok, exists_const, pure_ok] at h
  obtain ⟨hbinding, hends, hover, hfree, p, hp, rfl⟩ := h
  have hbinding : isBinding w t = true := Bool.eq_true_of_not_eq_false hbinding
  simp only [isBinding, Bool.and_eq_true, beq_iff_eq] at hbinding
  have hlive : (indexFacet w t).live = true := by simp [indexFacet, isLiveConsignment, hbinding]
  have hnow : 0 < w.env.now := by omega
  obtain ⟨-, hbuyer, -⟩ := Erc721.transferFrom_some hp
  have hmoved : ∀ t', indexFacet ((setAuction w t .empty).moved .self .self
      (w.ext.auction t).highestBidder t p) t' = indexFacet w t' := fun t' =>
    indexFacet_emit (by simp [Event.rowsOf])
  refine .one t rfl ((List.suffix_cons _ _).trans (List.suffix_cons _ _)) (fun _ => ?_)
    fun t' ht => ?_
  · rw [indexFacet_handle rfl, indexFacet_setHold_self, hmoved]
    exact .single (.settled hlive (not_not.mp hfree) hnow hbuyer (Nat.mod_lt _ (by decide)) rfl rfl)
  · rw [indexFacet_emit (by simpa [Event.rowsOf] using Ne.symm ht), indexFacet_setHold_of_ne _ ht,
      hmoved]
    exact .inl rfl

omit [Erc721 P] in
/-- A lot that is on offer may be taken off the books, and is announced. -/
theorem returned_rows {reason : CloseReason} (ho : isOfferedActionable w t = true)
    (h : RowsStill (clearConsignment w t .returned) u) :
    RowsStill w (u.emit sender (.consignmentClosed t reason)) := by
  simp only [isOfferedActionable, Bool.and_eq_true, beq_iff_eq, Bool.not_eq_true'] at ho
  have hlive : (indexFacet w t).live = true := by simp [indexFacet, isLiveConsignment, ho]
  refine ⟨h.now, h.locked, h.log.trans (List.suffix_cons _ _), fun t' => ?_⟩
  have hidle := h.idle t'
  by_cases ht : t' = t
  · subst ht
    rw [indexFacet_clear_self (by decide)] at hidle
    rw [indexFacet_handle rfl]
    rcases hidle with h | ⟨hgone, -⟩
    · rw [h]
      exact .inr ⟨hlive, rfl⟩
    · cases hgone
  · rw [indexFacet_clear_of_ne ht] at hidle
    rwa [indexFacet_emit (by simpa [Event.rowsOf] using Ne.symm ht)]

/-- A forced recall hands the passport over without a callback. -/
theorem forceRecall_rows {r : Reply P AscendingStorage}
    (h : forceRecall hooks w sender t r = .ok w') : RowsStill w w' := by
  simp only [forceRecall, terminateToOwner, releaseCustody, hooks, bind_ok, revertIf_ok,
    orRevert_ok, exists_const, pure_ok] at h
  obtain ⟨hoffered, -, -, -, u, ⟨p, hp, hu⟩, rfl⟩ := h
  simp only [Bool.false_eq_true, if_false, pure_ok] at hu
  subst hu
  have ho : isOfferedActionable (w.setRecallRequest t 0) t = true := by
    simp only [isOfferedAgented, Bool.and_eq_true, Bool.not_eq_false] at hoffered
    exact hoffered.1
  have hset : RowsStill w (w.setRecallRequest t 0) :=
    .of_facet rfl rfl (List.suffix_refl _) fun _ => rfl
  refine hset.trans (returned_rows ho ?_)
  exact .of_facet rfl rfl (List.suffix_cons _ _) fun _ => indexFacet_emit (by simp [Event.rowsOf])

/-- **Every accepted message turns the lots**, whatever its callees send in. -/
theorem exec_rows {d : ℕ} {m : Msg Call} (h : mode.exec d m w = .ok w') :
    Respects RowsStill RowsTurns w w' := by
  refine Mode.exec_keeps (R := Respects RowsStill RowsTurns) rowsGuard.respects_refl
    rowsGuard.respects_trans ?_ ?_ d m w w' h
  · intro o u v ho
    exact respects_rows.side (.outside o ho)
  · intro s value c rs u v hrs hd
    have hg : ∀ i, Keeps (Guarded RowsStill) (rs i) := fun i => Respects.guarded (hrs i)
    have hvalue : Respects RowsStill RowsTurns u (u.receiveValue value) :=
      rowsGuard.of (.of_facet rfl rfl (List.suffix_refl _) fun _ => rfl)
    cases c
    case bid t amount =>
      simp only [mode, dispatch] at hd
      exact rowsGuard.respects_trans hvalue
        (rowsGuard.nonReentrant (fun hu => rowsGuard.rest (bidBody_rows rfl hg hu)) hd)
    case «open» t =>
      simp only [mode, dispatch] at hd
      exact rowsGuard.respects_trans hvalue
        (rowsGuard.nonReentrant (fun hu => openBody_rows hu) hd)
    all_goals
      simp only [mode, dispatch, dispatchPlain, bind_ok] at hd
      obtain ⟨-, -, hd⟩ := hd
    case base c =>
      exact rowsGuard.execBase (fun h => Beside.rowsStill (h.beside extView.refl))
        (fun ho hu => returned_rows ho hu) hrs
        (fun t _ hrec => rowsGuard.of (forceRecall_rows hrec)) hd
    case setChallengeBond b =>
      simp only [setChallengeBond, bind_ok, pure_ok] at hd
      obtain ⟨-, -, -, -, rfl⟩ := hd
      exact rowsGuard.of (RowsStill.emit
        (.of_facet rfl rfl (List.suffix_refl _) fun _ => rfl) rfl)
    case approvePaymentToken token =>
      simp only [approvePaymentToken, bind_ok, revertIf_ok, exists_const, pure_ok] at hd
      obtain ⟨-, -, -, x, hx, -, -, rfl⟩ := hd
      exact respects_rows.trans (requireConforming_keeps respects_rows (hrs 0) hx)
        (rowsGuard.of (RowsStill.emit
          (.of_facet rfl rfl (List.suffix_refl _) fun _ => rfl) rfl))
    case revokePaymentToken token =>
      simp only [revokePaymentToken, bind_ok, revertIf_ok, exists_const, pure_ok] at hd
      obtain ⟨-, rfl⟩ := hd
      exact rowsGuard.of (RowsStill.emit
        (.of_facet rfl rfl (List.suffix_refl _) fun _ => rfl) rfl)
    case openAscendingDirect =>
      exact rowsGuard.nonReentrant (fun hu => openAscendingDirectBody_rows rfl hu) hd
    case openAscendingFromMandate =>
      exact rowsGuard.nonReentrant (fun hu => openAscendingFromMandateBody_rows rfl hu) hd
    case settle => exact rowsGuard.nonReentrant (fun hu => settleBody_rows hu) hd
    case confirmReceipt =>
      exact rowsGuard.nonReentrant (fun hu => confirmReceiptBody_rows rfl hg hu) hd
    case releaseFunds =>
      exact rowsGuard.nonReentrant (fun hu => releaseFundsBody_rows rfl hg hu) hd
    case completeReversal =>
      exact rowsGuard.nonReentrant (fun hu => completeReversalBody_rows rfl hg hu) hd
    case abandonReversal =>
      exact rowsGuard.nonReentrant (fun hu => abandonReversalBody_rows rfl hg hu) hd
    case withdraw => exact rowsGuard.nonReentrant (fun hu => withdrawBody_rows rfl hg hu) hd
    case judge => exact rowsGuard.nonReentrant (fun hu => judgeBody_rows rfl hg hu) hd
    case conclude => exact rowsGuard.nonReentrant (fun hu => concludeBody_rows rfl hg hu) hd

end Messages

/-! ## §5. The rows over runs. -/

variable [Erc721 P] {w₀ w w' : World P} {t : TokenId} {as : List (Action Call)}

/-- In the step no challenge on `t` is rejected or concluded, and one is withdrawn only in the
    second it was opened in. -/
def fairStep (t : TokenId) (w : World P) (a : Action Call) : Prop :=
  ∀ w', mode.step w a = .ok w' → FairSince t w w'

instance {w w' : World P} : Decidable (FairSince t w w') := inferInstanceAs (Decidable (∀ _ ∈ _, _))

instance {w : World P} {a : Action Call} : Decidable (fairStep t w a) :=
  match h : mode.step w a with
  | .error _ => isTrue fun _ h' => nomatch h.symm.trans h'
  | .ok u => decidable_of_iff (FairSince t w u)
      ⟨fun hu _ h' => Except.ok.inj (h.symm.trans h') ▸ hu, fun hu => hu u h⟩

/-- The invariant: a contract at rest, the rows of `t` right. -/
structure RowsRight (t : TokenId) (w : World P) : Prop where
  locked : w.locked = false
  indexed : Indexed w.env.now (indexFacet w t)

theorem RowsRight.init (h : Genesis w) : RowsRight t w := by
  obtain ⟨env, pr, fee, fr, bond, window, own, gd, w₁, b, tb, -, hinit, rfl⟩ := h
  simp only [initializeStorage, bind_ok, revertIf_ok, pure_ok, exists_const] at hinit
  obtain ⟨-, -, _, -, -, -, -, -, rfl⟩ := hinit
  exact ⟨rfl, .start⟩

theorem RowsRight.step {a : Action Call} (hi : RowsRight t w) (hfair : fairStep t w a)
    (h : mode.step w a = .ok w') : RowsRight t w' := by
  cases a with
  | msg m =>
    obtain ⟨hturns, hl⟩ := (exec_rows h).at_rest hi.locked
    refine ⟨hl, ?_⟩
    rw [hturns.now]
    exact hi.indexed.turns (hturns.turns t (hfair w' h))
  | tick dt =>
    obtain rfl : _ = w' := Except.ok.inj h
    exact ⟨hi.locked, hi.indexed.tick dt⟩

/-- **The indexed hold.**  In a run in which no challenge on the passport is rejected or
    concluded, and none is withdrawn later than in the second it was opened in, what is read
    of its rows is what is read of its hold and challenge, at any time. -/
theorem hold_index (h₀ : Genesis w₀) (hr : run mode.step w₀ as = .ok w)
    (hfair : Along mode.step (fairStep t) w₀ as) (nowSec : ℕ) :
    (rowsAfter t w.log).readings nowSec = readings w t nowSec := by
  have hi : RowsRight t w := run_invariant_along (fun _ _ _ hi hf hs => hi.step hf hs) (.init h₀)
    hfair hr
  exact hi.indexed.readings nowSec

/-- A settled lot, under challenge for no time. -/
def briefChallenge : List (Action Call) :=
  settledLot ++ [.tick 1000, .call 3 100 (.open 7), .call 3 0 (.withdraw 7), .tick 300]

theorem hold_index_brief :
    (rowsAfter 7 (finalState mode.step smallGenesis briefChallenge).log).readings 300000 =
      readings (finalState mode.step smallGenesis briefChallenge) 7 300000 :=
  hold_index smallGenesis_genesis (run_finalState (by decide +kernel)) (by decide +kernel) 300000

/-- A settled lot under a challenge that nobody answers, concluded after its window. -/
def concludedLot : List (Action Call) :=
  settledLot ++ [.call 3 100 (.open 7), .tick 86400, .call 9 0 (.conclude 7)]

/-- **The rows go wrong.**  A challenge of 500 seconds moves the deadline on chain and not in
    the row; and the row of a hold that a concluded challenge has paid out stays active. -/
theorem hold_index_fails : Genesis smallGenesis ∧
    (∃ w, run mode.step smallGenesis thawedLot = .ok w ∧
      (rowsAfter 7 w.log).readings 300000 ≠ readings w 7 300000) ∧
    ∃ w, run mode.step smallGenesis concludedLot = .ok w ∧ readings w 7 300000 = [] ∧
      (rowsAfter 7 w.log).readings 300000 ≠ [] :=
  ⟨smallGenesis_genesis, ⟨_, run_finalState (by decide +kernel), by decide +kernel⟩,
    _, run_finalState (by decide +kernel), by decide +kernel, by decide +kernel⟩

end Ascending

end Kargain.Evm
