/-
  Kargain.Evm.StakingLaw — what becomes of a verifier's stake.

  Read off the events, an account has no stake, an active one, or one
  that is unbonding; the three phases follow each other in this order.
  `Books` is what the law reads of the world.  The four guarded entry
  points change the books as the lemmas of §3 say; whatever a callee
  sends in meanwhile changes nothing but what ether stands here.

  Main result: `staking_law`.
-/
import Kargain.Base.Reserve
import Kargain.Evm.ProStaking

namespace Kargain.Evm.Staking

open Function

/-! ## §1. The three phases. -/

inductive Standing where
  | none
  | active (amount : ℕ)
  | unbonding (amount unlockAt : ℕ)

abbrev History := List (ℕ × StakingEvent)

/-- The phase of an account after the events so far. -/
def standingAfter (a : Address) : History → Standing
  | [] => .none
  | (_, .verifierJoined v amount) :: older =>
    if v = a then .active amount else standingAfter a older
  | (_, .verifierLeft v amount unlockAt) :: older =>
    if v = a then .unbonding amount unlockAt else standingAfter a older
  | (_, .unbondStarted _ _ _) :: older => standingAfter a older
  | (_, .stakeClaimed v _) :: older => if v = a then .none else standingAfter a older

/-- When each event may come, and with what values. -/
def Lawful (older : History) : ℕ × StakingEvent → Prop
  | (_, .verifierJoined v _) => standingAfter v older = .none
  | (now, .verifierLeft v amount unlockAt) =>
    standingAfter v older = .active amount ∧ unlockAt = now + unbondingPeriod
  | (_, .unbondStarted v amount unlockAt) => standingAfter v older = .unbonding amount unlockAt
  | (now, .stakeClaimed v amount) =>
    ∃ unlockAt, standingAfter v older = .unbonding amount unlockAt ∧ unlockAt ≤ now

/-- The stakes of `a` that have been claimed, added up. -/
def returned (a : Address) : History → ℕ
  | [] => 0
  | (_, .stakeClaimed v amount) :: older => (if v = a then amount else 0) + returned a older
  | (_, .verifierJoined _ _) :: older => returned a older
  | (_, .verifierLeft _ _ _) :: older => returned a older
  | (_, .unbondStarted _ _ _) :: older => returned a older

/-- The ether `a` has been paid. -/
def received (a : Address) : List Payout → ℕ
  | [] => 0
  | p :: older =>
    (if p.asset = .zero ∧ p.recipient = a ∧ p.paid = true then p.amount else 0) + received a older

/-- What the contract has on record for an account in each phase. -/
def Recorded : Standing → Stake → Prop
  | .none, s => s.active = false ∧ s.amount = 0 ∧ s.unlockAt = 0
  | .active amount, s => s.active = true ∧ s.amount = amount ∧ s.unlockAt = 0
  | .unbonding amount unlockAt, s =>
    s.active = false ∧ s.amount = amount ∧ s.unlockAt = unlockAt ∧ unlockAt ≠ 0

/-! ## §2. The books. -/

/-- A stake on record, or a claim left by a refused payout. -/
inductive Liability where
  | stake (a : Address)
  | claim (a : Address)
  deriving DecidableEq

structure Books (Q : Type) where
  balance : ℕ
  claims : Address → Address → ℕ
  payouts : List Payout
  stakes : Address → Stake
  pass : Q
  staking : Address
  history : History

variable {P Q : Type}

def books (w : World P Q) : Books Q :=
  ⟨w.acct.balance, w.acct.pendingClaims, w.acct.payouts, w.ext.stakes, w.ext.proPass.erc721,
    w.ext.proPass.staking, w.ext.history⟩

def Books.owed (b : Books Q) : Liability → ℕ
  | .stake a => (b.stakes a).amount
  | .claim a => b.claims a .zero

/-- The ether in the contract for each account: stakes and claims. -/
def owed (w : World P Q) : Liability → ℕ := (books w).owed

structure Sound [PassLedger Q] (b : Books Q) : Prop where
  covers : Covers b.balance b.owed 0
  no_token : ∀ a asset, asset ≠ .zero → b.claims a asset = 0
  recorded : ∀ a, Recorded (standingAfter a b.history) (b.stakes a)
  lawful : Throughout Lawful b.history
  wired : b.staking = .self
  held : ∀ a, (b.stakes a).active = true → PassLedger.ownerOf b.pass (passId a) = some a
  holder : ∀ t a, PassLedger.ownerOf b.pass t = some a → t = passId a ∧ (b.stakes a).active = true
  one_each : ∀ a, PassLedger.balanceOf b.pass a = if (b.stakes a).active = true then 1 else 0
  square : ∀ a, returned a b.history = received a b.payouts + b.claims a .zero

section Books

variable [PassLedger Q] {b : Books Q} {a : Address}

/-- Ether may always come in. -/
theorem Sound.gain (h : Sound b) (n : ℕ) : Sound { b with balance := b.balance + n } :=
  ⟨h.covers.weaken (Nat.le_add_right _ n) le_rfl, h.no_token, h.recorded, h.lawful, h.wired,
    h.held, h.holder, h.one_each, h.square⟩

theorem Sound.none_of_idle (h : Sound b) (ha : (b.stakes a).active = false)
    (hu : (b.stakes a).unlockAt = 0) : standingAfter a b.history = .none := by
  have hr := h.recorded a
  cases hs : standingAfter a b.history with
  | none => rfl
  | active amount =>
    rw [hs] at hr
    exact absurd (ha.symm.trans hr.1) (by simp)
  | unbonding amount unlockAt =>
    rw [hs] at hr
    obtain ⟨-, -, hr, hne⟩ := hr
    exact absurd (hr.symm.trans hu) hne

theorem Sound.active (h : Sound b) (ha : (b.stakes a).active = true) :
    standingAfter a b.history = .active (b.stakes a).amount ∧ (b.stakes a).unlockAt = 0 := by
  have hr := h.recorded a
  cases hs : standingAfter a b.history with
  | active amount =>
    rw [hs] at hr
    exact ⟨by rw [hr.2.1], hr.2.2⟩
  | none =>
    rw [hs] at hr
    exact absurd (ha.symm.trans hr.1) (by simp)
  | unbonding amount unlockAt =>
    rw [hs] at hr
    exact absurd (ha.symm.trans hr.1) (by simp)

theorem Sound.unbonding (h : Sound b) (ha : (b.stakes a).active = false)
    (hu : (b.stakes a).unlockAt ≠ 0) : standingAfter a b.history =
      .unbonding (b.stakes a).amount (b.stakes a).unlockAt := by
  have hr := h.recorded a
  cases hs : standingAfter a b.history with
  | none =>
    rw [hs] at hr
    exact absurd hr.2.2 hu
  | active amount =>
    rw [hs] at hr
    exact absurd (ha.symm.trans hr.1) (by simp)
  | unbonding amount unlockAt =>
    rw [hs] at hr
    rw [hr.2.1, hr.2.2.1]

/-! ## §3. The four changes. -/

omit [PassLedger Q] in
/-- Writing the stake of `a` moves at most one liability. -/
theorem owed_setStake (b : Books Q) (a : Address) (s : Stake) (l : Liability) :
    Books.owed { b with stakes := update b.stakes a s } l =
      update b.owed (.stake a) s.amount l := by
  cases l with
  | stake v =>
    by_cases hv : v = a
    · subst hv
      simp [Books.owed]
    · simp [Books.owed, hv]
  | claim v => rw [update_of_ne (by simp)]; rfl

omit [PassLedger Q] in
theorem owed_setClaim (b : Books Q) (a : Address) (n : ℕ) (l : Liability) :
    Books.owed { b with claims := update b.claims a (update (b.claims a) .zero n) } l =
      update b.owed (.claim a) n l := by
  cases l with
  | claim v =>
    by_cases hv : v = a
    · subst hv
      simp [Books.owed]
    · simp [Books.owed, hv]
  | stake v => rw [update_of_ne (by simp)]; rfl

/-- **A successful join.** -/
theorem Sound.joined {q : Q} (h : Sound b) (value now : ℕ) (hz : a ≠ .zero)
    (ha : (b.stakes a).active = false) (hu : (b.stakes a).unlockAt = 0)
    (hq : PassLedger.update b.pass a (passId a) .zero = some q) :
    Sound { b with
      balance := b.balance + value
      stakes := update b.stakes a ⟨.zero, value, now, true, 0⟩
      pass := q
      history := (now, .verifierJoined a value) :: b.history } := by
  have hnone := h.none_of_idle ha hu
  have hzero : (b.stakes a).amount = 0 := by
    have hr := h.recorded a
    rw [hnone] at hr
    exact hr.2.1
  have hown := PassLedger.ownerOf_update hq
  have hbal := PassLedger.balanceOf_update hq
  -- the token of `a` did not exist: its owner would be active
  have hfree : ∀ v, PassLedger.ownerOf b.pass (passId a) ≠ some v := by
    intro v hv
    obtain ⟨hid, hact⟩ := h.holder _ _ hv
    rw [← passId_injective hid, ha] at hact
    cases hact
  refine ⟨?_, h.no_token, ?_, ⟨hnone, h.lawful⟩, h.wired, ?_, ?_, ?_, h.square⟩
  · have hdep := h.covers.deposit value
    have hbook := Covers.book (i := .stake a) hdep
    refine hbook.congr fun l => ?_
    show Books.owed { b with stakes := update b.stakes a ⟨.zero, value, now, true, 0⟩ } l = _
    rw [owed_setStake]
    simp [Books.owed, hzero]
  · intro v
    by_cases hv : a = v
    · subst hv
      simp [standingAfter, Recorded]
    · have hv' : v ≠ a := fun e => hv e.symm
      simpa [standingAfter, hv, hv'] using h.recorded v
  · intro v hact
    show PassLedger.ownerOf q (passId v) = some v
    rw [hown]
    by_cases hv : v = a
    · subst hv
      rw [if_pos rfl, if_neg hz]
    · rw [if_neg fun e => hv (passId_injective e)]
      exact h.held v (by simpa [hv] using hact)
  · intro t v ht
    replace ht : PassLedger.ownerOf q t = some v := ht
    rw [hown] at ht
    by_cases he : t = passId a
    · rw [if_pos he, if_neg hz] at ht
      obtain rfl : a = v := Option.some.inj ht
      exact ⟨he, by simp⟩
    · rw [if_neg he] at ht
      obtain ⟨rfl, hact⟩ := h.holder t v ht
      have hv : v ≠ a := fun e => he (by rw [e])
      exact ⟨rfl, by simpa [hv] using hact⟩
  · intro v
    show PassLedger.balanceOf q v = _
    rw [hbal, if_neg (hfree v), h.one_each v]
    by_cases hv : a = v
    · subst hv
      simp [ha, hz]
    · have hv' : v ≠ a := fun e => hv e.symm
      simp [hv, hv']

/-- **Leaving**: the role and the pass end, the stake starts to unbond. -/
theorem Sound.left {q : Q} (h : Sound b) (now : ℕ) (ha : (b.stakes a).active = true)
    (hq : PassLedger.update b.pass .zero (passId a) .zero = some q) :
    Sound { b with
      stakes := update b.stakes a
        { b.stakes a with active := false, unlockAt := now + unbondingPeriod }
      pass := q
      history := (now, .unbondStarted a (b.stakes a).amount (now + unbondingPeriod)) ::
        (now, .verifierLeft a (b.stakes a).amount (now + unbondingPeriod)) :: b.history } := by
  obtain ⟨hact, -⟩ := h.active ha
  have hown := PassLedger.ownerOf_update hq
  have hbal := PassLedger.balanceOf_update hq
  have hperiod : unbondingPeriod ≠ 0 := by
    unfold unbondingPeriod
    omega
  refine ⟨?_, h.no_token, ?_, ⟨?_, ⟨hact, rfl⟩, h.lawful⟩, h.wired, ?_, ?_, ?_, h.square⟩
  · refine h.covers.congr fun l => ?_
    show Books.owed { b with stakes := update b.stakes a _ } l = _
    rw [owed_setStake]
    exact congrFun (update_eq_self (Liability.stake a) b.owed) l
  · intro v
    by_cases hv : a = v
    · subst hv
      simp [standingAfter, Recorded, hperiod]
    · have hv' : v ≠ a := fun e => hv e.symm
      simpa [standingAfter, hv, hv'] using h.recorded v
  · simp [Lawful, standingAfter]
  · intro v hv
    show PassLedger.ownerOf q (passId v) = some v
    have hne : v ≠ a := by
      rintro rfl
      simp at hv
    rw [hown, if_neg fun e => hne (passId_injective e)]
    exact h.held v (by simpa [hne] using hv)
  · intro t v ht
    replace ht : PassLedger.ownerOf q t = some v := ht
    rw [hown] at ht
    by_cases he : t = passId a
    · rw [if_pos he, if_pos rfl] at ht
      cases ht
    · rw [if_neg he] at ht
      obtain ⟨rfl, hv⟩ := h.holder t v ht
      have hne : v ≠ a := fun e => he (by rw [e])
      exact ⟨rfl, by simpa [hne] using hv⟩
  · intro v
    show PassLedger.balanceOf q v = _
    rw [hbal, h.held a ha, h.one_each v]
    by_cases hv : a = v
    · subst hv
      simp [ha]
    · have hv' : v ≠ a := fun e => hv e.symm
      simp [hv, hv']

/-- What a native payout does to the books: nothing is paid, or the balance shrinks, or a
    claim is written. -/
inductive Paid (b b' : Books Q) (dst : Address) (amount : ℕ) : Prop where
  | nothing (h0 : amount = 0) (h : b' = b)
  | pushed (n : ℕ) (hle : amount ≤ b.balance)
      (h : b' = { b with balance := b.balance - amount + n
                         payouts := ⟨.zero, dst, amount, b.balance, true⟩ :: b.payouts })
  | booked (h : b' = { b with
      payouts := ⟨.zero, dst, amount, b.balance, false⟩ :: b.payouts
      claims := update b.claims dst (update (b.claims dst) .zero (b.claims dst .zero + amount)) })

omit [PassLedger Q] in
theorem received_cons {p : Payout} {l : List Payout} :
    received a (p :: l) = (if p.asset = .zero ∧ p.recipient = a ∧ p.paid = true then p.amount
      else 0) + received a l := rfl

/-- Once the stake of `a` is off the books, its payment leaves them square again. -/
theorem Sound.paidOut {b' : Books Q} (h : Sound b)
    (hp : Paid { b with stakes := update b.stakes a (b.stakes a).cleared } b' a
      (b.stakes a).amount) :
    Covers b'.balance b'.owed 0 ∧ (∀ v asset, asset ≠ .zero → b'.claims v asset = 0) ∧
      ∀ v, (if a = v then (b.stakes a).amount else 0) + returned v b.history =
        received v b'.payouts + b'.claims v .zero := by
  have hpark := h.covers.park (i := .stake a) (Nat.zero_le _)
  have howed : b.owed (.stake a) = (b.stakes a).amount := rfl
  rw [howed, Nat.sub_zero, Nat.zero_add] at hpark
  have hcleared : ∀ l, Books.owed { b with stakes := update b.stakes a (b.stakes a).cleared } l =
      update b.owed (.stake a) 0 l := owed_setStake b a (b.stakes a).cleared
  cases hp with
  | nothing h0 hb =>
    subst hb
    rw [h0] at hpark ⊢
    refine ⟨hpark.congr hcleared, h.no_token, fun v => ?_⟩
    rw [ite_self, Nat.zero_add]
    exact h.square v
  | pushed n hle hb =>
    subst hb
    have hspend : Covers (b.balance - (b.stakes a).amount) (update b.owed (.stake a) 0) 0 :=
      Covers.spend (by rw [Nat.zero_add]; exact hpark)
    refine ⟨(hspend.weaken (Nat.le_add_right _ n) le_rfl).congr hcleared, h.no_token,
      fun v => ?_⟩
    have hsq := h.square v
    rw [received_cons]
    by_cases hv : a = v <;> simp [hv] <;> omega
  | booked hb =>
    subst hb
    have hbook : Covers b.balance (update (update b.owed (.stake a) 0) (.claim a)
        (update b.owed (.stake a) 0 (.claim a) + (b.stakes a).amount)) 0 :=
      Covers.book (by rw [Nat.zero_add]; exact hpark)
    refine ⟨hbook.congr fun l => ?_, fun v asset hz => ?_, fun v => ?_⟩
    · refine (owed_setClaim _ a _ l).trans ?_
      have hne : Liability.claim a ≠ .stake a := by simp
      rw [update_of_ne hne, funext hcleared]
      rfl
    · by_cases hv : v = a
      · subst hv
        simpa [hz] using h.no_token v asset hz
      · simpa [hv] using h.no_token v asset hz
    · have hsq := h.square v
      rw [received_cons]
      by_cases hv : v = a
      · subst hv
        simp
        omega
      · have hv' : a ≠ v := fun e => hv e.symm
        simpa [hv, hv'] using hsq

/-- **A claimed stake**: the account is where it started. -/
theorem Sound.claimed {now : ℕ} {b' : Books Q} (h : Sound b) (ha : (b.stakes a).active = false)
    (hu : (b.stakes a).unlockAt ≠ 0) (hnow : (b.stakes a).unlockAt ≤ now)
    (hp : Paid { b with stakes := update b.stakes a (b.stakes a).cleared } b' a
      (b.stakes a).amount) :
    Sound { b' with history := (now, .stakeClaimed a (b.stakes a).amount) :: b.history } := by
  obtain ⟨hcov, htoken, hsq⟩ := h.paidOut hp
  have hactive : ∀ v, (update b.stakes a (b.stakes a).cleared v).active =
      (b.stakes v).active := by
    intro v
    by_cases hv : v = a
    · subst hv
      simp [Stake.cleared]
    · simp [hv]
  have hkept : b'.stakes = update b.stakes a (b.stakes a).cleared ∧ b'.pass = b.pass ∧
      b'.staking = b.staking := by
    cases hp with
    | nothing _ hb => exact hb ▸ ⟨rfl, rfl, rfl⟩
    | pushed n _ hb => exact hb ▸ ⟨rfl, rfl, rfl⟩
    | booked hb => exact hb ▸ ⟨rfl, rfl, rfl⟩
  obtain ⟨hstakes, hpass, hwired⟩ := hkept
  have hunb := h.unbonding ha hu
  refine ⟨hcov, htoken, fun v => ?_, ⟨⟨_, hunb, hnow⟩, h.lawful⟩, hwired.trans h.wired,
    fun v hv => ?_, fun t v ht => ?_, fun v => ?_, hsq⟩
  · show Recorded _ (b'.stakes v)
    rw [hstakes]
    by_cases hv : a = v
    · subst hv
      simp [standingAfter, Recorded, Stake.cleared, ha]
    · have hv' : v ≠ a := fun e => hv e.symm
      simpa [standingAfter, hv, hv'] using h.recorded v
  · replace hv : (b'.stakes v).active = true := hv
    rw [hstakes, hactive] at hv
    show PassLedger.ownerOf b'.pass (passId v) = some v
    rw [hpass]
    exact h.held v hv
  · replace ht : PassLedger.ownerOf b'.pass t = some v := ht
    rw [hpass] at ht
    obtain ⟨hid, hv⟩ := h.holder t v ht
    refine ⟨hid, ?_⟩
    show (b'.stakes v).active = true
    rw [hstakes, hactive]
    exact hv
  · show PassLedger.balanceOf b'.pass v = if (b'.stakes v).active = true then 1 else 0
    rw [hpass, hstakes, hactive]
    exact h.one_each v

/-- A claim that was paid out. -/
theorem Sound.withdrawn {p : Payout} {n : ℕ} (h : Sound b) (hn : n = b.claims a .zero)
    (hp : p.asset = .zero ∧ p.recipient = a ∧ p.amount = n ∧ p.paid = true) :
    Sound { b with
      balance := b.balance - n
      claims := update b.claims a (update (b.claims a) .zero 0)
      payouts := p :: b.payouts } := by
  subst hn
  obtain ⟨hasset, hrec, hamount, hpaid⟩ := hp
  refine ⟨?_, ?_, h.recorded, h.lawful, h.wired, h.held, h.holder, h.one_each, ?_⟩
  · have hpark := h.covers.park (i := .claim a) (Nat.zero_le _)
    refine (Covers.spend hpark).congr fun l => ?_
    show Books.owed { b with claims := update b.claims a (update (b.claims a) .zero 0) } l = _
    exact owed_setClaim b a 0 l
  · intro v asset hz
    by_cases hv : v = a
    · subst hv
      simpa [hz] using h.no_token v asset hz
    · simpa [hv] using h.no_token v asset hz
  · intro v
    show returned v b.history = _
    rw [h.square v]
    by_cases hv : v = a
    · subst hv
      simp [received, hasset, hrec, hamount, hpaid]
      omega
    · have hv' : a ≠ v := fun e => hv e.symm
      simp [received, hrec, hv, hv']

end Books

/-! ## §4. Callees. -/

section Calls

variable [PassLedger Q] {w w' u : World P Q} {sender dst : Address}
  {rs : ℕ → Reply P (StakingStorage Q)} {r : Reply P (StakingStorage Q)}

/-- What can happen while the guard is held: ether comes in, and things the law does not
    read change. -/
structure Quiet (w w' : World P Q) : Prop where
  locked : w'.locked = w.locked
  now : w'.env.now = w.env.now
  kept : ∃ n, books w' = { books w with balance := w.acct.balance + n }

omit [PassLedger Q] in
theorem Quiet.of_books (hl : w'.locked = w.locked) (hn : w'.env.now = w.env.now)
    (hb : books w' = books w) : Quiet w w' :=
  ⟨hl, hn, 0, hb⟩

omit [PassLedger Q] in
theorem Quiet.refl (w : World P Q) : Quiet w w := .of_books rfl rfl rfl

omit [PassLedger Q] in
theorem Quiet.trans (h : Quiet w w') (k : Quiet w' u) : Quiet w u := by
  obtain ⟨n, hn⟩ := h.kept
  obtain ⟨m, hm⟩ := k.kept
  have hbal : w'.acct.balance = w.acct.balance + n := congrArg Books.balance hn
  refine ⟨k.locked.trans h.locked, k.now.trans h.now, n + m, ?_⟩
  rw [hm, hn, hbal, Nat.add_assoc]

omit [PassLedger Q] in
theorem outside_quiet [Erc721 P] {o : Outside} (h : execOutside hooks w o = .ok w') :
    Quiet w w' := by
  cases o with
  | passport caller c =>
    cases c <;>
      simp only [execOutside, execPassport, bind_ok, orRevert_ok, require_ok, exists_const,
        pure_ok] at h
    case transferFrom => obtain ⟨p, -, rfl⟩ := h; exact .of_books rfl rfl rfl
    case approve => obtain ⟨p, -, rfl⟩ := h; exact .of_books rfl rfl rfl
    case setApprovalForAll => obtain ⟨p, -, rfl⟩ := h; exact .of_books rfl rfl rfl
    case send => obtain ⟨k, -, rfl⟩ := h; exact .of_books rfl rfl rfl
    case receive => obtain ⟨k, -, rfl⟩ := h; exact .of_books rfl rfl rfl
    case mintPassport => obtain ⟨-, p, -, rfl⟩ := h; exact .of_books rfl rfl rfl
  | forceEther n =>
    obtain rfl := Except.ok.inj h
    exact ⟨rfl, rfl, n, rfl⟩
  | setToken token n =>
    simp only [execOutside, bind_ok, require_ok, exists_const, pure_ok] at h
    obtain ⟨-, rfl⟩ := h
    exact .of_books rfl rfl rfl
  | _ => obtain rfl := Except.ok.inj h; exact .of_books rfl rfl rfl

/-- The pass answers the staking contract only, and a pass that exists moves nowhere. -/
theorem pass_transferFrom_refused {k k' : KarProPass Q} {t : TokenId} (hs : sender ≠ .zero) :
    k.transferFrom sender dst t ≠ .ok k' := by
  intro h
  simp only [KarProPass.transferFrom, KarProPass.update, bind_ok, revertIf_ok, orRevert_ok,
    exists_const] at h
  obtain ⟨hz, hsome, q, hq, -⟩ := h
  have hnone : PassLedger.ownerOf k.erc721 t = none := by
    by_contra hn
    exact hsome ⟨Option.isSome_iff_ne_none.mpr hn, hz⟩
  rw [PassLedger.update_missing _ _ _ _ hnone hs] at hq
  cases hq

/-- **The unguarded entry points are quiet.** -/
theorem dispatch_free_quiet {c : Call} {value : ℕ} (hw : w.ext.proPass.staking = .self)
    (hs : sender ≠ .self) (hz : sender ≠ .zero) (hc : c.guarded = false)
    (h : dispatch sender value c rs w = .ok w') : Quiet w w' := by
  cases c <;> simp only [Call.guarded, Bool.true_eq_false] at hc <;>
    simp only [dispatch, dispatchPlain, bind_ok] at h <;> obtain ⟨-, -, h⟩ := h
  case setMinStakeNative v =>
    simp only [setMinStakeNative, onlyOwner, bind_ok, require_ok, revertIf_ok, exists_const,
      pure_ok] at h
    obtain ⟨-, -, rfl⟩ := h
    exact .of_books rfl rfl rfl
  case setVerificationFee fee =>
    simp only [setVerificationFee, bind_ok, revertIf_ok, exists_const, pure_ok] at h
    obtain ⟨-, rfl⟩ := h
    exact .of_books rfl rfl rfl
  case transferOwnership o =>
    simp only [transferOwnership, onlyOwner, bind_ok, require_ok, exists_const, pure_ok] at h
    obtain ⟨-, rfl⟩ := h
    exact .of_books rfl rfl rfl
  case mint dst profile =>
    obtain ⟨k, hk, -⟩ := h
    simp only [KarProPass.mint, bind_ok, require_ok, exists_const] at hk
    exact absurd (hk.1.trans hw) hs
  case burn holder =>
    obtain ⟨k, hk, -⟩ := h
    simp only [KarProPass.burn, bind_ok, require_ok, exists_const] at hk
    exact absurd (hk.1.trans hw) hs
  case updateProfile profile =>
    simp only [KarProPass.updateProfile, bind_ok, revertIf_ok, exists_const, pure_ok] at h
    obtain ⟨k, ⟨-, -, rfl⟩, rfl⟩ := h
    exact .of_books rfl rfl rfl
  case transferFrom dst t =>
    obtain ⟨k, hk, -⟩ := h
    exact absurd hk (pass_transferFrom_refused hz)
  case approve => cases h
  case setApprovalForAll => cases h

theorem dispatch_locked {c : Call} {value : ℕ} (hl : w.locked = true) (hc : c.guarded = true) :
    dispatch sender value c rs w ≠ .ok w' := by
  intro h
  have hguard : ∀ {v : World P Q} {body : World P Q → Except Error (World P Q)},
      v.locked = true → nonReentrant v body ≠ .ok w' := by
    intro v body hv hn
    rw [nonReentrant_locked hv] at hn
    cases hn
  cases c <;> simp only [Call.guarded, Bool.false_eq_true] at hc
  case becomeVerifierNative profile =>
    simp only [dispatch] at h
    exact hguard (show (w.receiveValue value).locked = true from hl) h
  all_goals
    simp only [dispatch, dispatchPlain, bind_ok] at h
    obtain ⟨-, -, h⟩ := h
    exact hguard hl h

/-- A callee of a guarded entry point. -/
def Calm (r : Reply P (StakingStorage Q)) : Prop :=
  ∀ u : World P Q, u.locked = true → u.ext.proPass.staking = .self → Quiet u (r.reenter u)

omit [PassLedger Q] in
theorem callValue_paid {amount : ℕ} {ok : Bool} (hr : Calm r) (hl : w.locked = true)
    (hw : w.ext.proPass.staking = .self) (h : callValue w dst amount r = (ok, w')) :
    w'.locked = true ∧ w'.env.now = w.env.now ∧
      ((ok = true ∧ ∃ n, amount ≤ w.acct.balance ∧ books w' = { books w with
        balance := w.acct.balance - amount + n
        payouts := ⟨.zero, dst, amount, w.acct.balance, true⟩ :: w.acct.payouts }) ∨
      (ok = false ∧ books w' = { books w with
        payouts := ⟨.zero, dst, amount, w.acct.balance, false⟩ :: w.acct.payouts })) := by
  unfold callValue at h
  split at h
  · rename_i hc
    cases h
    have hq := hr (w.setAcct ({ w.acct with balance := w.acct.balance - amount }.record
      ⟨.zero, dst, amount, w.acct.balance, true⟩)) hl hw
    obtain ⟨n, hn⟩ := hq.kept
    exact ⟨hq.locked.trans hl, hq.now, .inl ⟨rfl, n, hc.1, hn⟩⟩
  · cases h
    exact ⟨hl, rfl, .inr ⟨rfl, rfl⟩⟩

omit [PassLedger Q] in
theorem payNative_paid {amount : ℕ} (hr : Calm r) (hl : w.locked = true)
    (hw : w.ext.proPass.staking = .self) (h : payNative w sender dst amount r = .ok w') :
    w'.locked = true ∧ w'.env.now = w.env.now ∧ Paid (books w) (books w') dst amount := by
  unfold payNative at h
  split at h
  · rename_i h0
    obtain rfl := Except.ok.inj h
    exact ⟨hl, rfl, .nothing h0 rfl⟩
  · rcases hc : callValue w dst amount r with ⟨ok, v⟩
    rw [hc] at h
    obtain ⟨hv, hn, ⟨rfl, n, hle, hb⟩ | ⟨rfl, hb⟩⟩ := callValue_paid hr hl hw hc
    · obtain rfl : v = w' := Except.ok.inj h
      exact ⟨hv, hn, .pushed n hle hb⟩
    · simp only [Bool.false_eq_true, if_false, creditClaim, bind_ok, checkedAdd_ok, if_true,
        pure_ok] at h
      obtain ⟨claim, ⟨-, rfl⟩, total, -, rfl⟩ := h
      refine ⟨hv, hn, .booked ?_⟩
      have hclaims : v.acct.pendingClaims = w.acct.pendingClaims := congrArg Books.claims hb
      have hset : ∀ c : Address → Address → ℕ, c = w.acct.pendingClaims →
          { books v with claims := update c dst (update (c dst) .zero (c dst .zero + amount)) } =
            { books w with
              payouts := ⟨.zero, dst, amount, w.acct.balance, false⟩ :: w.acct.payouts
              claims := update w.acct.pendingClaims dst (update (w.acct.pendingClaims dst) .zero
                (w.acct.pendingClaims dst .zero + amount)) } := by
        rintro c rfl
        rw [hb]
      exact hset _ hclaims

/-! ## §5. The guarded entry points. -/

theorem becomeVerifierNativeBody_sound {value : ℕ} {profile : Profile} (hr : Calm (rs 0))
    (hl : w.locked = true) (hs : Sound (books w)) (hz : sender ≠ .zero)
    (h : becomeVerifierNativeBody (w.receiveValue value) sender value profile rs = .ok w') :
    Sound (books w') := by
  simp only [becomeVerifierNativeBody, requireCanJoin, KarProPass.mint, KarProPass.update,
    bind_ok, revertIf_ok, require_ok, orRevert_ok, pure_ok, exists_const] at h
  obtain ⟨-, ⟨hact, hun⟩, k, ⟨-, -, -, -, -, q, hq, rfl⟩, -, rfl⟩ := h
  have hact' : (w.ext.stakes sender).active = false := Bool.not_eq_true _ ▸ hact
  have hunlock : (w.ext.stakes sender).unlockAt = 0 := by
    by_contra hne
    exact hun (.inl hne)
  have hjoined := hs.joined value w.env.now hz hact' hunlock hq
  -- the receiver of the pass has had its turn
  set v := setPass (setStake (w.receiveValue value) sender ⟨.zero, value, w.env.now, true, 0⟩)
    { w.ext.proPass with
      erc721 := q
      profile := update w.ext.proPass.profile (passId sender) profile
      issuedAt := update w.ext.proPass.issuedAt (passId sender) w.env.now } with hv
  have hquiet := hr v hl hs.wired
  obtain ⟨n, hn⟩ := hquiet.kept
  have hnow : ((rs 0).reenter v).env.now = w.env.now := hquiet.now
  have hbooks : books (announce ((rs 0).reenter v) (.verifierJoined sender value)) =
      { books ((rs 0).reenter v) with
        history := (w.env.now, .verifierJoined sender value) ::
          ((rs 0).reenter v).ext.history } := by
    rw [← hnow]
    rfl
  have hhist : ((rs 0).reenter v).ext.history = w.ext.history := congrArg Books.history hn
  show Sound (books (announce ((rs 0).reenter v) (.verifierJoined sender value)))
  rw [hbooks, hhist, hn]
  exact hjoined.gain n

theorem burnCaught_books {k : KarProPass Q} {a : Address} (hw : k.staking = .self)
    (hb : PassLedger.balanceOf k.erc721 a = 1) (ho : PassLedger.ownerOf k.erc721 (passId a) = some a) :
    ∃ q, PassLedger.update k.erc721 .zero (passId a) .zero = some q ∧
      (burnCaught k a).erc721 = q ∧ (burnCaught k a).staking = k.staking := by
  obtain ⟨q, hq⟩ := Option.isSome_iff_exists.mp (PassLedger.update_isSome k.erc721 .zero (passId a))
  refine ⟨q, hq, ?_⟩
  simp [burnCaught, caught, KarProPass.burn, KarProPass.update, hw, hb, ho, hq, require, revertIf,
    orRevert, bind, Except.bind, pure, Except.pure]

theorem leaveBody_sound (hs : Sound (books w)) (h : leaveBody w sender = .ok w') :
    Sound (books w') := by
  simp only [leaveBody, bind_ok, revertIf_ok, checkedAdd_ok, pure_ok, exists_const] at h
  obtain ⟨hact, unlockAt, ⟨-, rfl⟩, rfl⟩ := h
  have hact' : (w.ext.stakes sender).active = true := by simpa using hact
  have hone : PassLedger.balanceOf w.ext.proPass.erc721 sender = 1 :=
    (hs.one_each sender).trans (if_pos hact')
  obtain ⟨q, hq, hpass, hwired⟩ := burnCaught_books hs.wired hone (hs.held sender hact')
  have hleft := hs.left w.env.now hact' hq
  rw [← hpass] at hleft
  have hself : (burnCaught w.ext.proPass sender).staking = w.ext.proPass.staking := hwired
  show Sound { books w with
    stakes := update w.ext.stakes sender { w.ext.stakes sender with
      active := false, unlockAt := w.env.now + unbondingPeriod }
    pass := (burnCaught w.ext.proPass sender).erc721
    staking := (burnCaught w.ext.proPass sender).staking
    history := _ }
  rw [hself]
  exact hleft

theorem claimStakeBody_sound (hr : Calm (rs 0)) (hl : w.locked = true) (hs : Sound (books w))
    (h : claimStakeBody w sender rs = .ok w') : Sound (books w') := by
  simp only [claimStakeBody, bind_ok, revertIf_ok, pure_ok, exists_const] at h
  obtain ⟨hidle, hready, u, hpay, rfl⟩ := h
  have ha : (w.ext.stakes sender).active = false := by
    by_contra hne
    exact hidle (.inl (by simpa using hne))
  have hu : (w.ext.stakes sender).unlockAt ≠ 0 := fun e => hidle (.inr e)
  obtain ⟨-, hnow, hpaid⟩ := payNative_paid hr
    (show (setStake w sender (w.ext.stakes sender).cleared).locked = true from hl) hs.wired hpay
  have hhist : u.ext.history = w.ext.history := by
    cases hpaid with
    | nothing _ h => exact congrArg Books.history h
    | pushed n _ h => exact congrArg Books.history h
    | booked h => exact congrArg Books.history h
  have hdone := hs.claimed ha hu (not_lt.mp hready) hpaid
  have hnow' : u.env.now = w.env.now := hnow
  show Sound { books u with
    history := (u.env.now, .stakeClaimed sender (w.ext.stakes sender).amount) :: u.ext.history }
  rw [hnow', hhist]
  exact hdone

theorem withdrawClaimBody_sound {asset : Address} (hr : Calm r) (hl : w.locked = true)
    (hs : Sound (books w)) (h : withdrawClaimBody w sender asset r = .ok w') :
    Sound (books w') := by
  simp only [withdrawClaimBody, bind_ok, revertIf_ok, require_ok, pure_ok, exists_const] at h
  obtain ⟨hne, acct, hacct, ⟨ok, v⟩, hcall, hok, rfl⟩ := h
  obtain rfl : ok = true := hok
  -- every claim is in ether
  obtain rfl : asset = .zero := by
    by_contra hz
    exact hne (hs.no_token sender asset hz)
  simp only [if_true, bind_ok, checkedSub_ok, pure_ok] at hacct hcall
  obtain ⟨total, -, rfl⟩ := hacct
  obtain ⟨-, -, ⟨-, n, -, hb⟩ | ⟨hf, -⟩⟩ := callValue_paid hr (w := w.setAcct
    { w.acct.setClaim sender .zero 0 with totalPendingNative := total }) hl hs.wired hcall
  · have hdone := hs.withdrawn (a := sender) (n := w.acct.pendingClaims sender .zero)
      (p := ⟨.zero, sender, w.acct.pendingClaims sender .zero, w.acct.balance, true⟩) rfl
      ⟨rfl, rfl, rfl, rfl⟩
    show Sound (books v)
    rw [hb]
    exact hdone.gain n
  · cases hf

/-! ## §6. Every message. -/

theorem Sound.quiet (hs : Sound (books w)) (h : Quiet w w') : Sound (books w') := by
  obtain ⟨n, hn⟩ := h.kept
  rw [hn]
  exact hs.gain n

/-- What any message does, sent to a locked and to an unlocked contract. -/
structure Executed (w w' : World P Q) : Prop where
  under_lock : w.locked = true → w.ext.proPass.staking = .self → Quiet w w'
  at_rest : w.locked = false → Sound (books w) → w'.locked = false ∧ Sound (books w')

theorem Executed.of_quiet (h : Quiet w w') : Executed w w' :=
  ⟨fun _ _ => h, fun hl hs => ⟨h.locked.trans hl, hs.quiet h⟩⟩

theorem Executed.trans (h : Executed w w') (k : Executed w' u) : Executed w u := by
  constructor
  · intro hl hw
    have hq := h.under_lock hl hw
    obtain ⟨n, hn⟩ := hq.kept
    have hw' : w'.ext.proPass.staking = .self := (congrArg Books.staking hn).trans hw
    exact hq.trans (k.under_lock (hq.locked.trans hl) hw')
  · intro hl hs
    obtain ⟨hl', hs'⟩ := h.at_rest hl hs
    exact k.at_rest hl' hs'

/-- **A guarded call keeps the books sound.** -/
theorem dispatch_guarded_sound {c : Call} {value : ℕ} (hr : ∀ i, Calm (rs i))
    (hs : Sound (books w)) (hz : sender ≠ .zero) (hc : c.guarded = true)
    (h : dispatch sender value c rs w = .ok w') : w'.locked = false ∧ Sound (books w') := by
  cases c <;> simp only [Call.guarded, Bool.false_eq_true] at hc
  case becomeVerifierNative profile =>
    simp only [dispatch] at h
    obtain ⟨-, u, hu, rfl⟩ := nonReentrant_ok h
    have hs' : Sound (books { w with locked := true }) := hs
    refine ⟨rfl, ?_⟩
    show Sound (books u)
    exact becomeVerifierNativeBody_sound (w := { w with locked := true }) (hr 0) rfl hs' hz hu
  all_goals
    simp only [dispatch, dispatchPlain, bind_ok] at h
    obtain ⟨-, -, h⟩ := h
    obtain ⟨-, u, hu, rfl⟩ := nonReentrant_ok h
    have hs' : Sound (books { w with locked := true }) := hs
    refine ⟨rfl, ?_⟩
    show Sound (books u)
  case leave => exact leaveBody_sound hs' hu
  case claimStake => exact claimStakeBody_sound (hr 0) rfl hs' hu
  case withdrawClaim asset => exact withdrawClaimBody_sound (hr 0) rfl hs' hu

theorem exec_executed [Erc721 P] {d : ℕ} {m : Msg Call} (h : mode.exec d m w = .ok w') :
    Executed w w' := by
  refine Mode.exec_keeps (R := Executed) (fun w => .of_quiet (.refl w)) (fun h k => h.trans k)
    (fun o w w' h => .of_quiet (outside_quiet h)) ?_ d m w w' h
  intro sender value c rs w w' hrs h
  have hcalm : ∀ i, Calm (rs i) := fun i u hl hw => (hrs i u).under_lock hl hw
  cases hc : c.guarded with
  | false =>
    refine ⟨fun _ hw => dispatch_free_quiet hw sender.ne_self sender.ne_zero hc h, fun hl hs => ?_⟩
    have hq := dispatch_free_quiet hs.wired sender.ne_self sender.ne_zero hc h
    exact ⟨hq.locked.trans hl, hs.quiet hq⟩
  | true =>
    refine ⟨fun hl _ => absurd h (dispatch_locked hl hc), fun _ hs => ?_⟩
    exact dispatch_guarded_sound hcalm hs sender.ne_zero hc h

theorem step_sound [Erc721 P] {a : Action Call} (hi : w.locked = false ∧ Sound (books w))
    (h : mode.step w a = .ok w') : w'.locked = false ∧ Sound (books w') := by
  cases a with
  | msg m => exact (exec_executed h).at_rest hi.1 hi.2
  | tick dt =>
    obtain rfl : _ = w' := Except.ok.inj h
    exact hi

theorem Genesis.sound (h : Genesis w) : w.locked = false ∧ Sound (books w) := by
  have hidle : ∀ a, w.ext.stakes a = .empty := h.no_stake
  refine ⟨h.unlocked, ?_, fun a asset _ => h.no_claim a asset, fun a => ?_, ?_, h.wired,
    fun a ha => ?_, fun t a ht => ?_, fun a => ?_, fun a => ?_⟩
  · refine (Covers.zero.weaken (Nat.zero_le _) le_rfl).congr fun l => ?_
    cases l with
    | stake a =>
      show (w.ext.stakes a).amount = 0
      rw [hidle a]
      rfl
    | claim a => exact h.no_claim a .zero
  · show Recorded (standingAfter a w.ext.history) (w.ext.stakes a)
    rw [h.no_history, hidle a]
    exact ⟨rfl, rfl, rfl⟩
  · show Throughout Lawful w.ext.history
    rw [h.no_history]
    trivial
  · replace ha : (w.ext.stakes a).active = true := ha
    rw [hidle a] at ha
    cases ha
  · exact absurd ((h.no_pass t).symm.trans ht) (by simp)
  · show PassLedger.balanceOf w.ext.proPass.erc721 a = if (w.ext.stakes a).active = true then 1 else 0
    rw [h.no_balance a, hidle a]
    rfl
  · show returned a w.ext.history = received a w.acct.payouts + w.acct.pendingClaims a .zero
    rw [h.no_history, h.no_payout, h.no_claim]
    rfl

/-! ## §7. The law. -/

/-- **Stakes are safe and live through three phases.**  In every reachable state the balance
    covers all stakes and claims.  Every join, leave and claim of the run came in its phase:
    nobody joins before the stake is claimed, a claim is for the amount that was left and not
    before the unbonding period is over.  An account is an active verifier, and holds its one
    pass, exactly from a join until it leaves.  Whatever stakes an account has claimed it has
    received, or has as a claim. -/
theorem staking_law [Erc721 P] (h : Reachable mode.step Genesis w) :
    ((Function.support (owed w)).Finite ∧ ∑ᶠ l, owed w l ≤ w.acct.balance) ∧
    Throughout Lawful w.ext.history ∧
    ∀ a, Recorded (standingAfter a w.ext.history) (w.ext.stakes a) ∧
      (isActiveVerifier w a = true ↔
        ∃ amount, standingAfter a w.ext.history = .active amount) ∧
      (PassLedger.ownerOf w.ext.proPass.erc721 (passId a) = some a ↔
        isActiveVerifier w a = true) ∧
      PassLedger.balanceOf w.ext.proPass.erc721 a =
        (if isActiveVerifier w a = true then 1 else 0) ∧
      returned a w.ext.history = received a w.acct.payouts + w.acct.pendingClaims a .zero := by
  obtain ⟨-, hs⟩ : w.locked = false ∧ Sound (books w) :=
    h.invariant (fun _ hg => hg.sound) fun _ _ _ hi hstep => step_sound hi hstep
  have hsum : ∑ᶠ l, owed w l + 0 ≤ w.acct.balance := hs.covers.finsum_le
  refine ⟨⟨hs.covers.support_finite, hsum⟩, hs.lawful, fun a => ⟨hs.recorded a, ⟨fun ha => ⟨_, (hs.active ha).1⟩, ?_⟩,
      ⟨fun ho => (hs.holder _ _ ho).2, hs.held a⟩, hs.one_each a, hs.square a⟩⟩
  rintro ⟨amount, hact⟩
  have hr := hs.recorded a
  rw [show (books w).history = w.ext.history from rfl, hact] at hr
  exact hr.1

end Calls

/-- Nobody has joined yet. -/
def smallGenesis : World Registry PassBooks where
  env := smallEnv
  acct := ⟨0, fun _ => 0, fun _ _ => 0, 0, fun _ => 0, []⟩
  bonds := ⟨fun _ => .empty, .zero, 0, false, 0⟩
  com := ⟨fun _ => .empty, fun _ => 0, .zero, 0, fun _ => .none, fun _ => .empty,
    fun _ => false, false, .zero, .account 9⟩
  ext := ⟨⟨.empty, .self, fun _ => .empty, fun _ => 0⟩, defaultMinStake, fun _ => .empty,
    fun _ => 0, []⟩
  locked := false
  log := []

theorem smallGenesis_genesis : Genesis smallGenesis :=
  ⟨rfl, fun _ => rfl, fun _ => rfl, fun _ => rfl, rfl, fun _ _ => rfl, rfl, rfl, rfl⟩

/-- Account 1 joins and leaves, waits, and claims its stake, which it refuses to be sent. -/
def refusedRefund : List (Action Call) :=
  [.call 1 defaultMinStake (.becomeVerifierNative .empty), .call 1 0 .leave,
    .tick unbondingPeriod,
    .msg (.tx (Caller.account 1) 0 .claimStake [⟨false, ⟨0, 0⟩, 0, []⟩])]

/-- The refused stake is a claim of the account. -/
theorem staking_law_refusedRefund :
    returned (.account 1) (finalState mode.step smallGenesis refusedRefund).ext.history =
      received (.account 1) (finalState mode.step smallGenesis refusedRefund).acct.payouts +
        (finalState mode.step smallGenesis refusedRefund).acct.pendingClaims (.account 1) .zero ∧
    (finalState mode.step smallGenesis refusedRefund).acct.pendingClaims (.account 1) .zero =
      defaultMinStake :=
  ⟨((staking_law ⟨smallGenesis, _, smallGenesis_genesis,
      run_finalState (by decide +kernel)⟩).2.2 (.account 1)).2.2.2.2, by decide +kernel⟩

end Kargain.Evm.Staking
