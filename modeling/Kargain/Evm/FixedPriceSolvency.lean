/-
  Kargain.Evm.FixedPriceSolvency — the fixed-price mode can pay what it owes.

  A sale of the fixed-price mode pays everybody within the call, so what
  stays behind is the claims of those whose transfer failed.  Per asset
  the balance covers them together with what the running call has in
  flight.  §1 and §2 hold of the effects of the base and so of any mode
  that keeps no money for a lot; bonds are among them because the base
  has the effects of a bonded challenge.

  Main result: `mode_solvent`.
-/
import Kargain.Base.Reserve
import Kargain.Evm.FixedPriceEffects

namespace Kargain.Evm

open Function Relation

variable {P σ : Type}

/-! ## §1. What is owed outside the lots. -/

/-- A recorded claim, or the bond of an open challenge. -/
inductive Debt where
  | claim (account : Address)
  | bond (t : TokenId)
  deriving DecidableEq

/-- What is owed in `asset`; bonds are in ether. -/
def World.debt (w : World P σ) (asset : Address) : Debt → ℕ
  | .claim account => w.acct.pendingClaims account asset
  | .bond t => if asset = .zero then (w.bonds.challenges t).bondAmount else 0

/-- Ether, and the tokens that move exactly the requested amount or revert. -/
def World.Sound (w : World P σ) (asset : Address) : Prop :=
  asset = .zero ∨ w.env.tokenKind asset = .exact

theorem World.Sound.of_env {w w' : World P σ} {a : Address}
    (hk : w'.env.tokenKind = w.env.tokenKind) (h : w'.Sound a) : w.Sound a := by
  unfold World.Sound at h ⊢
  rwa [hk] at h

/-- Balances cover the debts and what is in flight, and have done so at every payout. -/
structure Backed (c : Cfg P σ) : Prop where
  covers : ∀ a, c.1.Sound a → Covers (c.1.funds a) (c.1.debt a) (c.2 a)
  payouts : ∀ p ∈ c.1.acct.payouts, c.1.Sound p.asset → p.amount ≤ p.available

/-- A world that owes no more, has no less and made no payout is as well backed. -/
theorem Backed.keep {w w' : World P σ} {x : Flight} (h : Backed (w, x))
    (hk : w'.env.tokenKind = w.env.tokenKind) (hf : ∀ a, w.Sound a → w.funds a ≤ w'.funds a)
    (ho : ∀ a l, w'.debt a l ≤ w.debt a l) (hp : w'.acct.payouts = w.acct.payouts) :
    Backed (w', x) := by
  constructor
  · intro a ha
    have hcov := h.covers a (ha.of_env hk)
    exact (hcov.mono (ho a)).weaken (hf a (ha.of_env hk)) le_rfl
  · intro p hp' ha
    have hold : p ∈ w.acct.payouts := by rwa [← hp]
    exact h.payouts p hold (ha.of_env hk)

/-- One more payout, covered where it matters. -/
theorem Backed.record {w : World P σ} {x : Flight} {q : Payout} (h : Backed (w, x))
    (hq : w.Sound q.asset → q.amount ≤ q.available) :
    ∀ p ∈ q :: w.acct.payouts, w.Sound p.asset → p.amount ≤ p.available := by
  intro p hp ha
  rcases List.mem_cons.mp hp with hp | hp
  · subst hp
    exact hq ha
  · exact h.payouts p hp ha

/-! ## §2. The effects of the base. -/

section Effects

variable [Erc721 P] {H : Hooks P σ} {ExtSame : σ → σ → Prop} {Clear : World P σ → TokenId → Prop}

/-- What happens around a mode never lowers its balance of a sound asset, and makes no debt. -/
theorem execOutside_backing {w w' : World P σ} {o : Outside} (h : execOutside H w o = .ok w') :
    w'.env.tokenKind = w.env.tokenKind ∧ w'.acct.payouts = w.acct.payouts ∧
      w'.acct.pendingClaims = w.acct.pendingClaims ∧ w'.bonds = w.bonds ∧
      ∀ a, w.Sound a → w.funds a ≤ w'.funds a := by
  cases o with
  | passport caller c =>
    cases c <;>
      simp only [execOutside, execPassport, bind_ok, orRevert_ok, require_ok, exists_const,
        pure_ok] at h
    case transferFrom => obtain ⟨p, -, rfl⟩ := h; exact ⟨rfl, rfl, rfl, rfl, fun _ _ => le_rfl⟩
    case approve => obtain ⟨p, -, rfl⟩ := h; exact ⟨rfl, rfl, rfl, rfl, fun _ _ => le_rfl⟩
    case setApprovalForAll =>
      obtain ⟨p, -, rfl⟩ := h
      exact ⟨rfl, rfl, rfl, rfl, fun _ _ => le_rfl⟩
    case send => obtain ⟨k, -, rfl⟩ := h; exact ⟨rfl, rfl, rfl, rfl, fun _ _ => le_rfl⟩
    case receive => obtain ⟨k, -, rfl⟩ := h; exact ⟨rfl, rfl, rfl, rfl, fun _ _ => le_rfl⟩
    case mintPassport =>
      obtain ⟨-, p, -, rfl⟩ := h
      exact ⟨rfl, rfl, rfl, rfl, fun _ _ => le_rfl⟩
  | forceEther n =>
    obtain rfl := Except.ok.inj h
    refine ⟨rfl, rfl, rfl, rfl, fun a _ => ?_⟩
    by_cases hz : a = .zero <;> simp [World.funds, hz]
  | donateToken token n =>
    obtain rfl := Except.ok.inj h
    refine ⟨rfl, rfl, rfl, rfl, fun a _ => ?_⟩
    by_cases ht : a = token
    · subst ht
      by_cases hz : a = .zero <;> simp [World.funds, hz]
    · simp [World.funds, ht]
  | setToken token n =>
    simp only [execOutside, bind_ok, require_ok, exists_const, pure_ok] at h
    obtain ⟨hother, rfl⟩ := h
    refine ⟨rfl, rfl, rfl, rfl, fun a ha => ?_⟩
    rcases ha with hzero | hexact
    · subst hzero
      simp [World.funds]
    · -- the token that was set is not an exact one
      have hne : a ≠ token := by
        intro he
        rw [← he, hexact] at hother
        cases hother
      simp [World.funds, hne]
  | _ => obtain rfl := Except.ok.inj h; exact ⟨rfl, rfl, rfl, rfl, fun _ _ => le_rfl⟩

theorem FreeEffect.backed {w w' : World P σ} {x : Flight} (h : FreeEffect H ExtSame w w')
    (hs : Backed (w, x)) : Backed (w', x) := by
  cases h with
  | outside o h =>
    obtain ⟨hk, hp, hcl, hb, hf⟩ := execOutside_backing h
    refine hs.keep hk hf (fun a l => le_of_eq ?_) hp
    cases l <;> simp [World.debt, hcl, hb]
  | @probed token b paid hb =>
    constructor
    · intro a ha
      -- an exact token reports the balance it had
      have hfunds : w.funds a = (w.setAcct ((w.acct.setToken token b).record
          ⟨token, .self, 0, w.acct.tokenBalance token, paid⟩)).funds a := by
        rcases ha with hzero | hexact
        · subst hzero
          simp [World.funds, World.setAcct, Account.record, Account.setToken]
        · by_cases ht : a = token
          · subst ht
            by_cases hz : a = .zero <;>
              simp [World.funds, World.setAcct, Account.record, Account.setToken, hz, hb hexact]
          · simp [World.funds, World.setAcct, Account.record, Account.setToken, ht]
      rw [← hfunds]
      exact (hs.covers a ha).congr fun l => by cases l <;> rfl
    · exact hs.record fun _ => Nat.zero_le _
  | _ => exact hs.keep rfl (fun _ _ => le_rfl) (fun a l => by cases l <;> exact le_rfl) rfl

omit [Erc721 P] in
/-- A payment of in-flight units of a sound asset. -/
theorem Backed.paidToken {w : World P σ} {x : Flight} {token dst : Address} {amount b : ℕ}
    {paid : Bool} (hs : Backed (w, x)) (hz : token ≠ .zero) (hx : amount ≤ x token)
    (h : w.env.tokenKind token = .exact → amount ≤ w.acct.tokenBalance token ∧
      b = exactAfter (w.acct.tokenBalance token) amount dst ∧ paid = true)
    {a : Address} (ha : w.Sound a) :
    Covers ((w.setAcct ((w.acct.setToken token b).record
        ⟨token, dst, amount, w.acct.tokenBalance token, paid⟩)).funds a)
      (w.debt a) ((if paid then x.sub token amount else x) a) := by
  have hcov := hs.covers a ha
  by_cases ht : a = token
  · subst ht
    obtain ⟨hle, hb, hpaid⟩ := h (ha.resolve_left hz)
    subst hb hpaid
    have hspend : Covers (w.funds a - amount) (w.debt a) (x a - amount) :=
      Covers.spend (by rwa [Nat.sub_add_cancel hx])
    have hfunds : w.funds a = w.acct.tokenBalance a := if_neg hz
    rw [if_pos rfl, Flight.sub_self]
    refine hspend.weaken ?_ le_rfl
    rw [hfunds]
    by_cases hd : dst = .self <;>
      simp [World.funds, World.setAcct, Account.record, Account.setToken, exactAfter, hz, hd]
  · have hfunds : (w.setAcct ((w.acct.setToken token b).record
        ⟨token, dst, amount, w.acct.tokenBalance token, paid⟩)).funds a = w.funds a := by
      simp [World.funds, World.setAcct, Account.record, Account.setToken, ht]
    rw [hfunds]
    cases paid with
    | true => rwa [if_pos rfl, Flight.sub_of_ne x amount ht]
    | false => exact hcov

omit [Erc721 P] in
/-- Rewriting a claim rewrites that debt, in the asset of the claim. -/
theorem debt_setClaim {w : World P σ} {account asset : Address} {n native : ℕ}
    {erc20 : Address → ℕ} (a : Address) (l : Debt) :
    (w.setAcct { w.acct.setClaim account asset n
        with totalPendingNative := native, totalPendingErc20 := erc20 }).debt a l =
      if a = asset then update (w.debt a) (.claim account) n l else w.debt a l := by
  cases l with
  | claim account' =>
    by_cases hacc : account' = account
    · subst hacc
      by_cases ha : a = asset <;> simp [World.debt, World.setAcct, Account.setClaim, ha]
    · by_cases ha : a = asset <;> simp [World.debt, World.setAcct, Account.setClaim, ha, hacc]
  | bond t =>
    by_cases ha : a = asset
    · rw [if_pos ha, update_of_ne (by simp)]
      rfl
    · rw [if_neg ha]
      rfl

omit [Erc721 P] in
/-- Rewriting a challenge rewrites that debt, in ether. -/
theorem debt_setChallenge {w : World P σ} {t : TokenId} {c : Challenge} {n : ℕ}
    (a : Address) (l : Debt) :
    (w.setChallenge t c n).debt a l =
      if a = .zero then update (w.debt a) (.bond t) c.bondAmount l else w.debt a l := by
  cases l with
  | claim account =>
    by_cases ha : a = .zero
    · rw [if_pos ha, update_of_ne (by simp)]
      rfl
    · rw [if_neg ha]
      rfl
  | bond t' =>
    by_cases ht : t' = t
    · subst ht
      by_cases ha : a = .zero <;> simp [World.debt, World.setChallenge, ha]
    · by_cases ha : a = .zero <;> simp [World.debt, World.setChallenge, ha, ht]

/-- **Every effect of the base keeps the debts backed.** -/
theorem BaseEffect.backed {c c' : Cfg P σ} (h : BaseEffect H ExtSame Clear c c')
    (hs : Backed c) : Backed c' := by
  cases h with
  | free h => exact h.backed hs
  | @received w x v =>
    refine ⟨fun a ha => ?_, hs.payouts⟩
    have hcov : Covers (w.funds a) ((w.receiveValue v).debt a) (x a) :=
      (hs.covers a ha).congr fun l => by cases l <;> rfl
    by_cases hz : a = .zero
    · subst hz
      simpa [World.funds, World.receiveValue, World.setAcct] using hcov.deposit v
    · simpa [World.funds, World.receiveValue, World.setAcct, hz, Flight.add_of_ne x v hz]
        using hcov
  | @pulled w x token b amount hz hb =>
    refine ⟨fun a ha => ?_, hs.payouts⟩
    have hcov : Covers (w.funds a) ((w.setAcct (w.acct.setToken token b)).debt a) (x a) :=
      (hs.covers a ha).congr fun l => by cases l <;> rfl
    by_cases ht : a = token
    · subst ht
      have hnew := hb (ha.resolve_left hz)
      subst hnew
      simpa [World.funds, World.setAcct, Account.setToken, hz] using hcov.deposit amount
    · simpa [World.funds, World.setAcct, Account.setToken, ht, Flight.add_of_ne x amount ht]
        using hcov
  | @paidNative w x dst amount hx hb =>
    refine ⟨fun a ha => ?_, hs.record fun _ => hb⟩
    have hcov : Covers (w.funds a) (w.debt a) (x a) := hs.covers a ha
    apply @Covers.congr _ _ _ (w.debt a) _ ?_ fun l => by cases l <;> rfl
    by_cases hz : a = .zero
    · subst hz
      have hspend : Covers (w.funds .zero - amount) (w.debt .zero) (x .zero - amount) :=
        Covers.spend (by rwa [Nat.sub_add_cancel hx])
      simpa [World.funds, World.setAcct, Account.record] using hspend
    · simpa [World.funds, World.setAcct, Account.record, hz, Flight.sub_of_ne x amount hz]
        using hcov
  | @paidToken w x token dst amount b paid hz hx h =>
    refine ⟨fun a ha => ?_, hs.record fun ha => (h (ha.resolve_left hz)).1⟩
    exact (hs.paidToken hz hx h ha).congr fun l => by cases l <;> rfl
  | @refused w x asset dst amount hx =>
    refine ⟨fun a ha => ?_, hs.record fun ha => ?_⟩
    · exact (hs.covers a ha).congr fun l => by cases l <;> rfl
    · exact le_trans hx (hs.covers asset ha).inFlight_le
  | @credited w x account asset amount native erc20 s hx =>
    refine ⟨fun a ha => ?_, hs.payouts⟩
    have hcov : Covers (w.funds a) (w.debt a) (x a) := hs.covers a ha
    show Covers _ _ (x.sub asset amount a)
    by_cases ht : a = asset
    · subst ht
      rw [← Nat.sub_add_cancel hx] at hcov
      rw [Flight.sub_self]
      refine (hcov.book (i := .claim account)).congr fun l => ?_
      exact (debt_setClaim a l).trans (if_pos rfl)
    · rw [Flight.sub_of_ne x amount ht]
      refine hcov.congr fun l => ?_
      exact (debt_setClaim a l).trans (if_neg ht)
  | @claimTaken w x account asset native erc20 =>
    refine ⟨fun a ha => ?_, hs.payouts⟩
    have hcov : Covers (w.funds a) (w.debt a) (x a) := hs.covers a ha
    show Covers _ _ (x.add asset (w.acct.pendingClaims account asset) a)
    by_cases ht : a = asset
    · subst ht
      rw [Flight.add_self]
      have hparked := hcov.park (i := .claim account) (Nat.zero_le _)
      refine hparked.congr fun l => ?_
      exact (debt_setClaim a l).trans (if_pos rfl)
    · rw [Flight.add_of_ne x _ ht]
      refine hcov.congr fun l => ?_
      exact (debt_setClaim a l).trans (if_neg ht)
  | @challengeOpened w x s t value hinactive hx =>
    refine ⟨fun a ha => ?_, hs.payouts⟩
    have hcov : Covers (w.funds a) (w.debt a) (x a) := hs.covers a ha
    show Covers _ _ (x.sub .zero value a)
    by_cases hz : a = .zero
    · subst hz
      rw [← Nat.sub_add_cancel hx] at hcov
      rw [Flight.sub_self]
      refine (hcov.book (i := .bond t)).mono fun l => ?_
      rw [debt_setChallenge, if_pos rfl]
      -- what an earlier challenge of the lot left counts as owed still
      by_cases hl : l = .bond t
      · subst hl
        rw [update_self, update_self]
        exact Nat.le_add_left value _
      · rw [update_of_ne hl, update_of_ne hl]
    · rw [Flight.sub_of_ne x value hz]
      refine hcov.congr fun l => ?_
      exact (debt_setChallenge a l).trans (if_neg hz)
  | @challengeCleared w x t hactive hle =>
    refine ⟨fun a ha => ?_, hs.payouts⟩
    have hcov : Covers (w.funds a) (w.debt a) (x a) := hs.covers a ha
    show Covers _ _ (x.add .zero (w.bonds.challenges t).bondAmount a)
    by_cases hz : a = .zero
    · subst hz
      rw [Flight.add_self]
      have hparked := hcov.park (i := .bond t) (Nat.zero_le _)
      refine (hparked.weaken le_rfl ?_).congr fun l => ?_
      · simp [World.debt]
      · exact (debt_setChallenge .zero l).trans (if_pos rfl)
    · rw [Flight.add_of_ne x _ hz]
      refine hcov.congr fun l => ?_
      exact (debt_setChallenge a l).trans (if_neg hz)
  | _ => exact hs.keep rfl (fun _ _ => le_rfl) (fun a l => by cases l <;> exact le_rfl) rfl

end Effects

/-! ## §3. Runs of the mode. -/

namespace FixedPrice

/-- Nothing is owed at the start. -/
theorem genesis_backed [Erc721 P] {w : World P} (h : Genesis w) : Backed (w, fun _ => 0) := by
  obtain ⟨env, pr, fee, feed, tol, own, gd, w₀, b, tb, -, hinit, rfl⟩ := h
  simp only [initializeStorage, bind_ok, revertIf_ok, pure_ok, exists_const] at hinit
  obtain ⟨-, -, -, -, -, -, rfl⟩ := hinit
  constructor
  · intro a _
    refine (Covers.zero.weaken (Nat.zero_le _) le_rfl).congr fun l => ?_
    cases l <;> simp [World.debt, World.setAcct, Challenge.empty]
  · intro p hp
    cases hp

variable [Erc721 P]

theorem effect_backed {c c' : Cfg P FixedPriceStorage} (h : Effect c c') (hs : Backed c) :
    Backed c' := by
  cases h with
  | base h => exact h.backed hs
  | _ => exact hs.keep rfl (fun _ _ => le_rfl) (fun a l => by cases l <;> exact le_rfl) rfl

theorem chain_backed {c c' : Cfg P FixedPriceStorage} (h : ReflTransGen Effect c c')
    (hs : Backed c) : Backed c' := by
  induction h with
  | refl => exact hs
  | tail _ he ih => exact effect_backed he ih

theorem step_backed {w w' : World P} {a : Action Call} (hs : Backed (w, fun _ => 0))
    (h : mode.step w a = .ok w') : Backed (w', fun _ => 0) := by
  cases a with
  | msg m => exact chain_backed ((exec_chain h).chain trivial _) hs
  | tick dt =>
    obtain rfl : _ = w' := Except.ok.inj h
    exact hs.keep rfl (fun _ _ => le_rfl) (fun a l => by cases l <;> exact le_rfl) rfl

theorem reachable_backed {w : World P} (h : Reachable mode.step Genesis w) :
    Backed (w, fun _ => 0) :=
  h.invariant (fun _ => genesis_backed) fun _ _ _ hi hstep => step_backed hi hstep

/-- **The fixed-price mode is solvent in every reachable state.**  In ether and in every token
    that moves exactly what is asked or reverts, finitely many claims stand and their sum is
    within the balance; and every payout the mode ever attempted, accepted or not, was within
    the balance it was attempted against. -/
theorem mode_solvent {w : World P} (h : Reachable mode.step Genesis w) :
    (∀ asset, asset = .zero ∨ w.env.tokenKind asset = .exact →
      (support fun account => w.acct.pendingClaims account asset).Finite ∧
        ∑ᶠ account, w.acct.pendingClaims account asset ≤ w.funds asset) ∧
    ∀ p ∈ w.acct.payouts, p.asset = .zero ∨ w.env.tokenKind p.asset = .exact →
      p.amount ≤ p.available := by
  have hs := reachable_backed h
  refine ⟨fun asset ha => ?_, hs.payouts⟩
  have hclaims : Covers (w.funds asset) (fun account => w.acct.pendingClaims account asset) 0 := by
    intro S
    have hall := (hs.covers asset ha) (S.map ⟨Debt.claim, fun _ _ he => Debt.claim.inj he⟩)
    rw [Finset.sum_map] at hall
    exact hall
  refine ⟨hclaims.support_finite, ?_⟩
  simpa using hclaims.finsum_le

/-- The lot of account 1 is sold by account 2 to account 3, and account 1 refuses its share. -/
def refusedLot : List (Action Call) :=
  soldLot.take 2 ++ [.msg (.tx (Caller.account 3) 2000 (.buy 7)
    [.accept, .accept, .accept, ⟨false, ⟨0, 0⟩, 0, []⟩])]

/-- The claim of account 1 is covered. -/
theorem mode_solvent_refusedLot :
    (finalState mode.step smallGenesis refusedLot).acct.pendingClaims (.account 1) .zero = 1000 ∧
      ∑ᶠ account, (finalState mode.step smallGenesis refusedLot).acct.pendingClaims account .zero ≤
        (finalState mode.step smallGenesis refusedLot).funds .zero :=
  ⟨by decide +kernel,
    ((mode_solvent ⟨smallGenesis, _, smallGenesis_genesis,
      run_finalState (by decide +kernel)⟩).1 .zero (.inl rfl)).2⟩

end FixedPrice

end Kargain.Evm
