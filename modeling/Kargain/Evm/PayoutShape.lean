/-
  Kargain.Evm.PayoutShape — what a token can do to a payout.

  `_payErc20` asks the token to transfer and looks at what comes back:
  a revert, no data, one word, or something of another length.  A word
  is read with `abi.decode`, which reverts on anything but 0 and 1, so
  a token that answers another word stops the payout.  A transfer that
  did not succeed is credited, under checked addition.

  Main result: `payErc20_iff`, when a payout goes through, and then the
  claims are as they were or one is larger by the amount.
-/
import Kargain.Evm.AscendingEffects
import Kargain.Evm.FixedPriceEffects

namespace Kargain.Evm

open Relation

variable {P σ : Type}

/-! ## §1. Claims across an external call. -/

/-- The token half of the claim ledger. -/
structure SameClaims (w w' : World P σ) : Prop where
  pending : w'.acct.pendingClaims = w.acct.pendingClaims
  total : w'.acct.totalPendingErc20 = w.acct.totalPendingErc20

theorem SameClaims.refl (w : World P σ) : SameClaims w w := ⟨rfl, rfl⟩

theorem SameClaims.trans {u v w : World P σ} (h : SameClaims u v) (k : SameClaims v w) :
    SameClaims u w :=
  ⟨k.pending.trans h.pending, k.total.trans h.total⟩

section Free

variable [Erc721 P] {H : Hooks P σ} {ExtSame : σ → σ → Prop} {w w' : World P σ}

theorem execOutside_claims {o : Outside} (h : execOutside H w o = .ok w') : SameClaims w w' := by
  cases o with
  | passport caller c =>
    cases c <;>
      simp only [execOutside, execPassport, bind_ok, orRevert_ok, require_ok, exists_const,
        pure_ok] at h
    case transferFrom => obtain ⟨p, -, rfl⟩ := h; exact ⟨rfl, rfl⟩
    case approve => obtain ⟨p, -, rfl⟩ := h; exact ⟨rfl, rfl⟩
    case setApprovalForAll => obtain ⟨p, -, rfl⟩ := h; exact ⟨rfl, rfl⟩
    case send => obtain ⟨k, -, rfl⟩ := h; exact ⟨rfl, rfl⟩
    case receive => obtain ⟨k, -, rfl⟩ := h; exact ⟨rfl, rfl⟩
    case mintPassport => obtain ⟨-, p, -, rfl⟩ := h; exact ⟨rfl, rfl⟩
  | setToken token n =>
    simp only [execOutside, bind_ok, require_ok, exists_const, pure_ok] at h
    obtain ⟨-, rfl⟩ := h
    exact ⟨rfl, rfl⟩
  | _ => obtain rfl := Except.ok.inj h; exact ⟨rfl, rfl⟩

theorem FreeEffect.claims (h : FreeEffect H ExtSame w w') : SameClaims w w' := by
  cases h with
  | outside o h => exact execOutside_claims h
  | recalled h => exact ⟨rfl, rfl⟩
  | _ => exact ⟨rfl, rfl⟩

/-- **The guard keeps the claims**: whatever a callee sends in, they are as they were. -/
theorem Calm.claims {r : Reply P σ} (hr : Calm H ExtSame r) {u : World P σ} (hl : u.locked = true) :
    SameClaims u (r.reenter u) := by
  have hchain := hr u hl
  generalize r.reenter u = v at hchain
  induction hchain with
  | refl => exact .refl u
  | tail _ he ih => exact ih.trans he.claims

theorem Calm.claims_setAcct {r : Reply P σ} (hr : Calm H ExtSame r) {a : Account}
    (hl : w.locked = true) (hp : a.pendingClaims = w.acct.pendingClaims)
    (ht : a.totalPendingErc20 = w.acct.totalPendingErc20) : SameClaims w (r.reenter (w.setAcct a)) := by
  have hset : SameClaims w (w.setAcct a) := ⟨hp, ht⟩
  exact hset.trans (hr.claims hl)

end Free

/-! ## §2. What the token reports. -/

section Payout

variable (w : World P σ) (token dst : Address) (amount : ℕ) (r : Reply P σ)

/-- A call that succeeds and returns one word, neither 0 nor 1. -/
def Malformed : Prop :=
  w.env.tokenKind token = .other ∧ r.success = true ∧ r.data.length = 32 ∧ 1 < r.data.word

/-- The call succeeds and returns nothing (as it does where there is no code) or true; a token
    that moves exact amounts reverts without the balance. -/
def Reported : Prop :=
  match w.env.tokenKind token with
  | .exact => amount ≤ w.acct.tokenBalance token ∧ r.success = true
  | .other => r.success = true ∧ (r.data.length = 0 ∨ r.data.length = 32 ∧ r.data.word = 1)

/-- The claim and the total of the token have room. -/
def Creditable : Prop :=
  w.acct.pendingClaims dst token + amount < 2 ^ 256 ∧
    w.acct.totalPendingErc20 token + amount < 2 ^ 256

/-- When a payout goes through. -/
def Payable : Prop :=
  amount = 0 ∨ ¬ Malformed w token r ∧ (Reported w token amount r ∨ Creditable w token dst amount)

/-- The claims after a payout: as they were, or larger by `amount` under `dst` and the token. -/
def PaidOrCredited (w' : World P σ) : Prop :=
  (amount = 0 ∨ Reported w token amount r) ∧ w'.acct.pendingClaims = w.acct.pendingClaims ∨
    ¬ Reported w token amount r ∧ w'.acct.pendingClaims = Function.update w.acct.pendingClaims dst
      (Function.update (w.acct.pendingClaims dst) token (w.acct.pendingClaims dst token + amount))

end Payout

section Law

variable [Erc721 P] {H : Hooks P σ} {ExtSame : σ → σ → Prop} {w v w' : World P σ}
  {sender token dst : Address} {amount : ℕ} {r : Reply P σ}

theorem transferSucceeded_malformed {d : ReturnData} (hl : d.length = 32) (hw : 1 < d.word) :
    transferSucceeded d = .error .abiDecode := by
  unfold transferSucceeded abiDecodeBool
  rw [if_neg (by omega), if_neg (by omega), if_neg (by omega), if_neg (by omega)]

theorem transferSucceeded_ok {d : ReturnData} (h : ¬ (d.length = 32 ∧ 1 < d.word)) :
    transferSucceeded d = .ok (decide (d.length = 0 ∨ d.length = 32 ∧ d.word = 1)) := by
  unfold transferSucceeded abiDecodeBool
  by_cases h₀ : d.length = 0
  · rw [if_pos h₀, decide_eq_true (.inl h₀)]
  rw [if_neg h₀]
  by_cases h₃₂ : d.length = 32
  · rw [if_neg (by omega)]
    have hword : d.word = 0 ∨ d.word = 1 := by omega
    rcases hword with hz | ho
    · rw [if_pos hz, decide_eq_false (by omega)]
    · rw [if_neg (by omega), if_pos ho, decide_eq_true (.inr ⟨h₃₂, ho⟩)]
  · rw [if_pos h₃₂, decide_eq_false (by omega)]

omit [Erc721 P] in
theorem tryErc20Transfer_malformed (h : Malformed w token r) :
    tryErc20Transfer w token dst amount r = .error .abiDecode := by
  obtain ⟨hk, hs, hl, hw⟩ := h
  unfold tryErc20Transfer
  rw [hk]
  show (if _ then _ else _ : Except Error _) = _
  rw [if_pos hs, transferSucceeded_malformed hl hw]
  rfl

/-- Any other answer is taken, and says whether the transfer was reported. -/
theorem tryErc20Transfer_reported (hr : Calm H ExtSame r) (hl : w.locked = true)
    (h : ¬ Malformed w token r) : ∃ ok v, tryErc20Transfer w token dst amount r = .ok (ok, v) ∧
      (ok = true ↔ Reported w token amount r) ∧ SameClaims w v := by
  unfold Malformed at h
  unfold tryErc20Transfer Reported
  cases hk : w.env.tokenKind token with
  | exact =>
    dsimp only
    by_cases hc : amount ≤ w.acct.tokenBalance token ∧ r.success = true
    · rw [if_pos hc]
      exact ⟨_, _, rfl, iff_of_true rfl hc,
        hr.claims_setAcct hl rfl rfl⟩
    · rw [if_neg hc]
      exact ⟨_, _, rfl, iff_of_false Bool.false_ne_true hc, ⟨rfl, rfl⟩⟩
  | other =>
    dsimp only
    by_cases hs : r.success = true
    · have hshape : ¬ (r.data.length = 32 ∧ 1 < r.data.word) := fun hm => h ⟨hk, hs, hm⟩
      rw [if_pos hs, transferSucceeded_ok hshape]
      refine ⟨_, _, rfl, ?_, hr.claims_setAcct hl rfl rfl⟩
      rw [decide_eq_true_iff]
      exact (and_iff_right hs).symm
    · rw [if_neg hs]
      exact ⟨_, _, rfl, iff_of_false Bool.false_ne_true fun hc => hs hc.1, ⟨rfl, rfl⟩⟩

omit [Erc721 P] in
theorem creditClaim_token (ht : token ≠ .zero) :
    creditClaim v sender dst token amount = .ok w' → Creditable v token dst amount ∧
      w'.acct.pendingClaims = (v.acct.setClaim dst token
        (v.acct.pendingClaims dst token + amount)).pendingClaims := by
  intro h
  simp only [creditClaim, bind_ok, checkedAdd_ok, if_neg ht, pure_ok] at h
  obtain ⟨claim, ⟨hc, rfl⟩, total, ⟨hs, rfl⟩, rfl⟩ := h
  exact ⟨⟨hc, hs⟩, rfl⟩

omit [Erc721 P] in
theorem creditClaim_accepts (ht : token ≠ .zero) (h : Creditable v token dst amount) :
    ∃ w', creditClaim v sender dst token amount = .ok w' := by
  simp only [creditClaim, bind_ok, checkedAdd_ok, if_neg ht, pure_ok]
  exact ⟨_, _, ⟨h.1, rfl⟩, _, ⟨h.2, rfl⟩, rfl⟩

theorem payErc20_law (hr : Calm H ExtSame r) (hl : w.locked = true) (ht : token ≠ .zero) :
    (∃ w', payErc20 w sender token dst amount r = .ok w' ∧
        PaidOrCredited w token dst amount r w') ↔ Payable w token dst amount r := by
  unfold payErc20 Payable
  by_cases hz : amount = 0
  · rw [if_pos hz]
    exact iff_of_true ⟨w, rfl, .inl ⟨.inl hz, rfl⟩⟩ (.inl hz)
  rw [if_neg hz]
  by_cases hm : Malformed w token r
  · rw [tryErc20Transfer_malformed hm]
    constructor
    · rintro ⟨w', h, -⟩
      cases h
    · rintro (h | ⟨h, -⟩)
      · exact absurd h hz
      · exact absurd hm h
  have hreport : ∃ ok v, tryErc20Transfer w token dst amount r = .ok (ok, v) ∧
      (ok = true ↔ Reported w token amount r) ∧ SameClaims w v :=
    tryErc20Transfer_reported hr hl hm
  obtain ⟨ok, v, htry, hok, hsame⟩ := hreport
  rw [htry]
  have hroom : Creditable v token dst amount ↔ Creditable w token dst amount := by
    unfold Creditable
    rw [hsame.pending, hsame.total]
  cases ok with
  | true =>
    have hrep := hok.mp rfl
    refine iff_of_true ⟨v, rfl, .inl ⟨.inr hrep, hsame.pending⟩⟩ (.inr ⟨hm, .inl hrep⟩)
  | false =>
    have hrep : ¬ Reported w token amount r := fun h => Bool.false_ne_true (hok.mpr h)
    constructor
    · rintro ⟨w', h, -⟩
      exact .inr ⟨hm, .inr (hroom.mp (creditClaim_token ht h).1)⟩
    · rintro (h | ⟨-, h | h⟩)
      · exact absurd h hz
      · exact absurd h hrep
      · have hcredit : ∃ w', creditClaim v sender dst token amount = .ok w' :=
          creditClaim_accepts ht (hroom.mpr h)
        obtain ⟨w', hw'⟩ := hcredit
        refine ⟨w', hw', .inr ⟨hrep, ?_⟩⟩
        rw [(creditClaim_token ht hw').2]
        unfold Account.setClaim
        rw [hsame.pending]

end Law

/-! ## §3. In both modes. -/

section Modes

variable [Erc721 P]

/-- Where every message under the guard has free effects, so has what a callee sends in. -/
theorem Callee.calm {γ : Type} {M : Mode P σ γ} {ExtSame : σ → σ → Prop} (hv : ExtView ExtSame)
    (hexec : ∀ d m w w', M.exec d m w = .ok w' → w.locked = true →
      ReflTransGen (FreeEffect M.hooks ExtSame) w w')
    (d : ℕ) (c : Callee (Msg γ)) : Calm M.hooks ExtSame (c.reply fun m u => M.exec d m u) := by
  intro u hl
  refine Callee.keeps (R := fun u v => u.locked = true → ReflTransGen (FreeEffect M.hooks ExtSame) u v)
    (fun _ _ => .refl) (fun h₁ h₂ hl => ?_) (hexec d) c u hl
  have hchain := h₁ hl
  exact hchain.trans (h₂ ((underLock_of_chain hv hchain).locked.trans hl))

/-- **A payout goes through exactly if the token's answer can be read and the credit fits.**  In
    both modes, inside a guarded call, whatever the token does and sends in: `_payErc20` returns,
    leaving the claims or crediting the amount, exactly if the payout is `Payable`. -/
theorem payErc20_iff (d : ℕ) (sender token dst : Address) (amount : ℕ) (htoken : token ≠ .zero) :
    (∀ (w : Ascending.World P) (c : Callee (Msg Ascending.Call)) (r : Reply P AscendingStorage),
      w.locked = true → r = c.reply (fun m u => Ascending.mode.exec d m u) →
      ((∃ w', payErc20 w sender token dst amount r = .ok w' ∧
        PaidOrCredited w token dst amount r w') ↔ Payable w token dst amount r)) ∧
    ∀ (w : FixedPrice.World P) (c : Callee (Msg FixedPrice.Call)) (r : Reply P FixedPriceStorage),
      w.locked = true → r = c.reply (fun m u => FixedPrice.mode.exec d m u) →
      ((∃ w', payErc20 w sender token dst amount r = .ok w' ∧
        PaidOrCredited w token dst amount r w') ↔ Payable w token dst amount r) := by
  constructor
  · rintro w c r hl rfl
    have hcalm := Callee.calm (M := Ascending.mode (P := P)) Ascending.extView
      (fun _ _ _ _ h => (Ascending.exec_chain h).calm) d c
    exact payErc20_law hcalm hl htoken
  · rintro w c r hl rfl
    have hcalm := Callee.calm (M := FixedPrice.mode (P := P)) FixedPrice.extView
      (fun _ _ _ _ h => (FixedPrice.exec_chain h).calm) d c
    exact payErc20_law hcalm hl htoken

end Modes

/-! ## §4. Two tokens. -/

/-- An auction in the middle of a call, on a chain whose tokens promise nothing. -/
def midCall : Ascending.World Registry :=
  { Ascending.smallGenesis with
    env := { Ascending.smallGenesis.env with tokenKind := fun _ => .other }
    locked := true }

/-- A token that answers 2. -/
def twoToken : Callee (Msg Ascending.Call) := ⟨true, ⟨32, 2⟩, 0, []⟩

/-- A token that reverts. -/
def refusingToken : Callee (Msg Ascending.Call) := ⟨false, ⟨0, 0⟩, 0, []⟩

theorem odd_word_reverts :
    payErc20 midCall (.account 1) (.account 20) (.account 2) 5
      (twoToken.reply fun m u => Ascending.mode.exec 3 m u) = .error .abiDecode := rfl

theorem refused_credits : ∃ w', payErc20 midCall (.account 1) (.account 20) (.account 2) 5
      (refusingToken.reply fun m u => Ascending.mode.exec 3 m u) = .ok w' ∧
    PaidOrCredited midCall (.account 20) (.account 2) 5
      (refusingToken.reply fun m u => Ascending.mode.exec 3 m u) w' := by
  have hlaw := (payErc20_iff (P := Registry) 3 (.account 1) (.account 20) (.account 2) 5 (by decide)).1
    midCall refusingToken _ rfl rfl
  refine hlaw.mpr (.inr ⟨?_, .inr ?_⟩)
  · rintro ⟨-, h, -⟩
    cases h
  · constructor <;> decide

end Kargain.Evm
