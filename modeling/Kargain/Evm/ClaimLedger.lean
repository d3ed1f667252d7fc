/-
  Kargain.Evm.ClaimLedger — the claims, their totals, and getting them out.

  ClaimablePayouts keeps, beside every claim, the total of all claims in
  ether and in each token, and takes a withdrawn claim off its total with
  checked subtraction.  A total that fell behind would make a claim
  impossible to withdraw.  No message makes it fall behind, whatever its
  callees send in: a payout that fails adds to a claim and to its total,
  a withdrawal takes from both, and nothing else touches either.

  Main results, for each mode: `totals_exact`, and `claim_withdrawable`,
  every claim can be withdrawn by its account in one call.
-/
import Kargain.Base.Tally
import Kargain.Evm.AscendingSolvency
import Kargain.Evm.FixedPriceSolvency

namespace Kargain.Evm

open Function Relation

variable {P σ : Type}

/-! ## §1. The ledger. -/

/-- The totals are the sums of the claims. -/
structure Tallied (a : Account) : Prop where
  native : Tallies (fun account => a.pendingClaims account .zero) a.totalPendingNative
  erc20 : ∀ asset, asset ≠ .zero →
    Tallies (fun account => a.pendingClaims account asset) (a.totalPendingErc20 asset)

/-- Claims and totals of two accounts are the same. -/
structure SameLedger (a a' : Account) : Prop where
  pending : a'.pendingClaims = a.pendingClaims
  native : a'.totalPendingNative = a.totalPendingNative
  erc20 : a'.totalPendingErc20 = a.totalPendingErc20

theorem Tallied.of_same {a a' : Account} (hs : SameLedger a a') (h : Tallied a) : Tallied a' := by
  constructor
  · rw [hs.pending, hs.native]
    exact h.native
  · rw [hs.pending, hs.erc20]
    exact h.erc20

/-- The claims in one asset, after one claim is rewritten. -/
theorem column_setClaim (a : Account) (account asset : Address) (n : ℕ) (b : Address) :
    (fun account' => (a.setClaim account asset n).pendingClaims account' b) =
      if b = asset then update (fun account' => a.pendingClaims account' b) account n
      else fun account' => a.pendingClaims account' b := by
  funext account'
  by_cases hacc : account' = account
  · subst hacc
    by_cases hb : b = asset <;> simp [Account.setClaim, hb]
  · by_cases hb : b = asset <;> simp [Account.setClaim, hb, hacc]

theorem Tallied.setNative {a : Account} (h : Tallied a) (account : Address) (n : ℕ) :
    Tallied { (a.setClaim account .zero n) with
      totalPendingNative := a.totalPendingNative - a.pendingClaims account .zero + n } := by
  constructor
  · show Tallies (fun account' => (a.setClaim account .zero n).pendingClaims account' .zero) _
    rw [column_setClaim, if_pos rfl]
    exact h.native.update account n
  · intro b hb
    show Tallies (fun account' => (a.setClaim account .zero n).pendingClaims account' b) _
    rw [column_setClaim, if_neg hb]
    exact h.erc20 b hb

theorem Tallied.setErc20 {a : Account} (h : Tallied a) (account : Address) {asset : Address}
    (hz : asset ≠ .zero) (n : ℕ) :
    Tallied { (a.setClaim account asset n) with
      totalPendingErc20 := update a.totalPendingErc20 asset
        (a.totalPendingErc20 asset - a.pendingClaims account asset + n) } := by
  constructor
  · show Tallies (fun account' => (a.setClaim account asset n).pendingClaims account' .zero) _
    rw [column_setClaim, if_neg (Ne.symm hz)]
    exact h.native
  · intro b hb
    show Tallies (fun account' => (a.setClaim account asset n).pendingClaims account' b)
      (update a.totalPendingErc20 asset _ b)
    rw [column_setClaim]
    by_cases he : b = asset
    · subst he
      rw [if_pos rfl, update_self]
      exact (h.erc20 b hb).update account n
    · rw [if_neg he, update_of_ne he]
      exact h.erc20 b hb

/-- What a message does to the ledger, and that it lets go of the guard it took. -/
structure Booked (w w' : World P σ) : Prop where
  tallied : Tallied w.acct → Tallied w'.acct
  rest : w.locked = false → w'.locked = false

namespace Booked

variable {u v w w' : World P σ}

theorem refl (w : World P σ) : Booked w w := ⟨id, id⟩

theorem trans (h : Booked u v) (k : Booked v w) : Booked u w :=
  ⟨fun ht => k.tallied (h.tallied ht), fun hl => k.rest (h.rest hl)⟩

/-- A change that leaves the ledger and the guard alone. -/
theorem of_same (hs : SameLedger w.acct w'.acct) (hl : w'.locked = w.locked) : Booked w w' :=
  ⟨.of_same hs, fun h => hl.trans h⟩

/-- Such a change, and then what a callee sends in. -/
theorem then_reenter {r : Reply P σ} (hr : Keeps Booked r) (hs : SameLedger w.acct v.acct)
    (hl : v.locked = w.locked) : Booked w (r.reenter v) :=
  (of_same hs hl).trans (hr v)

/-- A `nonReentrant` call, given what its body does. -/
theorem nonReentrant {body : World P σ → Except Error (World P σ)}
    (hbody : ∀ {u u'}, body u = .ok u' → Booked u u')
    (h : Evm.nonReentrant w body = .ok w') : Booked w w' := by
  obtain ⟨-, u, hu, rfl⟩ := nonReentrant_ok h
  have hinner := hbody hu
  exact ⟨fun ht => hinner.tallied ht, fun _ => rfl⟩

end Booked

/-! ## §2. Payments. -/

section Primitives

variable {w w' : World P σ} {t : TokenId} {sender dst asset token : Address} {amount : ℕ}
  {r : Reply P σ}

/-- **A payment that fails adds to a claim and to its total.** -/
theorem creditClaim_booked {account : Address}
    (h : creditClaim w sender account asset amount = .ok w') : Booked w w' := by
  simp only [creditClaim, bind_ok, checkedAdd_ok] at h
  obtain ⟨claim, ⟨-, rfl⟩, h⟩ := h
  by_cases hz : asset = .zero
  · subst hz
    rw [if_pos rfl] at h
    simp only [bind_ok, checkedAdd_ok, pure_ok] at h
    obtain ⟨total, ⟨-, rfl⟩, rfl⟩ := h
    refine ⟨fun ht => ?_, id⟩
    have hle : w.acct.pendingClaims account .zero ≤ w.acct.totalPendingNative :=
      ht.native.le account
    have hnew := ht.setNative account (w.acct.pendingClaims account .zero + amount)
    have htotal : w.acct.totalPendingNative - w.acct.pendingClaims account .zero +
        (w.acct.pendingClaims account .zero + amount) = w.acct.totalPendingNative + amount := by
      omega
    rw [htotal] at hnew
    exact hnew
  · rw [if_neg hz] at h
    simp only [bind_ok, checkedAdd_ok, pure_ok] at h
    obtain ⟨total, ⟨-, rfl⟩, rfl⟩ := h
    refine ⟨fun ht => ?_, id⟩
    have hle : w.acct.pendingClaims account asset ≤ w.acct.totalPendingErc20 asset :=
      (ht.erc20 asset hz).le account
    have hnew := ht.setErc20 account hz (w.acct.pendingClaims account asset + amount)
    have htotal : w.acct.totalPendingErc20 asset - w.acct.pendingClaims account asset +
        (w.acct.pendingClaims account asset + amount) =
          w.acct.totalPendingErc20 asset + amount := by
      omega
    rw [htotal] at hnew
    exact hnew

theorem callValue_booked {ok : Bool} (hr : Keeps Booked r)
    (h : callValue w dst amount r = (ok, w')) : Booked w w' := by
  unfold callValue at h
  split at h
  · cases h
    exact .then_reenter hr ⟨rfl, rfl, rfl⟩ rfl
  · cases h
    exact .of_same ⟨rfl, rfl, rfl⟩ rfl

theorem tryErc20Transfer_booked {ok : Bool} (hr : Keeps Booked r)
    (h : tryErc20Transfer w token dst amount r = .ok (ok, w')) : Booked w w' := by
  simp only [tryErc20Transfer] at h
  split at h <;> split at h
  · cases h
    exact .then_reenter hr ⟨rfl, rfl, rfl⟩ rfl
  · cases h
    exact .of_same ⟨rfl, rfl, rfl⟩ rfl
  · simp only [bind_ok, pure_ok, Prod.mk.injEq] at h
    obtain ⟨ok', -, rfl, rfl⟩ := h
    exact .then_reenter hr ⟨rfl, rfl, rfl⟩ rfl
  · cases h
    exact .of_same ⟨rfl, rfl, rfl⟩ rfl

theorem payNative_booked (hr : Keeps Booked r) (h : payNative w sender dst amount r = .ok w') :
    Booked w w' := by
  unfold payNative at h
  split at h
  · cases h
    exact .refl w
  · rcases hc : callValue w dst amount r with ⟨ok, v⟩
    rw [hc] at h
    have hcall := callValue_booked hr hc
    cases ok with
    | true =>
      obtain rfl : v = w' := Except.ok.inj h
      exact hcall
    | false => exact hcall.trans (creditClaim_booked h)

theorem payOut_booked (hr : Keeps Booked r) (h : payOut w sender asset dst amount r = .ok w') :
    Booked w w' := by
  unfold payOut at h
  split at h
  · exact payNative_booked hr h
  · unfold payErc20 at h
    split at h
    · cases h
      exact .refl w
    · simp only [bind_ok] at h
      obtain ⟨⟨ok, v⟩, hc, h⟩ := h
      have hcall := tryErc20Transfer_booked hr hc
      cases ok with
      | true =>
        obtain rfl : v = w' := Except.ok.inj h
        exact hcall
      | false => exact hcall.trans (creditClaim_booked h)

theorem pullErc20_booked (hr : Keeps Booked r) (h : pullErc20 w token amount r = .ok w') :
    Booked w w' := by
  simp only [pullErc20, bind_ok, require_ok, exists_const, checkedSub_ok, revertIf_ok,
    pure_ok] at h
  obtain ⟨-, b, -, -, -, -, rfl⟩ := h
  exact .then_reenter hr ⟨rfl, rfl, rfl⟩ rfl

/-- **A withdrawal takes from a claim and from its total.** -/
theorem withdrawClaimBody_booked (hr : Keeps Booked r)
    (h : withdrawClaimBody w sender asset r = .ok w') : Booked w w' := by
  simp only [withdrawClaimBody, bind_ok, revertIf_ok, require_ok, pure_ok, exists_const] at h
  obtain ⟨-, acct, hacct, ⟨ok, v⟩, hcall, -, rfl⟩ := h
  have htaken : Booked w (w.setAcct acct) := by
    refine ⟨fun ht => ?_, id⟩
    by_cases hz : asset = .zero
    · subst hz
      rw [if_pos rfl] at hacct
      simp only [bind_ok, checkedSub_ok, pure_ok] at hacct
      obtain ⟨total, ⟨-, rfl⟩, rfl⟩ := hacct
      exact ht.setNative sender 0
    · rw [if_neg hz] at hacct
      simp only [bind_ok, checkedSub_ok, pure_ok] at hacct
      obtain ⟨total, ⟨-, rfl⟩, rfl⟩ := hacct
      exact ht.setErc20 sender hz 0
  have hcalled : Booked (w.setAcct acct) v := by
    split at hcall
    · exact callValue_booked hr (pure_ok.mp hcall)
    · exact tryErc20Transfer_booked hr hcall
  exact (htaken.trans hcalled).trans (.of_same ⟨rfl, rfl, rfl⟩ rfl)

theorem requireConforming_booked (hr : Keeps Booked r)
    (h : requireConforming w token r = .ok w') : Booked w w' := by
  simp only [requireConforming, bind_ok, revertIf_ok, require_ok, pure_ok, exists_const] at h
  obtain ⟨-, -, ⟨ok, v⟩, hcall, -, rfl⟩ := h
  exact tryErc20Transfer_booked hr hcall

theorem paySplit_booked {gross : ℕ} {reason : CloseReason} {r₀ r₁ r₂ : Reply P σ}
    (h₀ : Keeps Booked r₀) (h₁ : Keeps Booked r₁) (h₂ : Keeps Booked r₂)
    (h : paySplit w sender t gross reason r₀ r₁ r₂ = .ok w') : Booked w w' := by
  simp only [paySplit, bind_ok, revertIf_ok, pure_ok, exists_const] at h
  obtain ⟨-, split, -, u₀, hu₀, u₁, hu₁, u₂, hu₂, rfl⟩ := h
  have hlast : Booked u₁ u₂ := by
    split at hu₂
    · exact payOut_booked h₂ hu₂
    · obtain rfl := pure_ok.mp hu₂
      exact .refl _
  have hpaid := ((payOut_booked h₀ hu₀).trans (payOut_booked h₁ hu₁)).trans hlast
  exact hpaid.trans (.of_same ⟨rfl, rfl, rfl⟩ rfl)

theorem payBond_booked {recipient judgeCaller : Address} (hr : Keeps Booked r)
    (h : payBond w sender recipient judgeCaller amount r = .ok w') : Booked w w' := by
  simp only [payBond, bind_ok, revertIf_ok, exists_const] at h
  exact payNative_booked hr h.2

theorem clearChallengeAccounting_booked {n : ℕ}
    (h : clearChallengeAccounting w t n = .ok w') : Booked w w' := by
  simp only [clearChallengeAccounting, bind_ok, checkedSub_ok, pure_ok] at h
  obtain ⟨total, -, rfl⟩ := h
  exact .of_same ⟨rfl, rfl, rfl⟩ rfl

variable [Erc721 P] {H : Hooks P σ}

theorem takeCustody_booked {src : Address} (h : takeCustody w t src = .ok w') : Booked w w' := by
  obtain ⟨p, -, rfl⟩ := takeCustody_ok h
  exact .of_same ⟨rfl, rfl, rfl⟩ rfl

theorem releaseCustody_booked (hr : Keeps Booked r)
    (h : releaseCustody H w t dst r = .ok w') : Booked w w' := by
  simp only [releaseCustody, bind_ok, orRevert_ok] at h
  obtain ⟨p, -, h⟩ := h
  have hmove : Booked w (w.moved .self .self dst t p) := .of_same ⟨rfl, rfl, rfl⟩ rfl
  split at h
  · simp only [bind_ok, require_ok, pure_ok, exists_const] at h
    obtain ⟨-, rfl⟩ := h
    exact hmove.trans (hr _)
  · obtain rfl := pure_ok.mp h
    exact hmove

theorem terminateToOwner_booked {reason : CloseReason} (hr : Keeps Booked r)
    (h : terminateToOwner H w sender t reason r = .ok w') : Booked w w' := by
  simp only [terminateToOwner, bind_ok, pure_ok] at h
  obtain ⟨u, hu, rfl⟩ := h
  have hcleared : Booked w (clearConsignment w t .returned) := .of_same ⟨rfl, rfl, rfl⟩ rfl
  exact (hcleared.trans (releaseCustody_booked hr hu)).trans (.of_same ⟨rfl, rfl, rfl⟩ rfl)

/-! ## §3. What the modes share. -/

theorem execOutside_booked {o : Outside} (h : execOutside H w o = .ok w') : Booked w w' := by
  cases o with
  | passport caller c =>
    cases c <;>
      simp only [execOutside, execPassport, bind_ok, orRevert_ok, require_ok, exists_const,
        pure_ok] at h
    case transferFrom => obtain ⟨p, -, rfl⟩ := h; exact .of_same ⟨rfl, rfl, rfl⟩ rfl
    case approve => obtain ⟨p, -, rfl⟩ := h; exact .of_same ⟨rfl, rfl, rfl⟩ rfl
    case setApprovalForAll => obtain ⟨p, -, rfl⟩ := h; exact .of_same ⟨rfl, rfl, rfl⟩ rfl
    case send => obtain ⟨k, -, rfl⟩ := h; exact .of_same ⟨rfl, rfl, rfl⟩ rfl
    case receive => obtain ⟨k, -, rfl⟩ := h; exact .of_same ⟨rfl, rfl, rfl⟩ rfl
    case mintPassport => obtain ⟨-, p, -, rfl⟩ := h; exact .of_same ⟨rfl, rfl, rfl⟩ rfl
  | setToken token n =>
    simp only [execOutside, bind_ok, require_ok, exists_const, pure_ok] at h
    obtain ⟨-, rfl⟩ := h
    exact .of_same ⟨rfl, rfl, rfl⟩ rfl
  | _ => obtain rfl := Except.ok.inj h; exact .of_same ⟨rfl, rfl, rfl⟩ rfl

theorem ownerWithdrawBody_booked (hr : Keeps Booked r)
    (h : ownerWithdrawBody H w sender t r = .ok w') : Booked w w' := by
  simp only [ownerWithdrawBody, bind_ok, revertIf_ok, exists_const] at h
  obtain ⟨-, -, -, h⟩ := h
  exact terminateToOwner_booked hr h

theorem agentWithdrawBody_booked (hr : Keeps Booked r)
    (h : agentWithdrawBody H w sender t r = .ok w') : Booked w w' := by
  simp only [agentWithdrawBody, bind_ok, revertIf_ok, exists_const] at h
  obtain ⟨-, -, h⟩ := h
  exact terminateToOwner_booked hr h

theorem forceRecall_booked (hr : Keeps Booked r)
    (h : forceRecall H w sender t r = .ok w') : Booked w w' := by
  simp only [forceRecall, bind_ok, revertIf_ok, exists_const] at h
  obtain ⟨-, -, -, -, h⟩ := h
  have hset : Booked w (w.setRecallRequest t 0) := .of_same ⟨rfl, rfl, rfl⟩ rfl
  exact hset.trans (terminateToOwner_booked hr h)

theorem execBase_booked {rs : ℕ → Reply P σ} {c : BaseCall} (hr : ∀ i, Keeps Booked (rs i))
    (h : execBase H sender rs w c = .ok w') : Booked w w' := by
  cases c with
  | grant t agent expiry asset denomination floor comp =>
    simp only [execBase, grant, bind_ok, passportOwner, orRevert_ok, revertIf_ok, pure_ok,
      exists_const] at h
    obtain ⟨owner, -, -, -, -, -, rfl⟩ := h
    exact .of_same ⟨rfl, rfl, rfl⟩ rfl
  | revoke t =>
    simp only [execBase, revoke, bind_ok, passportOwner, orRevert_ok, revertIf_ok, pure_ok,
      exists_const] at h
    obtain ⟨owner, -, -, -, m, -, rfl⟩ := h
    exact .of_same ⟨rfl, rfl, rfl⟩ rfl
  | lowerFloor t newFloor =>
    simp only [execBase, lowerFloor, bind_ok, passportOwner, orRevert_ok, revertIf_ok, pure_ok,
      exists_const] at h
    obtain ⟨owner, -, -, -, -, rfl⟩ := h
    exact .of_same ⟨rfl, rfl, rfl⟩ rfl
  | lowerCommission t newBps =>
    simp only [execBase, lowerCommission, bind_ok, revertIf_ok, pure_ok, exists_const] at h
    obtain ⟨-, -, -, -, rfl⟩ := h
    exact .of_same ⟨rfl, rfl, rfl⟩ rfl
  | requestRecall t =>
    simp only [execBase, requestRecall, bind_ok, revertIf_ok, pure_ok, exists_const] at h
    obtain ⟨-, -, -, rfl⟩ := h
    exact .of_same ⟨rfl, rfl, rfl⟩ rfl
  | forceRecall t => exact forceRecall_booked (hr 0) h
  | pause =>
    simp only [execBase, pause, bind_ok, revertIf_ok, pure_ok, exists_const] at h
    obtain ⟨-, rfl⟩ := h
    exact .of_same ⟨rfl, rfl, rfl⟩ rfl
  | unpause =>
    simp only [execBase, unpause, onlyOwner, bind_ok, require_ok, pure_ok, exists_const] at h
    obtain ⟨-, rfl⟩ := h
    exact .of_same ⟨rfl, rfl, rfl⟩ rfl
  | setGuardian g =>
    simp only [execBase, setGuardian, onlyOwner, bind_ok, require_ok, revertIf_ok, pure_ok,
      exists_const] at h
    obtain ⟨-, -, rfl⟩ := h
    exact .of_same ⟨rfl, rfl, rfl⟩ rfl
  | transferOwnership o =>
    simp only [execBase, transferOwnership, onlyOwner, bind_ok, require_ok, pure_ok,
      exists_const] at h
    obtain ⟨-, rfl⟩ := h
    exact .of_same ⟨rfl, rfl, rfl⟩ rfl
  | ownerWithdraw t => exact .nonReentrant (fun hu => ownerWithdrawBody_booked (hr 0) hu) h
  | agentWithdraw t => exact .nonReentrant (fun hu => agentWithdrawBody_booked (hr 0) hu) h
  | withdrawClaim asset => exact .nonReentrant (fun hu => withdrawClaimBody_booked (hr 0) hu) h

end Primitives

/-- A payable call: the value arrives, then the guard is taken. -/
theorem Booked.payable {w w' : World P σ} {value : ℕ} {body : World P σ → Except Error (World P σ)}
    (hbody : ∀ {u u'}, body u = .ok u' → Booked u u')
    (h : Evm.nonReentrant (w.receiveValue value) body = .ok w') : Booked w w' := by
  have hreceived : Booked w (w.receiveValue value) := .of_same ⟨rfl, rfl, rfl⟩ rfl
  exact hreceived.trans (.nonReentrant hbody h)

/-! ## §4. Withdrawing a claim. -/

/-- What a withdrawal by `account` leaves: its claim is gone and has been paid out of the balance
    there was, and no other claim has changed. -/
structure Withdrawn (w w' : World P σ) (account asset : Address) : Prop where
  gone : w'.acct.pendingClaims account asset = 0
  others : ∀ a b, (a ≠ account ∨ b ≠ asset) → w'.acct.pendingClaims a b = w.acct.pendingClaims a b
  paid : w'.acct.payouts =
    ⟨asset, account, w.acct.pendingClaims account asset, w.funds asset, true⟩ :: w.acct.payouts

theorem callValue_taken {w : World P σ} {dst : Address} {amount : ℕ} {r : Reply P σ}
    (hbalance : amount ≤ w.acct.balance) (hs : dst ≠ .self) (hsuccess : r.success = true)
    (hquiet : ∀ u, r.reenter u = u) :
    callValue w dst amount r = (true, w.setAcct
      ({ w.acct with balance := w.acct.balance - amount }.record
        ⟨.zero, dst, amount, w.acct.balance, true⟩)) := by
  unfold callValue
  rw [if_pos ⟨hbalance, hs, hsuccess⟩, hquiet]

theorem tryErc20Transfer_taken {w : World P σ} {token dst : Address} {amount : ℕ} {r : Reply P σ}
    (hexact : w.env.tokenKind token = .exact) (hbalance : amount ≤ w.acct.tokenBalance token)
    (hsuccess : r.success = true) (hquiet : ∀ u, r.reenter u = u) :
    tryErc20Transfer w token dst amount r = .ok (true, w.setAcct
      ((w.acct.setToken token (exactAfter (w.acct.tokenBalance token) amount dst)).record
        ⟨token, dst, amount, w.acct.tokenBalance token, true⟩)) := by
  unfold tryErc20Transfer
  rw [hexact]
  show (if _ then _ else _) = _
  rw [if_pos ⟨hbalance, hsuccess⟩, hquiet]

/-- Nobody else's claim, and none in another asset, moves with a claim. -/
theorem setClaim_others (acct : Account) (account asset : Address) (n : ℕ) (a b : Address)
    (h : a ≠ account ∨ b ≠ asset) :
    (acct.setClaim account asset n).pendingClaims a b = acct.pendingClaims a b := by
  have hcol := congrFun (column_setClaim acct account asset n b) a
  show (acct.setClaim account asset n).pendingClaims a b = _
  rw [show (acct.setClaim account asset n).pendingClaims a b = _ from hcol]
  by_cases hb : b = asset
  · rw [if_pos hb, update_of_ne (h.resolve_right fun hne => hne hb)]
  · rw [if_neg hb]

theorem setClaim_self (acct : Account) (account asset : Address) (n : ℕ) :
    (acct.setClaim account asset n).pendingClaims account asset = n := by
  simp [Account.setClaim]

/-- **A claim that is tallied and covered can be withdrawn** by an account that takes it. -/
theorem withdrawClaimBody_ok {w : World P σ} {account asset : Address} {r : Reply P σ}
    (ht : Tallied w.acct) (hs : account ≠ .self) (hclaim : w.acct.pendingClaims account asset ≠ 0)
    (hsound : w.Sound asset) (hcovered : w.acct.pendingClaims account asset ≤ w.funds asset)
    (hsuccess : r.success = true) (hquiet : ∀ u, r.reenter u = u) :
    ∃ w', withdrawClaimBody w account asset r = .ok w' ∧ Withdrawn w w' account asset := by
  by_cases hz : asset = .zero
  · subst hz
    have hle : w.acct.pendingClaims account .zero ≤ w.acct.totalPendingNative :=
      ht.native.le account
    simp only [withdrawClaimBody, bind_ok, revertIf_ok, require_ok, pure_ok, exists_const, if_pos,
      checkedSub_ok]
    refine ⟨_, ⟨hclaim, _, ⟨_, ⟨hle, rfl⟩, rfl⟩, _, callValue_taken hcovered hs hsuccess hquiet, rfl,
      rfl⟩, ?_, ?_, rfl⟩
    · exact setClaim_self w.acct account .zero 0
    · exact setClaim_others w.acct account .zero 0
  · have hle : w.acct.pendingClaims account asset ≤ w.acct.totalPendingErc20 asset :=
      (ht.erc20 asset hz).le account
    have hexact : w.env.tokenKind asset = .exact := hsound.resolve_left hz
    have hfunds : w.funds asset = w.acct.tokenBalance asset := if_neg hz
    rw [hfunds] at hcovered
    simp only [withdrawClaimBody, bind_ok, revertIf_ok, require_ok, pure_ok, exists_const, if_neg hz,
      checkedSub_ok]
    refine ⟨_, ⟨hclaim, _, ⟨_, ⟨hle, rfl⟩, rfl⟩, _,
      tryErc20Transfer_taken hexact hcovered hsuccess hquiet, rfl, rfl⟩, ?_, ?_, ?_⟩
    · exact setClaim_self w.acct account asset 0
    · exact setClaim_others w.acct account asset 0
    · rw [hfunds]
      rfl

/-- The same, as the entry point of a mode at rest. -/
theorem withdrawClaim_ok [Erc721 P] {H : Hooks P σ} {w : World P σ} {account asset : Address}
    {rs : ℕ → Reply P σ} (hl : w.locked = false) (ht : Tallied w.acct) (hs : account ≠ .self)
    (hclaim : w.acct.pendingClaims account asset ≠ 0) (hsound : w.Sound asset)
    (hcovered : w.acct.pendingClaims account asset ≤ w.funds asset)
    (hsuccess : (rs 0).success = true) (hquiet : ∀ u, (rs 0).reenter u = u) :
    ∃ w', execBase H account rs w (.withdrawClaim asset) = .ok w' ∧ Withdrawn w w' account asset := by
  obtain ⟨u, hu, hdone⟩ := withdrawClaimBody_ok (w := { w with locked := true }) ht hs hclaim hsound
    hcovered hsuccess hquiet
  refine ⟨{ u with locked := false }, ?_, hdone.gone, hdone.others, hdone.paid⟩
  show nonReentrant w (fun v => withdrawClaimBody v account asset (rs 0)) = _
  simp only [nonReentrant, bind_ok, revertIf_ok, pure_ok, exists_const]
  exact ⟨by simp [hl], u, hu, rfl⟩

/-! ## §5. The fixed-price mode. -/

namespace FixedPrice

section Booked

variable {w w' : World P} {t : TokenId} {sender : Address} {value : ℕ}
  {rs : ℕ → Reply P FixedPriceStorage}

theorem pullPayment_booked {asset : Address} {amount : ℕ} {r : Reply P FixedPriceStorage}
    (hr : Keeps Booked r) (h : pullPayment w asset amount value r = .ok w') : Booked w w' := by
  unfold pullPayment at h
  split at h
  · simp only [bind_ok, revertIf_ok, exists_const, pure_ok] at h
    obtain ⟨-, rfl⟩ := h
    exact .refl w
  · simp only [bind_ok, revertIf_ok, exists_const] at h
    exact pullErc20_booked hr h.2

theorem scaleFiatFloor_booked {amount : ℕ} (h : scaleFiatFloor w t amount = .ok w') :
    Booked w w' := by
  simp only [scaleFiatFloor] at h
  split at h
  · simp only [bind_ok, revertIf_ok, exists_const, pure_ok] at h
    obtain ⟨_, -, _, -, floor, -, -, rfl⟩ := h
    exact .of_same ⟨rfl, rfl, rfl⟩ rfl
  · cases h
    exact .refl w

theorem setPriceBody_booked {newPrice : ℕ} (h : setPriceBody w sender t newPrice = .ok w') :
    Booked w w' := by
  simp only [setPriceBody, bind_ok] at h
  obtain ⟨-, -, h⟩ := h
  split at h
  · simp only [bind_ok, pure_ok] at h
    obtain ⟨-, -, rfl⟩ := h
    exact .of_same ⟨rfl, rfl, rfl⟩ rfl
  · simp only [bind_ok, pure_ok] at h
    obtain ⟨-, -, _, -, rfl⟩ := h
    exact .of_same ⟨rfl, rfl, rfl⟩ rfl

theorem setSettlementNoteBody_booked {note : List UInt8}
    (h : setSettlementNoteBody w sender t note = .ok w') : Booked w w' := by
  simp only [setSettlementNoteBody, bind_ok] at h
  obtain ⟨-, -, h⟩ := h
  split at h <;>
  · simp only [bind_ok, pure_ok] at h
    obtain ⟨-, -, -, -, rfl⟩ := h
    exact .of_same ⟨rfl, rfl, rfl⟩ rfl

theorem approvePaymentToken_booked {token feed : Address} {tolerance : ℕ} (hr : Keeps Booked (rs 0))
    (h : approvePaymentToken w sender token feed tolerance rs = .ok w') : Booked w w' := by
  simp only [approvePaymentToken, onlyOwner, bind_ok, require_ok, revertIf_ok, exists_const] at h
  obtain ⟨-, -, u, hu, d, -, -, h⟩ := h
  have hprobed := requireConforming_booked hr hu
  split at h <;>
  · simp only [bind_ok, pure_ok] at h
    obtain ⟨-, -, rfl⟩ := h
    exact hprobed.trans (.of_same ⟨rfl, rfl, rfl⟩ rfl)

variable [Erc721 P]

theorem buyBody_booked (hr : ∀ i, Keeps Booked (rs i))
    (h : buyBody w sender value t rs = .ok w') : Booked w w' := by
  simp only [buyBody, bind_ok] at h
  obtain ⟨-, -, -, -, amount, -, w₁, hpull, w₂, hscale, w₃, hrel, hpay⟩ := h
  have hpaid : Booked w w₂ := (pullPayment_booked (hr 0) hpull).trans (scaleFiatFloor_booked hscale)
  have hdelivered : Booked w w₃ := hpaid.trans (releaseCustody_booked (hr 1) hrel)
  have hlogged : Booked w₃ (w₃.emit sender (.bought t sender (w.com.consignments t).asset amount)) :=
    .of_same ⟨rfl, rfl, rfl⟩ rfl
  exact (hdelivered.trans hlogged).trans (paySplit_booked (hr 2) (hr 3) (hr 4) hpay)

theorem openDirectBody_booked {denomination : Denomination} {asset : Address} {price : ℕ}
    (h : openDirectBody w sender t denomination asset price = .ok w') : Booked w w' := by
  simp only [openDirectBody, bind_ok, pure_ok] at h
  obtain ⟨-, -, owner, -, -, -, -, -, _, -, u, hu, rfl⟩ := h
  exact (takeCustody_booked hu).trans (.of_same ⟨rfl, rfl, rfl⟩ rfl)

theorem openFromMandateBody_booked {denomination : Denomination} {price : ℕ}
    (h : openFromMandateBody w sender t denomination price = .ok w') : Booked w w' := by
  simp only [openFromMandateBody, bind_ok, pure_ok] at h
  obtain ⟨-, -, m, -, -, -, owner, -, -, -, _, -, _, -, u, hu, rfl⟩ := h
  exact (takeCustody_booked hu).trans (.of_same ⟨rfl, rfl, rfl⟩ rfl)

theorem confirmExternalPaymentBody_booked {buyer : Address} (hr : ∀ i, Keeps Booked (rs i))
    (h : confirmExternalPaymentBody w sender t buyer rs = .ok w') : Booked w w' := by
  simp only [confirmExternalPaymentBody, bind_ok, revertIf_ok, exists_const, pure_ok] at h
  obtain ⟨-, -, -, -, -, u, hrel, rfl⟩ := h
  have hnote : Booked w (setNote w t []) := .of_same ⟨rfl, rfl, rfl⟩ rfl
  exact (hnote.trans (releaseCustody_booked (hr 0) hrel)).trans (.of_same ⟨rfl, rfl, rfl⟩ rfl)

theorem dispatchPlain_booked {c : Call} (hr : ∀ i, Keeps Booked (rs i))
    (h : dispatchPlain sender rs w c = .ok w') : Booked w w' := by
  cases c with
  | base c => exact execBase_booked hr h
  | approvePaymentToken token feed tolerance => exact approvePaymentToken_booked (hr 0) h
  | revokePaymentToken token =>
    simp only [dispatchPlain, revokePaymentToken, bind_ok, pure_ok] at h
    obtain ⟨-, -, rfl⟩ := h
    exact .of_same ⟨rfl, rfl, rfl⟩ rfl
  | setCurrencyFeed code feed tolerance =>
    simp only [dispatchPlain, setCurrencyFeed, onlyOwner, bind_ok] at h
    obtain ⟨-, -, -, -, h⟩ := h
    split at h <;>
    · simp only [bind_ok, pure_ok] at h
      obtain ⟨-, -, rfl⟩ := h
      exact .of_same ⟨rfl, rfl, rfl⟩ rfl
  | setNativeUsdStalenessTolerance tolerance =>
    simp only [dispatchPlain, setNativeUsdStalenessTolerance, onlyOwner, bind_ok, pure_ok] at h
    obtain ⟨-, -, -, -, _, -, -, -, -, -, rfl⟩ := h
    exact .of_same ⟨rfl, rfl, rfl⟩ rfl
  | openDirect t denomination asset price => exact .nonReentrant (fun hu => openDirectBody_booked hu) h
  | openFromMandate t denomination price =>
    exact .nonReentrant (fun hu => openFromMandateBody_booked hu) h
  | setPrice t newPrice => exact .nonReentrant (fun hu => setPriceBody_booked hu) h
  | setSettlementNote t note => exact .nonReentrant (fun hu => setSettlementNoteBody_booked hu) h
  | confirmExternalPayment t buyer =>
    exact .nonReentrant (fun hu => confirmExternalPaymentBody_booked hr hu) h
  | buy t => cases h

theorem dispatch_booked {c : Call} (hr : ∀ i, Keeps Booked (rs i))
    (h : dispatch sender value c rs w = .ok w') : Booked w w' := by
  cases c
  case buy t => exact .payable (fun hu => buyBody_booked hr hu) h
  all_goals
    simp only [dispatch, bind_ok] at h
    obtain ⟨-, -, h⟩ := h
    exact dispatchPlain_booked hr h

theorem exec_booked {d : ℕ} {m : Msg Call} (h : mode.exec d m w = .ok w') : Booked w w' :=
  Mode.exec_keeps .refl .trans (fun _ _ _ ho => execOutside_booked ho)
    (fun _ _ _ _ _ _ hr hd => dispatch_booked hr hd) d m w w' h

end Booked

variable [Erc721 P] {w w' : World P}

theorem step_booked {a : Action Call} (h : mode.step w a = .ok w') : Booked w w' := by
  cases a with
  | msg m => exact exec_booked h
  | tick dt =>
    obtain rfl : _ = w' := Except.ok.inj h
    exact .of_same ⟨rfl, rfl, rfl⟩ rfl

theorem genesis_booked (h : Genesis w) : Tallied w.acct ∧ w.locked = false := by
  obtain ⟨env, pr, fee, feed, tol, own, gd, w₀, b, tb, -, hinit, rfl⟩ := h
  simp only [initializeStorage, bind_ok, revertIf_ok, pure_ok, exists_const] at hinit
  obtain ⟨-, -, -, -, -, -, rfl⟩ := hinit
  exact ⟨⟨.zero, fun _ _ => .zero⟩, rfl⟩

theorem reachable_booked (h : Reachable mode.step Genesis w) : Tallied w.acct ∧ w.locked = false :=
  h.invariant (fun _ => genesis_booked) fun _ _ _ hi hstep =>
    ⟨(step_booked hstep).tallied hi.1, (step_booked hstep).rest hi.2⟩

end FixedPrice

/-! ## §6. The auction. -/

namespace Ascending

section Booked

variable {w w' : World P} {t : TokenId} {sender : Address} {value : ℕ}
  {rs : ℕ → Reply P AscendingStorage}

theorem pullBid_booked {asset : Address} {amount : ℕ} {r : Reply P AscendingStorage}
    (hr : Keeps Booked r) (h : pullBid w asset amount value r = .ok w') : Booked w w' := by
  unfold pullBid at h
  split at h
  · simp only [bind_ok, revertIf_ok, exists_const, pure_ok] at h
    obtain ⟨-, rfl⟩ := h
    exact .refl w
  · simp only [bind_ok, revertIf_ok, exists_const] at h
    exact pullErc20_booked hr h.2

theorem bidBody_booked {amount : ℕ} (hr : ∀ i, Keeps Booked (rs i))
    (h : bidBody w sender value t amount rs = .ok w') : Booked w w' := by
  simp only [bidBody, bind_ok] at h
  obtain ⟨-, -, -, -, -, -, -, -, -, -, -, -, -, -, w₁, hpull, w₂, hcommit, h⟩ := h
  have hcommitted : Booked w₁ w₂ := by
    split at hcommit
    · simp only [enterCommittedNotOffered, bind_ok, pure_ok] at hcommit
      obtain ⟨u, ⟨-, -, rfl⟩, rfl⟩ := hcommit
      exact .of_same ⟨rfl, rfl, rfl⟩ rfl
    · obtain rfl := pure_ok.mp hcommit
      exact .refl w₁
  have hbefore : Booked w w₂ := (pullBid_booked (hr 0) hpull).trans hcommitted
  have hplaced : ∀ a e, Booked w₂ ((setAuction w₂ t a).emit sender e) :=
    fun _ _ => .of_same ⟨rfl, rfl, rfl⟩ rfl
  split at h
  · simp only [bind_ok, pure_ok] at h
    obtain ⟨w₃, hrefund, rfl⟩ := h
    have hrefunded := payOut_booked (hr 1) hrefund
    exact ((hbefore.trans (hplaced _ _)).trans hrefunded).trans (.of_same ⟨rfl, rfl, rfl⟩ rfl)
  · obtain rfl := pure_ok.mp h
    exact hbefore.trans (hplaced _ _)

/-- The three ways a hold is cleared and its money split. -/
theorem clearedSplit_booked {gross : ℕ} {reason : CloseReason} {e : Event}
    (hr : ∀ i, Keeps Booked (rs i))
    (h : (do
      let u ← paySplit (setHold w t .empty) sender t gross reason (rs 0) (rs 1) (rs 2)
      pure (u.emit sender e)) = .ok w') : Booked w w' := by
  simp only [bind_ok, pure_ok] at h
  obtain ⟨u, hu, rfl⟩ := h
  have hcleared : Booked w (setHold w t .empty) := .of_same ⟨rfl, rfl, rfl⟩ rfl
  have hsplit := paySplit_booked (hr 0) (hr 1) (hr 2) hu
  exact (hcleared.trans hsplit).trans (.of_same ⟨rfl, rfl, rfl⟩ rfl)

theorem confirmReceiptBody_booked (hr : ∀ i, Keeps Booked (rs i))
    (h : confirmReceiptBody w sender t rs = .ok w') : Booked w w' := by
  simp only [confirmReceiptBody, bind_ok] at h
  obtain ⟨hold, -, -, -, -, -, -, -, h⟩ := h
  exact clearedSplit_booked hr (bind_ok.mpr h)

theorem releaseFundsBody_booked (hr : ∀ i, Keeps Booked (rs i))
    (h : releaseFundsBody w sender t rs = .ok w') : Booked w w' := by
  simp only [releaseFundsBody, bind_ok] at h
  obtain ⟨hold, -, -, -, -, -, -, -, h⟩ := h
  exact clearedSplit_booked hr (bind_ok.mpr h)

theorem abandonReversalBody_booked (hr : ∀ i, Keeps Booked (rs i))
    (h : abandonReversalBody w sender t rs = .ok w') : Booked w w' := by
  simp only [abandonReversalBody, bind_ok] at h
  obtain ⟨hold, -, -, -, -, -, h⟩ := h
  exact clearedSplit_booked hr (bind_ok.mpr h)

theorem challengeTerminal_booked (hr : ∀ i, Keeps Booked (rs i))
    (h : challengeTerminal w sender t rs = .ok w') : Booked w w' := by
  simp only [challengeTerminal, bind_ok] at h
  obtain ⟨hold, -, h⟩ := h
  have hcleared : Booked w (setHold w t .empty) := .of_same ⟨rfl, rfl, rfl⟩ rfl
  exact hcleared.trans (paySplit_booked (hr 0) (hr 1) (hr 2) h)

theorem openBody_booked (h : openBody w sender value t = .ok w') : Booked w w' := by
  simp only [openBody, freezeForChallenge, openChallenge, bind_ok, pure_ok, checkedAdd_ok] at h
  obtain ⟨u, ⟨hold, -, -, -, -, -, -, -, rfl⟩, -, -, -, -, -, -, -, -, -, -, total, -, rfl⟩ := h
  exact .of_same ⟨rfl, rfl, rfl⟩ rfl

theorem withdrawBody_booked (hr : ∀ i, Keeps Booked (rs i))
    (h : withdrawBody challengeHooks w sender t rs = .ok w') : Booked w w' := by
  simp only [withdrawBody, bind_ok] at h
  obtain ⟨-, -, c, -, -, -, -, -, w₁, hclear, w₂, hpay, hdone⟩ := h
  have hpaid := (clearChallengeAccounting_booked hclear).trans (payBond_booked (hr 0) hpay)
  obtain rfl : _ = w' := Except.ok.inj hdone
  exact hpaid.trans (.of_same ⟨rfl, rfl, rfl⟩ rfl)

theorem judgeBody_booked {outcome : JudgeOutcome} (hr : ∀ i, Keeps Booked (rs i))
    (h : judgeBody challengeHooks w sender t outcome rs = .ok w') : Booked w w' := by
  simp only [judgeBody, bind_ok] at h
  obtain ⟨-, -, c, -, -, -, -, -, -, -, w₁, hclear, w₂, hpay, hdone⟩ := h
  have hpaid := (clearChallengeAccounting_booked hclear).trans (payBond_booked (hr 0) hpay)
  cases outcome with
  | upheld =>
    obtain rfl : _ = w' := Except.ok.inj hdone
    exact hpaid.trans (.of_same ⟨rfl, rfl, rfl⟩ rfl)
  | rejected =>
    have hlogged : ∀ e, Booked w₂ (w₂.emit sender e) := fun _ => .of_same ⟨rfl, rfl, rfl⟩ rfl
    exact (hpaid.trans (hlogged _)).trans (challengeTerminal_booked (fun i => hr (i + 1)) hdone)

theorem concludeBody_booked (hr : ∀ i, Keeps Booked (rs i))
    (h : concludeBody challengeHooks w sender t rs = .ok w') : Booked w w' := by
  simp only [concludeBody, bind_ok] at h
  obtain ⟨-, -, c, -, -, -, w₁, hclear, w₂, hpay, hdone⟩ := h
  have hpaid := (clearChallengeAccounting_booked hclear).trans (payBond_booked (hr 0) hpay)
  have hlogged : ∀ e, Booked w₂ (w₂.emit sender e) := fun _ => .of_same ⟨rfl, rfl, rfl⟩ rfl
  exact (hpaid.trans (hlogged _)).trans (challengeTerminal_booked (fun i => hr (i + 1)) hdone)

theorem writeOpen_booked (owner agent asset : Address) (denomination : Denomination) (floor : ℕ)
    (compensation : Compensation) (price : ℕ) (s : Address) (t : TokenId) :
    Booked w (writeOpen w s t owner agent asset denomination floor compensation price) :=
  .of_same ⟨rfl, rfl, rfl⟩ rfl

theorem writeAuctionTerms_booked {u : World P} {duration protectionWindow reserve : ℕ}
    (h : Booked w u) :
    Booked w (writeAuctionTerms u sender t duration protectionWindow reserve) := by
  have hterms : Booked u (writeAuctionTerms u sender t duration protectionWindow reserve) :=
    .of_same ⟨rfl, rfl, rfl⟩ rfl
  exact h.trans hterms

variable [Erc721 P]

theorem settleBody_booked (h : settleBody w sender t = .ok w') : Booked w w' := by
  simp only [settleBody, bind_ok, pure_ok] at h
  obtain ⟨-, -, -, -, -, -, -, -, p, -, rfl⟩ := h
  exact .of_same ⟨rfl, rfl, rfl⟩ rfl

theorem completeReversalBody_booked (hr : ∀ i, Keeps Booked (rs i))
    (h : completeReversalBody w sender t rs = .ok w') : Booked w w' := by
  simp only [completeReversalBody, bind_ok, pure_ok] at h
  obtain ⟨hold, -, -, -, -, -, holder, -, -, -, w₁, htake, w₂, hpay, w₃, hback, rfl⟩ := h
  have hcleared : Booked w (setHold w t .empty) := .of_same ⟨rfl, rfl, rfl⟩ rfl
  have htaken := hcleared.trans (takeCustody_booked htake)
  have hpaid := htaken.trans (payOut_booked (hr 0) hpay)
  exact (hpaid.trans (terminateToOwner_booked (hr 1) hback)).trans (.of_same ⟨rfl, rfl, rfl⟩ rfl)

theorem openAscendingDirectBody_booked {asset : Address} {reserve duration protectionWindow : ℕ}
    (h : openAscendingDirectBody w sender t asset reserve duration protectionWindow = .ok w') :
    Booked w w' := by
  simp only [openAscendingDirectBody, bind_ok, revertIf_ok, pure_ok, exists_const] at h
  obtain ⟨-, -, owner, -, -, -, -, _, -, -, -, -, -, u, hu, hdone⟩ := h
  have hopen : Booked u w' := by
    subst hdone
    exact writeAuctionTerms_booked (writeOpen_booked _ _ _ _ _ _ _ _ _)
  exact (takeCustody_booked hu).trans hopen

theorem openAscendingFromMandateBody_booked {reserve duration protectionWindow : ℕ}
    (h : openAscendingFromMandateBody w sender t reserve duration protectionWindow = .ok w') :
    Booked w w' := by
  simp only [openAscendingFromMandateBody, bind_ok, revertIf_ok, pure_ok, exists_const] at h
  obtain ⟨-, -, m, -, -, owner, -, -, -, _, -, -, -, -, -, -, -, u, hu, hdone⟩ := h
  have hopen : Booked u w' := by
    subst hdone
    exact writeAuctionTerms_booked (writeOpen_booked _ _ _ _ _ _ _ _ _)
  exact (takeCustody_booked hu).trans hopen

theorem dispatchPlain_booked {c : Call} (hr : ∀ i, Keeps Booked (rs i))
    (h : dispatchPlain sender rs w c = .ok w') : Booked w w' := by
  cases c with
  | base c => exact execBase_booked hr h
  | setChallengeBond b =>
    simp only [dispatchPlain, setChallengeBond, bind_ok, pure_ok] at h
    obtain ⟨-, -, -, -, rfl⟩ := h
    exact .of_same ⟨rfl, rfl, rfl⟩ rfl
  | approvePaymentToken token =>
    simp only [dispatchPlain, approvePaymentToken, bind_ok, pure_ok] at h
    obtain ⟨-, -, -, -, u, hu, d, -, rfl⟩ := h
    exact (requireConforming_booked (hr 0) hu).trans (.of_same ⟨rfl, rfl, rfl⟩ rfl)
  | revokePaymentToken token =>
    simp only [dispatchPlain, revokePaymentToken, bind_ok, pure_ok] at h
    obtain ⟨-, -, rfl⟩ := h
    exact .of_same ⟨rfl, rfl, rfl⟩ rfl
  | openAscendingDirect t asset reserve duration protectionWindow =>
    exact .nonReentrant (fun hu => openAscendingDirectBody_booked hu) h
  | openAscendingFromMandate t reserve duration protectionWindow =>
    exact .nonReentrant (fun hu => openAscendingFromMandateBody_booked hu) h
  | settle t => exact .nonReentrant (fun hu => settleBody_booked hu) h
  | confirmReceipt t => exact .nonReentrant (fun hu => confirmReceiptBody_booked hr hu) h
  | releaseFunds t => exact .nonReentrant (fun hu => releaseFundsBody_booked hr hu) h
  | completeReversal t => exact .nonReentrant (fun hu => completeReversalBody_booked hr hu) h
  | abandonReversal t => exact .nonReentrant (fun hu => abandonReversalBody_booked hr hu) h
  | withdraw t => exact .nonReentrant (fun hu => withdrawBody_booked hr hu) h
  | judge t outcome => exact .nonReentrant (fun hu => judgeBody_booked hr hu) h
  | conclude t => exact .nonReentrant (fun hu => concludeBody_booked hr hu) h
  | bid t amount => cases h
  | «open» t => cases h

theorem dispatch_booked {c : Call} (hr : ∀ i, Keeps Booked (rs i))
    (h : dispatch sender value c rs w = .ok w') : Booked w w' := by
  cases c
  case bid t amount => exact .payable (fun hu => bidBody_booked hr hu) h
  case «open» t => exact .payable (fun hu => openBody_booked hu) h
  all_goals
    simp only [dispatch, bind_ok] at h
    obtain ⟨-, -, h⟩ := h
    exact dispatchPlain_booked hr h

theorem exec_booked {d : ℕ} {m : Msg Call} (h : mode.exec d m w = .ok w') : Booked w w' :=
  Mode.exec_keeps .refl .trans (fun _ _ _ ho => execOutside_booked ho)
    (fun _ _ _ _ _ _ hr hd => dispatch_booked hr hd) d m w w' h

end Booked

variable [Erc721 P] {w w' : World P}

theorem step_booked {a : Action Call} (h : mode.step w a = .ok w') : Booked w w' := by
  cases a with
  | msg m => exact exec_booked h
  | tick dt =>
    obtain rfl : _ = w' := Except.ok.inj h
    exact .of_same ⟨rfl, rfl, rfl⟩ rfl

theorem genesis_booked (h : Genesis w) : Tallied w.acct ∧ w.locked = false := by
  obtain ⟨env, pr, fee, fr, bond, window, own, gd, w₀, b, tb, -, hinit, rfl⟩ := h
  simp only [initializeStorage, bind_ok, revertIf_ok, pure_ok, exists_const] at hinit
  obtain ⟨-, -, _, -, -, -, -, -, rfl⟩ := hinit
  exact ⟨⟨.zero, fun _ _ => .zero⟩, rfl⟩

theorem reachable_booked (h : Reachable mode.step Genesis w) : Tallied w.acct ∧ w.locked = false :=
  h.invariant (fun _ => genesis_booked) fun _ _ _ hi hstep =>
    ⟨(step_booked hstep).tallied hi.1, (step_booked hstep).rest hi.2⟩

end Ascending

/-! ## §7. Both modes. -/

section Both

variable [Erc721 P]

theorem FixedPrice.exec_withdrawClaim (d : ℕ) (s : Caller) (asset : Address) (w : FixedPrice.World P) :
    FixedPrice.mode.exec (d + 1) (.tx s 0 (.base (.withdrawClaim asset)) []) w =
      execBase FixedPrice.hooks s.addr
        (fun i => (([] : List (Callee (Msg FixedPrice.Call))).getD i Callee.accept).reply
          (FixedPrice.mode.exec d)) w (.withdrawClaim asset) :=
  rfl

theorem FixedPrice.withdraw_of_reachable {w : FixedPrice.World P}
    (h : Reachable FixedPrice.mode.step FixedPrice.Genesis w) (s : Caller) {asset : Address}
    (ha : w.Sound asset) (hclaim : w.acct.pendingClaims s.addr asset ≠ 0) :
    ∃ w', FixedPrice.mode.step w (.msg (.tx s 0 (.base (.withdrawClaim asset)) [])) = .ok w' ∧
      Withdrawn w w' s.addr asset := by
  obtain ⟨ht, hl⟩ := FixedPrice.reachable_booked h
  have hcovers : Covers (w.funds asset) (w.debt asset) 0 := (FixedPrice.reachable_backed h).covers asset ha
  have hcovered : w.acct.pendingClaims s.addr asset ≤ w.funds asset := by
    have hone := hcovers {.claim s.addr}
    rw [Finset.sum_singleton] at hone
    exact hone
  show ∃ w', FixedPrice.mode.exec (1023 + 1) (.tx s 0 (.base (.withdrawClaim asset)) []) w = .ok w' ∧ _
  rw [FixedPrice.exec_withdrawClaim]
  exact withdrawClaim_ok hl ht s.ne_self hclaim ha hcovered rfl fun _ => rfl

theorem Ascending.exec_withdrawClaim (d : ℕ) (s : Caller) (asset : Address) (w : Ascending.World P) :
    Ascending.mode.exec (d + 1) (.tx s 0 (.base (.withdrawClaim asset)) []) w =
      execBase Ascending.hooks s.addr
        (fun i => (([] : List (Callee (Msg Ascending.Call))).getD i Callee.accept).reply
          (Ascending.mode.exec d)) w (.withdrawClaim asset) :=
  rfl

theorem Ascending.withdraw_of_reachable {w : Ascending.World P}
    (h : Reachable Ascending.mode.step Ascending.Genesis w) (s : Caller) {asset : Address}
    (ha : w.Sound asset) (hclaim : w.acct.pendingClaims s.addr asset ≠ 0) :
    ∃ w', Ascending.mode.step w (.msg (.tx s 0 (.base (.withdrawClaim asset)) [])) = .ok w' ∧
      Withdrawn w w' s.addr asset := by
  obtain ⟨ht, hl⟩ := Ascending.reachable_booked h
  have hsolvent : Ascending.Solvent (w, fun _ => 0) :=
    h.invariant (fun _ => Ascending.genesis_solvent) fun _ _ _ hi hstep =>
      Ascending.step_solvent hi hstep
  have hcovered : w.acct.pendingClaims s.addr asset ≤ w.funds asset := by
    have hone := hsolvent.covers asset ha {.claim s.addr}
    rw [Finset.sum_singleton] at hone
    exact hone
  show ∃ w', Ascending.mode.exec (1023 + 1) (.tx s 0 (.base (.withdrawClaim asset)) []) w = .ok w' ∧ _
  rw [Ascending.exec_withdrawClaim]
  exact withdrawClaim_ok hl ht s.ne_self hclaim ha hcovered rfl fun _ => rfl

/-- **The totals are exact.**  In every reachable state of either contract, whatever its
    recipients and tokens did meanwhile, the total it keeps of the claims in ether and in each
    token is the sum of the claims. -/
theorem claim_totals_exact :
    (∀ w : FixedPrice.World P, Reachable FixedPrice.mode.step FixedPrice.Genesis w →
      Tallied w.acct) ∧
    ∀ w : Ascending.World P, Reachable Ascending.mode.step Ascending.Genesis w → Tallied w.acct :=
  ⟨fun _ h => (FixedPrice.reachable_booked h).1, fun _ h => (Ascending.reachable_booked h).1⟩

/-- **No claim is stuck.**  In every reachable state of either contract, paused or not, an
    account with a claim in ether or in a token that moves what it is asked to gets all of it by
    one call that it accepts; its claim is gone then, and no other claim has changed. -/
theorem claim_withdrawable :
    (∀ w : FixedPrice.World P, Reachable FixedPrice.mode.step FixedPrice.Genesis w →
      ∀ (s : Caller) (asset : Address), w.Sound asset → w.acct.pendingClaims s.addr asset ≠ 0 →
        ∃ w', FixedPrice.mode.step w (.msg (.tx s 0 (.base (.withdrawClaim asset)) [])) = .ok w' ∧
          Withdrawn w w' s.addr asset) ∧
    ∀ w : Ascending.World P, Reachable Ascending.mode.step Ascending.Genesis w →
      ∀ (s : Caller) (asset : Address), w.Sound asset → w.acct.pendingClaims s.addr asset ≠ 0 →
        ∃ w', Ascending.mode.step w (.msg (.tx s 0 (.base (.withdrawClaim asset)) [])) = .ok w' ∧
          Withdrawn w w' s.addr asset :=
  ⟨fun _ h s _ ha hclaim => FixedPrice.withdraw_of_reachable h s ha hclaim,
    fun _ h s _ ha hclaim => Ascending.withdraw_of_reachable h s ha hclaim⟩

end Both

/-- The total after a refused payment is the one claim. -/
theorem claim_totals_refusedLot :
    (finalState FixedPrice.mode.step FixedPrice.smallGenesis
      FixedPrice.refusedLot).acct.totalPendingNative = 1000 ∧
    Tallied (finalState FixedPrice.mode.step FixedPrice.smallGenesis FixedPrice.refusedLot).acct :=
  ⟨by decide +kernel, claim_totals_exact.1 _ ⟨FixedPrice.smallGenesis, _,
    FixedPrice.smallGenesis_genesis, run_finalState (by decide +kernel)⟩⟩

/-- Account 1 gets what it refused. -/
theorem claim_withdrawable_refusedLot :
    ∃ w', FixedPrice.mode.step
        (finalState FixedPrice.mode.step FixedPrice.smallGenesis FixedPrice.refusedLot)
        (.msg (.tx (Caller.account 1) 0 (.base (.withdrawClaim .zero)) [])) = .ok w' ∧
      Withdrawn (finalState FixedPrice.mode.step FixedPrice.smallGenesis FixedPrice.refusedLot) w'
        (.account 1) .zero :=
  claim_withdrawable.1 _ ⟨FixedPrice.smallGenesis, _, FixedPrice.smallGenesis_genesis,
    run_finalState (by decide +kernel)⟩ (Caller.account 1) .zero (.inl rfl) (by decide +kernel)

end Kargain.Evm
