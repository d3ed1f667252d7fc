/-
  Kargain.Evm.AscendingBonds — the auction is a contract built on BondedChallenge.

  The settlement challenge takes its bond in `open`, after the hold is
  frozen, and gives it back in the three terminals of BondedChallenge.
  Nothing else in the mode touches a bond, so the books of BondLedger
  hold of every auction.

  Main result: `contract_law`, and `contract_mode` that it is this mode.
-/
import Kargain.Evm.AscendingConsignment
import Kargain.Evm.BondLedger

namespace Kargain.Evm.Ascending

variable {P : Type} [Erc721 P]

/-! ## §1. The contract. -/

def Call.challenge : Call → Option ChallengeCall
  | .open t => some (.open t)
  | .withdraw t => some (.withdraw t)
  | .judge t outcome => some (.judge t outcome)
  | .conclude t => some (.conclude t)
  | _ => none

/-- The own entry points with the guard. -/
def Call.takesGuard : Call → Bool
  | .base c => c.guarded
  | .setChallengeBond _ | .approvePaymentToken _ | .revokePaymentToken _ => false
  | _ => true

def Call.payable : Call → Bool
  | .bid _ _ => true
  | _ => false

/-- The base's entry points, without the guard. -/
def baseBody (sender : Address) (rs : ℕ → Reply P AscendingStorage) (w : World P) :
    BaseCall → Except Error (World P)
  | .ownerWithdraw t => ownerWithdrawBody hooks w sender t (rs 0)
  | .agentWithdraw t => agentWithdrawBody hooks w sender t (rs 0)
  | .withdrawClaim asset => withdrawClaimBody w sender asset (rs 0)
  | c => execBase hooks sender rs w c

/-- The own entry points, without the guard. -/
def ownBody (sender : Address) (value : ℕ) (call : Call) (rs : ℕ → Reply P AscendingStorage)
    (w : World P) : Except Error (World P) :=
  match call with
  | .base c => baseBody sender rs w c
  | .setChallengeBond b => setChallengeBond w sender b
  | .approvePaymentToken token => approvePaymentToken w sender token rs
  | .revokePaymentToken token => revokePaymentToken w sender token
  | .openAscendingDirect t asset reserve duration protectionWindow =>
    openAscendingDirectBody w sender t asset reserve duration protectionWindow
  | .openAscendingFromMandate t reserve duration protectionWindow =>
    openAscendingFromMandateBody w sender t reserve duration protectionWindow
  | .bid t amount => bidBody w sender value t amount rs
  | .settle t => settleBody w sender t
  | .confirmReceipt t => confirmReceiptBody w sender t rs
  | .releaseFunds t => releaseFundsBody w sender t rs
  | .completeReversal t => completeReversalBody w sender t rs
  | .abandonReversal t => abandonReversalBody w sender t rs
  | .open _ | .withdraw _ | .judge _ _ | .conclude _ => .error .nonPayable

def contract : BondedContract P AscendingStorage Call where
  hooks := hooks
  challenge := challengeHooks
  entry := Call.challenge
  beforeOpen w _ t := freezeForChallenge w t
  afterOpen w _ _ := w
  guarded := Call.takesGuard
  payable := Call.payable
  body sender value c rs w := ownBody sender value c rs w

/-- The contract is the mode. -/
theorem contract_mode : (contract (P := P)).mode = mode := by
  have hdispatch : (contract (P := P)).dispatch = dispatch := by
    funext sender value c rs w
    cases c with
    | base c => cases c <;> rfl
    | «open» t =>
      have hbody : (fun u => (contract (P := P)).openBody sender value t u) =
          fun u => openBody u sender value t := by
        funext u
        simp [BondedContract.openBody, openBody, contract]
      show nonReentrant (w.receiveValue value) (fun u => contract.openBody sender value t u) =
        nonReentrant (w.receiveValue value) (fun u => openBody u sender value t)
      rw [hbody]
    | _ => rfl
  rw [BondedContract.mode, hdispatch]
  rfl

/-! ## §2. Its law. -/

section Law

variable {R : World P → World P → Prop} {w w' : World P} {t : TokenId} {sender : Address}
  {rs : ℕ → Reply P AscendingStorage}

/-- A relation with the changes apart, as one with the side changes. -/
theorem sides_of_apart (hrefl : ∀ w, R w w) (htrans : ∀ {u v w}, R u v → R v w → R u w)
    (hA : ∀ {u v : World P}, Apart u v → R u v) : HasSides hooks (fun _ _ => True) R :=
  ⟨hrefl, htrans, fun h => hA h.apart⟩

omit [Erc721 P] in
theorem clearConsignment_apart (t : TokenId) (ph : Phase) : Apart w (clearConsignment w t ph) :=
  .of_same rfl rfl rfl rfl

/-- Clear the hold, split, close: the common tail of the exits. -/
theorem payHold_keeps {gross : ℕ} {reason : CloseReason}
    (hR : HasSides hooks (fun _ _ => True) R) (hA : ∀ {u v : World P}, Apart u v → R u v)
    (hr : ∀ i, Keeps R (rs i))
    (h : paySplit (setHold w t .empty) sender t gross reason (rs 0) (rs 1) (rs 2) = .ok w') :
    R w w' := by
  obtain ⟨-, split, u, -, hpaid, rfl⟩ := paySplit_keeps hR (hr 0) (hr 1) (hr 2) h
  have hcleared : R w (setHold w t .empty) := hA (.of_same rfl rfl rfl rfl)
  have hclosed : Apart u (close (u.emit sender (.consignmentSplitPaid t
      ((setHold w t .empty).com.consignments t).asset
      ((setHold w t .empty).com.consignments t).seller split.ownerAmount
      ((setHold w t .empty).com.consignments t).agent split.agentAmount
      u.com.platformRecipient split.platform)) sender t reason) := by
    have hannounced : Apart u (u.emit sender (.consignmentSplitPaid t
        ((setHold w t .empty).com.consignments t).asset
        ((setHold w t .empty).com.consignments t).seller split.ownerAmount
        ((setHold w t .empty).com.consignments t).agent split.agentAmount
        u.com.platformRecipient split.platform)) := (Apart.refl u).emit rfl
    exact (hannounced.trans (clearConsignment_apart _ _)).emit rfl
  exact hR.trans (hR.trans hcleared hpaid) (hA hclosed)

theorem challengeTerminal_keeps (hR : HasSides hooks (fun _ _ => True) R)
    (hA : ∀ {u v : World P}, Apart u v → R u v) (hr : ∀ i, Keeps R (rs i))
    (h : challengeTerminal w sender t rs = .ok w') : R w w' := by
  simp only [challengeTerminal, bind_ok] at h
  obtain ⟨hold, -, hpay⟩ := h
  exact payHold_keeps hR hA hr hpay

/-- Clear the lot, hand the passport over, announce it. -/
theorem terminate_keeps {reason : CloseReason} (hR : HasSides hooks (fun _ _ => True) R)
    (hA : ∀ {u v : World P}, Apart u v → R u v) {r : Reply P AscendingStorage} (hr : Keeps R r)
    (h : terminateToOwner hooks w sender t reason r = .ok w') : R w w' := by
  obtain ⟨u, hu, rfl⟩ := terminateToOwner_keeps hR hr h
  have hcleared : R w (clearConsignment w t .returned) := hA (clearConsignment_apart t _)
  exact hR.trans (hR.trans hcleared hu) (hA ((Apart.refl u).emit rfl))

theorem baseBody_keeps {c : BaseCall} (hR : HasSides hooks (fun _ _ => True) R)
    (hA : ∀ {u v : World P}, Apart u v → R u v) (hr : ∀ i, Keeps R (rs i))
    (h : baseBody sender rs w c = .ok w') : R w w' := by
  have hfree : c.guarded = false → execBase hooks sender rs w c = .ok w' → R w w' := by
    intro hc he
    refine execBase_free_keeps hR (fun t _ hrec => ?_) hc he
    simp only [forceRecall, bind_ok, revertIf_ok, exists_const] at hrec
    obtain ⟨-, -, -, -, hterm⟩ := hrec
    have hset : R w (w.setRecallRequest t 0) := hA (.of_same rfl rfl rfl rfl)
    exact hR.trans hset (terminate_keeps hR hA (hr 0) hterm)
  cases c with
  | ownerWithdraw t =>
    simp only [baseBody, ownerWithdrawBody, bind_ok, revertIf_ok, exists_const] at h
    obtain ⟨-, -, -, hterm⟩ := h
    exact terminate_keeps hR hA (hr 0) hterm
  | agentWithdraw t =>
    simp only [baseBody, agentWithdrawBody, bind_ok, revertIf_ok, exists_const] at h
    obtain ⟨-, -, hterm⟩ := h
    exact terminate_keeps hR hA (hr 0) hterm
  | withdrawClaim asset => exact withdrawClaimBody_keeps hR (hr 0) h
  | _ => exact hfree rfl h

omit [Erc721 P] in
/-- `writeOpen` and the term snapshot. -/
theorem writeOpen_apart {owner agent asset : Address} {denomination : Denomination}
    {floor reserve duration protectionWindow : ℕ} {comp : Compensation} :
    Apart w (writeAuctionTerms (writeOpen w sender t owner agent asset denomination floor comp
      reserve) sender t duration protectionWindow reserve) := by
  have hopened : Apart w (writeOpen w sender t owner agent asset denomination floor comp reserve) :=
    .emit (.of_same rfl rfl rfl rfl) rfl
  refine hopened.trans ?_
  exact .emit (.of_same rfl rfl rfl rfl) (by rfl)

theorem bidBody_keeps {value amount : ℕ} (hR : HasSides hooks (fun _ _ => True) R)
    (hA : ∀ {u v : World P}, Apart u v → R u v) (hr : ∀ i, Keeps R (rs i))
    (h : bidBody w sender value t amount rs = .ok w') : R w w' := by
  simp only [bidBody, bind_ok, revertIf_ok, exists_const] at h
  obtain ⟨-, -, -, -, -, -, -, -, u, hu, v, hv, h⟩ := h
  have hpulled : R w u := by
    unfold pullBid at hu
    split at hu
    · simp only [bind_ok, revertIf_ok, exists_const, pure_ok] at hu
      obtain ⟨-, rfl⟩ := hu
      exact hR.refl _
    · simp only [bind_ok, revertIf_ok, exists_const] at hu
      exact pullErc20_keeps hR (hr 0) hu.2
  have hcommitted : R u v := by
    split at hv
    · simp only [enterCommittedNotOffered, bind_ok, revertIf_ok, exists_const, pure_ok] at hv
      obtain ⟨_, ⟨-, rfl⟩, rfl⟩ := hv
      exact hA (.of_same rfl rfl rfl rfl)
    · obtain rfl := pure_ok.mp hv
      exact hR.refl _
  set a := applyExtension v.env.now
    { v.ext.auction t with highestBidder := sender, highestBid := amount }
  have hplaced : R v ((setAuction v t a).emit sender (.bidPlaced t sender amount a.endsAt)) :=
    hA (.emit (.of_same rfl rfl rfl rfl) (by rfl))
  have hbid := hR.trans (hR.trans hpulled hcommitted) hplaced
  split at h
  · simp only [bind_ok, pure_ok] at h
    obtain ⟨x, hx, rfl⟩ := h
    exact hR.trans (hR.trans hbid (payOut_keeps hR (hr 1) hx)) (hA ((Apart.refl x).emit rfl))
  · obtain rfl := pure_ok.mp h
    exact hbid

theorem completeReversalBody_keeps (hR : HasSides hooks (fun _ _ => True) R)
    (hA : ∀ {u v : World P}, Apart u v → R u v) (hr : ∀ i, Keeps R (rs i))
    (h : completeReversalBody w sender t rs = .ok w') : R w w' := by
  simp only [completeReversalBody, bind_ok, revertIf_ok, exists_const, pure_ok] at h
  obtain ⟨hold, -, -, -, _, -, -, u, hu, v, hv, x, hx, rfl⟩ := h
  have hcleared : R w (setHold w t .empty) := hA (.of_same rfl rfl rfl rfl)
  have htaken := hR.trans hcleared (takeCustody_keeps hR hu)
  have hpaid := hR.trans htaken (payOut_keeps hR (hr 0) hv)
  have hreturned := hR.trans hpaid (terminate_keeps hR hA (hr 1) hx)
  exact hR.trans hreturned (hA ((Apart.refl x).emit rfl))

/-- **Nothing of the mode's own touches a bond.** -/
theorem ownBody_keeps {value : ℕ} {c : Call} (hR : HasSides hooks (fun _ _ => True) R)
    (hA : ∀ {u v : World P}, Apart u v → R u v) (hr : ∀ i, Keeps R (rs i))
    (h : ownBody sender value c rs w = .ok w') : R w w' := by
  cases c with
  | base c => exact baseBody_keeps hR hA hr h
  | setChallengeBond b =>
    simp only [ownBody, setChallengeBond, bind_ok, pure_ok] at h
    obtain ⟨-, -, -, -, rfl⟩ := h
    exact hA (.emit (.of_same rfl rfl rfl rfl) (by rfl))
  | approvePaymentToken token =>
    simp only [ownBody, approvePaymentToken, bind_ok, revertIf_ok, exists_const, pure_ok] at h
    obtain ⟨-, -, -, u, hu, -, -, rfl⟩ := h
    have hprobed : R w u := requireConforming_keeps hR (hr 0) hu
    exact hR.trans hprobed (hA (.emit (.of_same rfl rfl rfl rfl) (by rfl)))
  | revokePaymentToken token =>
    simp only [ownBody, revokePaymentToken, bind_ok, revertIf_ok, exists_const, pure_ok] at h
    obtain ⟨-, rfl⟩ := h
    exact hA (.emit (.of_same rfl rfl rfl rfl) (by rfl))
  | openAscendingDirect t asset reserve duration protectionWindow =>
    simp only [ownBody, openAscendingDirectBody, bind_ok, revertIf_ok, exists_const, pure_ok] at h
    obtain ⟨-, -, owner, -, -, -, -, -, -, -, -, -, -, u, hu, rfl⟩ := h
    exact hR.trans (takeCustody_keeps hR hu) (hA writeOpen_apart)
  | openAscendingFromMandate t reserve duration protectionWindow =>
    simp only [ownBody, openAscendingFromMandateBody, bind_ok, revertIf_ok, exists_const,
      pure_ok] at h
    obtain ⟨-, -, m, -, -, owner, -, -, -, -, -, -, -, -, -, -, -, u, hu, rfl⟩ := h
    exact hR.trans (takeCustody_keeps hR hu) (hA writeOpen_apart)
  | bid t amount => exact bidBody_keeps hR hA hr h
  | settle t =>
    simp only [ownBody, settleBody, bind_ok, revertIf_ok, orRevert_ok, exists_const, pure_ok] at h
    obtain ⟨-, -, -, -, p, -, rfl⟩ := h
    have hmoved : Apart w ((setAuction w t .empty).moved .self .self
        (w.ext.auction t).highestBidder t p) := .emit (.of_same rfl rfl rfl rfl) rfl
    exact hA (hmoved.trans (.emit (.of_same rfl rfl rfl rfl) (by rfl)))
  | confirmReceipt t =>
    simp only [ownBody, confirmReceiptBody, bind_ok, revertIf_ok, exists_const, pure_ok] at h
    obtain ⟨hold, -, -, -, -, u, hpay, rfl⟩ := h
    exact hR.trans (payHold_keeps hR hA hr hpay) (hA ((Apart.refl u).emit rfl))
  | releaseFunds t =>
    simp only [ownBody, releaseFundsBody, bind_ok, revertIf_ok, exists_const, pure_ok] at h
    obtain ⟨hold, -, -, -, -, u, hpay, rfl⟩ := h
    exact hR.trans (payHold_keeps hR hA hr hpay) (hA ((Apart.refl u).emit rfl))
  | completeReversal t => exact completeReversalBody_keeps hR hA hr h
  | abandonReversal t =>
    simp only [ownBody, abandonReversalBody, bind_ok, revertIf_ok, exists_const, pure_ok] at h
    obtain ⟨hold, -, -, -, u, hpay, rfl⟩ := h
    exact hR.trans (payHold_keeps hR hA hr hpay) (hA ((Apart.refl u).emit rfl))
  | «open» | withdraw | judge | conclude => cases h

theorem contract_law : (contract (P := P)).Law where
  beforeOpen h := by
    simp only [contract, freezeForChallenge, bind_ok, revertIf_ok, exists_const, pure_ok] at h
    obtain ⟨hold, -, -, -, -, rfl⟩ := h
    exact .of_same rfl rfl rfl rfl
  afterOpen w _ _ := .refl w
  onUpheld h := by
    obtain rfl := Except.ok.inj h
    exact .emit (.of_same rfl rfl rfl rfl) rfl
  onWithdrawn h := by
    obtain rfl := Except.ok.inj h
    exact .of_same rfl rfl rfl rfl
  onRejected hrefl htrans hA hr h :=
    challengeTerminal_keeps (sides_of_apart hrefl htrans hA) hA hr h
  onExpired hrefl htrans hA hr h :=
    challengeTerminal_keeps (sides_of_apart hrefl htrans hA) hA hr h
  body hrefl htrans hA hr h := ownBody_keeps (sides_of_apart hrefl htrans hA) hA hr h

/-- **The books of the auction's bonds are in order** in every reachable state. -/
theorem auction_books (h : Reachable mode.step (fun w : World P => Genesis w ∧ 0 < w.env.now) w) :
    BooksLaw w := by
  rw [← contract_mode] at h
  obtain ⟨g, as, ⟨hg, hpos⟩, hr⟩ := h
  have hgenesis : BondedGenesis g := by
    obtain ⟨env, pr, fee, fr, bond, window, own, gd, w₀, b, tb, -, hinit, rfl⟩ := hg
    simp only [initializeStorage, bind_ok, revertIf_ok, pure_ok, exists_const] at hinit
    obtain ⟨-, -, _, -, -, -, -, -, rfl⟩ := hinit
    exact ⟨hpos, rfl, rfl, rfl, rfl⟩
  obtain ⟨⟨g', hg', hmoves⟩, -⟩ := reachable_moves contract_law ⟨g, as, hgenesis, hr⟩
  exact (BooksLaw.init hg').moves hmoves

end Law

end Kargain.Evm.Ascending
