/-
  Kargain.Svm.AscendingGate — what is held stays while a challenge stands.

  Only an instruction on a token takes anything out of that token's
  escrow, if it is handed the token's own accounts
  (`processInstruction_taken`).  A challenge that stands keeps all of them
  out but the two that end it.

  Confirmation and release read the challenge from the account they are
  handed, and an empty one is no challenge.

  Main result: `dispute_gate`.
-/
import Kargain.Svm.AscendingHolds
import Kargain.Svm.Taken

namespace Kargain.Svm.Ascending

open Kargain.Accounts

/-! ## §1. What is taken out of an escrow. -/

/-- The token whose escrow an instruction may draw on. -/
def Instruction.draws : Instruction → Option TokenId
  | .bid t _ | .confirmReceipt t | .releaseFunds t | .completeReversal t | .abandonReversal t
  | .judgeChallenge t _ | .concludeChallenge t => some t
  | _ => none

section Taken

variable {P : Platform} {W : AmountOffset} {x : Call} {now : ℕ} {w w' : Exec} {t u : TokenId}
  {ix : Instruction}

theorem escrow_ne_pda : ∀ s, escrowPda u ≠ .pda programId s := fun s h => by cases h

theorem taken_closeAnswersFromBinding {binding passportConfig funder leave openAnswer : Pubkey}
    (h : closeAnswersFromBinding x w binding passportConfig funder leave openAnswer t = .ok w') :
    taken (escrowPda u) w' = taken (escrowPda u) w := by
  simp only [closeAnswersFromBinding, bind_ok, Prod.exists] at h
  obtain ⟨q, -, seedPrefix, _, -, h⟩ := h
  exact taken_closeObligation escrow_ne_pda h

/-- The shared payout takes the gross out of the escrow handed in, and nothing else. -/
theorem taken_paySplitAndClose {idx : PaySplitIdx} {cfg : AscendingConfig} {gross : ℕ}
    (hk : x.keys[idx.escrow]? = some (escrowPda t))
    (h : paySplitAndClose P x w idx cfg t gross = .ok w') :
    taken (escrowPda u) w' = (if t = u then gross else 0) + taken (escrowPda u) w := by
  simp only [paySplitAndClose, bind_ok, account_ok, load_ok] at h
  obtain ⟨consignment, -, escrow, he, _, -, _, -, _, -, _, -, payer, -, c, -, split, hsplit, _, -, _,
    -, w₁, h₁, h₂⟩ := h
  obtain rfl : escrow = escrowPda t := Option.some.inj (he.symm.trans hk)
  have hsum : split.total = gross := computeSplitForLot_sum hsplit
  have hpaid : taken (escrowPda u) w₁ =
      (if escrowPda t = escrowPda u then split.total else 0) + taken (escrowPda u) w := by
    unfold paySplit at h₁
    split at h₁
    · exact taken_payNativeLegs h₁
    · simp only [paySplSplit, bind_ok] at h₁
      obtain ⟨_, -, _, -, _, -, h₁⟩ := h₁
      exact taken_paySplLegs h₁
  rw [taken_store h₂, hpaid, hsum]
  simp

/-- A hold let go of: the gross is taken out of the token's escrow. -/
theorem taken_payOut {r : HoldRecord} {hold binding passportConfig funder leave openAnswer : Pubkey}
    {idx : PaySplitIdx} {cfg : AscendingConfig} {gross : ℕ} {w₁ w₂ : Exec}
    (hk : x.keys[idx.escrow]? = some (escrowPda t))
    (h₁ : w.store hold r = (.ok w₁ : Except Error Exec))
    (h₂ : closeAnswersFromBinding x w₁ binding passportConfig funder leave openAnswer t = .ok w₂)
    (h₃ : paySplitAndClose P x w₂ idx cfg t gross = .ok w') :
    taken (escrowPda u) w' = (if t = u then gross else 0) + taken (escrowPda u) w := by
  rw [taken_paySplitAndClose hk h₃, taken_closeAnswersFromBinding h₂, taken_store h₁]

theorem taken_writeAuctionTerms {payer auction : Pubkey} {duration window : ℕ}
    (h : writeAuctionTerms P x w payer auction t duration window = .ok w') :
    taken (escrowPda u) w' = taken (escrowPda u) w := by
  simp only [writeAuctionTerms, bind_ok] at h
  obtain ⟨_, -, w₁, h₁, h₂⟩ := h
  rw [taken_store h₂, taken_ensurePda h₁]

theorem taken_openAscendingDirect {mint : Pubkey} {reserve duration window : ℕ}
    (h : openAscendingDirect P x now w t mint reserve duration window = .ok w') :
    taken (escrowPda u) w' = taken (escrowPda u) w := by
  simp only [openAscendingDirect, bind_ok, Prod.exists] at h
  obtain ⟨seller, -, config, -, _, -, cfg, -, _, -, paymentTok, i, -, _, -, o, -, owner, -, _, -,
    _, -, _, -, w₁, h₁, w₂, h₂, w₃, h₃, h₄⟩ := h
  rw [taken_writeAuctionTerms h₄, taken_store h₃, taken_transferV1 (transferOwnerToCustody_ok h₂).2,
    taken_ensurePda (ensureConsignmentAccount_ok h₁).2]

theorem taken_openAscendingFromMandate {reserve duration window : ℕ}
    (h : openAscendingFromMandate P x now w t reserve duration window = .ok w') :
    taken (escrowPda u) w' = taken (escrowPda u) w := by
  simp only [openAscendingFromMandate, bind_ok, Prod.exists] at h
  obtain ⟨agent, -, config, -, mandate, -, _, -, cfg, -, _, -, m, -, _, -, _, -, _, -, paymentTok, i,
    -, _, -, o, -, _, -, _, -, _, -, _, -, _, -, seller, -, w₁, h₁, w₂, h₂, w₃, h₃, h₄⟩ := h
  rw [taken_writeAuctionTerms h₄, taken_store h₃,
    taken_transferV1 (transferDelegateToCustody_ok h₂).2,
    taken_ensurePda (ensureConsignmentAccount_ok h₁).2]

theorem taken_pullBid {amount : ℕ} {asset bidder escrow : Pubkey} {src : Option SplSource}
    (h : pullBid P W x w asset bidder escrow amount = .ok (w', src)) :
    taken (escrowPda u) w' = taken (escrowPda u) w ∧ ∀ s ∈ src, s.escrowAuth = escrow := by
  unfold pullBid at h
  split at h
  · simp only [bind_ok, pure_ok] at h
    obtain ⟨w₁, h₁, he⟩ := h
    obtain ⟨rfl, rfl⟩ := Prod.mk.inj he
    exact ⟨taken_payNative h₁, fun s hs => by cases hs⟩
  · simp only [bind_ok, pure_ok, Prod.exists] at h
    obtain ⟨w₁, src', h₁, he⟩ := h
    obtain ⟨rfl, rfl⟩ := Prod.mk.inj he
    refine ⟨taken_pullSpl h₁, fun s hs => ?_⟩
    obtain rfl := Option.some.inj hs
    obtain ⟨_, -, -, -, -, hauth, -⟩ := pullSpl_ok h₁
    exact hauth

/-- The last bid is paid back out of the escrow of the token. -/
theorem taken_refundBid {payer prev : Pubkey} {amount : ℕ} {src : Option SplSource} (hne : t ≠ u)
    (hsrc : ∀ s ∈ src, s.escrowAuth = escrowPda t)
    (h : refundBid P x w payer (escrowPda t) prev amount src = .ok w') :
    taken (escrowPda u) w' = taken (escrowPda u) w := by
  have hescrow : escrowPda t ≠ escrowPda u := by simpa using hne
  unfold refundBid at h
  split at h
  · obtain rfl : w = w' := Except.ok.inj h
    rfl
  · cases src with
    | none =>
      simp only [bind_ok] at h
      obtain ⟨_, -, _, -, h⟩ := h
      rw [taken_payNativeFromPda h, if_neg hescrow, Nat.zero_add]
    | some src =>
      simp only [bind_ok] at h
      obtain ⟨_, -, _, -, h⟩ := h
      rw [taken_paySplLegAt h, hsrc src rfl, if_neg hescrow, Nat.zero_add]

theorem taken_bid {amount : ℕ} (hne : t ≠ u) (h : bid P W x now w t amount = .ok w') :
    taken (escrowPda u) w' = taken (escrowPda u) w := by
  simp only [bid, bind_ok, require_ok, exists_const, Prod.exists] at h
  obtain ⟨bidder, -, config, -, consignment, -, auction, -, hold, -, escrow, -, payer, -, -, cfg, -,
    _, -, active, -, _, -, -, c, -, -, _, -, _, -, -, a, -, _, -, _, -, rfl, w₁, h₁, w₂, src, h₂,
    w₃, h₃, w₄, h₄, h₅⟩ := h
  obtain ⟨hpulled, hsrc⟩ := taken_pullBid (u := u) h₂
  have hcommitted : taken (escrowPda u) w₃ = taken (escrowPda u) w₂ := by
    unfold commitLot at h₃
    split at h₃
    · obtain ⟨_, -, hs⟩ := bind_ok.mp h₃
      exact taken_store hs
    · obtain rfl : w₂ = w₃ := Except.ok.inj h₃
      rfl
  rw [taken_refundBid hne hsrc h₅, taken_store h₄, hcommitted, hpulled, taken_ensurePda h₁]

theorem taken_settle (h : settle P W x now w t = .ok w') :
    taken (escrowPda u) w' = taken (escrowPda u) w := by
  simp only [settle, bind_ok, require_ok, pure_ok, exists_const, Prod.exists] at h
  obtain ⟨_, -, consignment, -, auction, -, hold, -, binding, -, passportConfig, -, asset, -,
    custody, -, buyer, -, escrow, -, payer, -, coreProgram, -, leave, -, openAnswer, -, -, -, c, -,
    active, -, _, -, -, rfl, a, -, _, -, _, -, before, -, -, -, w₁, h₁, w₂, h₂, q, -,
    seedPrefix, _, -, w₃, h₃, w₄, h₄, -, _, -, rfl⟩ := h
  rw [taken_closePda (escrow_ne_pda _).symm, taken_openObligation h₄,
    taken_transferV1 (transferCustodyToRecipient_ok h₃).2.2, taken_store h₂, taken_ensurePda h₁]

/-- A confirmed receipt pays out what the hold of the token records. -/
theorem taken_confirmReceipt (hx : OwnAccounts x (.confirmReceipt t))
    (h : confirmReceipt P x w t = .ok w') : ∃ r : HoldRecord,
      (w.ledger (holdPda t)).data = .hold r ∧
      taken (escrowPda u) w' = (if t = u then r.gross else 0) + taken (escrowPda u) w := by
  simp only [confirmReceipt, bind_ok, account_ok, load_ok] at h
  obtain ⟨buyer, -, config, -, hold, h3, challenge, -, payer, -, binding, -, passportConfig, -,
    leave, -, openAnswer, -, funder, -, _, -, cfg, -, r, hr, _, -, _, -, active, -, _, -, _, -, w₁, h₁,
    w₂, h₂, h₃⟩ := h
  obtain rfl := hx.key (k := holdPda t) (by simp [Instruction.expects]) h3
  have hescrow : x.keys[5]? = some (escrowPda t) := hx (5, _) (by simp [Instruction.expects])
  exact ⟨r, hr, taken_payOut hescrow h₁ h₂ h₃⟩

theorem taken_releaseFunds (hx : OwnAccounts x (.releaseFunds t))
    (h : releaseFunds P x now w t = .ok w') : ∃ r : HoldRecord,
      (w.ledger (holdPda t)).data = .hold r ∧
      taken (escrowPda u) w' = (if t = u then r.gross else 0) + taken (escrowPda u) w := by
  simp only [releaseFunds, bind_ok, account_ok, load_ok] at h
  obtain ⟨_, -, config, -, hold, h3, challenge, -, payer, -, binding, -, passportConfig, -,
    leave, -, openAnswer, -, funder, -, _, -, cfg, -, r, hr, _, -, active, -, _, -, _, -, _, -, w₁, h₁,
    w₂, h₂, h₃⟩ := h
  obtain rfl := hx.key (k := holdPda t) (by simp [Instruction.expects]) h3
  have hescrow : x.keys[5]? = some (escrowPda t) := hx (5, _) (by simp [Instruction.expects])
  exact ⟨r, hr, taken_payOut hescrow h₁ h₂ h₃⟩

theorem taken_abandonReversal (hx : OwnAccounts x (.abandonReversal t))
    (h : abandonReversal P x now w t = .ok w') : ∃ r : HoldRecord,
      (w.ledger (holdPda t)).data = .hold r ∧
      taken (escrowPda u) w' = (if t = u then r.gross else 0) + taken (escrowPda u) w := by
  simp only [abandonReversal, bind_ok, account_ok, load_ok] at h
  obtain ⟨_, -, config, -, hold, h3, payer, -, binding, -, passportConfig, -, leave, -,
    openAnswer, -, funder, -, _, -, cfg, -, r, hr, _, -, _, -, _, -, w₁, h₁, w₂, h₂, h₃⟩ := h
  obtain rfl := hx.key (k := holdPda t) (by simp [Instruction.expects]) h3
  have hescrow : x.keys[4]? = some (escrowPda t) := hx (4, _) (by simp [Instruction.expects])
  exact ⟨r, hr, taken_payOut hescrow h₁ h₂ h₃⟩

theorem taken_repayBuyer {asset payer escrow buyer : Pubkey} {gross : ℕ}
    (hne : escrow ≠ escrowPda u)
    (h : repayBuyer P x w t asset payer escrow buyer gross = .ok w') :
    taken (escrowPda u) w' = taken (escrowPda u) w := by
  unfold repayBuyer at h
  split at h
  · rw [taken_payNativeFromPda h, if_neg hne, Nat.zero_add]
  · simp only [bind_ok] at h
    obtain ⟨_, -, _, -, _, -, _, -, _, -, _, -, _, -, h⟩ := h
    rw [taken_paySplLegSigned h, if_neg hne, Nat.zero_add]

theorem taken_completeReversal (hne : t ≠ u) (hx : OwnAccounts x (.completeReversal t))
    (h : completeReversal P x w t = .ok w') :
    taken (escrowPda u) w' = taken (escrowPda u) w := by
  have hescrow : escrowPda t ≠ escrowPda u := by simpa using hne
  simp only [completeReversal, bind_ok, account_ok, Prod.exists] at h
  obtain ⟨buyer, -, config, -, consignment, -, hold, -, binding, -, passportConfig, -, asset, -,
    seller, -, escrow, h8, _, -, payer, -, coreProgram, -, leave, -, openAnswer, -, funder, -, _, -,
    cfg, -, r, -, _, -, _, -, _, -, owner, -, _, -, c, -, _, -, w₁, h₁, q, -, seedPrefix, _, -, w₂, h₂,
    w₃, h₃, w₄, h₄, h₅⟩ := h
  obtain rfl := hx.key (k := escrowPda t) (by simp [Instruction.expects]) h8
  rw [taken_repayBuyer hescrow h₅, taken_store h₄, taken_closeObligation escrow_ne_pda h₃,
    taken_transferV1 (transferOwnerToRecipient_ok h₂).2, taken_store h₁]

theorem taken_openChallengeIx (h : openChallengeIx P x now w t = .ok w') :
    taken (escrowPda u) w' = taken (escrowPda u) w := by
  simp only [openChallengeIx, bind_ok] at h
  obtain ⟨challenger, -, config, -, consignment, -, hold, -, challenge, -, _, -, payer, -, _, -, cfg,
    -, c, -, r, -, r', -, _, -, w₁, h₁, account, -, w₂, h₂, w₃, h₃, h₄⟩ := h
  have hready : taken (escrowPda u) w₁ = taken (escrowPda u) w := by
    unfold readyChallenge at h₁
    split at h₁
    · exact taken_createPda h₁
    · simp only [bind_ok, pure_ok] at h₁
      obtain ⟨_, -, _, -, rfl⟩ := h₁
      rfl
  rw [taken_store h₄, taken_store h₃, taken_payNative h₂, hready]

/-- The bond is the challenge account's. -/
theorem taken_transferBondLamports {dst : Pubkey} {amount : ℕ}
    (h : transferBondLamports w (challengePda programId t) dst amount = .ok w') :
    taken (escrowPda u) w' = taken (escrowPda u) w := by
  obtain ⟨-, -, -, rfl⟩ := transferBondLamports_ok.mp h
  rw [taken_move, if_neg (escrow_ne_pda _).symm, Nat.zero_add]

theorem taken_withdrawChallengeIx (hx : OwnAccounts x (.withdrawChallenge t))
    (h : withdrawChallengeIx x now w = .ok w') :
    taken (escrowPda u) w' = taken (escrowPda u) w := by
  simp only [withdrawChallengeIx, bind_ok, account_ok, Prod.exists] at h
  obtain ⟨challenger, -, config, -, consignment, -, hold, -, challenge, h4, _, -, cfg, -, c, -, r, -,
    account, -, account', hooks, disposition, -, w₁, h₁, w₂, h₂, h₃⟩ := h
  obtain rfl := hx.key (k := challengePda programId t) (by simp [Instruction.expects]) h4
  rw [taken_store h₃, taken_store h₂, taken_transferBondLamports h₁]

theorem taken_settleChallenge {idx : PaySplitIdx} {cfg : AscendingConfig}
    {hold bondRecipient binding passportConfig funder leave openAnswer : Pubkey}
    {ended : ChallengeAccount × AscHooks × BondDisposition} (hne : t ≠ u)
    (hk : x.keys[idx.escrow]? = some (escrowPda t))
    (h : settleChallenge P x w idx cfg t hold (challengePda programId t) bondRecipient binding
      passportConfig funder leave openAnswer ended = .ok w') :
    taken (escrowPda u) w' = taken (escrowPda u) w := by
  obtain ⟨account, hooks, disposition⟩ := ended
  simp only [settleChallenge, bind_ok] at h
  obtain ⟨_, -, w₁, h₁, w₂, h₂, w₃, h₃, h₄⟩ := h
  have hstored : taken (escrowPda u) w₂ = taken (escrowPda u) w := by
    rw [taken_store h₂, taken_transferBondLamports h₁]
  split at h₄
  · obtain rfl := pure_ok.mp h₄
    rw [taken_store h₃, hstored]
  · obtain ⟨w₄, h₄, h₅⟩ := bind_ok.mp h₄
    rw [taken_payOut hk h₃ h₄ h₅, if_neg hne, Nat.zero_add, hstored]

theorem taken_judgeChallengeIx {outcome : ℕ} (hne : t ≠ u)
    (hx : OwnAccounts x (.judgeChallenge t outcome))
    (h : judgeChallengeIx P x now w t outcome = .ok w') :
    taken (escrowPda u) w' = taken (escrowPda u) w := by
  simp only [judgeChallengeIx, bind_ok, account_ok] at h
  obtain ⟨judge, -, config, -, consignment, -, hold, -, challenge, h4, bondRecipient, -, stake, -,
    stakingProgram, -, payer, -, binding, -, passportConfig, -, leave, -, openAnswer, -, funder, -,
    _, -, result, -, cfg, -, _, -, _, -, c, -, r, -, account, -, ended, -, hsettle⟩ := h
  obtain rfl := hx.key (k := challengePda programId t) (by simp [Instruction.expects]) h4
  exact taken_settleChallenge hne (hx (8, _) (by simp [Instruction.expects])) hsettle

theorem taken_concludeChallengeIx (hne : t ≠ u) (hx : OwnAccounts x (.concludeChallenge t))
    (h : concludeChallengeIx P x now w t = .ok w') :
    taken (escrowPda u) w' = taken (escrowPda u) w := by
  simp only [concludeChallengeIx, bind_ok, account_ok] at h
  obtain ⟨_, -, config, -, consignment, -, hold, -, challenge, h4, bondRecipient, -, payer, -,
    binding, -, passportConfig, -, leave, -, openAnswer, -, funder, -, _, -, cfg, -, c, -, r, -,
    account, -, ended, -, hsettle⟩ := h
  obtain rfl := hx.key (k := challengePda programId t) (by simp [Instruction.expects]) h4
  exact taken_settleChallenge hne (hx (6, _) (by simp [Instruction.expects])) hsettle

theorem taken_amendConfig {amend : AscendingConfig → Except Error AscendingConfig}
    (h : amendConfig x w amend = .ok w') : taken (escrowPda u) w' = taken (escrowPda u) w := by
  simp only [amendConfig, bind_ok] at h
  obtain ⟨_, -, _, -, cfg, -, _, -, cfg', -, h⟩ := h
  exact taken_store h

/-- **Escrows apart.**  On the tokens' own accounts nothing is taken out of an escrow but by
    an instruction that draws on it. -/
theorem processInstruction_taken (hx : OwnAccounts x ix) (hne : ix.draws ≠ some u)
    (h : processInstruction P W now x w ix = .ok w') :
    taken (escrowPda u) w' = taken (escrowPda u) w := by
  have apart : ∀ {t}, ix.draws = some t → t ≠ u := fun ht he => hne (ht.trans (congrArg some he))
  -- the other half of a taken amount, for a token that is not drawn on
  have other : ∀ {t n}, ix.draws = some t →
      taken (escrowPda u) w' = (if t = u then n else 0) + taken (escrowPda u) w →
      taken (escrowPda u) w' = taken (escrowPda u) w := by
    intro t n ht h
    rw [h, if_neg (apart ht), Nat.zero_add]
  cases ix with
  | initConfig =>
    simp only [processInstruction, initConfig, bind_ok] at h
    obtain ⟨_, -, config, -, _, -, _, -, _, -, _, -, _, -, _, -, _, -, _, -, _, -, _, -, _, -, _, -,
      _, -, w₁, h₁, h₂⟩ := h
    rw [taken_store h₂, taken_createPda h₁]
  | retired => cases h
  | grant =>
    simp only [processInstruction, grant, Svm.grant, bind_ok] at h
    obtain ⟨_, -, _, -, _, -, _, -, _, -, _, -, _, -, _, -, _, -, _, -, _, -, _, -, _, -, _, -, _, -,
      _, -, _, -, _, -, w₁, h₁, h₂⟩ := h
    rw [taken_store h₂, taken_ensurePda h₁]
  | revoke =>
    simp only [processInstruction, revoke, Svm.revoke, bind_ok] at h
    obtain ⟨_, -, _, -, _, -, _, -, _, -, _, -, _, -, _, -, _, -, _, -, _, -, _, -, h⟩ := h
    exact taken_store h
  | openDirect => cases h
  | openFromMandate => cases h
  | setPrice => cases h
  | openAscendingDirect t => exact taken_openAscendingDirect h
  | openAscendingFromMandate t => exact taken_openAscendingFromMandate h
  | bid t => exact taken_bid (apart rfl) h
  | settle t => exact taken_settle h
  | confirmReceipt t =>
    obtain ⟨r, -, htaken⟩ := taken_confirmReceipt hx h
    exact other rfl htaken
  | releaseFunds t =>
    obtain ⟨r, -, htaken⟩ := taken_releaseFunds hx h
    exact other rfl htaken
  | completeReversal t => exact taken_completeReversal (apart rfl) hx h
  | abandonReversal t =>
    obtain ⟨r, -, htaken⟩ := taken_abandonReversal hx h
    exact other rfl htaken
  | openChallenge t => exact taken_openChallengeIx h
  | withdrawChallenge t => exact taken_withdrawChallengeIx hx h
  | judgeChallenge t => exact taken_judgeChallengeIx (apart rfl) hx h
  | concludeChallenge t => exact taken_concludeChallengeIx (apart rfl) hx h
  | approvePaymentToken =>
    simp only [processInstruction, approvePaymentToken, bind_ok] at h
    obtain ⟨_, -, _, -, mint, -, token, -, _, -, _, -, _, -, cfg, -, _, -, decimals, -, _, -, w₁, h₁,
      h₂⟩ := h
    rw [taken_store h₂, taken_ensurePda h₁]
  | revokePaymentToken =>
    simp only [processInstruction, revokePaymentToken, bind_ok] at h
    obtain ⟨_, -, _, -, _, -, _, -, cfg, -, _, -, _, -, record, -, h⟩ := h
    exact taken_store h
  | pause =>
    simp only [processInstruction, pause, bind_ok] at h
    obtain ⟨_, -, _, -, _, -, _, -, cfg, -, _, -, h⟩ := h
    exact taken_store h
  | unpause => exact taken_amendConfig h
  | setChallengeBond => exact taken_amendConfig h
  | withdrawClaim => exact taken_withdrawSplClaim (fun _ _ he => by cases he) h
  | forceAuctionEndsAt =>
    simp only [processInstruction, forceAuctionEndsAt, bind_ok] at h
    obtain ⟨_, -, _, -, auction, -, cfg, -, _, -, _, -, a, -, h⟩ := h
    exact taken_store h
  | forceHoldClock =>
    simp only [processInstruction, forceHoldClock, bind_ok] at h
    obtain ⟨_, -, _, -, hold, -, cfg, -, _, -, _, -, r, -, h⟩ := h
    exact taken_store h
  | bindPassportProgram =>
    simp only [processInstruction, bindPassportProgram, Svm.bindPassportProgram, bind_ok] at h
    obtain ⟨_, -, _, -, binding, -, q, -, _, -, _, -, _, -, _, -, _, -, _, -, _, -, w₁, h₁, h₂⟩ := h
    rw [taken_store h₂, taken_createPda h₁]
  | setGuardian => exact taken_amendConfig h

end Taken

/-! ## §2. While a challenge stands. -/

section Gate

variable {P : Platform} {W : AmountOffset} {x : Call} {now : ℕ} {t : TokenId} {ix : Instruction}
  {d d' : Desk} {s s' : System}

/-- Under a challenge, a move that draws on the escrow ends the challenge. -/
theorem Move.ends_dispute (hm : Move now t ix d d') (hs : Settled d) (hd : d.Disputed)
    (hdraws : ix.draws = some t) : ¬ d'.Disputed := by
  cases hm with
  | openDirect => cases hdraws
  | openFromMandate => cases hdraws
  | bid hfree hlot hc ha => exact absurd (hs.disputed_held hd) hfree
  | settle => cases hdraws
  | confirm hhold hactive hlot hcalm hkept => exact absurd hd hcalm
  | release hhold hactive hlot hcalm hkept hdue => exact absurd hd hcalm
  | complete hhold hactive hlot hreversal => exact absurd hd (hs.calm_of_reversal hhold hreversal)
  | abandon hhold hactive hlot hreversal hdue =>
    exact absurd hd (hs.calm_of_reversal hhold hreversal)
  | openChallenge => cases hdraws
  | withdraw => cases hdraws
  | uphold => exact not_disputed_cleared
  | reject => exact not_disputed_cleared
  | conclude => exact not_disputed_cleared
  | forceEndsAt => cases hdraws
  | forceClock => cases hdraws

theorem desk_of_draws (h : ix.draws = some t) : ix.desk = some t := by
  cases ix <;> first | exact h | cases h

/-- What an accepted instruction may do while a challenge stands on `t`. -/
structure Gated (P : Platform) (W : AmountOffset) (t : TokenId) (s : System) (x : Call)
    (ix : Instruction) (s' : System) : Prop where
  notConfirmed : ix ≠ .confirmReceipt t
  notReleased : ix ≠ .releaseFunds t
  /-- nothing is taken out of the escrow as long as the challenge stands -/
  kept : ∀ w', processInstruction P W s.now x (Exec.start s.ledger) ix = .ok w' →
    (deskAt s'.ledger t).Disputed → taken (escrowPda t) w' = 0

theorem Inv.gated (hi : Inv s) (hx : OwnAccounts x ix) (hd : (deskAt s.ledger t).Disputed)
    (h : step P W s (.instruction x ix) = .ok s') : Gated P W t s x ix s' := by
  have ht : Tied s (.instruction x ix) := hx
  obtain ⟨-, hturn⟩ := step_turn hi.seated ht h
  have hlaw := hturn t
  refine ⟨?_, ?_, fun w' hw hd' => ?_⟩
  · rintro rfl
    generalize deskAt s'.ledger t = d' at hlaw
    cases hlaw with
    | same hne => exact hne x _ rfl rfl
    | move hix hm =>
      cases hm with
      | confirm hhold hactive hlot hcalm hkept => exact hcalm hd
  · rintro rfl
    generalize deskAt s'.ledger t = d' at hlaw
    cases hlaw with
    | same hne => exact hne x _ rfl rfl
    | move hix hm =>
      cases hm with
      | release hhold hactive hlot hcalm hkept hdue => exact hcalm hd
  · by_cases hdraws : ix.draws = some t
    · generalize deskAt s'.ledger t = d' at hlaw hd'
      cases hlaw with
      | same hne => exact absurd (desk_of_draws hdraws) (hne x _ rfl)
      | move hix hm => exact absurd hd' (hm.ends_dispute (hi.settled t) hd hdraws)
    · rw [processInstruction_taken hx hdraws hw]
      exact taken_start

end Gate

/-! ## §3. Over runs. -/

/-- **The gate**, in every run on the tokens' own accounts: while a challenge stands on `t`,
    nothing held for it is let go. -/
theorem dispute_gate (P : Platform) (W : AmountOffset) {t : TokenId} {s₀ s s' : System}
    {as : List Action} {x : Call} {ix : Instruction} (h0 : Genesis s₀)
    (hok : Along (step P W) Tied s₀ (as ++ [.instruction x ix]))
    (hr : run (step P W) s₀ as = .ok s) (hd : (deskAt s.ledger t).Disputed)
    (h : step P W s (.instruction x ix) = .ok s') : Gated P W t s x ix s' := by
  have hi : Inv s := run_invariant_along (fun _ _ _ hi ht hs => step_inv hi ht hs) h0.inv
    hok.of_append hr
  exact hi.gated (hok.last hr) hd h

/-- Passport 1 is sold and the payment challenged. -/
def disputedOne : List Action := soldOne ++ [challenges 1]

/-- Under the challenge wallet 3 withdraws it, on the accounts of passport 1. -/
def withdrawing : Call :=
  let keys := [.key 3, configPda programId, consignmentPda programId 1, holdPda 1,
    challengePda programId 1]
  ⟨keys, [.key 3], keys⟩

theorem dispute_gate_stand : ∃ s s', run (step .reference .reference) stand disputedOne = .ok s ∧
    Gated .reference .reference 1 s withdrawing (.withdrawChallenge 1) s' := by
  have hrun : run (step .reference .reference) stand disputedOne = .ok _ :=
    run_finalState (by decide +kernel)
  obtain ⟨s', hs⟩ := exists_of_isOk (r := step .reference .reference
    (finalState (step .reference .reference) stand disputedOne)
    (.instruction withdrawing (.withdrawChallenge 1))) (by decide +kernel)
  have hok : Along (step .reference .reference) Tied stand
      (disputedOne ++ [.instruction withdrawing (.withdrawChallenge 1)]) := by
    simp [disputedOne, soldOne, configured, opened, bids, settles, challenges, asked, withdrawing, Along,
      Tied, OwnAccounts, Instruction.expects]
  exact ⟨_, s', hrun, dispute_gate .reference .reference stand_genesis hok hrun (by decide +kernel) hs⟩

/-- The challenge account handed in is an empty one: the payment is released though it is
    challenged. -/
theorem gate_open : Genesis stand ∧ ∃ s s',
    run (step .reference .reference) stand
      (disputedOne ++ [.tick (100 + minDuration + minProtectionWindow)]) = .ok s ∧
    (deskAt s.ledger 1).Disputed ∧
    step .reference .reference s (.instruction (releasing 1 (holdPda 1) (.key 4))
      (.releaseFunds 1)) = .ok s' := by
  have hrun : run (step .reference .reference) stand
      (disputedOne ++ [.tick (100 + minDuration + minProtectionWindow)]) = .ok _ :=
    run_finalState (by decide +kernel)
  obtain ⟨s', hs⟩ := exists_of_isOk (r := step .reference .reference
    (finalState (step .reference .reference) stand
      (disputedOne ++ [.tick (100 + minDuration + minProtectionWindow)]))
    (.instruction (releasing 1 (holdPda 1) (.key 4)) (.releaseFunds 1))) (by decide +kernel)
  exact ⟨stand_genesis, _, s', hrun, by decide +kernel, hs⟩

end Kargain.Svm.Ascending
