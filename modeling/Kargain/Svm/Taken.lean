/-
  Kargain.Svm.Taken — what an instruction takes out of an account.

  Lamports a program takes out of its accounts, and tokens it signs for,
  are on record in the instruction.  `taken e` adds up what was taken out
  of `e` or by its authority; there is one lemma for each operation of
  the modes.
-/
import Kargain.Svm.Modes

namespace Kargain.Svm

open Kargain.Accounts

def debitOf (e : Pubkey) : Debit Pubkey → ℕ
  | .lamports source amount => if source = e then amount else 0
  | .tokens _ authority amount => if authority = e then amount else 0

/-- Out of `e`, or by its authority. -/
def taken (e : Pubkey) (w : Exec) : ℕ := (w.debits.map (debitOf e)).sum

section Taken

variable {P : Platform} {p : Pubkey} {x : Call} {w w' : Exec} {e k payer : Pubkey} {space n : ℕ}
  {d : Data}

theorem taken_start {L : Ledger} : taken e (Exec.start L) = 0 := rfl

theorem taken_congr (h : w'.debits = w.debits) : taken e w' = taken e w := by
  unfold taken
  rw [h]

theorem taken_record {b : Debit Pubkey} : taken e (w.record b) = debitOf e b + taken e w := by
  simp [taken, Exec.record]

theorem taken_move {src dst : Pubkey} :
    taken e (w.move src dst n) = (if src = e then n else 0) + taken e w := by
  simp [taken, Exec.move, Exec.record, Exec.setLamports, Exec.set, debitOf]

theorem taken_store {R : Type} [Record Data R] {r : R}
    (h : w.store k r = (.ok w' : Except Error Exec)) : taken e w' = taken e w := by
  obtain ⟨-, rfl⟩ := store_ok h
  rfl

theorem taken_createPda {owner : Pubkey}
    (h : createPda P p x w payer k owner space d = .ok w') : taken e w' = taken e w :=
  taken_congr (invoke_ok h).2

theorem taken_ensurePda {owner : Pubkey}
    (h : ensurePda P p x w payer k owner space d = .ok w') : taken e w' = taken e w := by
  unfold ensurePda at h
  split at h
  · exact taken_createPda h
  · obtain rfl : w = w' := Except.ok.inj h
    rfl

theorem taken_payNative {src dst : Pubkey} (h : payNative p x w src dst n = .ok w') :
    taken e w' = taken e w :=
  taken_congr (payNative_ok h).1

theorem taken_invokeToken {tp : Pubkey} {seeds : List Pubkey} {ix : TokenInstruction}
    (h : invokeToken P p x w tp seeds ix = .ok w') : taken e w' = taken e w :=
  taken_congr (invoke_ok h).2

theorem taken_transferV1 {seeds : List Pubkey} {asset authority newOwner coreProgram : Pubkey}
    (h : transferV1 P p x w seeds asset payer authority newOwner coreProgram = .ok w') :
    taken e w' = taken e w := by
  simp only [transferV1, bind_ok, require_ok, exists_const] at h
  exact taken_congr (invoke_ok h.2).2

theorem taken_payNativeFromPda {src dst : Pubkey} (h : payNativeFromPda w src dst n = .ok w') :
    taken e w' = (if src = e then n else 0) + taken e w := by
  rcases payNativeFromPda_ok h with ⟨rfl, rfl⟩ | ⟨-, -, rfl⟩
  · simp
  · exact taken_move

theorem taken_closePda {recipient : Pubkey} (hk : k ≠ e) :
    taken e (closePda w k recipient) = taken e w := by
  have h : taken e (closePda w k recipient) = taken e (w.move k recipient (w.ledger k).lamports) := rfl
  rw [h, taken_move, if_neg hk, Nat.zero_add]

/-! ## §1. Answers. -/

theorem taken_openObligation {leave open' : Pubkey} {seedPrefix : List ℕ} {t : TokenId}
    (h : openObligation P p x w payer leave open' seedPrefix t = .ok w') :
    taken e w' = taken e w := by
  simp only [openObligation, createAnswerPda, bind_ok] at h
  obtain ⟨_, -, _, -, _, -, w₁, ⟨_, -, _, -, _, -, h₁⟩, ⟨_, -, _, -, _, -, h₂⟩⟩ := h
  exact (taken_createPda h₂).trans (taken_createPda h₁)

theorem taken_closeAnswer {answer funder : Pubkey} (hk : answer ≠ e) :
    taken e (closeAnswerAccountToFunder w answer funder) = taken e w := by
  have h : taken e (closeAnswerAccountToFunder w answer funder) =
      taken e (w.move answer funder (w.ledger answer).lamports) := rfl
  rw [h, taken_move, if_neg hk, Nat.zero_add]

theorem taken_closeObligation {funder leave open' : Pubkey} {seedPrefix : List ℕ} {t : TokenId}
    (he : ∀ s, e ≠ .pda p s) (h : closeObligation p x w funder leave open' seedPrefix t = .ok w') :
    taken e w' = taken e w := by
  simp only [closeObligation, bind_ok, require_ok, pure_ok, exists_const] at h
  obtain ⟨_, -, _, hl, _, ho, -, -, -, rfl⟩ := h
  obtain rfl := verifyAnswerForClose_key hl
  obtain rfl := verifyAnswerForClose_key ho
  rw [taken_closeAnswer (he _).symm, taken_closeAnswer (he _).symm]

/-! ## §2. Payouts. -/

theorem taken_transferFromEscrow {src : SplSource} {destination : Pubkey}
    (h : transferFromEscrow P p x w src destination n = .ok w') :
    taken e w' = (if src.escrowAuth = e then n else 0) + taken e w := by
  simp only [transferFromEscrow, bind_ok, pure_ok] at h
  obtain ⟨w₁, h₁, rfl⟩ := h
  rw [taken_record, taken_invokeToken h₁]
  rfl

theorem taken_ensureClaim {initProgram claim claimAta mint tokenProgram recipient : Pubkey}
    (h : ensureClaim P p x w initProgram payer claim claimAta mint tokenProgram recipient = .ok w') :
    taken e w' = taken e w := by
  simp only [ensureClaim, ensureClaimRecord, ensureClaimAta, bind_ok] at h
  obtain ⟨w₁, h₁, h⟩ := h
  have hrecord : taken e w₁ = taken e w := by
    split at h₁
    · obtain ⟨w₂, h₂, hs⟩ := bind_ok.mp h₁
      exact (taken_store hs).trans (taken_createPda h₂)
    · obtain rfl : w = w₁ := Except.ok.inj h₁
      rfl
  rw [← hrecord]
  split at h
  · simp only [bind_ok, require_ok, exists_const] at h
    obtain ⟨w₂, h₂, -, h₃⟩ := h
    exact (taken_invokeToken h₃).trans (taken_createPda h₂)
  · obtain rfl : w₁ = w' := Except.ok.inj h
    rfl

theorem taken_paySplLegSigned {initProgram : Pubkey} {src : SplSource}
    {recipientWallet recipientAta claim claimAta : Pubkey}
    (h : paySplLegSigned P p x w initProgram payer src recipientWallet recipientAta claim claimAta
      n = .ok w') : taken e w' = (if src.escrowAuth = e then n else 0) + taken e w := by
  unfold paySplLegSigned at h
  split at h
  · rename_i hn
    obtain rfl : w = w' := Except.ok.inj h
    subst hn
    simp
  · simp only [bind_ok, require_ok, exists_const] at h
    obtain ⟨-, -, h⟩ := h
    split at h
    · obtain ⟨_, -, h⟩ := bind_ok.mp h
      exact taken_transferFromEscrow h
    · simp only [bind_ok] at h
      obtain ⟨w₁, h₁, _, -, w₂, h₂, _, -, h₃⟩ := h
      rw [taken_store h₃, taken_transferFromEscrow h₂, taken_ensureClaim h₁]

theorem taken_paySplLegAt {initProgram recipient : Pubkey} {src : SplSource} {i : ℕ}
    (h : paySplLegAt P p x w initProgram payer src i recipient n = .ok w') :
    taken e w' = (if src.escrowAuth = e then n else 0) + taken e w := by
  simp only [paySplLegAt, bind_ok] at h
  obtain ⟨_, -, _, -, _, -, h⟩ := h
  exact taken_paySplLegSigned h

/-- All that a split comes to. -/
def SplitResult.total (s : SplitResult) : ℕ := s.platform + s.ownerAmount + s.agentAmount

theorem taken_paySplLegs {initProgram : Pubkey} {src : SplSource} {i : ℕ} {r : Recipients}
    {split : SplitResult} (h : paySplLegs P p x w initProgram payer src i r split = .ok w') :
    taken e w' = (if src.escrowAuth = e then split.total else 0) + taken e w := by
  simp only [paySplLegs, bind_ok] at h
  obtain ⟨w₁, h₁, w₂, h₂, h₃⟩ := h
  have hplatform := taken_paySplLegAt (e := e) h₁
  have howner := taken_paySplLegAt (e := e) h₂
  unfold SplitResult.total
  split at h₃
  · rename_i hz
    obtain rfl := pure_ok.mp h₃
    rw [howner, hplatform, hz]
    split <;> omega
  · rw [taken_paySplLegAt h₃, howner, hplatform]
    split <;> omega

theorem taken_payNativeLegs {escrow : Pubkey} {r : Recipients} {split : SplitResult}
    (h : payNativeLegs w escrow r split = .ok w') :
    taken e w' = (if escrow = e then split.total else 0) + taken e w := by
  simp only [payNativeLegs, bind_ok] at h
  obtain ⟨w₁, h₁, w₂, h₂, h₃⟩ := h
  rw [taken_payNativeFromPda h₃, taken_payNativeFromPda h₂, taken_payNativeFromPda h₁]
  unfold SplitResult.total
  split <;> omega

theorem taken_pullSpl {W : AmountOffset} {i : ℕ} {asset buyer escrow : Pubkey} {src : SplSource}
    (h : pullSpl P p x w W i asset buyer escrow n = .ok (w', src)) : taken e w' = taken e w := by
  obtain ⟨_, -, -, -, -, -, -, hw, -⟩ := pullSpl_ok h
  exact taken_invokeToken hw

theorem taken_withdrawSplClaim (he : ∀ r m, e ≠ .claim p r m)
    (h : withdrawSplClaim P p x w = .ok w') : taken e w' = taken e w := by
  simp only [withdrawSplClaim, bind_ok, require_ok, pure_ok, exists_const] at h
  obtain ⟨recipient, -, claim, -, claimAta, -, destAta, -, mint, -, tokenProgram, -, -, rfl, rfl,
    c, -, -, _, -, w₁, h₁, w₂, h₂, rfl⟩ := h
  rw [taken_closePda (he _ _).symm, taken_invokeToken h₂, taken_record, taken_invokeToken h₁]
  simp [debitOf, (he recipient mint).symm]

end Taken

end Kargain.Svm
