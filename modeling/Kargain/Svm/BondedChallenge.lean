/-
  Kargain.Svm.BondedChallenge — crates/kargain-bonded-challenge.

  One challenge account per subject holds the challenger's bond.  The
  program that uses it says through its hooks who may challenge and judge
  and what an outcome does to the subject; `ChallengeHooks` is the trait,
  `σ` what an implementation of it keeps.

  The three ways a challenge ends all clear the account and run one hook:
  `withdrawChallenge_ok`, `judgeChallenge_ok`, `concludeChallenge_ok`.
-/
import Kargain.Svm.Types

namespace Kargain.Svm

open Kargain.Accounts

/-- `Upheld = 0`, `Rejected = 1`. -/
inductive JudgeOutcome
  | upheld
  | rejected
deriving DecidableEq

/-- What a program's config says about its challenges. -/
structure ChallengeConfig where
  forfeitRecipient : Pubkey
  windowDuration : ℕ
  configured : Bool

/-- Who is paid the bond when a challenge ends. -/
structure BondDisposition where
  recipient : Pubkey
  amount : ℕ

structure ChallengeHooks (σ : Type) where
  requiredBondAmount : σ → ℕ
  requireChallengeActionAllowed : σ → TokenId → Except Error Unit
  isEligibleChallenger : σ → TokenId → Pubkey → Bool
  isQualifiedJudge : σ → TokenId → Pubkey → Bool
  isExcludedJudge : σ → TokenId → Pubkey → Pubkey → Bool
  onUpheld : σ → TokenId → Pubkey → Pubkey → σ
  onRejected : σ → TokenId → Pubkey → Pubkey → σ
  onExpired : σ → TokenId → Pubkey → σ
  onWithdrawn : σ → TokenId → Pubkey → σ

namespace ChallengeAccount

variable (c : ChallengeAccount)

def isActive : Bool := c.openedAt ≠ 0

/-- `clear`: the subject stays, everything else goes. -/
def cleared : ChallengeAccount :=
  { c with openedAt := 0, bondAmount := 0, challenger := .zero, windowDuration := 0 }

@[simp] theorem cleared_isActive : c.cleared.isActive = false := rfl

/-- When the window of an active challenge ends. -/
def windowEnd : Except Error ℕ :=
  if c.openedAt + c.windowDuration ≤ u64Max then .ok (c.openedAt + c.windowDuration)
  else .error (KargainError.arithmeticOverflow : Error)

end ChallengeAccount

section Challenge

variable {σ : Type} (H : ChallengeHooks σ) (s : σ) (config : ChallengeConfig)

def openChallenge (subjectId : TokenId) (challenger : Pubkey) (value now : ℕ) :
    Except Error ChallengeAccount := do
  require (config.configured = true) (KargainError.challengeNotConfigured : Error)
  H.requireChallengeActionAllowed s subjectId
  require (H.isEligibleChallenger s subjectId challenger = true)
    (KargainError.notEligibleChallenger : Error)
  require (value = H.requiredBondAmount s) (KargainError.wrongValue : Error)
  pure ⟨subjectId, now, config.windowDuration, challenger, value⟩

def requireActive (c : ChallengeAccount) : Except Error Unit :=
  require (c.isActive = true) (KargainError.noActiveDispute : Error)

/-- Before the window ends the challenger takes the bond back. -/
def withdrawChallenge (c : ChallengeAccount) (caller : Pubkey) (now : ℕ) :
    Except Error (ChallengeAccount × σ × BondDisposition) := do
  H.requireChallengeActionAllowed s c.subjectId
  requireActive c
  require (c.challenger = caller) (KargainError.notDisputeOpener : Error)
  let windowEnd ← c.windowEnd
  revertIf (windowEnd ≤ now) (KargainError.disputeWindowElapsed : Error)
  pure (c.cleared, H.onWithdrawn s c.subjectId c.challenger, ⟨c.challenger, c.bondAmount⟩)

/-- The hook a judgment runs. -/
def onJudged (c : ChallengeAccount) (judge : Pubkey) : JudgeOutcome → σ
  | .upheld => H.onUpheld s c.subjectId c.challenger judge
  | .rejected => H.onRejected s c.subjectId c.challenger judge

/-- Before the window ends a judge decides who is paid the bond. -/
def judgeChallenge (c : ChallengeAccount) (judge : Pubkey) (outcome : JudgeOutcome) (now : ℕ) :
    Except Error (ChallengeAccount × σ × BondDisposition) := do
  H.requireChallengeActionAllowed s c.subjectId
  requireActive c
  let windowEnd ← c.windowEnd
  revertIf (windowEnd ≤ now) (KargainError.disputeWindowElapsed : Error)
  revertIf (H.isExcludedJudge s c.subjectId c.challenger judge = true)
    (KargainError.cannotResolveOwnDispute : Error)
  require (H.isQualifiedJudge s c.subjectId judge = true) (KargainError.notQualifiedJudge : Error)
  let recipient := match outcome with
    | .upheld => c.challenger
    | .rejected => config.forfeitRecipient
  revertIf (recipient = judge) (KargainError.cannotRouteBondToJudge : Error)
  pure (c.cleared, onJudged H s c judge outcome, ⟨recipient, c.bondAmount⟩)

/-- Once the window has ended the bond is forfeit. -/
def concludeChallenge (c : ChallengeAccount) (now : ℕ) :
    Except Error (ChallengeAccount × σ × BondDisposition) := do
  H.requireChallengeActionAllowed s c.subjectId
  requireActive c
  let windowEnd ← c.windowEnd
  revertIf (now < windowEnd) (KargainError.disputeWindowActive : Error)
  pure (c.cleared, H.onExpired s c.subjectId c.challenger,
    ⟨config.forfeitRecipient, c.bondAmount⟩)

variable {H s config} {c c' : ChallengeAccount} {s' : σ} {d : BondDisposition}
  {caller judge : Pubkey} {outcome : JudgeOutcome} {subjectId : TokenId} {value now : ℕ}

theorem openChallenge_ok (h : openChallenge H s config subjectId caller value now = .ok c) :
    H.requireChallengeActionAllowed s subjectId = .ok () ∧
      c = ⟨subjectId, now, config.windowDuration, caller, value⟩ := by
  simp only [openChallenge, bind_ok, require_ok, pure_ok, exists_const] at h
  obtain ⟨-, _, ha, -, -, hc⟩ := h
  exact ⟨ha, hc.symm⟩

theorem withdrawChallenge_ok (h : withdrawChallenge H s c caller now = .ok (c', s', d)) :
    H.requireChallengeActionAllowed s c.subjectId = .ok () ∧ c.isActive = true ∧
      c.challenger = caller ∧ c' = c.cleared ∧ s' = H.onWithdrawn s c.subjectId c.challenger := by
  simp only [withdrawChallenge, requireActive, bind_ok, require_ok, revertIf_ok, pure_ok,
    exists_const, Prod.mk.injEq] at h
  obtain ⟨_, ha, hact, hc, _, -, -, rfl, rfl, -⟩ := h
  exact ⟨ha, hact, hc, rfl, rfl⟩

theorem judgeChallenge_ok (h : judgeChallenge H s config c judge outcome now = .ok (c', s', d)) :
    H.requireChallengeActionAllowed s c.subjectId = .ok () ∧ c.isActive = true ∧
      H.isExcludedJudge s c.subjectId c.challenger judge = false ∧
      H.isQualifiedJudge s c.subjectId judge = true ∧ c' = c.cleared ∧
      s' = onJudged H s c judge outcome := by
  simp only [judgeChallenge, requireActive, bind_ok, require_ok, revertIf_ok, pure_ok,
    exists_const, Prod.mk.injEq, Bool.not_eq_true] at h
  obtain ⟨_, ha, hact, _, -, -, hex, hq, -, rfl, rfl, -⟩ := h
  exact ⟨ha, hact, hex, hq, rfl, rfl⟩

theorem concludeChallenge_ok (h : concludeChallenge H s config c now = .ok (c', s', d)) :
    H.requireChallengeActionAllowed s c.subjectId = .ok () ∧ c.isActive = true ∧
      c' = c.cleared ∧ s' = H.onExpired s c.subjectId c.challenger := by
  simp only [concludeChallenge, requireActive, bind_ok, require_ok, revertIf_ok, pure_ok,
    exists_const, Prod.mk.injEq] at h
  obtain ⟨_, ha, hact, _, -, -, rfl, rfl, -⟩ := h
  exact ⟨ha, hact, rfl, rfl⟩

end Challenge

/-- `transfer_bond_lamports`; the two balances are borrowed together, so they are two. -/
def transferBondLamports (w : Exec) (src dst : Pubkey) (amount : ℕ) : Except Error Exec := do
  revertIf (src = dst) .accountBorrowFailed
  require (amount ≤ (w.ledger src).lamports) (KargainError.transferFailed : Error)
  require ((w.ledger dst).lamports + amount ≤ u64Max) (KargainError.arithmeticOverflow : Error)
  pure (w.move src dst amount)

theorem transferBondLamports_ok {w w' : Exec} {src dst : Pubkey} {amount : ℕ} :
    transferBondLamports w src dst amount = .ok w' ↔ src ≠ dst ∧
      amount ≤ (w.ledger src).lamports ∧ (w.ledger dst).lamports + amount ≤ u64Max ∧
      w.move src dst amount = w' := by
  simp only [transferBondLamports, bind_ok, require_ok, revertIf_ok, pure_ok, exists_const,
    ne_eq]

end Kargain.Svm
