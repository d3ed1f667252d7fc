/-
  Kargain.Svm.AscendingSystem — kar-ascending over time.

  A run is any order of accepted instructions, under any account lists,
  of what everybody else does to accounts, and of the clock.  The system
  remembers what was accepted, newest first.  An account `close_pda` has
  emptied is dropped by the runtime.
-/
import Kargain.Svm.Ascending

namespace Kargain.Svm.Ascending

open Kargain.Accounts

/-! ## §1. Runs. -/

/-- An accepted instruction, when it was and what it found. -/
structure Entry where
  now : ℕ
  call : Call
  ix : Instruction
  before : Ledger

structure System where
  ledger : Ledger
  now : ℕ
  past : List Entry

inductive Action
  | instruction (x : Call) (ix : Instruction)
  | outside (k : Pubkey) (a : Account Pubkey Data)
  /-- the runtime drops the closed auction account of `t` -/
  | forget (t : TokenId)
  | tick (now : ℕ)

/-- The clock is a signed 64-bit number. -/
def step (P : Platform) (W : AmountOffset) (s : System) : Action → Except Error System
  | .instruction x ix => do
    require (SignedFromOutside programId x) .missingRequiredSignature
    let L ← execute P W s.now x ix s.ledger
    pure { s with ledger := L, past := ⟨s.now, x, ix, s.ledger⟩ :: s.past }
  | .outside k a => do
    require (OutsideMay programId k (s.ledger k) a) .externalAccountModified
    pure { s with ledger := Function.update s.ledger k a }
  | .forget t => do
    let k := auctionPda t
    require ((s.ledger k).owner = .system ∧ (s.ledger k).lamports = 0) .externalAccountModified
    pure { s with ledger := Function.update s.ledger k ⟨0, .system, .empty, false⟩ }
  | .tick n => do
    require (s.now ≤ n ∧ n < 2 ^ 63) .invalidArgument
    pure { s with now := n }

/-- The mode is deployed and has no accounts. -/
structure Genesis (s : System) : Prop where
  free : ∀ d, Free (s.ledger (.pda programId d))
  fresh : ∀ k, (s.ledger k).owner ≠ programId
  now_pos : 0 < s.now
  now_lt : s.now < 2 ^ 63
  past : s.past = []

theorem execute_ok {P : Platform} {W : AmountOffset} {x : Call} {ix : Instruction} {now : ℕ}
    {L L' : Ledger} (h : execute P W now x ix L = .ok L') :
    ∃ w', processInstruction P W now x (Exec.start L) ix = .ok w' ∧ w'.ledger = L' := by
  simp only [execute, bind_ok, pure_ok] at h
  obtain ⟨w₁, h₁, w₂, h₂, rfl⟩ := h
  exact ⟨w₁, h₁, (verify_ok h₂).1.symm⟩

theorem step_instruction_ok {P : Platform} {W : AmountOffset} {s s' : System} {x : Call}
    {ix : Instruction} (h : step P W s (.instruction x ix) = .ok s') :
    SignedFromOutside programId x ∧ ∃ w',
      processInstruction P W s.now x (Exec.start s.ledger) ix = .ok w' ∧
      s' = ⟨w'.ledger, s.now, ⟨s.now, x, ix, s.ledger⟩ :: s.past⟩ := by
  simp only [step, bind_ok, require_ok, pure_ok, exists_const] at h
  obtain ⟨hx, L, hL, rfl⟩ := h
  obtain ⟨w', hw, rfl⟩ := execute_ok hL
  exact ⟨hx, w', hw, rfl⟩

/-! ## §2. The accounts of a token. -/

/-- The accounts of a token a handler is handed and does not all check, by position. -/
def Instruction.expects : Instruction → List (ℕ × Pubkey)
  | .bid t _ => [(4, holdPda t)]
  | .confirmReceipt t | .releaseFunds t =>
    [(2, consignmentPda programId t), (3, holdPda t), (4, challengePda programId t),
      (5, escrowPda t)]
  | .completeReversal t => [(2, consignmentPda programId t), (3, holdPda t), (8, escrowPda t)]
  | .abandonReversal t => [(2, consignmentPda programId t), (3, holdPda t), (4, escrowPda t)]
  | .openChallenge t | .withdrawChallenge t =>
    [(2, consignmentPda programId t), (3, holdPda t), (4, challengePda programId t)]
  | .judgeChallenge t _ =>
    [(2, consignmentPda programId t), (3, holdPda t), (4, challengePda programId t),
      (8, escrowPda t)]
  | .concludeChallenge t =>
    [(2, consignmentPda programId t), (3, holdPda t), (4, challengePda programId t),
      (6, escrowPda t)]
  | _ => []

/-- The token whose records an instruction may change. -/
def Instruction.desk : Instruction → Option TokenId
  | .openAscendingDirect t _ _ _ _ | .openAscendingFromMandate t _ _ _ | .bid t _ | .settle t
  | .confirmReceipt t | .releaseFunds t | .completeReversal t | .abandonReversal t
  | .openChallenge t | .withdrawChallenge t | .judgeChallenge t _ | .concludeChallenge t
  | .forceAuctionEndsAt t _ | .forceHoldClock t _ _ _ => some t
  | _ => none

/-- They are all the named token's own. -/
def OwnAccounts (x : Call) (ix : Instruction) : Prop :=
  ∀ e ∈ ix.expects, x.keys[e.1]? = some e.2

instance (x : Call) (ix : Instruction) : Decidable (OwnAccounts x ix) :=
  inferInstanceAs (Decidable (∀ _ ∈ _, _))

def Tied (_ : System) : Action → Prop
  | .instruction x ix => OwnAccounts x ix
  | _ => True

instance Tied.decidable (s : System) : (a : Action) → Decidable (Tied s a)
  | .instruction x ix => inferInstanceAs (Decidable (OwnAccounts x ix))
  | .outside _ _ => isTrue trivial
  | .forget _ => isTrue trivial
  | .tick _ => isTrue trivial

/-! ## §3. The stand. -/

/-- The passport program of the stand. -/
abbrev standPassports : Pubkey := .program 0

/-- The staking program of the stand. -/
abbrev standStaking : Pubkey := .program 5

def standPassportConfig : PassportConfig where
  authority := .key 9
  tokenNamespace := 1
  disputeDeposit := 5
  stakingProgram := standStaking
  bridgeGateway := .zero
  forfeitRecipient := .key 9
  nextTokenId := 3
  encumbranceSources := [⟨programId, [97]⟩]

/-- A passport of `owner`. -/
def standAsset (owner : ℕ) : CoreAsset :=
  ⟨.key owner, ['a'], .pda standPassports .config, false, none, none⟩

/-- Wallets, all of them active verifiers, a passport program that names the mode as a source,
    and the verified passport `t` of wallet `t`. -/
def standLedger : Ledger
  | .key _ => ⟨10 ^ 12, .system, .empty, false⟩
  | .program 0 => ⟨1, .key 0, .other none, true⟩
  | .pda (.program 0) .config => ⟨10 ^ 7, standPassports, .passportConfig standPassportConfig, false⟩
  | .pda (.program 0) (.asset t) => ⟨10 ^ 7, .mplCore, .coreAsset (standAsset t), false⟩
  | .pda (.program 0) (.state t) =>
    ⟨10 ^ 7, standPassports, .passportState ⟨t, .verified, .key 9, 1, false, false, 0⟩, false⟩
  | .stake (.program 5) k => ⟨10 ^ 7, standStaking, .stake ⟨k, true⟩, false⟩
  | _ => ⟨0, .system, .empty, false⟩

def stand : System := ⟨standLedger, 100, []⟩

theorem stand_genesis : Genesis stand where
  free d := by simp [stand, standLedger, programId, Free]
  fresh k := by
    simp only [stand, standLedger, programId]
    split <;> simp
  now_pos := by decide
  now_lt := by decide
  past := rfl

/-- All accounts writable, the wallets named sign. -/
def asked (keys signers : List Pubkey) (ix : Instruction) : Action :=
  .instruction ⟨keys, signers, keys⟩ ix

/-- The config is written and the passport program bound. -/
def configured : List Action :=
  [asked [.key 9, configPda programId, .key 9, .key 8, .key 7, .key 6, .system] [.key 9]
      (.initConfig 100 1000 (30 * 24 * 60 * 60) standStaking),
    asked [.key 9, configPda programId, passportBindingPda programId, standPassports, .system, .key 9]
      [.key 9] .bindPassportProgram]

/-- The accounts of the answers of passport `t`. -/
abbrev standAnswer (t : TokenId) (intent : ℕ) : Pubkey := .pda programId (.answer [97] t intent)

/-- Wallet `t` opens passport `t`, for the native asset. -/
def opened (t : ℕ) : Action :=
  asked [.key t, configPda programId, passportBindingPda programId, configPda standPassports,
    assetPda standPassports t, challengePda standPassports t, standAnswer t 1,
    statePda standPassports t, consignmentPda programId t, .custody programId, .system, .key t,
    .mplCore, .stake standStaking (.key t), standStaking, auctionPda t] [.key t]
    (.openAscendingDirect t .zero 1000 minDuration minProtectionWindow)

/-- Wallet 3 is the first to bid for passport `t`. -/
def bids (t amount : ℕ) : Action :=
  asked [.key 3, configPda programId, consignmentPda programId t, auctionPda t, holdPda t,
    escrowPda t, .system, .key 3] [.key 3] (.bid t amount)

/-- Passport `t` goes to wallet 3. -/
def settles (t : ℕ) : Action :=
  asked [.key 9, consignmentPda programId t, auctionPda t, holdPda t, passportBindingPda programId,
    configPda standPassports, assetPda standPassports t, .custody programId, .key 3, escrowPda t,
    .system, .key 9, .mplCore, standAnswer t 0, standAnswer t 1] [.key 9] (.settle t)

/-- Wallet 3 challenges the hold of passport `t`. -/
def challenges (t : ℕ) : Action :=
  asked [.key 3, configPda programId, consignmentPda programId t, holdPda t, challengePda programId t,
    .system, .key 3] [.key 3] (.openChallenge t)

/-- The accounts of a release of passport `t`, whose seller is wallet `t`. -/
def releaseAccounts (t : ℕ) (hold challenge : Pubkey) : List Pubkey :=
  [.key 9, configPda programId, consignmentPda programId t, hold, challenge, escrowPda t, .key 8,
    .key t, .system, .system, .key 9, passportBindingPda programId, configPda standPassports,
    standAnswer t 0, standAnswer t 1, .key 9]

/-- A release of passport `t` under the hold and the challenge handed in. -/
def releasing (t : ℕ) (hold challenge : Pubkey) : Call :=
  ⟨releaseAccounts t hold challenge, [.key 9], releaseAccounts t hold challenge⟩

/-- Passport 1 is sold to wallet 3, which has paid. -/
def soldOne : List Action :=
  configured ++ [opened 1, bids 1 5000, .tick (100 + minDuration), settles 1]

/-- Passports 1 and 2 are sold to wallet 3, which has paid. -/
def soldTwo : List Action :=
  configured ++ [opened 1, opened 2, bids 1 5000, bids 2 6000, .tick (100 + minDuration), settles 1,
    settles 2]

end Kargain.Svm.Ascending
