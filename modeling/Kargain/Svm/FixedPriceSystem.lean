/-
  Kargain.Svm.FixedPriceSystem — kar-fixed-price over time.

  A run is any order of accepted instructions, under any account lists,
  of what everybody else does to accounts, and of the clock.  The system
  remembers what was accepted, newest first.
-/
import Kargain.Svm.FixedPrice

namespace Kargain.Svm.FixedPrice

open Kargain.Accounts

/-! ## §1. Runs. -/

/-- An accepted instruction and when it was. -/
structure Entry where
  now : ℕ
  call : Call
  ix : Instruction

structure System where
  ledger : Ledger
  now : ℕ
  past : List Entry

inductive Action
  | instruction (x : Call) (ix : Instruction)
  | outside (k : Pubkey) (a : Account Pubkey Data)
  | tick (now : ℕ)

/-- The clock is a signed 64-bit number. -/
def step (P : Platform) (W : AmountOffset) (s : System) : Action → Except Error System
  | .instruction x ix => do
    require (SignedFromOutside programId x) .missingRequiredSignature
    let L ← execute P W s.now x ix s.ledger
    pure { s with ledger := L, past := ⟨s.now, x, ix⟩ :: s.past }
  | .outside k a => do
    require (OutsideMay programId k (s.ledger k) a) .externalAccountModified
    pure { s with ledger := Function.update s.ledger k a }
  | .tick n => do
    require (s.now ≤ n ∧ n < 2 ^ 63) .invalidArgument
    pure { s with now := n }

/-- The mode is deployed and has no accounts. -/
structure Genesis (s : System) : Prop where
  free : ∀ d, Free (s.ledger (.pda programId d))
  fresh : ∀ k, (s.ledger k).owner ≠ programId
  now_lt : s.now < 2 ^ 63
  past : s.past = []

theorem execute_ok {P : Platform} {W : AmountOffset} {x : Call} {ix : Instruction} {now : ℕ}
    {L L' : Ledger} (h : execute P W now x ix L = .ok L') :
    ∃ w', processInstruction P W now x (Exec.start L) ix = .ok w' ∧ w'.ledger = L' := by
  simp only [execute, bind_ok, pure_ok] at h
  obtain ⟨w₁, h₁, w₂, h₂, rfl⟩ := h
  exact ⟨w₁, h₁, (verify_ok h₂).1.symm⟩

theorem step_instruction_ok {P : Platform} {W : AmountOffset} {s s' : System} {x : Call}
    {ix : Instruction} (h : step P W s (.instruction x ix) = .ok s') :
    SignedFromOutside programId x ∧ ∃ w',
      processInstruction P W s.now x (Exec.start s.ledger) ix = .ok w' ∧
      s' = ⟨w'.ledger, s.now, ⟨s.now, x, ix⟩ :: s.past⟩ := by
  simp only [step, bind_ok, require_ok, pure_ok, exists_const] at h
  obtain ⟨hx, L, hL, rfl⟩ := h
  obtain ⟨w', hw, rfl⟩ := execute_ok hL
  exact ⟨hx, w', hw, rfl⟩

/-! ## §2. The stand. -/

/-- The passport program of the stand. -/
abbrev standPassports : Pubkey := .program 0

def standPassportConfig : PassportConfig where
  authority := .key 9
  tokenNamespace := 1
  disputeDeposit := 5
  stakingProgram := .program 5
  bridgeGateway := .zero
  forfeitRecipient := .key 9
  nextTokenId := 3
  encumbranceSources := [⟨programId, [102]⟩]

/-- A passport of `owner`, the mode its transfer delegate. -/
def standAsset (owner : ℕ) : CoreAsset :=
  ⟨.key owner, ['a'], .pda standPassports .config, false, none, some (.custody programId)⟩

/-- Wallets, a passport program that names the mode as a source, and passport `t` of wallet
    `t`. -/
def standLedger : Ledger
  | .key _ => ⟨10 ^ 12, .system, .empty, false⟩
  | .program 0 => ⟨1, .key 0, .other none, true⟩
  | .pda (.program 0) .config => ⟨10 ^ 7, standPassports, .passportConfig standPassportConfig, false⟩
  | .pda (.program 0) (.asset t) => ⟨10 ^ 7, .mplCore, .coreAsset (standAsset t), false⟩
  | _ => ⟨0, .system, .empty, false⟩

def stand : System := ⟨standLedger, 100, []⟩

theorem stand_genesis : Genesis stand where
  free d := by simp [stand, standLedger, programId, Free]
  fresh k := by
    simp only [stand, standLedger, programId]
    split <;> simp
  now_lt := by decide
  past := rfl

/-- All accounts writable, the wallets named sign. -/
def ask (keys signers : List Pubkey) (ix : Instruction) : Action :=
  .instruction ⟨keys, signers, keys⟩ ix

/-- The config is written and the passport program bound. -/
def configured : List Action :=
  [ask [.key 9, configPda programId, .key 9, .key 8, .key 7, .system] [.key 9] (.initConfig 100),
    ask [.key 9, configPda programId, passportBindingPda programId, standPassports, .system, .key 9]
      [.key 9] .bindPassportProgram]

/-- Wallet `t` grants wallet 2 a mandate over passport `t`, for the native asset. -/
def grants (t : ℕ) : Action :=
  ask [.key t, passportBindingPda programId, assetPda standPassports t, mandatePda programId t,
    consignmentPda programId t, .custody programId, .system, .key t] [.key t]
    (.grant t (.key 2) 0 .zero 0 0 10 0 0)

/-- The accounts of the answers of passport `t`. -/
abbrev standAnswer (t : TokenId) (intent : ℕ) : Pubkey := .pda programId (.answer [102] t intent)

/-- Wallet 2 opens passport `t` under the mandate. -/
def opens (t : ℕ) : Action :=
  ask [.key 2, configPda programId, mandatePda programId t, passportBindingPda programId,
    configPda standPassports, assetPda standPassports t, challengePda standPassports t,
    standAnswer t 1, consignmentPda programId t, .custody programId, .system, .key 2, .mplCore,
    standAnswer t 0, standAnswer t 1] [.key 2] (.openFromMandate t 0 0 100)

/-- The accounts of the exits that return passport `t` to `seller`, for `caller`. -/
def exitAccounts (caller seller : ℕ) (t : TokenId) (consignment recallInfo : Pubkey) : List Pubkey :=
  [.key caller, consignment, recallInfo, passportBindingPda programId, configPda standPassports,
    assetPda standPassports t, .custody programId, .key seller, .key caller, .mplCore, .system,
    standAnswer t 0, standAnswer t 1, .key 2]

end Kargain.Svm.FixedPrice
