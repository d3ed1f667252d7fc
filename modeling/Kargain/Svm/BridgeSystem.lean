/-
  Kargain.Svm.BridgeSystem — kar-passport and kar-gateway together.

  A run is any order of instructions of the two programs, under any
  account lists, and of what everybody else does to accounts.  Nobody
  signs for an address either program derives, but the gateway for its
  own when it calls.
-/
import Kargain.Svm.Gateway
import Kargain.Svm.PassportStatus

namespace Kargain.Svm.Gateway

open Kargain.Accounts

/-! ## §1. Runs. -/

inductive Action
  | passport (x : Call) (ix : Passport.Instruction)
  | gateway (x : Call) (ix : Instruction)
  | outside (k : Pubkey) (a : Account Pubkey Data)
  | tick (now : ℕ)

structure System where
  ledger : Ledger
  now : ℕ

/-- Who signs a transaction: none of the addresses the programs derive. -/
def SignedFromOutside (x : Call) : Prop :=
  ∀ k ∈ x.signers, k.derivedBy Passport.programId = false ∧ k.derivedBy programId = false

instance (x : Call) : Decidable (SignedFromOutside x) := inferInstanceAs (Decidable (∀ k ∈ _, _))

/-- What everybody else may do to an account, both programs' accounts being theirs. -/
def OutsideMay (k : Pubkey) (b a : Account Pubkey Data) : Prop :=
  Passport.outsideOk k b a = true ∧ (b.owner = programId → b.Untouched a)

instance (k : Pubkey) (b a : Account Pubkey Data) : Decidable (OutsideMay k b a) :=
  inferInstanceAs (Decidable (_ ∧ _))

def step (P : Platform) (N : Network) (s : System) : Action → Except Error System
  | .passport x ix => do
    require (SignedFromOutside x) .missingRequiredSignature
    let L ← Passport.execute P s.now x ix s.ledger
    pure { s with ledger := L }
  | .gateway x ix => do
    require (SignedFromOutside x) .missingRequiredSignature
    let L ← execute P N s.now x ix s.ledger
    pure { s with ledger := L }
  | .outside k a => do
    require (OutsideMay k (s.ledger k) a) .externalAccountModified
    pure { s with ledger := Function.update s.ledger k a }
  | .tick n => do
    require (s.now ≤ n) .invalidArgument
    pure { s with now := n }

theorem step_gateway_ok {P : Platform} {N : Network} {s s' : System} {x : Call} {ix : Instruction}
    (h : step P N s (.gateway x ix) = .ok s') :
    ∃ L, execute P N s.now x ix s.ledger = .ok L ∧ { s with ledger := L } = s' := by
  simp only [step, bind_ok, require_ok, pure_ok, exists_const] at h
  exact h.2

/-- Both programs are deployed and have no accounts; their addresses hold nothing. -/
structure Genesis (s : System) : Prop where
  fresh : ∀ k, (s.ledger k).owner ≠ Passport.programId ∧ (s.ledger k).owner ≠ programId
  passport : ∀ d, Free (s.ledger (.pda Passport.programId d))
  gateway : ∀ d, Free (s.ledger (.pda programId d))
  now_pos : 0 < s.now

/-! ## §2. The stand. -/

/-- Wallets, two active verifiers and the config of the mock endpoint, program 6. -/
def standLedger : Ledger
  | .key _ => ⟨10 ^ 12, .system, .empty, false⟩
  | .pda (.program 6) .config => ⟨10 ^ 7, .program 6, .other none, false⟩
  | .stake (.program 5) (.key 2) => ⟨10 ^ 7, .program 5, .stake ⟨.key 2, true⟩, false⟩
  | _ => ⟨0, .system, .empty, false⟩

def stand : System := ⟨standLedger, 100⟩

theorem stand_genesis : Genesis stand where
  fresh k := by
    simp only [stand, standLedger]
    split <;> simp
  passport d := by simp [stand, standLedger, Free]
  gateway d := by simp [stand, standLedger, Free]
  now_pos := by decide

def askPassport (keys signers : List Pubkey) (ix : Passport.Instruction) : Action :=
  .passport ⟨keys, signers, keys⟩ ix

def askGateway (keys signers : List Pubkey) (ix : Instruction) : Action :=
  .gateway ⟨keys, signers, keys⟩ ix

/-- Both configs are written and bound to each other; the chain's namespace is 1. -/
def configured : List Action :=
  [askGateway [configPda programId, .key 9, .system] [.key 9]
      (.initializeConfig (.program 6) Passport.programId 1),
    askPassport [configPda Passport.programId, .key 9, .system] [.key 9]
      (.initializeConfig 1 5 (.program 5) (.key 9)),
    askPassport [configPda Passport.programId, .key 9] [.key 9]
      (.setBridgeGateway (configPda programId))]

/-- The `n`th passport of the chain is minted for `owner`. -/
def mints (n owner : ℕ) : Action :=
  let t := Passport.nth n
  askPassport [configPda Passport.programId, assetPda Passport.programId t,
    statePda Passport.programId t, .key owner, .key owner, freezePda programId, configPda programId,
    .mplCore, .system] [.key owner] (.mintPassport ['a'])

/-- Its owner sends passport `t` away. -/
def sends (t : TokenId) (owner : ℕ) : Action :=
  askGateway [configPda programId, .key owner, .key owner, Passport.programId,
    configPda Passport.programId, assetPda Passport.programId t, statePda Passport.programId t,
    freezePda programId, .mplCore, .system, challengePda Passport.programId t] [.key owner]
    (.send 2 3 t 0 [])

/-- A message about `t`, its URI one byte long. -/
def message (t : TokenId) (receiver : ℕ) : List UInt8 :=
  composed receiver t 0 [97]

/-- 9 delivers a message about `t`, and hands in the asset of `t'`. -/
def receiveCall (nonce : ℕ) (t t' : TokenId) (receiver : ℕ) : Call :=
  let keys : List Pubkey := [configPda programId, .key 9, .program 6, .pda (.program 6) .config,
    .pda (.program 6) (.clear 2 7 nonce), .system, Passport.programId, configPda Passport.programId,
    assetPda Passport.programId t', statePda Passport.programId t, freezePda programId, .mplCore,
    .key receiver]
  ⟨keys, [.key 9], keys⟩

def receives (nonce : ℕ) (t t' : TokenId) (receiver : ℕ) : Action :=
  .gateway (receiveCall nonce t t' receiver) (.lzReceive 2 7 nonce 0 (message t receiver))

/-- An accepted last action, and where it leads. -/
theorem step_finalState {P : Platform} {N : Network} {s₀ : System} {as : List Action} {a : Action}
    (h : (run (step P N) s₀ (as ++ [a])).isOk = true) :
    step P N (finalState (step P N) s₀ as) a = .ok (finalState (step P N) s₀ (as ++ [a])) := by
  obtain ⟨s₁, h₁, hlast⟩ := run_append_ok.mp (run_finalState h)
  obtain ⟨s₂, hstep, hnil⟩ := run_cons_ok.mp hlast
  have he : s₂ = finalState (step P N) s₀ (as ++ [a]) := by
    simpa [run] using hnil
  have h₀ : finalState (step P N) s₀ as = s₁ := by
    simp only [finalState, h₁]
  rw [h₀, ← he, hstep]

end Kargain.Svm.Gateway
