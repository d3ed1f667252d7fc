/-
  Kargain.Svm.May — may a passport leave the chain or be consigned?

  programs/kar-passport/src/may.rs, called by the passport program itself,
  by the gateway and by the commerce modes: the asset must be live, no
  challenge may be active, and every registered source is asked through
  its answer account, in the order of the registry.  All accounts are tied
  to the token by their addresses.
-/
import Kargain.Svm.BondedChallenge
import Kargain.Svm.Platform

namespace Kargain.Svm

open Kargain.Accounts

/-- `kargain_config_pda::config_pda`. -/
abbrev configPda (program : Pubkey) : Pubkey := .pda program .config

/-- `kargain_freeze_pda::freeze_pda`. -/
abbrev freezePda (program : Pubkey) : Pubkey := .pda program .freeze

abbrev assetPda (program : Pubkey) (t : TokenId) : Pubkey := .pda program (.asset t)

abbrev statePda (program : Pubkey) (t : TokenId) : Pubkey := .pda program (.state t)

abbrev challengePda (program : Pubkey) (t : TokenId) : Pubkey := .pda program (.challenge t)

def intentLeaveChain : ℕ := 0
def intentOpenConsignment : ℕ := 1

def maxSeedPrefixLen : ℕ := 32

def requireValidSeedPrefix (seedPrefix : List ℕ) : Except Error Unit :=
  revertIf (seedPrefix = [] ∨ maxSeedPrefixLen < seedPrefix.length)
    (.custom .invalidEncumbranceSeed)

def requireValidIntent (intent : ℕ) : Except Error Unit :=
  require (intent = intentLeaveChain ∨ intent = intentOpenConsignment)
    (.custom .invalidEncumbranceIntent)

/-- `is_live_core_asset`: owned by Core and longer than the one byte a burn leaves. -/
def isLiveCoreAsset (L : Ledger) (asset : Pubkey) : Bool :=
  (L asset).owner = .mplCore ∧ (L asset).data ≠ .empty ∧ (L asset).data ≠ .byte

/-- `read_owner` and `read_uri` both read the asset's base. -/
def readAsset (L : Ledger) (asset : Pubkey) : Except Error CoreAsset := do
  require (isLiveCoreAsset L asset = true) .uninitializedAccount
  load L asset

theorem isLiveCoreAsset_of_core {L : Ledger} {k : Pubkey} {a : CoreAsset}
    (h : coreAt L k = some a) : isLiveCoreAsset L k = true := by
  obtain ⟨ho, hd⟩ := coreAt_eq_some.mp h
  simp [isLiveCoreAsset, ho, hd]

theorem readAsset_ok {L : Ledger} {k : Pubkey} {a : CoreAsset} :
    readAsset L k = .ok a ↔ coreAt L k = some a := by
  unfold readAsset
  simp only [bind_ok, require_ok, exists_const]
  constructor
  · intro h
    obtain ⟨hlive, hload⟩ := h
    have hd : (L k).data = .coreAsset a := load_ok.mp hload
    simp only [isLiveCoreAsset, decide_eq_true_eq] at hlive
    exact coreAt_eq_some.mpr ⟨hlive.1, hd⟩
  · intro h
    exact ⟨isLiveCoreAsset_of_core h, load_ok.mpr (coreAt_eq_some.mp h).2⟩

/-- `challenge_active_from_account`: the account alone says, never the status. -/
def challengeActiveFromAccount (passportProgram : Pubkey) (L : Ledger) (challenge : Pubkey)
    (t : TokenId) : Except Error Bool := do
  require (challenge = challengePda passportProgram t) .invalidSeeds
  if (L challenge).data = .empty then pure false
  else do
    require ((L challenge).owner = passportProgram) (.custom .sourceUnanswerable)
    let c : ChallengeAccount ← orRevert (Record.ofData (L challenge).data)
      (.custom .sourceUnanswerable)
    pure c.isActive

/-- What one registered source's answer account says. -/
inductive SourceAnswerView
  | uninitialised
  | answer (allowed : Bool)
  | unanswerable

/-- `classify_answer_data`. -/
def classifyAnswerData (L : Ledger) (answer : Pubkey) (source : EncumbranceSourceEntry)
    (t : TokenId) (intent : ℕ) : SourceAnswerView :=
  match (L answer).data with
  | .empty => .uninitialised
  | .answer a =>
    if (L answer).owner = source.programId ∧ a.tokenId = t ∧ a.intent = intent then
      .answer a.allowed
    else .unanswerable
  | _ => .unanswerable

/-- `classify_answer_account`. -/
def classifyAnswerAccount (L : Ledger) (answer : Pubkey) (source : EncumbranceSourceEntry)
    (t : TokenId) (intent : ℕ) : Except Error SourceAnswerView := do
  requireValidSeedPrefix source.seedPrefix
  require (answer = .pda source.programId (.answer source.seedPrefix t intent))
    (.custom .sourceUnanswerable)
  pure (classifyAnswerData L answer source t intent)

def classifyAnswers (L : Ledger) (t : TokenId) (intent : ℕ) :
    List Pubkey → List EncumbranceSourceEntry → Except Error (List SourceAnswerView)
  | answer :: answers, source :: sources => do
    let view ← classifyAnswerAccount L answer source t intent
    let views ← classifyAnswers L t intent answers sources
    pure (view :: views)
  | _, _ => pure []

/-- The answers in the order of the registry; the first that does not allow decides. -/
def allAllow : List SourceAnswerView → Except Error Bool
  | [] => pure true
  | .uninitialised :: views => allAllow views
  | .answer true :: views => allAllow views
  | .answer false :: _ => pure false
  | .unanswerable :: _ => .error (.custom .sourceUnanswerable)

/-- `may_leave_or_open`. -/
def mayLeaveOrOpen (assetExists challengeActive : Bool) (views : List SourceAnswerView) :
    Except Error Bool := do
  require (assetExists = true) (.custom .nonexistentToken)
  if challengeActive = true then pure false else allAllow views

/-- `resolve_may_accounts`. -/
def resolveMayAccounts (passportProgram : Pubkey) (L : Ledger) (config asset challenge : Pubkey)
    (answers : List Pubkey) (t : TokenId) (intent : ℕ) : Except Error Bool := do
  requireValidIntent intent
  require (config = configPda passportProgram) .invalidSeeds
  require ((L config).owner = passportProgram) .incorrectProgramId
  let cfg : PassportConfig ← load L config
  require (asset = assetPda passportProgram t) .invalidSeeds
  require (answers.length = cfg.encumbranceSources.length) (.custom .sourceUnanswerable)
  let active ← challengeActiveFromAccount passportProgram L challenge t
  let views ← classifyAnswers L t intent answers cfg.encumbranceSources
  mayLeaveOrOpen (isLiveCoreAsset L asset) active views

/-- `require_passport_status`: how the modes read a passport's status. -/
def requirePassportStatus (passportProgram : Pubkey) (t : TokenId) (L : Ledger)
    (state : Pubkey) : Except Error Status := do
  require (state = statePda passportProgram t) .invalidSeeds
  revertIf ((L state).data = .empty) .uninitializedAccount
  require ((L state).owner = passportProgram) .incorrectProgramId
  let st : PassportState ← load L state
  require (st.tokenId = t) .invalidAccountData
  pure st.status

def requireVerifiedPassportStatus (passportProgram : Pubkey) (t : TokenId) (L : Ledger)
    (state : Pubkey) : Except Error Unit := do
  let status ← requirePassportStatus passportProgram t L state
  require (status = .verified) (.custom .passportNotVerified)

/-- `prove_active_verifier`: the staking program's account of the wallet says it is active. -/
def proveActiveVerifier (L : Ledger) (stake wallet stakingProgram : Pubkey) :
    Except Error Unit := do
  require ((L stake).owner = stakingProgram) (.custom .sourceUnanswerable)
  let s : StakeAccount ← orRevert (Record.ofData (L stake).data) (.custom .sourceUnanswerable)
  require (s.wallet = wallet) (.custom .sourceUnanswerable)
  require (stake = .stake stakingProgram wallet) (.custom .sourceUnanswerable)
  require (s.active = true) (.custom .notActiveVerifier)

/-- The wallet's stake account exists and is active. -/
def ActiveVerifier (L : Ledger) (stakingProgram wallet : Pubkey) : Prop :=
  (L (.stake stakingProgram wallet)).owner = stakingProgram ∧
    ∃ s : StakeAccount, (L (.stake stakingProgram wallet)).data = .stake s ∧
      s.wallet = wallet ∧ s.active = true

theorem proveActiveVerifier_ok {L : Ledger} {stake wallet stakingProgram : Pubkey}
    (h : proveActiveVerifier L stake wallet stakingProgram = .ok ()) :
    stake = .stake stakingProgram wallet ∧ ActiveVerifier L stakingProgram wallet := by
  simp only [proveActiveVerifier, bind_ok, require_ok, orRevert_ok, Record.ofData_eq,
    exists_const] at h
  obtain ⟨ho, s, hd, hw, rfl, ha⟩ := h
  exact ⟨rfl, ho, s, hd, hw, ha⟩

end Kargain.Svm
