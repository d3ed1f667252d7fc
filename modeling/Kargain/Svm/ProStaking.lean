/-
  Kargain.Svm.ProStaking — kar-pro-staking and kar-pro-pass.

  A verifier joins with a stake of lamports, for which the pass program
  makes a soulbound Core asset; it leaves at once, and claims the stake
  after the unbonding period.  Everything a wallet has is at addresses
  derived from it: the stake account, the asset and the pass record.

  The two programs work on the accounts of an instruction as the commerce
  programs do, with addresses and records of their own.  Data that is not
  empty and all zeros is one value.  Core is not in the repository;
  `Platform` is what it does, as far as the programs rely on it.  Left
  out: bumps, discriminators, the events of the pass program, and what a
  transaction is asked as a whole (its fee, its size, the rent of its payer).
-/
import Kargain.Svm.Types

namespace Kargain.ProSvm

open Kargain.Accounts
open Kargain.Svm (Text u64Max saturatingAdd)

/-! ## §1. Addresses, records, errors. -/

/-- A wallet, another program or anything else is a `key`; the others are the derived
    addresses of a program. -/
inductive Pubkey
  | system
  | mplCore
  | proStaking
  | proPass
  | key (n : ℕ)
  | config (program : Pubkey)
  | stake (program verifier : Pubkey)
  | freeze (program : Pubkey)
  | pass (program holder : Pubkey)
  | passMeta (program holder : Pubkey)
deriving DecidableEq

instance : Inhabited Pubkey := ⟨.system⟩

/-- `[0u8; 32]`. -/
abbrev Pubkey.zero : Pubkey := .system

/-- Is the address derived by `program`?  Nobody else signs for it. -/
def Pubkey.derivedBy (k program : Pubkey) : Bool :=
  match k with
  | .config q | .stake q _ | .freeze q | .pass q _ | .passMeta q _ => q = program
  | _ => false

structure StakingConfig where
  authority : Pubkey
  passProgram : Pubkey
  minStakeLamports : ℕ
  minStakeFloorLamports : ℕ
  unbondingPeriodSecs : ℕ
deriving DecidableEq, Inhabited

structure StakeAccount where
  wallet : Pubkey
  amount : ℕ
  stakedAt : ℕ
  active : Bool
  unlockAt : ℕ
  verificationFee : ℕ
deriving DecidableEq, Inhabited

structure PassConfig where
  authority : Pubkey
  stakingProgram : Pubkey
deriving DecidableEq, Inhabited

structure PassMeta where
  holder : Pubkey
  category : ℕ
  name : Text
  metadataUri : Text
  issuedAt : ℕ
deriving DecidableEq, Inhabited

structure CoreAsset where
  owner : Pubkey
  updateAuthority : Pubkey
  name : Text
  uri : Text
  freezeAuthority : Pubkey
  frozen : Bool
deriving DecidableEq, Inhabited

inductive Data
  | empty
  | zeros
  | byte
  | stakingConfig (c : StakingConfig)
  | stake (s : StakeAccount)
  | passConfig (c : PassConfig)
  | passMeta (m : PassMeta)
  | coreAsset (a : CoreAsset)
deriving DecidableEq

instance : AccountData Data where
  empty := .empty
  zeroed
    | .empty => .empty
    | _ => .zeros

instance : Record Data StakingConfig where
  toData := .stakingConfig
  ofData | .stakingConfig c => some c | _ => none
  ofData_eq {d r} := by cases d <;> simp

instance : Record Data StakeAccount where
  toData := .stake
  ofData | .stake s => some s | _ => none
  ofData_eq {d r} := by cases d <;> simp

instance : Record Data PassConfig where
  toData := .passConfig
  ofData | .passConfig c => some c | _ => none
  ofData_eq {d r} := by cases d <;> simp

def stakingConfigSpace : ℕ := 97
def passConfigSpace : ℕ := 73

/-- `STAKE_ACCOUNT_SPACE`. -/
def stakeAccountSpace : ℕ := 128

def PassMeta.space (m : PassMeta) : ℕ := 58 + m.name.byteLen + m.metadataUri.byteLen

/-- `PASSPORT_URI_CEILING_BYTES`. -/
def passportUriCeilingBytes : ℕ := 160

def maxCategory : ℕ := 5

inductive KargainError
  | zeroAddress
  | belowMinStakeFloor
  | notOwner
  | alreadyVerifier
  | unbondPending
  | belowMinStake
  | notVerifier
  | noUnbond
  | unbondNotReady
  | transferFailed
  | onlyStaking
  | emptyField
  | uriTooLong
  | invalidCategory
  | alreadyHoldsPass
  | doesNotHoldPass
deriving DecidableEq

abbrev Error := ProgramError KargainError
abbrev Ledger := Accounts.Ledger Pubkey Data
abbrev Call := Accounts.Call Pubkey
abbrev Exec := Accounts.Exec Pubkey Data

instance : Coe KargainError Error := ⟨.custom⟩

/-- The events of kar-pro-staking. -/
inductive Event
  | verifierJoined (wallet : Pubkey) (amount : ℕ)
  | verifierLeft (wallet : Pubkey) (amount unlockAt : ℕ)
  | claimWithdrawn (account : Pubkey) (amount : ℕ)
  | verificationFeeUpdated (wallet : Pubkey) (fee : ℕ)
deriving DecidableEq

/-! ## §2. The platform. -/

/-- A system-owned account without data and lamports: what `create_account` asks of the new
    address. -/
def Free (a : Account Pubkey Data) : Prop :=
  a.owner = .system ∧ a.data = .empty ∧ a.lamports = 0

instance (a : Account Pubkey Data) : Decidable (Free a) := inferInstanceAs (Decidable (_ ∧ _))

/-- The live Core asset under `k`. -/
def coreAt (L : Ledger) (k : Pubkey) : Option CoreAsset :=
  if (L k).owner = .mplCore then
    match (L k).data with
    | .coreAsset a => some a
    | _ => none
  else none

/-- `is_live_core_asset`: owned by Core, and not the one byte that burning leaves. -/
def isLiveCoreAsset (a : Account Pubkey Data) : Prop :=
  a.owner = .mplCore ∧ a.data ≠ .empty ∧ a.data ≠ .byte

instance (a : Account Pubkey Data) : Decidable (isLiveCoreAsset a) :=
  inferInstanceAs (Decidable (_ ∧ _ ∧ _))

/-- A Core instruction on `asset` changes nothing else, but for the lamports of `payer`. -/
def CoreFrame (asset payer : Pubkey) (L L' : Ledger) : Prop :=
  ∀ k, k ≠ asset → k ≠ payer → L' k = L k

/-- Rent, and what Core does.  An instruction names its accounts; `signers` have signed for it.

    Create makes a live asset of a free address that signs; burn leaves the one-byte account,
    which keeps lamports.  `createV1_accepts` is what creating asks besides: the payer has
    the rent of an asset with that name and URI. -/
structure Platform where
  minimumBalance : ℕ → ℕ
  rent : (name uri : Text) → ℕ
  createV1 : (signers : List Pubkey) → (asset payer owner updateAuthority : Pubkey) →
    (name uri : Text) → (freezeAuthority : Pubkey) → (frozen : Bool) → Ledger →
    Except Error Ledger
  updatePluginV1 : (signers : List Pubkey) → (asset payer authority : Pubkey) →
    (frozen : Bool) → Ledger → Except Error Ledger
  burnV1 : (signers : List Pubkey) → (asset payer authority : Pubkey) → Ledger →
    Except Error Ledger
  minimumBalance_pos : ∀ n, 0 < minimumBalance n
  createV1_ok : ∀ {signers asset payer owner updateAuthority name uri freezeAuthority frozen L L'},
    createV1 signers asset payer owner updateAuthority name uri freezeAuthority frozen L = .ok L' →
    Free (L asset) ∧ 0 < (L' asset).lamports ∧
      coreAt L' asset = some ⟨owner, updateAuthority, name, uri, freezeAuthority, frozen⟩ ∧
      CoreFrame asset payer L L'
  updatePluginV1_ok : ∀ {signers asset payer authority frozen L L'},
    updatePluginV1 signers asset payer authority frozen L = .ok L' →
    (∃ a, coreAt L asset = some a ∧ authority ∈ signers ∧ a.freezeAuthority = authority ∧
      coreAt L' asset = some { a with frozen := frozen }) ∧ CoreFrame asset payer L L'
  burnV1_ok : ∀ {signers asset payer authority L L'},
    burnV1 signers asset payer authority L = .ok L' →
    (∃ a, coreAt L asset = some a ∧ authority ∈ signers ∧ a.owner = authority) ∧
      (L' asset).owner = .mplCore ∧ (L' asset).data = .byte ∧ 0 < (L' asset).lamports ∧
      CoreFrame asset payer L L'
  createV1_accepts : ∀ {signers asset payer owner updateAuthority name uri freezeAuthority frozen
      L},
    payer ∈ signers → asset ∈ signers → updateAuthority ∈ signers → Free (L asset) →
    (L payer).owner = .system → (L payer).data = .empty → rent name uri ≤ (L payer).lamports →
    ∃ L', createV1 signers asset payer owner updateAuthority name uri freezeAuthority frozen L =
        .ok L' ∧
      (L' payer).owner = .system ∧ (L' payer).data = .empty ∧
      (L payer).lamports = (L' payer).lamports + rent name uri

/-- `CreateAccount`, the new address being derived by `programId`.  There are fewer lamports
    than `u64::MAX`. -/
def createAccount (x : Call) (lamports : ℕ) (payer account programId : Pubkey) (L : Ledger) :
    Except Error Ledger := do
  require (x.isSigner payer ∧ x.isWritable payer ∧ x.isWritable account ∧ .system ∈ x.keys)
    .missingRequiredSignature
  require (Free (L account)) .accountAlreadyInitialized
  require ((L payer).owner = .system ∧ (L payer).data = .empty) .invalidAccountData
  require (lamports ≤ (L payer).lamports ∧ lamports < u64Max) .insufficientFunds
  pure (Function.update
    (Function.update L payer { L payer with lamports := (L payer).lamports - lamports })
    account ⟨lamports, programId, .zeros, false⟩)

/-- `Transfer`. -/
def systemTransfer (x : Call) (src dst : Pubkey) (amount : ℕ) (L : Ledger) :
    Except Error Ledger := do
  require (x.isSigner src ∧ x.isWritable src ∧ x.isWritable dst ∧ .system ∈ x.keys)
    .missingRequiredSignature
  require ((L src).owner = .system ∧ (L src).data = .empty) .invalidAccountData
  require (amount ≤ (L src).lamports) .insufficientFunds
  let L := Function.update L src { L src with lamports := (L src).lamports - amount }
  pure (Function.update L dst { L dst with lamports := (L dst).lamports + amount })

/-- Lamports of the program's own accounts, added with a check for overflow. -/
def addLamports (w : Exec) (k : Pubkey) (n : ℕ) : Except Error Exec := do
  revertIf (u64Max < (w.ledger k).lamports + n) .arithmeticOverflow
  pure (w.setLamports k ((w.ledger k).lamports + n))

/-! ## §3. kar-pro-pass. -/

section Programs

variable (P : Platform) (now : ℕ)

namespace Pass

/-- `initialize`. -/
def initializeConfig (stakingProgram : Pubkey) (x : Call) (L : Ledger) : Except Error Ledger := do
  let config ← x.account 0
  let authority ← x.account 1
  let _systemProgram ← x.account 2
  require (x.isSigner authority) .missingRequiredSignature
  require (stakingProgram ≠ .zero) (.custom .zeroAddress)
  require (config = .config .proPass) .invalidSeeds
  require ((L config).data = .empty) .accountAlreadyInitialized
  let w ← (Exec.start L).invoke .proPass x
    (createAccount x (P.minimumBalance passConfigSpace) authority config .proPass)
  let w := w.setData config (.passConfig ⟨authority, stakingProgram⟩)
  let w ← w.verify .proPass x
  pure w.ledger

def loadConfig (config : Pubkey) (L : Ledger) : Except Error PassConfig := do
  require (config = .config .proPass) .invalidSeeds
  require ((L config).owner = .proPass) .incorrectProgramId
  load L config

def requireStakingSigner (cfg : PassConfig) (stakingConfig : Pubkey) (x : Call) (L : Ledger) :
    Except Error Unit := do
  require (x.isSigner stakingConfig) (.custom .onlyStaking)
  require (stakingConfig = .config cfg.stakingProgram) (.custom .onlyStaking)
  require ((L stakingConfig).owner = cfg.stakingProgram) (.custom .onlyStaking)

/-- The record of a pass is created unless there is one. -/
def createMeta (x : Call) (payer passMeta : Pubkey) (space : ℕ) (w : Exec) : Except Error Exec :=
  if (w.ledger passMeta).data = .empty ∨ (w.ledger passMeta).lamports = 0 then
    w.invoke .proPass x (createAccount x (P.minimumBalance space) payer passMeta .proPass)
  else pure w

/-- `create_pass_asset` is the call of Core with the two checks before it. -/
def mint (category : ℕ) (name metadataUri : Text) (x : Call) (L : Ledger) :
    Except Error Ledger := do
  let config ← x.account 0
  let stakingConfig ← x.account 1
  let holder ← x.account 2
  let asset ← x.account 3
  let passMeta ← x.account 4
  let freeze ← x.account 5
  let payer ← x.account 6
  let core ← x.account 7
  let systemProgram ← x.account 8
  let cfg ← loadConfig config L
  requireStakingSigner cfg stakingConfig x L
  require (x.isSigner payer) .missingRequiredSignature
  revertIf (name = [] ∨ metadataUri = []) (.custom .emptyField)
  revertIf (passportUriCeilingBytes < metadataUri.byteLen) (.custom .uriTooLong)
  revertIf (maxCategory < category) (.custom .invalidCategory)
  require (asset = .pass .proPass holder) .invalidSeeds
  revertIf (isLiveCoreAsset (L asset)) (.custom .alreadyHoldsPass)
  require (passMeta = .passMeta .proPass holder) .invalidSeeds
  revertIf ((L passMeta).data ≠ .empty ∧ 0 < (L passMeta).lamports) (.custom .alreadyHoldsPass)
  require (freeze = .freeze .proPass) .invalidSeeds
  require (core = .mplCore) .incorrectProgramId
  require (systemProgram = .system) .incorrectProgramId
  let w ← (Exec.start L).invoke .proPass x
    (P.createV1 (asset :: config :: x.signers) asset payer holder config name metadataUri freeze
      true)
  let record : PassMeta := ⟨holder, category, name, metadataUri, now⟩
  let w ← createMeta P x payer passMeta record.space w
  let w := w.setData passMeta (.passMeta record)
  let w ← w.verify .proPass x
  pure w.ledger

/-- `thaw_and_burn`. -/
def thawAndBurn (x : Call) (asset payer owner freeze core : Pubkey) (w : Exec) :
    Except Error Exec := do
  require (core = .mplCore) .incorrectProgramId
  let w ← w.invoke .proPass x (P.updatePluginV1 (freeze :: x.signers) asset payer freeze false)
  w.invoke .proPass x (P.burnV1 x.signers asset payer owner)

/-- The record of a burned pass is drained, zeroed and handed back. -/
def closeMeta (passMeta holder rentRecipient : Pubkey) (w : Exec) : Except Error Exec :=
  if passMeta = .passMeta .proPass holder ∧ (w.ledger passMeta).owner = .proPass ∧
      (w.ledger passMeta).data ≠ .empty then do
    let w' ← addLamports (w.setLamports passMeta 0) rentRecipient (w.ledger passMeta).lamports
    let w' := w'.setData passMeta (AccountData.zeroed (w'.ledger passMeta).data)
    pure (w'.assign passMeta .system)
  else pure w

def closePass (holder : Pubkey) (x : Call) (L : Ledger) : Except Error Ledger := do
  let config ← x.account 0
  let stakingConfig ← x.account 1
  let asset ← x.account 2
  let passMeta ← x.account 3
  let freeze ← x.account 4
  let holderAi ← x.account 5
  let rentRecipient ← x.account 6
  let payer ← x.account 7
  let core ← x.account 8
  let _systemProgram ← x.account 9
  let cfg ← loadConfig config L
  requireStakingSigner cfg stakingConfig x L
  require (x.isSigner payer) .missingRequiredSignature
  require (holderAi = holder) .invalidArgument
  require (asset = .pass .proPass holder) .invalidSeeds
  require (isLiveCoreAsset (L asset)) (.custom .doesNotHoldPass)
  require (freeze = .freeze .proPass) .invalidSeeds
  let w ← thawAndBurn P x asset payer holderAi freeze core (Exec.start L)
  let w ← closeMeta passMeta holder rentRecipient w
  let w ← w.verify .proPass x
  pure w.ledger

end Pass

/-! ## §4. kar-pro-staking. -/

/-- A call of another program: no more accounts are writable in it and no more sign for it,
    but for the addresses the caller derives. -/
def invokeSigned (x inner : Call) (seeds : List Pubkey) (w : Exec)
    (f : Ledger → Except Error Ledger) : Except Error Exec := do
  require ((∀ k ∈ inner.writable, x.isWritable k) ∧ ∀ k ∈ inner.signers, x.isSigner k ∨ k ∈ seeds)
    .missingRequiredSignature
  w.invoke .proStaking x f

/-- `initialize`. -/
def initializeConfig (passProgram : Pubkey) (minStakeLamports minStakeFloorLamports : ℕ)
    (unbondingPeriodSecs : ℕ) (x : Call) (L : Ledger) : Except Error (Ledger × Option Event) := do
  let config ← x.account 0
  let authority ← x.account 1
  let _systemProgram ← x.account 2
  require (x.isSigner authority) .missingRequiredSignature
  require (passProgram ≠ .zero) (.custom .zeroAddress)
  revertIf (minStakeLamports < minStakeFloorLamports) (.custom .belowMinStakeFloor)
  require (config = .config .proStaking) .invalidSeeds
  require ((L config).data = .empty) .accountAlreadyInitialized
  let w ← (Exec.start L).invoke .proStaking x
    (createAccount x (P.minimumBalance stakingConfigSpace) authority config .proStaking)
  let w := w.setData config (.stakingConfig
    ⟨authority, passProgram, minStakeLamports, minStakeFloorLamports, unbondingPeriodSecs⟩)
  let w ← w.verify .proStaking x
  pure (w.ledger, none)

def loadConfig (config : Pubkey) (L : Ledger) : Except Error StakingConfig := do
  require (config = .config .proStaking) .invalidSeeds
  require ((L config).owner = .proStaking) .incorrectProgramId
  load L config

/-- `require_config_authority`. -/
def requireConfigAuthority (config authority : Pubkey) (x : Call) (L : Ledger) :
    Except Error StakingConfig := do
  let cfg ← loadConfig config L
  require (x.isSigner authority) .missingRequiredSignature
  require (authority = cfg.authority) (.custom .notOwner)
  pure cfg

def loadStake (stake wallet : Pubkey) (L : Ledger) : Except Error StakeAccount := do
  require (stake = .stake .proStaking wallet) .invalidSeeds
  require ((L stake).owner = .proStaking) .incorrectProgramId
  load L stake

/-- The stake account as `join` finds it. -/
def existingStake (stake wallet : Pubkey) (L : Ledger) : Except Error (Option StakeAccount) :=
  if (L stake).owner = .proStaking ∧ (L stake).data ≠ .empty then
    some <$> loadStake stake wallet L
  else pure none

/-- `write_stake` asks the data to be long enough, which that of a stake account is. -/
def writeStake (w : Exec) (stake : Pubkey) (record : StakeAccount) : Except Error Exec :=
  match (w.ledger stake).data with
  | .zeros | .stake _ => .ok (w.setData stake (.stake record))
  | _ => .error .accountDataTooSmall

def requireCanJoin : Option StakeAccount → Except Error Unit
  | some s => do
    revertIf (s.active = true) (.custom .alreadyVerifier)
    revertIf (s.unlockAt ≠ 0 ∨ 0 < s.amount) (.custom .unbondPending)
  | none => pure ()

/-- The accounts `join` hands to `Mint`. -/
def mintCall (passConfig config verifier passAsset passMeta passFreeze core
    systemProgram : Pubkey) : Call :=
  ⟨[passConfig, config, verifier, passAsset, passMeta, passFreeze, verifier, core,
      systemProgram],
    [config, verifier], [passConfig, passAsset, passMeta, verifier]⟩

def join (amount category : ℕ) (name metadataUri : Text) (x : Call) (L : Ledger) :
    Except Error (Ledger × Option Event) := do
  let config ← x.account 0
  let stake ← x.account 1
  let verifier ← x.account 2
  let passProgram ← x.account 3
  let passConfig ← x.account 4
  let passAsset ← x.account 5
  let passMeta ← x.account 6
  let passFreeze ← x.account 7
  let core ← x.account 8
  let systemProgram ← x.account 9
  require (x.isSigner verifier) .missingRequiredSignature
  let cfg ← loadConfig config L
  require (passProgram = cfg.passProgram) .incorrectProgramId
  revertIf (amount < cfg.minStakeLamports) (.custom .belowMinStake)
  require (stake = .stake .proStaking verifier) .invalidSeeds
  let existing ← existingStake stake verifier L
  requireCanJoin existing
  let rent := P.minimumBalance stakeAccountSpace
  let w ← (Exec.start L).invoke .proStaking x
    (if (L stake).data = .empty ∨ (L stake).lamports = 0 then
      createAccount x (saturatingAdd rent amount) verifier stake .proStaking
    else systemTransfer x verifier stake amount)
  let w ← writeStake w stake ⟨verifier, amount, now, true, 0, 0⟩
  let inner := mintCall passConfig config verifier passAsset passMeta passFreeze core
    systemProgram
  let w ← invokeSigned x inner [.config .proStaking] w
    (Pass.mint P now category name metadataUri inner)
  let w ← w.verify .proStaking x
  pure (w.ledger, some (.verifierJoined verifier amount))

def leave (x : Call) (L : Ledger) : Except Error (Ledger × Option Event) := do
  let config ← x.account 0
  let stake ← x.account 1
  let verifier ← x.account 2
  require (x.isSigner verifier) .missingRequiredSignature
  let cfg ← loadConfig config L
  let s ← loadStake stake verifier L
  require (s.active = true) (.custom .notVerifier)
  let unlockAt := saturatingAdd now cfg.unbondingPeriodSecs
  let w ← writeStake (Exec.start L) stake
    { s with active := false, unlockAt := unlockAt, verificationFee := 0 }
  let w ← w.verify .proStaking x
  pure (w.ledger, some (.verifierLeft verifier s.amount unlockAt))

def claimStake (x : Call) (L : Ledger) : Except Error (Ledger × Option Event) := do
  let config ← x.account 0
  let stake ← x.account 1
  let verifier ← x.account 2
  require (x.isSigner verifier) .missingRequiredSignature
  let _cfg ← loadConfig config L
  let s ← loadStake stake verifier L
  revertIf (s.active = true ∨ s.unlockAt = 0) (.custom .noUnbond)
  revertIf (now < s.unlockAt) (.custom .unbondNotReady)
  let rent := P.minimumBalance stakeAccountSpace
  revertIf ((L stake).lamports < saturatingAdd rent s.amount) (.custom .transferFailed)
  require (s.amount ≤ (L stake).lamports) .arithmeticOverflow
  let w := (Exec.start L).setLamports stake ((L stake).lamports - s.amount)
  let w ← addLamports w verifier s.amount
  let w ← writeStake w stake { s with amount := 0, unlockAt := 0, stakedAt := 0 }
  let w ← w.verify .proStaking x
  pure (w.ledger, some (.claimWithdrawn verifier s.amount))

def setVerificationFee (fee : ℕ) (x : Call) (L : Ledger) :
    Except Error (Ledger × Option Event) := do
  let config ← x.account 0
  let stake ← x.account 1
  let verifier ← x.account 2
  require (x.isSigner verifier) .missingRequiredSignature
  let _cfg ← loadConfig config L
  let s ← loadStake stake verifier L
  require (s.active = true) (.custom .notVerifier)
  let w ← writeStake (Exec.start L) stake { s with verificationFee := fee }
  let w ← w.verify .proStaking x
  pure (w.ledger, some (.verificationFeeUpdated verifier fee))

def setMinStakeNative (lamports : ℕ) (x : Call) (L : Ledger) :
    Except Error (Ledger × Option Event) := do
  let config ← x.account 0
  let authority ← x.account 1
  let cfg ← requireConfigAuthority config authority x L
  revertIf (lamports < cfg.minStakeFloorLamports) (.custom .belowMinStakeFloor)
  let w := (Exec.start L).setData config (.stakingConfig { cfg with minStakeLamports := lamports })
  let w ← w.verify .proStaking x
  pure (w.ledger, none)

/-- The accounts `close_pass` hands to `ClosePass`. -/
def closePassCall (passConfig config passAsset passMeta passFreeze verifier rentRecipient core
    systemProgram : Pubkey) : Call :=
  ⟨[passConfig, config, passAsset, passMeta, passFreeze, verifier, rentRecipient, verifier, core,
    systemProgram], [config, verifier], [passAsset, passMeta, rentRecipient, verifier]⟩

def closePass (x : Call) (L : Ledger) : Except Error (Ledger × Option Event) := do
  let config ← x.account 0
  let stake ← x.account 1
  let verifier ← x.account 2
  let passProgram ← x.account 3
  let passConfig ← x.account 4
  let passAsset ← x.account 5
  let passMeta ← x.account 6
  let passFreeze ← x.account 7
  let rentRecipient ← x.account 8
  let core ← x.account 9
  let systemProgram ← x.account 10
  require (x.isSigner verifier) .missingRequiredSignature
  let cfg ← loadConfig config L
  require (passProgram = cfg.passProgram) .incorrectProgramId
  let s ← loadStake stake verifier L
  revertIf (s.active = true) (.custom .alreadyVerifier)
  let inner := closePassCall passConfig config passAsset passMeta passFreeze verifier
    rentRecipient core systemProgram
  let w ← invokeSigned x inner [.config .proStaking] (Exec.start L)
    (Pass.closePass P verifier inner)
  let w ← w.verify .proStaking x
  pure (w.ledger, none)

/-! ## §5. Runs. -/

inductive Instruction
  | initializeConfig (passProgram : Pubkey)
      (minStakeLamports minStakeFloorLamports unbondingPeriodSecs : ℕ)
  | join (amount category : ℕ) (name metadataUri : Text)
  | leave
  | claimStake
  | setVerificationFee (fee : ℕ)
  | setMinStakeNative (lamports : ℕ)
  | closePass
  | passInitialize (stakingProgram : Pubkey)
  | passMint (category : ℕ) (name metadataUri : Text)
  | passClosePass (holder : Pubkey)

/-- The dispatchers of both programs. -/
def processInstruction (x : Call) (L : Ledger) : Instruction → Except Error (Ledger × Option Event)
  | .initializeConfig passProgram minStake floor period =>
    ProSvm.initializeConfig P passProgram minStake floor period x L
  | .join amount category name metadataUri => ProSvm.join P now amount category name metadataUri x L
  | .leave => ProSvm.leave now x L
  | .claimStake => ProSvm.claimStake P now x L
  | .setVerificationFee fee => ProSvm.setVerificationFee fee x L
  | .setMinStakeNative lamports => ProSvm.setMinStakeNative lamports x L
  | .closePass => ProSvm.closePass P x L
  | .passInitialize stakingProgram => (·, none) <$> Pass.initializeConfig P stakingProgram x L
  | .passMint category name metadataUri =>
    (·, none) <$> Pass.mint P now category name metadataUri x L
  | .passClosePass holder => (·, none) <$> Pass.closePass P holder x L

/-- Nobody outside signs for the addresses of the two programs. -/
def Outside (x : Call) : Prop :=
  ∀ k ∈ x.signers, k.derivedBy .proStaking = false ∧ k.derivedBy .proPass = false

instance (x : Call) : Decidable (Outside x) := inferInstanceAs (Decidable (∀ k ∈ x.signers, _))

/-- An account without lamports is gone when the transaction is over. -/
def swept (L : Ledger) : Ledger := fun k =>
  if (L k).lamports = 0 then ⟨0, .system, .empty, false⟩ else L k

/-- The accounts, the time, and the events logged with the time they were. -/
structure State where
  ledger : Ledger
  now : ℕ
  events : List (ℕ × Event)

inductive Step
  | call (ix : Instruction) (x : Call)
  | transfer (x : Call) (src dst : Pubkey) (amount : ℕ)
  | endTransaction
  | tick (secs : ℕ)

def step (s : State) : Step → Except Error State
  | .call ix x => do
    require (Outside x) .missingRequiredSignature
    let (L, e) ← processInstruction P s.now x s.ledger ix
    pure ⟨L, s.now, e.toList.map (s.now, ·) ++ s.events⟩
  | .transfer x src dst amount => do
    require (Outside x) .missingRequiredSignature
    let L ← systemTransfer x src dst amount s.ledger
    pure { s with ledger := L }
  | .endTransaction => pure { s with ledger := swept s.ledger }
  | .tick secs => pure { s with now := s.now + secs }

end Programs

/-! ## §6. The reference platform. -/

namespace Platform

def rentExempt (n : ℕ) : ℕ := (128 + n) * 6960

/-- Rent of an asset account with a name and a URI of that length. -/
def assetRent (name uri : Text) : ℕ := rentExempt (200 + name.byteLen + uri.byteLen)

/-- The live asset of an account. -/
def liveAsset (L : Ledger) (k : Pubkey) : Except Error CoreAsset :=
  orRevert (coreAt L k) .invalidAccountData

/-- Core's `CreateV1` of an asset without a collection: `create_account` on the address of the
    asset, then the asset is written. -/
def coreCreateV1 (signers : List Pubkey) (asset payer owner updateAuthority : Pubkey)
    (name uri : Text) (freezeAuthority : Pubkey) (frozen : Bool) (L : Ledger) :
    Except Error Ledger := do
  require (payer ∈ signers ∧ asset ∈ signers ∧ updateAuthority ∈ signers)
    .missingRequiredSignature
  require (Free (L asset)) .accountAlreadyInitialized
  require ((L payer).owner = .system ∧ (L payer).data = .empty ∧ payer ≠ asset)
    .invalidAccountData
  require (assetRent name uri ≤ (L payer).lamports) .insufficientFunds
  let L := Function.update L payer
    { L payer with lamports := (L payer).lamports - assetRent name uri }
  pure (Function.update L asset ⟨assetRent name uri, .mplCore,
    .coreAsset ⟨owner, updateAuthority, name, uri, freezeAuthority, frozen⟩, false⟩)

/-- Core's `UpdatePluginV1` of the permanent freeze. -/
def coreUpdatePluginV1 (signers : List Pubkey) (asset _payer authority : Pubkey) (frozen : Bool)
    (L : Ledger) : Except Error Ledger := do
  let a ← liveAsset L asset
  require (authority ∈ signers ∧ a.freezeAuthority = authority) .missingRequiredSignature
  pure (Function.update L asset { L asset with data := .coreAsset { a with frozen := frozen } })

/-- Core's `BurnV1`: one byte is left, with its rent; the payer gets the rest. -/
def coreBurnV1 (signers : List Pubkey) (asset payer authority : Pubkey) (L : Ledger) :
    Except Error Ledger := do
  let a ← liveAsset L asset
  require (authority ∈ signers ∧ a.owner = authority) .missingRequiredSignature
  revertIf (a.frozen = true) .invalidAccountData
  require (rentExempt 1 ≤ (L asset).lamports ∧ payer ≠ asset) .insufficientFunds
  let L' := Function.update L payer
    { L payer with lamports := (L payer).lamports + ((L asset).lamports - rentExempt 1) }
  pure (Function.update L' asset { L asset with lamports := rentExempt 1, data := .byte })

theorem coreAt_eq_some {L : Ledger} {k : Pubkey} {a : CoreAsset} :
    coreAt L k = some a ↔ (L k).owner = .mplCore ∧ (L k).data = .coreAsset a := by
  unfold coreAt
  split
  · rename_i ho
    split
    · rename_i hd
      simp [ho, hd]
    · rename_i hd
      simp only [reduceCtorEq, ho, true_and, false_iff]
      exact hd a
  · rename_i ho
    simp [ho]

theorem core_minimumBalance_pos : ∀ n, 0 < rentExempt n := by
  intro n
  unfold rentExempt
  omega

theorem core_createV1_ok :
    ∀ {signers asset payer owner updateAuthority name uri freezeAuthority frozen L L'},
    coreCreateV1 signers asset payer owner updateAuthority name uri freezeAuthority frozen L =
      .ok L' →
    Free (L asset) ∧ 0 < (L' asset).lamports ∧
      coreAt L' asset = some ⟨owner, updateAuthority, name, uri, freezeAuthority, frozen⟩ ∧
      CoreFrame asset payer L L' := by
  intro signers asset payer owner updateAuthority name uri freezeAuthority frozen L L' h
  simp only [coreCreateV1, bind_ok, require_ok, pure_ok, exists_const] at h
  obtain ⟨-, hfree, -, -, rfl⟩ := h
  refine ⟨hfree, ?_, coreAt_eq_some.mpr (by simp), ?_⟩
  · rw [Function.update_self]
    show 0 < rentExempt _
    unfold rentExempt
    omega
  · intro k hk hkp
    simp [hk, hkp]

theorem core_updatePluginV1_ok : ∀ {signers asset payer authority frozen L L'},
    coreUpdatePluginV1 signers asset payer authority frozen L = .ok L' →
    (∃ a, coreAt L asset = some a ∧ authority ∈ signers ∧ a.freezeAuthority = authority ∧
      coreAt L' asset = some { a with frozen := frozen }) ∧ CoreFrame asset payer L L' := by
  intro signers asset payer authority frozen L L' h
  simp only [coreUpdatePluginV1, liveAsset, bind_ok, orRevert_ok, require_ok, pure_ok,
    exists_const] at h
  obtain ⟨a, ha, ⟨hsign, hauth⟩, rfl⟩ := h
  have ho := (coreAt_eq_some.mp ha).1
  refine ⟨⟨a, ha, hsign, hauth, coreAt_eq_some.mpr (by simp [ho])⟩, ?_⟩
  intro k hk _
  simp [hk]

theorem core_burnV1_ok : ∀ {signers asset payer authority L L'},
    coreBurnV1 signers asset payer authority L = .ok L' →
    (∃ a, coreAt L asset = some a ∧ authority ∈ signers ∧ a.owner = authority) ∧
      (L' asset).owner = .mplCore ∧ (L' asset).data = .byte ∧ 0 < (L' asset).lamports ∧
      CoreFrame asset payer L L' := by
  intro signers asset payer authority L L' h
  simp only [coreBurnV1, liveAsset, bind_ok, orRevert_ok, require_ok, revertIf_ok, pure_ok,
    exists_const] at h
  obtain ⟨a, ha, ⟨hsign, hauth⟩, -, -, rfl⟩ := h
  have ho := (coreAt_eq_some.mp ha).1
  refine ⟨⟨a, ha, hsign, hauth⟩, by simp [ho], by simp, ?_, ?_⟩
  · rw [Function.update_self]
    show 0 < rentExempt 1
    unfold rentExempt
    omega
  · intro k hk hkp
    simp [hk, hkp]

theorem core_createV1_accepts :
    ∀ {signers asset payer owner updateAuthority name uri freezeAuthority frozen L},
    payer ∈ signers → asset ∈ signers → updateAuthority ∈ signers → Free (L asset) →
    (L payer).owner = .system → (L payer).data = .empty → assetRent name uri ≤ (L payer).lamports →
    ∃ L', coreCreateV1 signers asset payer owner updateAuthority name uri freezeAuthority frozen L =
        .ok L' ∧
      (L' payer).owner = .system ∧ (L' payer).data = .empty ∧
      (L payer).lamports = (L' payer).lamports + assetRent name uri := by
  intro signers asset payer owner updateAuthority name uri freezeAuthority frozen L hp ha hu hfree
    ho hd hrent
  have hne : payer ≠ asset := by
    rintro rfl
    have hzero : (L payer).lamports = 0 := hfree.2.2
    unfold assetRent rentExempt at hrent
    omega
  let paid := Function.update L payer
    { L payer with lamports := (L payer).lamports - assetRent name uri }
  refine ⟨Function.update paid asset ⟨assetRent name uri, .mplCore,
    .coreAsset ⟨owner, updateAuthority, name, uri, freezeAuthority, frozen⟩, false⟩, ?_, ?_⟩
  · simp only [coreCreateV1, bind_ok, require_ok, pure_ok, exists_const]
    exact ⟨⟨hp, ha, hu⟩, hfree, ⟨ho, hd, hne⟩, hrent, rfl⟩
  · refine ⟨by simp [paid, hne, ho], by simp [paid, hne, hd], ?_⟩
    simp [paid, hne]
    omega

/-- Core on plain assets. -/
def reference : Platform where
  minimumBalance := rentExempt
  rent := assetRent
  createV1 := coreCreateV1
  updatePluginV1 := coreUpdatePluginV1
  burnV1 := coreBurnV1
  minimumBalance_pos := @core_minimumBalance_pos
  createV1_ok := @core_createV1_ok
  updatePluginV1_ok := @core_updatePluginV1_ok
  burnV1_ok := @core_burnV1_ok
  createV1_accepts := @core_createV1_accepts

end Platform

end Kargain.ProSvm
