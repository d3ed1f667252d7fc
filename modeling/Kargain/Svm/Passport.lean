/-
  Kargain.Svm.Passport — programs/kar-passport, instruction by instruction.

  A passport is a Core asset and a state account, both at addresses
  derived from its token id; a challenge of its verification and its
  records have addresses of their own.  Every instruction names its
  accounts by position and checks some of them; the functions below read
  the accounts where entrypoint.rs does and check what it checks, in its
  order, so an account nobody checks is the caller's choice here too.

  Left out: events and logs, bumps and discriminators, the fields of the
  config nothing reads (local_eid, endpoint_program).
-/
import Kargain.Svm.Effects
import Kargain.Svm.May

namespace Kargain.Svm

open Kargain.Accounts

/-- The verification is gone: `lapse_verification`, and the writes like it. -/
def PassportState.lapsed (st : PassportState) : PassportState :=
  { st with status := .unverified, verifier := .zero, verifiedAt := 0 }

/-- Borsh length of the config. -/
def PassportConfig.encodedLen (c : PassportConfig) : ℕ :=
  233 + (c.encumbranceSources.map fun e => 36 + e.seedPrefix.length).sum

/-- Borsh length of a record. -/
def PassportRecord.encodedLen (r : PassportRecord) : ℕ :=
  97 + r.recordType.byteLen + r.description.byteLen + r.evidenceCid.byteLen

namespace Passport

/-! ## §1. Constants and token ids. -/

abbrev programId : Pubkey := .program 3

/-- `PASSPORT_URI_CEILING_BYTES`. -/
def passportUriCeilingBytes : ℕ := 160

/-- `DISPUTE_WINDOW_SECONDS`: 14 days. -/
def disputeWindowSeconds : ℕ := 1209600

def passportStateSpace : ℕ := 256

/-- `ChallengeAccount::SPACE`. -/
def challengeSpace : ℕ := 97

def maxEncumbranceSources : ℕ := 8

/-- `MAX_GROWTH` of the config account in one instruction. -/
def maxGrowth : ℕ := 10240

/-- `token_id_from_parts`. -/
def tokenIdFromParts (tokenNamespace localSeq : ℕ) : TokenId :=
  tokenNamespace * 2 ^ 128 + localSeq

/-- `namespace_of`. -/
def namespaceOf (t : TokenId) : ℕ := t / 2 ^ 128

def isHomeToken (t : TokenId) (localNamespace : ℕ) : Bool := namespaceOf t = localNamespace

/-- `PassportState::new_unverified`. -/
def newUnverified (t : TokenId) : PassportState := ⟨t, .unverified, .zero, 0, false, false, 0⟩

/-! ## §2. Loading, and the checks of the pure modules. -/

def loadConfig (L : Ledger) (config : Pubkey) : Except Error PassportConfig := do
  require (config = configPda programId) .invalidSeeds
  require ((L config).owner = programId) .incorrectProgramId
  load L config

def requireConfigAuthority (x : Call) (L : Ledger) (config authority : Pubkey) :
    Except Error PassportConfig := do
  let cfg ← loadConfig L config
  require (x.isSigner authority) .missingRequiredSignature
  require (authority = cfg.authority) (.custom .notOwner)
  pure cfg

def loadState (L : Ledger) (state : Pubkey) (t : TokenId) : Except Error PassportState := do
  require (state = statePda programId t) .invalidSeeds
  revertIf ((L state).owner ≠ programId ∨ (L state).data = .empty) .uninitializedAccount
  load L state

/-- `require_gateway`. -/
def requireGateway (x : Call) (cfg : PassportConfig) (gateway : Pubkey) : Except Error Unit := do
  require (x.isSigner gateway) .missingRequiredSignature
  require (cfg.bridgeGateway ≠ .zero ∧ cfg.bridgeGateway = gateway) (.custom .notBridgeGateway)

/-- `gate_and_read_owner`. -/
def gateAndReadOwner (L : Ledger) (asset : Pubkey) : Except Error (Bool × Pubkey) :=
  if isLiveCoreAsset L asset = true then do
    let a ← readAsset L asset
    pure (true, a.owner)
  else pure (false, .zero)

/-- `require_exists` and `require_not_bridged_away`. -/
def requireHere (assetExists : Bool) (st : PassportState) : Except Error Unit := do
  revertIf (assetExists = false ∨ st.burned = true) (.custom .nonexistentToken)
  revertIf (st.custodyLocked = true) (.custom .passportBridgedAway)

/-- `check_verify_passport`. -/
def checkVerifyPassport (L : Ledger) (assetExists : Bool) (st : PassportState)
    (assetOwner verifier stake stakingProgram : Pubkey) : Except Error Unit := do
  requireHere assetExists st
  proveActiveVerifier L stake verifier stakingProgram
  revertIf (assetOwner = verifier) (.custom .cannotSelfVerify)
  require (st.status = .unverified) (.custom .invalidStatus)

/-- `check_write_uri_length`. -/
def checkWriteUriLength (uri : Text) : Except Error Unit :=
  revertIf (passportUriCeilingBytes < uri.byteLen) (.custom .uriTooLong)

/-- `check_set_uri`; the answer says whether the verification is reset. -/
def checkSetUri (st : PassportState) (isOwner : Bool) (newUri currentUri : Text) :
    Except Error Bool := do
  revertIf (st.custodyLocked = true) (.custom .passportBridgedAway)
  require (isOwner = true) (.custom .notOwner)
  revertIf (newUri = []) (.custom .emptyField)
  revertIf (st.status = .disputed) (.custom .invalidStatus)
  revertIf (newUri = currentUri) (.custom .sameUri)
  checkWriteUriLength newUri
  pure (decide (st.status = .verified))

/-- `admit_bound_gateway_freeze`. -/
def admitBoundGatewayFreeze (cfg : PassportConfig) (L : Ledger) (gatewayConfig : Pubkey) :
    Except Error Pubkey := do
  revertIf (cfg.bridgeGateway = .zero) (.custom .bridgeGatewayUnbound)
  require (gatewayConfig = cfg.bridgeGateway) (.custom .notBridgeGateway)
  require (gatewayConfig = configPda (L gatewayConfig).owner) .invalidSeeds
  pure (freezePda (L gatewayConfig).owner)

/-- `admit_mint_passport`: the id to mint, the next one and the freeze authority. -/
def admitMintPassport (cfg : PassportConfig) (x : Call) (L : Ledger)
    (payer owner freezeAuthority gatewayConfig asset : Pubkey) :
    Except Error (TokenId × TokenId × Pubkey) := do
  require (x.isSigner payer) .missingRequiredSignature
  revertIf (owner = .zero) (.custom .zeroAddress)
  revertIf (owner = cfg.bridgeGateway) (.custom .invalidReceiver)
  let t := cfg.nextTokenId
  revertIf (2 ^ 128 ≤ t % 2 ^ 128 + 1) (.custom .tokenIdSpaceExhausted)
  let next := tokenIdFromParts cfg.tokenNamespace (t % 2 ^ 128 + 1)
  let freeze ← admitBoundGatewayFreeze cfg L gatewayConfig
  require (freezeAuthority = freeze) .invalidSeeds
  require (asset = assetPda programId t) .invalidSeeds
  pure (t, next, freeze)

/-- `check_open_challenge`. -/
def checkOpenChallenge (assetExists : Bool) (st : PassportState) : Except Error Unit := do
  requireHere assetExists st
  require (st.status = .verified) (.custom .invalidStatus)

/-! ## §3. The challenge hooks. -/

/-- `challenge_config_from_passport`. -/
def challengeConfigFromPassport (cfg : PassportConfig) : ChallengeConfig :=
  ⟨cfg.forfeitRecipient, disputeWindowSeconds, decide (cfg.forfeitRecipient ≠ .zero)⟩

/-- `PassportHooks`. -/
structure PassportHooks where
  state : PassportState
  assetOwner : Pubkey
  disputeDeposit : ℕ
  judgeQualified : Bool
  pendingWithdrawRecord : Bool

def passportHooks : ChallengeHooks PassportHooks where
  requiredBondAmount h := h.disputeDeposit
  requireChallengeActionAllowed h _ := do
    revertIf (h.state.custodyLocked = true) (.custom .passportBridgedAway)
    revertIf (h.state.burned = true) (.custom .nonexistentToken)
  isEligibleChallenger _ _ _ := true
  isQualifiedJudge h _ _ := h.judgeQualified
  isExcludedJudge h _ challenger judge :=
    decide (judge = challenger ∨ judge = h.assetOwner ∨ judge = h.state.verifier)
  onUpheld h _ _ _ := { h with state := h.state.lapsed }
  onRejected h _ _ _ := { h with state := { h.state with status := .verified } }
  onExpired h _ _ := { h with state := h.state.lapsed }
  onWithdrawn h _ _ :=
    { h with state := { h.state with status := .verified }, pendingWithdrawRecord := true }

/-! ## §4. What the handlers share. -/

section Handlers

variable (P : Platform) (x : Call) (now : ℕ) (w : Exec)

/-- `create_asset_with_freeze`: the asset's address and the config sign besides. -/
def createAssetWithFreeze (asset payer owner updateAuthority freezeAuthority core systemProgram : Pubkey)
    (t : TokenId) (uri : Text) : Except Error Exec := do
  require (core = .mplCore) .incorrectProgramId
  require (systemProgram = .system) .incorrectProgramId
  require (asset = assetPda programId t) .invalidSeeds
  w.invoke programId x (P.createV1 (assetPda programId t :: configPda programId :: x.signers)
    asset payer owner updateAuthority uri freezeAuthority false)

/-- `set_frozen`. -/
def setFrozen (asset payer freezeAuthority core : Pubkey) (frozen : Bool) :
    Except Error Exec := do
  require (core = .mplCore) .incorrectProgramId
  require (x.isSigner freezeAuthority) .missingRequiredSignature
  w.invoke programId x (P.updatePluginV1 x.signers asset payer freezeAuthority frozen)

/-- `thaw_and_burn`. -/
def thawAndBurn (asset payer owner freezeAuthority core : Pubkey) : Except Error Exec := do
  let w ← setFrozen P x w asset payer freezeAuthority core false
  w.invoke programId x (P.burnV1 x.signers asset payer owner)

/-- `update_uri`, the config signing. -/
def updateUri (asset payer updateAuthority core : Pubkey) (uri : Text) : Except Error Exec := do
  require (core = .mplCore) .incorrectProgramId
  w.invoke programId x
    (P.updateV1 (configPda programId :: x.signers) asset payer updateAuthority uri)

/-- `create_state_account`. -/
def createStateAccount (state payer systemProgram : Pubkey) (t : TokenId) : Except Error Exec := do
  require (state = statePda programId t) .invalidSeeds
  require (systemProgram = .system) .incorrectProgramId
  revertIf ((w.ledger state).lamports ≠ 0) .accountAlreadyInitialized
  createPda P programId x w payer state programId passportStateSpace (.passportState default)

/-- `append_record_checked`. -/
def appendRecordChecked (st : PassportState) (record payer systemProgram author : Pubkey)
    (recordType description evidenceCid : Text) : Except Error (Exec × PassportState) := do
  require (record = .pda programId (.record st.tokenId st.recordCount)) .invalidSeeds
  let r : PassportRecord :=
    ⟨st.tokenId, st.recordCount, now, author, recordType, description, evidenceCid⟩
  require (systemProgram = .system) .incorrectProgramId
  revertIf ((w.ledger record).lamports ≠ 0) .accountAlreadyInitialized
  let w ← createPda P programId x w payer record programId r.encodedLen (.other (some 0))
  let w := w.setData record (.passportRecord r)
  revertIf (2 ^ 32 ≤ st.recordCount + 1) (.custom .arithmeticOverflow)
  pure (w, { st with recordCount := st.recordCount + 1 })

/-- `resize_config_account`: rent comes from the payer, and what is too much goes back. -/
def resizeConfigAccount (config payer systemProgram : Pubkey) (oldLen newLen : ℕ) :
    Except Error Exec := do
  revertIf (maxGrowth < newLen - oldLen) (.custom .encumbranceConfigGrowthTooLarge)
  require (systemProgram = .system) .incorrectProgramId
  let w ← payNative programId x w payer config
    (P.minimumBalance newLen - (w.ledger config).lamports)
  let excess := (w.ledger config).lamports - P.minimumBalance newLen
  pure (if newLen < oldLen ∧ 0 < excess then w.move config payer excess else w)

/-! ## §5. Instructions: config. -/

def initializeConfig (tokenNamespace disputeDeposit : ℕ) (stakingProgram forfeitRecipient : Pubkey) :
    Except Error Exec := do
  let config ← x.account 0
  let authority ← x.account 1
  let _systemProgram ← x.account 2
  require (x.isSigner authority) .missingRequiredSignature
  require (config = configPda programId) .invalidSeeds
  let record : PassportConfig := ⟨authority, tokenNamespace, disputeDeposit, stakingProgram, .zero,
    forfeitRecipient, tokenIdFromParts tokenNamespace 1, []⟩
  let w ← createPda P programId x w authority config programId record.encodedLen (.other (some 0))
  pure (w.setData config (.passportConfig record))

def setBridgeGateway (gateway : Pubkey) : Except Error Exec := do
  let config ← x.account 0
  let authority ← x.account 1
  let cfg ← requireConfigAuthority x w.ledger config authority
  revertIf (cfg.bridgeGateway ≠ .zero) (.custom .gatewayAlreadySet)
  revertIf (gateway = .zero) (.custom .zeroAddress)
  w.store config { cfg with bridgeGateway := gateway }

def setStakingProgram (stakingProgram : Pubkey) : Except Error Exec := do
  let config ← x.account 0
  let authority ← x.account 1
  let cfg ← requireConfigAuthority x w.ledger config authority
  revertIf (stakingProgram = .zero) (.custom .zeroAddress)
  w.store config { cfg with stakingProgram := stakingProgram }

def setDisputeDeposit (disputeDeposit : ℕ) : Except Error Exec := do
  let config ← x.account 0
  let authority ← x.account 1
  let cfg ← requireConfigAuthority x w.ledger config authority
  revertIf (disputeDeposit = 0) (.custom .zeroDisputeDeposit)
  w.store config { cfg with disputeDeposit := disputeDeposit }

/-- Write a changed registry of sources back, with the account resized. -/
def resizeAndSave (config payer systemProgram : Pubkey) (cfg : PassportConfig)
    (sources : List EncumbranceSourceEntry) : Except Error Exec := do
  let cfg' := { cfg with encumbranceSources := sources }
  let w ← resizeConfigAccount P x w config payer systemProgram cfg.encodedLen cfg'.encodedLen
  w.store config cfg'

def addEncumbranceSource (sourceProgram : Pubkey) (seedPrefix : List ℕ) : Except Error Exec := do
  let config ← x.account 0
  let authority ← x.account 1
  let payer ← x.account 2
  let systemProgram ← x.account 3
  require (x.isSigner payer) .missingRequiredSignature
  requireValidSeedPrefix seedPrefix
  let cfg ← requireConfigAuthority x w.ledger config authority
  revertIf (maxEncumbranceSources ≤ cfg.encumbranceSources.length)
    (.custom .tooManyEncumbranceSources)
  revertIf (cfg.encumbranceSources.any (fun e => e.programId = sourceProgram) = true)
    (.custom .sourceAlreadyRegistered)
  resizeAndSave P x w config payer systemProgram cfg
    (cfg.encumbranceSources ++ [⟨sourceProgram, seedPrefix⟩])

/-- `swap(idx, last)` and `pop`. -/
def swapRemove (l : List EncumbranceSourceEntry) (i : ℕ) : List EncumbranceSourceEntry :=
  match l.getLast? with
  | some e => (l.set i e).dropLast
  | none => []

def removeEncumbranceSource (sourceProgram : Pubkey) : Except Error Exec := do
  let config ← x.account 0
  let authority ← x.account 1
  let payer ← x.account 2
  let systemProgram ← x.account 3
  require (x.isSigner payer) .missingRequiredSignature
  let cfg ← requireConfigAuthority x w.ledger config authority
  let i ← orRevert (cfg.encumbranceSources.findIdx? fun e => e.programId = sourceProgram)
    (.custom .sourceNotRegistered)
  resizeAndSave P x w config payer systemProgram cfg (swapRemove cfg.encumbranceSources i)

/-! ## §6. Instructions: minting, verification, URI, transfer. -/

def mintPassport (uri : Text) : Except Error Exec := do
  checkWriteUriLength uri
  let config ← x.account 0
  let asset ← x.account 1
  let state ← x.account 2
  let payer ← x.account 3
  let owner ← x.account 4
  let freezeAuthority ← x.account 5
  let gatewayConfig ← x.account 6
  let core ← x.account 7
  let systemProgram ← x.account 8
  let cfg ← loadConfig w.ledger config
  let (t, next, freeze) ←
    admitMintPassport cfg x w.ledger payer owner freezeAuthority gatewayConfig asset
  revertIf (isLiveCoreAsset w.ledger asset = true) (.custom .tokenExists)
  let w ← createAssetWithFreeze P x w asset payer owner config freeze core systemProgram t uri
  let w ← createStateAccount P x w state payer systemProgram t
  let w ← w.store state (newUnverified t)
  w.store config { cfg with nextTokenId := next }

def verifyPassport (t : TokenId) : Except Error Exec := do
  let config ← x.account 0
  let asset ← x.account 1
  let state ← x.account 2
  let stake ← x.account 3
  let verifier ← x.account 4
  require (x.isSigner verifier) .missingRequiredSignature
  let cfg ← loadConfig w.ledger config
  let st ← loadState w.ledger state t
  let (live, assetOwner) ← gateAndReadOwner w.ledger asset
  checkVerifyPassport w.ledger live st assetOwner verifier stake cfg.stakingProgram
  w.store state { st with status := .verified, verifier := verifier, verifiedAt := now }

def setPassportUri (t : TokenId) (uri : Text) : Except Error Exec := do
  let config ← x.account 0
  let asset ← x.account 1
  let state ← x.account 2
  let owner ← x.account 3
  let payer ← x.account 4
  let core ← x.account 5
  let _systemProgram ← x.account 6
  require (x.isSigner owner ∧ x.isSigner payer) .missingRequiredSignature
  let _cfg ← loadConfig w.ledger config
  let st ← loadState w.ledger state t
  require (isLiveCoreAsset w.ledger asset = true) (.custom .nonexistentToken)
  let a ← readAsset w.ledger asset
  let reset ← checkSetUri st (decide (a.owner = owner)) uri a.uri
  let w ← updateUri P x w asset payer config core uri
  if reset = true then w.store state st.lapsed else pure w

def transferPassport (t : TokenId) : Except Error Exec := do
  let asset ← x.account 0
  let state ← x.account 1
  let owner ← x.account 2
  let newOwner ← x.account 3
  let payer ← x.account 4
  let core ← x.account 5
  let _systemProgram ← x.account 6
  require (x.isSigner owner ∧ x.isSigner payer) .missingRequiredSignature
  let _st ← loadState w.ledger state t
  require (isLiveCoreAsset w.ledger asset = true) (.custom .nonexistentToken)
  let a ← readAsset w.ledger asset
  require (a.owner = owner) (.custom .notOwner)
  require (core = .mplCore) .incorrectProgramId
  w.invoke programId x (P.transferV1 x.signers asset payer owner newOwner)

/-- `process_may`: config, asset, challenge, then the answer accounts. -/
def may (t : TokenId) (intent : ℕ) : Except Error Exec := do
  let config ← x.account 0
  let asset ← x.account 1
  let challenge ← x.account 2
  let allowed ← resolveMayAccounts programId w.ledger config asset challenge (x.keys.drop 3) t
    intent
  require (allowed = true) (.custom (if intent = intentLeaveChain then .leaveChainRefused
    else .openConsignmentRefused))
  pure w

/-! ## §7. Instructions: records. -/

def appendRecord (t : TokenId) (recordType description evidenceCid : Text) :
    Except Error Exec := do
  let _config ← x.account 0
  let asset ← x.account 1
  let state ← x.account 2
  let record ← x.account 3
  let author ← x.account 4
  let payer ← x.account 5
  let systemProgram ← x.account 6
  require (x.isSigner author ∧ x.isSigner payer) .missingRequiredSignature
  let st ← loadState w.ledger state t
  let (live, owner) ← gateAndReadOwner w.ledger asset
  requireHere live st
  require (owner = author) (.custom .notOwner)
  revertIf (recordType = [] ∨ description = []) (.custom .emptyField)
  let (w, st) ←
    appendRecordChecked P x now w st record payer systemProgram author recordType description evidenceCid
  w.store state st

def reportDiscrepancy (t : TokenId) (description evidenceCid : Text) : Except Error Exec := do
  let _config ← x.account 0
  let asset ← x.account 1
  let state ← x.account 2
  let record ← x.account 3
  let reporter ← x.account 4
  let payer ← x.account 5
  let systemProgram ← x.account 6
  require (x.isSigner reporter ∧ x.isSigner payer) .missingRequiredSignature
  let st ← loadState w.ledger state t
  let (live, _) ← gateAndReadOwner w.ledger asset
  requireHere live st
  revertIf (description = []) (.custom .emptyField)
  let (w, st) ← appendRecordChecked P x now w st record payer systemProgram reporter
    "discrepancy".toList description evidenceCid
  w.store state st

def appendAttestation (t : TokenId) (description evidenceCid : Text) : Except Error Exec := do
  let config ← x.account 0
  let asset ← x.account 1
  let state ← x.account 2
  let record ← x.account 3
  let attester ← x.account 4
  let stake ← x.account 5
  let payer ← x.account 6
  let systemProgram ← x.account 7
  require (x.isSigner attester ∧ x.isSigner payer) .missingRequiredSignature
  let cfg ← loadConfig w.ledger config
  let st ← loadState w.ledger state t
  let (live, _) ← gateAndReadOwner w.ledger asset
  requireHere live st
  revertIf (description = []) (.custom .emptyField)
  proveActiveVerifier w.ledger stake attester cfg.stakingProgram
  let (w, st) ← appendRecordChecked P x now w st record payer systemProgram attester
    "attestation".toList description evidenceCid
  w.store state st

/-! ## §8. Instructions: the bridge. -/

def setCustodyLock (t : TokenId) (locked : Bool) : Except Error Exec := do
  let config ← x.account 0
  let gateway ← x.account 1
  let asset ← x.account 2
  let state ← x.account 3
  let payer ← x.account 4
  let freeze ← x.account 5
  let core ← x.account 6
  let _systemProgram ← x.account 7
  require (x.isSigner payer) .missingRequiredSignature
  let cfg ← loadConfig w.ledger config
  requireGateway x cfg gateway
  require (isHomeToken t cfg.tokenNamespace = true) (.custom .notHomeToken)
  require (isLiveCoreAsset w.ledger asset = true) (.custom .nonexistentToken)
  let st ← loadState w.ledger state t
  let w ← setFrozen P x w asset payer freeze core locked
  w.store state { st with custodyLocked := locked }

/-- The state of an arriving passport: a new one, or the one a departure left. -/
def arriveState (state payer systemProgram : Pubkey) (t : TokenId) : Except Error Exec :=
  if (w.ledger state).lamports = 0 then do
    let w ← createStateAccount P x w state payer systemProgram t
    w.store state (newUnverified t)
  else do
    let st ← loadState w.ledger state t
    w.store state { st.lapsed with custodyLocked := false, burned := false }

def bridgeMint (receiver : Pubkey) (t : TokenId) (uri : Text) : Except Error Exec := do
  let config ← x.account 0
  let gateway ← x.account 1
  let asset ← x.account 2
  let state ← x.account 3
  let payer ← x.account 4
  let owner ← x.account 5
  let freezeAuthority ← x.account 6
  let core ← x.account 7
  let systemProgram ← x.account 8
  require (x.isSigner payer) .missingRequiredSignature
  require (owner = receiver) .invalidArgument
  let cfg ← loadConfig w.ledger config
  requireGateway x cfg gateway
  let freeze ← admitBoundGatewayFreeze cfg w.ledger gateway
  require (freezeAuthority = freeze) .invalidSeeds
  revertIf (isHomeToken t cfg.tokenNamespace = true) (.custom .notForeignToken)
  revertIf (isLiveCoreAsset w.ledger asset = true) (.custom .tokenExists)
  require (asset = assetPda programId t) .invalidSeeds
  let w ← createAssetWithFreeze P x w asset payer owner config freezeAuthority core systemProgram t uri
  arriveState P x w state payer systemProgram t

def bridgeBurn (t : TokenId) : Except Error Exec := do
  let config ← x.account 0
  let gateway ← x.account 1
  let asset ← x.account 2
  let state ← x.account 3
  let payer ← x.account 4
  let owner ← x.account 5
  let freeze ← x.account 6
  let core ← x.account 7
  let _systemProgram ← x.account 8
  require (x.isSigner payer ∧ x.isSigner owner) .missingRequiredSignature
  let cfg ← loadConfig w.ledger config
  requireGateway x cfg gateway
  revertIf (isHomeToken t cfg.tokenNamespace = true) (.custom .notForeignToken)
  require (isLiveCoreAsset w.ledger asset = true) (.custom .nonexistentToken)
  let a ← readAsset w.ledger asset
  require (a.owner = owner) (.custom .notRepresentationOwner)
  let w ← thawAndBurn P x w asset payer owner freeze core
  let st ← loadState w.ledger state t
  w.store state { st.lapsed with burned := true, custodyLocked := false }

def bridgeResetOnUnlock (t : TokenId) (uri : Text) : Except Error Exec := do
  let config ← x.account 0
  let gateway ← x.account 1
  let asset ← x.account 2
  let state ← x.account 3
  let payer ← x.account 4
  let freeze ← x.account 5
  let core ← x.account 6
  let _systemProgram ← x.account 7
  require (x.isSigner payer) .missingRequiredSignature
  let cfg ← loadConfig w.ledger config
  requireGateway x cfg gateway
  let st ← loadState w.ledger state t
  require (isHomeToken t cfg.tokenNamespace = true) (.custom .notHomeToken)
  require (isLiveCoreAsset w.ledger asset = true) (.custom .nonexistentToken)
  let w ← setFrozen P x w asset payer freeze core false
  let w ← (if uri ≠ [] then updateUri P x w asset payer config core uri else pure w)
  w.store state { st.lapsed with custodyLocked := false }

/-! ## §9. Instructions: challenges. -/

/-- The challenge account of `open_challenge`: its own address, created if it is empty. -/
def readyChallenge (challenge payer : Pubkey) (t : TokenId) : Except Error Exec := do
  require (challenge = challengePda programId t) .invalidSeeds
  if (w.ledger challenge).data ≠ .empty then do
    let existing : ChallengeAccount ← load w.ledger challenge
    revertIf (existing.isActive = true) (.custom .disputeActive)
    pure w
  else createPda P programId x w payer challenge programId challengeSpace (.challenge default)

def openChallenge (t : TokenId) : Except Error Exec := do
  let challenger ← x.account 0
  let config ← x.account 1
  let asset ← x.account 2
  let state ← x.account 3
  let challenge ← x.account 4
  let _systemProgram ← x.account 5
  let payer ← x.account 6
  require (x.isSigner challenger ∧ x.isSigner payer) .missingRequiredSignature
  let cfg ← loadConfig w.ledger config
  let st ← loadState w.ledger state t
  let (live, owner) ← gateAndReadOwner w.ledger asset
  checkOpenChallenge live st
  let w ← readyChallenge P x w challenge payer t
  let c ← Svm.openChallenge passportHooks ⟨st, owner, cfg.disputeDeposit, false, false⟩
    (challengeConfigFromPassport cfg) t challenger cfg.disputeDeposit now
  let w ← payNative programId x w challenger challenge cfg.disputeDeposit
  let w ← w.store challenge c
  w.store state { st with status := .disputed }

def withdrawChallenge (t : TokenId) : Except Error Exec := do
  let challenger ← x.account 0
  let config ← x.account 1
  let asset ← x.account 2
  let state ← x.account 3
  let challenge ← x.account 4
  let record ← x.account 5
  let systemProgram ← x.account 6
  let payer ← x.account 7
  require (x.isSigner challenger ∧ x.isSigner payer) .missingRequiredSignature
  let cfg ← loadConfig w.ledger config
  let st ← loadState w.ledger state t
  let (_, owner) ← gateAndReadOwner w.ledger asset
  let c : ChallengeAccount ← load w.ledger challenge
  let (c', hooks, disposition) ← Svm.withdrawChallenge passportHooks
    ⟨st, owner, cfg.disputeDeposit, false, false⟩ c challenger now
  let w ← transferBondLamports w challenge challenger disposition.amount
  let w ← w.store challenge c'
  let (w, st) ← (if hooks.pendingWithdrawRecord = true then
      appendRecordChecked P x now w hooks.state record payer systemProgram challenger
        "dispute_withdrawn".toList "Challenge withdrawn by opener".toList []
    else pure (w, hooks.state))
  w.store state st

/-- Pay the bond of an ended challenge, then write challenge and state. -/
def settleChallenge (challenge bondRecipient state : Pubkey) (disposition : BondDisposition)
    (c : ChallengeAccount) (st : PassportState) : Except Error Exec := do
  require (bondRecipient = disposition.recipient) .invalidAccountData
  let w ← transferBondLamports w challenge bondRecipient disposition.amount
  let w ← w.store challenge c
  w.store state st

def parseOutcome : ℕ → Except Error JudgeOutcome
  | 0 => .ok .upheld
  | 1 => .ok .rejected
  | _ => .error .invalidInstructionData

def judgeChallenge (t : TokenId) (outcome : ℕ) : Except Error Exec := do
  let judge ← x.account 0
  let config ← x.account 1
  let asset ← x.account 2
  let state ← x.account 3
  let challenge ← x.account 4
  let bondRecipient ← x.account 5
  let stake ← x.account 6
  let stakingProgram ← x.account 7
  let payer ← x.account 8
  require (x.isSigner judge ∧ x.isSigner payer) .missingRequiredSignature
  let outcome ← parseOutcome outcome
  let cfg ← loadConfig w.ledger config
  require (stakingProgram = cfg.stakingProgram) .invalidAccountData
  let st ← loadState w.ledger state t
  let (_, owner) ← gateAndReadOwner w.ledger asset
  proveActiveVerifier w.ledger stake judge stakingProgram
  let c : ChallengeAccount ← load w.ledger challenge
  let (c', hooks, disposition) ← Svm.judgeChallenge passportHooks
    ⟨st, owner, cfg.disputeDeposit, true, false⟩ (challengeConfigFromPassport cfg) c judge outcome now
  settleChallenge w challenge bondRecipient state disposition c' hooks.state

def concludeChallenge (t : TokenId) : Except Error Exec := do
  let config ← x.account 0
  let asset ← x.account 1
  let state ← x.account 2
  let challenge ← x.account 3
  let bondRecipient ← x.account 4
  let payer ← x.account 5
  require (x.isSigner payer) .missingRequiredSignature
  let cfg ← loadConfig w.ledger config
  let st ← loadState w.ledger state t
  let (_, owner) ← gateAndReadOwner w.ledger asset
  let c : ChallengeAccount ← load w.ledger challenge
  let (c', hooks, disposition) ← Svm.concludeChallenge passportHooks
    ⟨st, owner, cfg.disputeDeposit, false, false⟩ (challengeConfigFromPassport cfg) c now
  settleChallenge w challenge bondRecipient state disposition c' hooks.state

/-! ## §10. Instructions: claims. -/

def withdrawClaim : Except Error Exec := do
  let recipient ← x.account 0
  let claim ← x.account 1
  let systemProgram ← x.account 2
  require (x.isSigner recipient) .missingRequiredSignature
  require (systemProgram = .system) .incorrectProgramId
  require (claim = .claim programId recipient .zero) .invalidSeeds
  require ((w.ledger claim).owner = programId) .incorrectProgramId
  let c : ClaimAccount ← load w.ledger claim
  revertIf (c.amount = 0) (.custom .noClaim)
  require (c.amount ≤ (w.ledger claim).lamports) (.custom .transferFailed)
  let w := w.move claim recipient c.amount
  pure (closePda w claim recipient)

end Handlers

/-! ## §11. The program. -/

inductive Instruction
  | initializeConfig (tokenNamespace disputeDeposit : ℕ) (stakingProgram forfeitRecipient : Pubkey)
  | setBridgeGateway (gateway : Pubkey)
  | mintPassport (uri : Text)
  | setPassportUri (t : TokenId) (uri : Text)
  | may (t : TokenId) (intent : ℕ)
  | appendRecord (t : TokenId) (recordType description evidenceCid : Text)
  | setCustodyLock (t : TokenId) (locked : Bool)
  | bridgeMint (receiver : Pubkey) (t : TokenId) (uri : Text)
  | bridgeBurn (t : TokenId)
  | bridgeResetOnUnlock (t : TokenId) (uri : Text)
  | setStakingProgram (stakingProgram : Pubkey)
  | verifyPassport (t : TokenId)
  | openChallenge (t : TokenId)
  | withdrawChallenge (t : TokenId)
  | judgeChallenge (t : TokenId) (outcome : ℕ)
  | concludeChallenge (t : TokenId)
  | withdrawClaim
  | setDisputeDeposit (disputeDeposit : ℕ)
  | reportDiscrepancy (t : TokenId) (description evidenceCid : Text)
  | appendAttestation (t : TokenId) (description evidenceCid : Text)
  | transferPassport (t : TokenId)
  | addEncumbranceSource (sourceProgram : Pubkey) (seedPrefix : List ℕ)
  | removeEncumbranceSource (sourceProgram : Pubkey)

/-- `process_instruction`. -/
def processInstruction (P : Platform) (now : ℕ) (x : Call) (w : Exec) :
    Instruction → Except Error Exec
  | .initializeConfig ns deposit staking forfeit => initializeConfig P x w ns deposit staking forfeit
  | .setBridgeGateway gateway => setBridgeGateway x w gateway
  | .mintPassport uri => mintPassport P x w uri
  | .setPassportUri t uri => setPassportUri P x w t uri
  | .may t intent => may x w t intent
  | .appendRecord t type description cid => appendRecord P x now w t type description cid
  | .setCustodyLock t locked => setCustodyLock P x w t locked
  | .bridgeMint receiver t uri => bridgeMint P x w receiver t uri
  | .bridgeBurn t => bridgeBurn P x w t
  | .bridgeResetOnUnlock t uri => bridgeResetOnUnlock P x w t uri
  | .setStakingProgram staking => setStakingProgram x w staking
  | .verifyPassport t => verifyPassport x now w t
  | .openChallenge t => openChallenge P x now w t
  | .withdrawChallenge t => withdrawChallenge P x now w t
  | .judgeChallenge t outcome => judgeChallenge x now w t outcome
  | .concludeChallenge t => concludeChallenge x now w t
  | .withdrawClaim => withdrawClaim x w
  | .setDisputeDeposit deposit => setDisputeDeposit x w deposit
  | .reportDiscrepancy t description cid => reportDiscrepancy P x now w t description cid
  | .appendAttestation t description cid => appendAttestation P x now w t description cid
  | .transferPassport t => transferPassport P x w t
  | .addEncumbranceSource source seedPrefix => addEncumbranceSource P x w source seedPrefix
  | .removeEncumbranceSource source => removeEncumbranceSource P x w source

/-- The program runs, and the runtime looks at what it did. -/
def execute (P : Platform) (now : ℕ) (x : Call) (ix : Instruction) (L : Ledger) :
    Except Error Ledger := do
  let w ← processInstruction P now x (Exec.start L) ix
  let w ← w.verify programId x
  pure w.ledger

end Passport

end Kargain.Svm
