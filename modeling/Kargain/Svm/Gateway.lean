/-
  Kargain.Svm.Gateway — programs/kar-gateway, instruction by instruction.

  A passport leaves through `send`: a home token is handed to the gateway
  and frozen, a representation is burned.  It comes back through
  `lzReceive`: the endpoint clears the message, then the passport program
  mints the representation, or unlocks the home token, which the gateway
  then hands over.  The accounts are the caller's, in one of two layouts;
  which of them is checked is as in entrypoint.rs.

  The endpoint is not in the repository: `Network` is what it does to
  accounts, and how 32 bytes are read as an address.  Left out: events,
  logs, bumps, the accounts an executor discovers the layout from
  (lz_receive_types.rs, lz_receive_v2.rs) and local_eid, which nothing
  reads.
-/
import Kargain.Svm.OnftCodec

namespace Kargain.Svm

open Kargain.Accounts

namespace Gateway

/-! ## §1. The network. -/

abbrev programId : Pubkey := .program 4

/-- `HUB_EID`. -/
def hubEid : ℕ := 40245

def mockLzReceiveAccountCount : ℕ := 13
def productionLzReceiveAccountCount : ℕ := 19

/-- What the gateway asks of an endpoint. -/
inductive EndpointInstruction
  | clearMock (srcEid sender nonce guid : ℕ)
  | clear (receiver : Pubkey) (srcEid sender nonce guid : ℕ) (message : List UInt8)
  | registerOapp (delegate : ℕ)
  | send (dstEid receiver : ℕ) (message options : List UInt8) (nativeFee : ℕ)

/-- The programs this development is about, and Core. -/
def Ours (program : Pubkey) : Prop :=
  program = .mplCore ∨ program = Passport.programId ∨ program = programId

instance (program : Pubkey) : Decidable (Ours program) := inferInstanceAs (Decidable (_ ∨ _))

/-- The endpoint keeps its books in accounts of its own: it changes no account it is not handed,
    and none of Core's and the two programs', nor does it make one theirs. -/
structure Network where
  productionEndpointV2 : Pubkey
  /-- `Pubkey::new_from_array` of a word -/
  pubkey : ℕ → Pubkey
  endpoint : (program : Pubkey) → (accounts signers : List Pubkey) → EndpointInstruction →
    Ledger → Except Error Ledger
  endpoint_handed : ∀ {program accounts signers ix L L'},
    endpoint program accounts signers ix L = .ok L' → ∀ k ∉ accounts, L' k = L k
  endpoint_ours : ∀ {program accounts signers ix L L'},
    endpoint program accounts signers ix L = .ok L' →
    ∀ k, Ours (L k).owner ∨ Ours (L' k).owner → (L k).Untouched (L' k)

/-! ## §2. The mock endpoint. -/

/-- Borsh length of a receipt. -/
def clearReceiptLen : ℕ := 8 + 4 + 32 + 8 + 32 + 1

/-- programs/mock-endpoint `clear`: the receipt of the message, created if it is not there. -/
def mockClear (program endpointConfig clearReceipt payer systemProgram : Pubkey)
    (signers : List Pubkey) (srcEid sender nonce guid : ℕ) (L : Ledger) : Except Error Ledger := do
  require (endpointConfig = .pda program .config) .invalidSeeds
  require (payer ∈ signers) .missingRequiredSignature
  require (clearReceipt = .pda program (.clear srcEid sender nonce)) .invalidSeeds
  let L ← (if (L clearReceipt).lamports = 0 then
      createAccount ⟨[payer, clearReceipt, systemProgram], [payer], [payer, clearReceipt]⟩
        (Platform.rentExempt clearReceiptLen) payer clearReceipt program (.other (some 0)) L
    else pure L)
  require ((L clearReceipt).owner = program) .externalAccountModified
  pure (Function.update L clearReceipt { L clearReceipt with data := .other (some guid) })

/-- The mock endpoint, wherever it is deployed; it knows no other instruction. -/
def mockEndpoint (program : Pubkey) (accounts signers : List Pubkey) (ix : EndpointInstruction)
    (L : Ledger) : Except Error Ledger := do
  revertIf (Ours program) .incorrectProgramId
  match ix, accounts with
  | .clearMock srcEid sender nonce guid, [endpointConfig, _, clearReceipt, payer, systemProgram] =>
    mockClear program endpointConfig clearReceipt payer systemProgram signers srcEid sender nonce guid L
  | _, _ => .error .invalidInstructionData

theorem createAccount_ok {x : Call} {lamports : ℕ} {payer account program : Pubkey} {d : Data}
    {L L' : Ledger} (h : createAccount x lamports payer account program d L = .ok L') :
    (L account).owner = .system ∧ (L payer).owner = .system ∧
      (L' account).owner = program ∧ ∀ k, k ≠ account →
        (L' k).owner = (L k).owner ∧ (k ≠ payer → L' k = L k) := by
  simp only [createAccount, bind_ok, require_ok, pure_ok, exists_const] at h
  obtain ⟨-, ⟨ho, -, -⟩, ⟨hp, -⟩, -, rfl⟩ := h
  refine ⟨ho, hp, by simp, fun k hk => ⟨?_, fun hkp => by simp [hk, hkp]⟩⟩
  by_cases hkp : k = payer
  · subst hkp
    simp [hk]
  · simp [hk, hkp]

/-- Receipt and payer are all the mock endpoint writes, and neither is one of ours. -/
theorem mockClear_ok {program endpointConfig clearReceipt payer systemProgram : Pubkey}
    {signers : List Pubkey} {srcEid sender nonce guid : ℕ} {L L' : Ledger}
    (hp : ¬ Ours program) (h : mockClear program endpointConfig clearReceipt payer systemProgram
      signers srcEid sender nonce guid L = .ok L') :
    ∀ k, L' k = L k ∨ (k = clearReceipt ∨ k = payer) ∧ ¬ Ours (L k).owner ∧ ¬ Ours (L' k).owner := by
  simp only [mockClear, bind_ok, require_ok, pure_ok, exists_const] at h
  obtain ⟨-, -, -, L₁, hc, ho, rfl⟩ := h
  have hsystem : ¬ Ours .system := by decide
  intro k
  split at hc
  · obtain ⟨hro, hpo, hr, hk⟩ := createAccount_ok hc
    by_cases hkr : k = clearReceipt
    · subst hkr
      exact .inr ⟨.inl rfl, hro ▸ hsystem, by simpa [hr] using hp⟩
    · by_cases hkp : k = payer
      · subst hkp
        have ho₁ : (L₁ k).owner = .system := (hk k hkr).1.trans hpo
        exact .inr ⟨.inr rfl, hpo ▸ hsystem, by simpa [hkr, ho₁] using hsystem⟩
      · exact .inl (by simpa [hkr] using (hk k hkr).2 hkp)
  · obtain rfl := pure_ok.mp hc
    by_cases hkr : k = clearReceipt
    · subst hkr
      exact .inr ⟨.inl rfl, ho ▸ hp, by simpa [ho] using hp⟩
    · exact .inl (by simp [hkr])

theorem mockEndpoint_ok {program : Pubkey} {accounts signers : List Pubkey}
    {ix : EndpointInstruction} {L L' : Ledger}
    (h : mockEndpoint program accounts signers ix L = .ok L') :
    ∀ k, L' k = L k ∨ k ∈ accounts ∧ ¬ Ours (L k).owner ∧ ¬ Ours (L' k).owner := by
  simp only [mockEndpoint, bind_ok, revertIf_ok, exists_const] at h
  obtain ⟨hp, h⟩ := h
  split at h
  · intro k
    rcases mockClear_ok hp h k with he | ⟨hk, hours⟩
    · exact .inl he
    · refine .inr ⟨?_, hours⟩
      rcases hk with rfl | rfl <;> simp
  · cases h

/-- The stand: a mock endpoint. -/
def Network.stand : Network where
  productionEndpointV2 := .program 7
  pubkey n := if n = 0 then .zero else .key n
  endpoint := mockEndpoint
  endpoint_handed := by
    intro program accounts signers ix L L' h k hk
    exact (mockEndpoint_ok h k).resolve_right fun hc => hk hc.1
  endpoint_ours := by
    intro program accounts signers ix L L' h k hk
    rcases mockEndpoint_ok h k with he | ⟨-, hb, ha⟩
    · rw [he]
      exact .refl _
    · exact (hk.elim hb ha).elim

/-! ## §3. What the handlers share. -/

def loadConfig (L : Ledger) (config : Pubkey) : Except Error GatewayConfig := do
  require (config = configPda programId) .invalidSeeds
  require ((L config).owner = programId) .incorrectProgramId
  load L config

def requireConfigAuthority (x : Call) (L : Ledger) (config authority : Pubkey) :
    Except Error GatewayConfig := do
  let cfg ← loadConfig L config
  require (x.isSigner authority) .missingRequiredSignature
  require (authority = cfg.authority) (.custom .notOwner)
  pure cfg

section Handlers

variable (P : Platform) (N : Network) (now : ℕ) (x : Call) (w : Exec)

/-- `cpi_passport`: the accounts' own signatures and those of `forced`. -/
def cpiPassport (passport : Pubkey) (accounts forced : List Pubkey) (ix : Passport.Instruction) :
    Except Error Exec :=
  w.invoke programId x fun L => do
    -- the passport program of this deployment is the only one there is
    require (passport = Passport.programId) .incorrectProgramId
    Passport.execute P now ⟨accounts, accounts.filter fun k => x.isSigner k ∨ k ∈ forced,
      accounts.filter fun k => x.isWritable k⟩ ix L

/-- `transfer_asset`. -/
def transferAsset (seeds : List Pubkey) (asset payer authority newOwner core : Pubkey) :
    Except Error Exec := do
  require (core = .mplCore) .incorrectProgramId
  w.invoke programId x (P.transferV1 (seeds ++ x.signers) asset payer authority newOwner)

/-- The peer account for `eid`, as both directions check it. -/
def loadPeer (peer : Pubkey) (eid : ℕ) : Except Error PeerConfig := do
  require (peer = .pda programId (.peer eid)) .invalidSeeds
  require ((w.ledger peer).owner = programId) .incorrectProgramId
  load w.ledger peer

/-! ## §4. Receiving. -/

/-- The accounts of `lz_receive` outside the clearing. -/
structure ReceiveAccounts where
  payer : Pubkey
  endpointProgram : Pubkey
  systemProgram : Pubkey
  passportProgram : Pubkey
  passportConfig : Pubkey
  asset : Pubkey
  state : Pubkey
  freeze : Pubkey
  core : Pubkey
  receiver : Pubkey

/-- `MOCK_LZ_RECEIVE_ACCOUNTS`. -/
def mockAccounts : Except Error ReceiveAccounts := do
  revertIf (x.keys.length < mockLzReceiveAccountCount) .notEnoughAccountKeys
  let payer ← x.account 1
  let endpointProgram ← x.account 2
  let systemProgram ← x.account 5
  let passportProgram ← x.account 6
  let passportConfig ← x.account 7
  let asset ← x.account 8
  let state ← x.account 9
  let freeze ← x.account 10
  let core ← x.account 11
  let receiver ← x.account 12
  pure ⟨payer, endpointProgram, systemProgram, passportProgram, passportConfig, asset, state, freeze,
    core, receiver⟩

/-- `PRODUCTION_LZ_RECEIVE_ACCOUNTS`. -/
def productionAccounts : Except Error ReceiveAccounts := do
  revertIf (x.keys.length < productionLzReceiveAccountCount) .notEnoughAccountKeys
  let payer ← x.account 0
  let systemProgram ← x.account 2
  let passportProgram ← x.account 3
  let passportConfig ← x.account 4
  let asset ← x.account 5
  let state ← x.account 6
  let freeze ← x.account 7
  let core ← x.account 8
  let receiver ← x.account 9
  let endpointProgram ← x.account 10
  pure ⟨payer, endpointProgram, systemProgram, passportProgram, passportConfig, asset, state, freeze,
    core, receiver⟩

/-- The mock endpoint clears by source, nonce and guid. -/
def clearMock (a : ReceiveAccounts) (srcEid sender nonce guid : ℕ) : Except Error Exec := do
  let endpointConfig ← x.account 3
  let clearReceipt ← x.account 4
  w.invoke programId x (N.endpoint a.endpointProgram
    [endpointConfig, configPda programId, clearReceipt, a.payer, a.systemProgram]
    [configPda programId, a.payer] (.clearMock srcEid sender nonce guid))

/-- The endpoint clears the message, once its sender is the peer of `srcEid`. -/
def clearProduction (a : ReceiveAccounts) (srcEid sender nonce guid : ℕ) (message : List UInt8) :
    Except Error Exec := do
  let peerConfig ← x.account 18
  let peer ← loadPeer w peerConfig srcEid
  require (peer.peerAddress = sender) .invalidArgument
  let gatewayConfig ← x.account 1
  require (gatewayConfig = configPda programId) .invalidArgument
  let clearReceiver ← x.account 11
  require (clearReceiver = configPda programId) .invalidArgument
  let oappRegistry ← x.account 12
  let clearNonce ← x.account 13
  let payloadHash ← x.account 14
  let endpointSettings ← x.account 15
  let eventAuthority ← x.account 16
  w.invoke programId x (N.endpoint a.endpointProgram
    [configPda programId, oappRegistry, clearNonce, payloadHash, endpointSettings, eventAuthority,
      a.endpointProgram]
    [configPda programId] (.clear (configPda programId) srcEid sender nonce guid message))

/-- What the message asks for, once it is cleared. -/
def deliver (a : ReceiveAccounts) (m : OnftMessage) (uri : Text) : ReceiveKind → Except Error Exec
  | .mintForeign => do
    require (a.receiver = N.pubkey m.sendTo) .invalidArgument
    cpiPassport P now x w a.passportProgram
      [a.passportConfig, configPda programId, a.asset, a.state, a.payer, a.receiver, a.freeze, a.core,
        a.systemProgram]
      [configPda programId] (.bridgeMint (N.pubkey m.sendTo) m.tokenId uri)
  | .unlockHome => do
    require (a.receiver = N.pubkey m.sendTo) .invalidArgument
    let w ← cpiPassport P now x w a.passportProgram
      [a.passportConfig, configPda programId, a.asset, a.state, a.payer, a.freeze, a.core,
        a.systemProgram]
      [configPda programId, a.freeze] (.bridgeResetOnUnlock m.tokenId uri)
    transferAsset P x w [configPda programId] a.asset a.payer (configPda programId) a.receiver a.core

/-- The layout is that of the endpoint in the config. -/
def receiveAccounts (cfg : GatewayConfig) : Except Error ReceiveAccounts :=
  if cfg.endpointProgram = N.productionEndpointV2 then productionAccounts x else mockAccounts x

def clearMessage (cfg : GatewayConfig) (a : ReceiveAccounts) (srcEid sender nonce guid : ℕ)
    (message : List UInt8) : Except Error Exec :=
  if cfg.endpointProgram = N.productionEndpointV2 then
    clearProduction N x w a srcEid sender nonce guid message
  else clearMock N x w a srcEid sender nonce guid

def lzReceive (srcEid sender nonce guid : ℕ) (message : List UInt8) : Except Error Exec := do
  -- the config is found by its address, wherever it stands
  require (configPda programId ∈ x.keys) .notEnoughAccountKeys
  let cfg ← loadConfig w.ledger (configPda programId)
  let a ← receiveAccounts N x cfg
  require (x.isSigner a.payer) .missingRequiredSignature
  require (a.endpointProgram = cfg.endpointProgram) .incorrectProgramId
  require (a.passportProgram = cfg.passportProgram) .incorrectProgramId
  require (a.freeze = freezePda programId) .invalidSeeds
  let w ← clearMessage N x w cfg a srcEid sender nonce guid message
  let (m, uri, kind) ← planReceive message cfg.tokenNamespace
  deliver P N now x w a m uri kind

/-! ## §5. Sending. -/

/-- The leaving passport changes hands, or goes. -/
def debit (isHome : Bool) (t : TokenId) (passport passportConfig asset state owner payer freeze core
    systemProgram : Pubkey) : Except Error Exec :=
  if isHome = true then do
    let w ← transferAsset P x w [] asset payer owner (configPda programId) core
    cpiPassport P now x w passport
      [passportConfig, configPda programId, asset, state, payer, freeze, core, systemProgram]
      [configPda programId, freeze] (.setCustodyLock t true)
  else
    cpiPassport P now x w passport
      [passportConfig, configPda programId, asset, state, payer, owner, freeze, core, systemProgram]
      [configPda programId, freeze] (.bridgeBurn t)

/-- Hand the message to the endpoint; the mock returns it to the caller instead. -/
def emitMessage (cfg : GatewayConfig) (start dstEid nativeFee : ℕ) (options message : List UInt8) :
    Except Error Exec :=
  if cfg.endpointProgram = N.productionEndpointV2 then do
    require (dstEid = hubEid) .invalidArgument
    let peerConfig ← x.account start
    let peer ← loadPeer w peerConfig dstEid
    require (cfg.endpointProgram ∈ x.keys.drop (start + 1)) .notEnoughAccountKeys
    w.invoke programId x (N.endpoint cfg.endpointProgram
      (configPda programId :: x.keys.drop (start + 1)) (configPda programId :: x.signers)
      (.send dstEid peer.peerAddress message options nativeFee))
  else pure w

/-- `send`, with the message it emits. -/
def send (dstEid sendTo : ℕ) (t : TokenId) (nativeFee : ℕ) (options : List UInt8) :
    Except Error (Exec × List UInt8) := do
  let config ← x.account 0
  let owner ← x.account 1
  let payer ← x.account 2
  let passport ← x.account 3
  let passportConfig ← x.account 4
  let asset ← x.account 5
  let state ← x.account 6
  let freeze ← x.account 7
  let core ← x.account 8
  let systemProgram ← x.account 9
  require (x.isSigner owner ∧ x.isSigner payer) .missingRequiredSignature
  let cfg ← loadConfig w.ledger config
  require (passport = cfg.passportProgram) .incorrectProgramId
  require (freeze = freezePda programId) .invalidSeeds
  require (isLiveCoreAsset w.ledger asset = true) (.custom .nonexistentToken)
  let a ← readAsset w.ledger asset
  let isHome := Passport.isHomeToken t cfg.tokenNamespace
  let passportCfg : PassportConfig ← load w.ledger passportConfig
  let n := passportCfg.encumbranceSources.length
  revertIf (x.keys.length < 11 + n) .notEnoughAccountKeys
  let challenge ← x.account 10
  let may ← resolveMayAccounts passport w.ledger passportConfig asset challenge
    ((x.keys.drop 11).take n) t intentLeaveChain
  planSend a.uri isHome may (decide (a.owner = owner))
  let w ← debit P now x w isHome t passport passportConfig asset state owner payer freeze core systemProgram
  let message := encode sendTo t (some (Abi.abiEncodeString a.uri.bytes))
  let w ← emitMessage N x w cfg (11 + n) dstEid nativeFee options message
  pure (w, message)

/-! ## §6. Recovery and configuration. -/

/-- `check_recover_locked_home`. -/
def checkRecoverLockedHome (sendTo : ℕ) (isHome gatewayHolds : Bool) : Except Error Unit := do
  revertIf (sendTo = 0) (.custom .zeroAddress)
  require (isHome = true) (.custom .notHomeToken)
  require (gatewayHolds = true) (.custom .notLocked)

def recoverLockedHome (t : TokenId) (sendTo : ℕ) : Except Error Exec := do
  let config ← x.account 0
  let authority ← x.account 1
  let payer ← x.account 2
  let passport ← x.account 3
  let passportConfig ← x.account 4
  let asset ← x.account 5
  let state ← x.account 6
  let freeze ← x.account 7
  let core ← x.account 8
  let systemProgram ← x.account 9
  let receiver ← x.account 10
  require (x.isSigner payer) .missingRequiredSignature
  let cfg ← requireConfigAuthority x w.ledger config authority
  require (receiver = N.pubkey sendTo) .invalidArgument
  require (freeze = freezePda programId) .invalidSeeds
  let holds := (coreAt w.ledger asset).any fun a => a.owner = config
  checkRecoverLockedHome sendTo (Passport.isHomeToken t cfg.tokenNamespace) holds
  let w ← cpiPassport P now x w passport
    [passportConfig, config, asset, state, payer, freeze, core, systemProgram]
    [config, freeze] (.bridgeResetOnUnlock t [])
  transferAsset P x w [config] asset payer config receiver core

def initializeConfig (endpointProgram passportProgram : Pubkey) (tokenNamespace : ℕ) :
    Except Error Exec := do
  let config ← x.account 0
  let authority ← x.account 1
  let _systemProgram ← x.account 2
  require (x.isSigner authority) .missingRequiredSignature
  require (config = configPda programId) .invalidSeeds
  createPda P programId x w authority config programId 126
    (.gatewayConfig ⟨authority, endpointProgram, passportProgram, tokenNamespace⟩)

def registerOapp (delegate : ℕ) : Except Error Exec := do
  let config ← x.account 0
  let authorityPayer ← x.account 1
  let endpointProgram ← x.account 2
  let oappRegistry ← x.account 3
  let systemProgram ← x.account 4
  let eventAuthority ← x.account 5
  let cfg ← requireConfigAuthority x w.ledger config authorityPayer
  require (endpointProgram = cfg.endpointProgram) .incorrectProgramId
  require (endpointProgram = N.productionEndpointV2) .incorrectProgramId
  w.invoke programId x (N.endpoint endpointProgram
    [authorityPayer, config, oappRegistry, systemProgram, eventAuthority, endpointProgram]
    [authorityPayer, config] (.registerOapp delegate))

def setPeer (remoteEid peer : ℕ) : Except Error Exec := do
  let config ← x.account 0
  let authority ← x.account 1
  let peerConfig ← x.account 2
  let payer ← x.account 3
  let _systemProgram ← x.account 4
  require (x.isSigner payer) .missingRequiredSignature
  let _cfg ← requireConfigAuthority x w.ledger config authority
  require (remoteEid = hubEid) .invalidArgument
  revertIf (peer = 0) .invalidArgument
  require (peerConfig = .pda programId (.peer remoteEid)) .invalidSeeds
  if (w.ledger peerConfig).data = .empty then
    createPda P programId x w payer peerConfig programId 41 (.peerConfig ⟨peer⟩)
  else do
    require ((w.ledger peerConfig).owner = programId) .incorrectProgramId
    w.store peerConfig (⟨peer⟩ : PeerConfig)

end Handlers

/-! ## §7. The program. -/

inductive Instruction
  | initializeConfig (endpointProgram passportProgram : Pubkey) (tokenNamespace : ℕ)
  | send (dstEid sendTo : ℕ) (t : TokenId) (nativeFee : ℕ) (options : List UInt8)
  | lzReceive (srcEid sender nonce guid : ℕ) (message : List UInt8)
  | recoverLockedHome (t : TokenId) (sendTo : ℕ)
  | registerOapp (delegate : ℕ)
  | setPeer (remoteEid peer : ℕ)

/-- `process_instruction`. -/
def processInstruction (P : Platform) (N : Network) (now : ℕ) (x : Call) (w : Exec) :
    Instruction → Except Error Exec
  | .initializeConfig endpointProgram passportProgram ns =>
    initializeConfig P x w endpointProgram passportProgram ns
  | .send dstEid sendTo t nativeFee options => do
    let (w, _) ← send P N now x w dstEid sendTo t nativeFee options
    pure w
  | .lzReceive srcEid sender nonce guid message => lzReceive P N now x w srcEid sender nonce guid message
  | .recoverLockedHome t sendTo => recoverLockedHome P N now x w t sendTo
  | .registerOapp delegate => registerOapp N x w delegate
  | .setPeer remoteEid peer => setPeer P x w remoteEid peer

/-- The program runs, and the runtime looks at what it did. -/
def execute (P : Platform) (N : Network) (now : ℕ) (x : Call) (ix : Instruction) (L : Ledger) :
    Except Error Ledger := do
  let w ← processInstruction P N now x (Exec.start L) ix
  let w ← w.verify programId x
  pure w.ledger

end Gateway

end Kargain.Svm
