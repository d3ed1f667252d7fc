/-
  Kargain.Storage.IrysDeposit — paying for storage.

  `lib/storage/irys-deposit.ts` and the record it keeps in the browser,
  `lib/storage/irys-deposit-record.ts`.  A deposit is a transfer from the
  payer's wallet to the bundler, confirmed on its chain and then posted
  to the bundler, which credits it.  The work is a `Dialogue`: the wallet,
  the chains, the bundler and the browser's storage are asked, and each of
  them may throw.

  Texts of errors are kept where the source makes them; the sentences
  shown to a user are not, since nothing here reads them.
-/
import Mathlib
import Kargain.Base.Dialogue

namespace Kargain.Storage

/-- A transaction hash, or the signature a Solana transaction is known by. -/
abbrev TxId := String

inductive Vm | evm | svm
  deriving DecidableEq

def Vm.text : Vm → String
  | .evm => "evm"
  | .svm => "svm"

/-- What a registered network is known by.  On an EVM chain `ns` is its chain id. -/
structure CommercialActiveStack where
  ns : ℕ
  vm : Vm
  walletStandardChain : Option String
  deriving DecidableEq

inductive ActiveAccount
  | disconnected
  | evm (address : String) (chainId : ℕ)
  | svm (address : String)
  deriving DecidableEq

/-! ### Refusals -/

inductive IrysDepositCause
  | recordUnavailable | recordUnreadable | cancelled | contractWallet | pending | expired
  | writeUnavailable | sendFailed | landedError | creditShort | unknownToken | walletRejected
  deriving DecidableEq

def IrysDepositCause.text : IrysDepositCause → String
  | .recordUnavailable => "deposit_record_unavailable"
  | .recordUnreadable => "deposit_record_unreadable"
  | .cancelled => "deposit_cancelled"
  | .contractWallet => "deposit_contract_wallet"
  | .pending => "deposit_pending"
  | .expired => "deposit_expired"
  | .writeUnavailable => "deposit_write_unavailable"
  | .sendFailed => "deposit_send_failed"
  | .landedError => "deposit_landed_error"
  | .creditShort => "deposit_credit_short"
  | .unknownToken => "deposit_unknown_token"
  | .walletRejected => "wallet_rejected"

inductive EvmSessionCause | disconnected | wrongVm
  deriving DecidableEq

inductive TxWriteUnavailable
  | disconnected
  | wrongVm (wanted : Vm)
  | unresolvedNamespace
  deriving DecidableEq

inductive TxWriteGuardPayload
  | writeAvailability (refusal : TxWriteUnavailable)
  | switchChain (cause : EvmSessionCause)
  deriving DecidableEq

structure IrysDepositRefusal where
  cause : IrysDepositCause
  detail : Option String
  guard : Option TxWriteGuardPayload
  txId : Option TxId
  deriving DecidableEq

inductive IrysDepositResult
  | ok
  | refused (refusal : IrysDepositRefusal)
  deriving DecidableEq

/-- What a call throws, as its handlers tell them apart. -/
inductive Thrown
  | walletRejection
  | refusal (refusal : IrysDepositRefusal)
  | error (message : String)
  deriving DecidableEq

def refuse (cause : IrysDepositCause) : IrysDepositResult := .refused ⟨cause, none, none, none⟩

def refuseFor (cause : IrysDepositCause) (detail : String) : IrysDepositResult :=
  .refused ⟨cause, some detail, none, none⟩

def refuseGuard (guard : TxWriteGuardPayload) : IrysDepositResult :=
  .refused ⟨.writeUnavailable, none, some guard, none⟩

/-! ### The pending record -/

inductive IrysDepositRecord
  | evm (txHash amountBaseUnits : String) (createdAt : ℕ)
  | svm (signature lastValidBlockHeight amountBaseUnits : String) (createdAt : ℕ)
  deriving DecidableEq

def recordTxId : IrysDepositRecord → TxId
  | .evm txHash _ _ => txHash
  | .svm signature _ _ _ => signature

/-- The JSON object a text parses to; a member is `none` where it is missing or of another type. -/
structure Fields where
  vm : Option String
  txHash : Option String
  signature : Option String
  lastValidBlockHeight : Option String
  amountBaseUnits : Option String
  createdAt : Option ℕ
  deriving DecidableEq

/-- A text in the browser's storage, by what `JSON.parse` makes of it.  The empty text reads as
    no text and is not one of these. -/
inductive Stored
  | fields (f : Fields)
  | unparseable (text : String)
  deriving DecidableEq

/-- `JSON.stringify` of a record. -/
def IrysDepositRecord.stringify : IrysDepositRecord → Stored
  | .evm txHash amount createdAt =>
    .fields ⟨some Vm.evm.text, some txHash, none, none, some amount, some createdAt⟩
  | .svm signature lastValid amount createdAt =>
    .fields ⟨some Vm.svm.text, none, some signature, some lastValid, some amount, some createdAt⟩

/-- The transaction an object names, whether or not it reads as a record. -/
def Fields.txId (f : Fields) : Option TxId :=
  if f.vm = some Vm.svm.text then f.signature else f.txHash

/-- The libraries and tables the code is built with. -/
structure Libraries where
  isAddress : String → Bool
  getAddress : String → String
  isHash : String → Bool
  isSolanaAddress : String → Bool
  isBlockhash : String → Bool
  base58Encode : String → Option (List UInt8)
  base58Decode : List UInt8 → String
  estimateIrysUploadBytes : ℕ → ℕ
  commercialActive : ℕ → Option CommercialActiveStack
  isWriteUnion : ℕ → Bool

variable (lib : Libraries)

def signatureByteLength : ℕ := 64

def isWalletStandardSignatureBase58 (signature : String) : Bool :=
  match lib.base58Encode signature with
  | some bytes => bytes.length = signatureByteLength
  | none => false

def isNonEmptyString : Option String → Option String
  | some v => if v.isEmpty then none else some v
  | none => none

/-- `/^\d+$/`. -/
def isDigits (s : String) : Bool := !s.toList.isEmpty && s.toList.all Char.isDigit

def parseRecordForVm (f : Fields) (vm : Vm) : Option IrysDepositRecord := do
  let amountBaseUnits ← isNonEmptyString f.amountBaseUnits
  let createdAt ← f.createdAt
  if f.vm ≠ some vm.text then
    none
  else
    match vm with
    | .evm =>
      let txHash ← isNonEmptyString f.txHash
      if !lib.isHash txHash then none else some (.evm txHash amountBaseUnits createdAt)
    | .svm =>
      let signature ← isNonEmptyString f.signature
      if !isWalletStandardSignatureBase58 lib signature then
        none
      else
        let lastValidBlockHeight ← isNonEmptyString f.lastValidBlockHeight
        if !isDigits lastValidBlockHeight then
          none
        else
          some (.svm signature lastValidBlockHeight amountBaseUnits createdAt)

def storagePrefix : String := "kargain:irys-deposit:"

def probeKey : String := storagePrefix ++ "__probe__"

def irysDepositRecordKey (ns : ℕ) (payer bundlerAddress : String) : String :=
  storagePrefix ++ toString ns ++ "|" ++ payer ++ "|" ++ bundlerAddress

/-! ### What is asked -/

inductive IrysBundlerDepositPostClass | accepted | notSeenYet | bundlerUnavailable
  deriving DecidableEq

def IrysBundlerDepositPostClass.text : IrysBundlerDepositPostClass → String
  | .accepted => "accepted"
  | .notSeenYet => "not_seen_yet"
  | .bundlerUnavailable => "bundler_unavailable"

inductive SvmConfirmOutcome | landedOk | landedWithError | expired | statusUnknown
  deriving DecidableEq

inductive EvmDepositConfirmOutcome
  | confirmed (hash : TxId)
  | cancelled
  | diverted (replacementHash : TxId)
  | timeout
  deriving DecidableEq

inductive WalletAccountKind | eoa | eip7702 | contract
  deriving DecidableEq

/-- A lifetime for a Solana transaction. -/
structure SvmLatestBlockhash where
  blockhash : String
  lastValidBlockHeight : ℕ
  deriving DecidableEq

/-- What the wallet did with a transfer: what it answered, and the transfer it put on the wire,
    which the answer need not tell. -/
structure WalletReply (α : Type) where
  outcome : Except Thrown α
  broadcast : Option TxId

inductive Request
  | getPrice (bytes : ℕ)
  | getBalance
  | getBundlerAddress (token : String)
  | getItem (key : String)
  | setItem (key : String) (value : Stored)
  | removeItem (key : String)
  | dateNow
  | fetchBlockhash
  | signAndSendTransaction (sender recipient : String) (lamports : ℤ) (blockhash chain : String)
  | switchChain (chainId : ℕ)
  | readEvmAccountKind (chainId : ℕ) (address : String)
  | sendEvmTransaction (recipient : String) (value : ℤ) (chainId : ℕ)
  | confirmSvmFunding (signature : TxId) (lastValidBlockHeight : ℕ)
  | waitEvmConfirmations (txHash : TxId) (minConfirmations : ℕ) (expectedTo : String) (chainId : ℕ)
  | postBundlerDeposit (bundlerUrl token : String) (txId : TxId)
  deriving DecidableEq

def Reply : Request → Type
  | .getPrice _ => Except Thrown String
  | .getBalance => Except Thrown String
  | .getBundlerAddress _ => Except Thrown String
  | .getItem _ => Except Thrown (Option Stored)
  | .setItem _ _ => Except Thrown Unit
  | .removeItem _ => Except Thrown Unit
  | .dateNow => ℕ
  | .fetchBlockhash => Except Thrown (Except String SvmLatestBlockhash)
  | .signAndSendTransaction _ _ _ _ _ => WalletReply (List UInt8)
  | .switchChain _ => Except Thrown Unit
  | .readEvmAccountKind _ _ => Except Thrown (Except String WalletAccountKind)
  | .sendEvmTransaction _ _ _ => WalletReply TxId
  | .confirmSvmFunding _ _ => Except Thrown SvmConfirmOutcome
  | .waitEvmConfirmations _ _ _ _ => Except Thrown EvmDepositConfirmOutcome
  | .postBundlerDeposit _ _ _ => Except Thrown IrysBundlerDepositPostClass

/-- Work in progress: a promise that may reject. -/
abbrev Async := ExceptT Thrown (Dialogue Request Reply)

def getPrice (bytes : ℕ) : Async String :=
  ExceptT.mk (Dialogue.request (Request.getPrice bytes))

def getBalance : Async String := ExceptT.mk (Dialogue.request Request.getBalance)

def getBundlerAddress (token : String) : Async String :=
  ExceptT.mk (Dialogue.request (Request.getBundlerAddress token))

def getItem (key : String) : Async (Option Stored) :=
  ExceptT.mk (Dialogue.request (Request.getItem key))

def setItem (key : String) (value : Stored) : Async Unit :=
  ExceptT.mk (Dialogue.request (Request.setItem key value))

def removeItem (key : String) : Async Unit :=
  ExceptT.mk (Dialogue.request (Request.removeItem key))

def dateNow : Async ℕ := ExceptT.lift (Dialogue.request Request.dateNow)

def fetchBlockhash : Async (Except String SvmLatestBlockhash) :=
  ExceptT.mk (Dialogue.request Request.fetchBlockhash)

def signAndSendTransaction (sender recipient : String) (lamports : ℤ) (blockhash chain : String) :
    Async (WalletReply (List UInt8)) :=
  ExceptT.lift (Dialogue.request
    (Request.signAndSendTransaction sender recipient lamports blockhash chain))

def switchChain (chainId : ℕ) : Async Unit :=
  ExceptT.mk (Dialogue.request (Request.switchChain chainId))

def readEvmAccountKind (chainId : ℕ) (address : String) : Async (Except String WalletAccountKind) :=
  ExceptT.mk (Dialogue.request (Request.readEvmAccountKind chainId address))

def sendEvmTransaction (recipient : String) (value : ℤ) (chainId : ℕ) : Async (WalletReply TxId) :=
  ExceptT.lift (Dialogue.request (Request.sendEvmTransaction recipient value chainId))

def confirmSvmFunding (signature : TxId) (lastValidBlockHeight : ℕ) : Async SvmConfirmOutcome :=
  ExceptT.mk (Dialogue.request (Request.confirmSvmFunding signature lastValidBlockHeight))

def waitEvmConfirmations (txHash : TxId) (minConfirmations : ℕ) (expectedTo : String)
    (chainId : ℕ) : Async EvmDepositConfirmOutcome :=
  ExceptT.mk (Dialogue.request
    (Request.waitEvmConfirmations txHash minConfirmations expectedTo chainId))

def postBundlerDeposit (bundlerUrl token : String) (txId : TxId) :
    Async IrysBundlerDepositPostClass :=
  ExceptT.mk (Dialogue.request (Request.postBundlerDeposit bundlerUrl token txId))

/-! ### The record in the browser's storage -/

/-- A failure to remove is ignored. -/
def removeQuietly (key : String) : Async Unit := tryCatch (removeItem key) fun _ => pure ()

def clearIrysDepositRecord (key : String) : Async Unit := removeQuietly key

def writeIrysDepositRecord (key : String) (record : IrysDepositRecord) : Async Bool :=
  tryCatch (do setItem key record.stringify; pure true) fun _ => pure false

def probeIrysDepositRecordStoreWritable : Async Bool := do
  let token := Stored.unparseable ("probe:" ++ toString (← dateNow))
  tryCatch
    (do
      setItem probeKey token
      let read ← getItem probeKey
      removeItem probeKey
      pure (read = some token))
    fun _ => do
      removeQuietly probeKey
      pure false

inductive IrysDepositRecordRead
  | absent
  | record (record : IrysDepositRecord)
  | unreadable
  deriving DecidableEq

def readRecord (vm : Vm) : Option Stored → IrysDepositRecordRead
  | none => .absent
  | some (.unparseable _) => .unreadable
  | some (.fields f) =>
    match parseRecordForVm lib f vm with
    | some record => .record record
    | none => .unreadable

def readIrysDepositRecord (key : String) (vm : Vm) : Async IrysDepositRecordRead :=
  tryCatch (do pure (readRecord lib vm (← getItem key))) fun _ => pure .unreadable

/-! ### Amounts -/

def digitsValue (ds : List Char) : ℕ := ds.foldl (fun n d => 10 * n + (d.toNat - '0'.toNat)) 0

/-- The digits before the point, as an integer. -/
def parseAtomicAmount (raw : String) : Except Thrown ℤ :=
  let bad : Except Thrown ℤ :=
    .error (.refusal ⟨.sendFailed, some ("bad_amount:" ++ raw), none, none⟩)
  match raw.toList.takeWhile (· ≠ '.') with
  | '-' :: ds => if !ds.isEmpty && ds.all Char.isDigit then .ok (-digitsValue ds) else bad
  | ds => if !ds.isEmpty && ds.all Char.isDigit then .ok (digitsValue ds) else bad

def amountNumerator : ℤ := 11

def amountDenominator : ℤ := 10

/-- ceil((price − balance) × 11/10) in base units. -/
def neededDepositAmount (price balance : ℤ) : ℤ :=
  if balance ≥ price then
    0
  else
    ((price - balance) * amountNumerator + (amountDenominator - 1)).tdiv amountDenominator

/-- One trailing slash is dropped. -/
def trimSlash (url : String) : String :=
  if url.toList.getLast? = some '/' then String.ofList url.toList.dropLast else url

/-! ### A call -/

/-- The ports that have no default. -/
structure IrysDepositPorts where
  svmSignAndSend : Bool
  sendEvmTransaction : Bool
  switchChain : Bool
  waitEvmConfirmations : Bool
  deriving DecidableEq

structure EnsureArgs where
  stack : CommercialActiveStack
  account : ActiveAccount
  /-- `tokenConfig.minConfirm`, where it is an integer. -/
  tokenMinConfirm : Option ℤ
  totalBytes : ℕ
  paymentToken : String
  bundlerUrl : String
  ports : IrysDepositPorts
  deriving DecidableEq

def readIrysEvmMinConfirm (args : EnsureArgs) : Option ℕ :=
  match args.tokenMinConfirm with
  | some raw => if raw < 1 then none else some raw.toNat
  | none => none

/-- How the handlers of a call name what was thrown. -/
def caughtAs (other : String → IrysDepositResult) : Thrown → IrysDepositResult
  | .walletRejection => refuse .walletRejected
  | .refusal r => .refused ⟨r.cause, some (r.detail.getD r.cause.text), r.guard, r.txId⟩
  | .error message => other message

/-- The rest of `resolveOpenRecord`, once the transfer is known to have landed as `postTxId`. -/
def postDeposit (args : EnsureArgs) (key : String) (price : ℤ) (postTxId : TxId) :
    Async IrysDepositResult := do
  let posted ← postBundlerDeposit (trimSlash args.bundlerUrl) args.paymentToken postTxId
  match posted with
  | .accepted => do
    clearIrysDepositRecord key
    let after ← ExceptT.mk (pure (parseAtomicAmount (← getBalance)))
    if after ≥ price then pure .ok else pure (refuse .creditShort)
  | other => pure (refuseFor .pending other.text)

def resolveSvm (args : EnsureArgs) (key : String) (price : ℤ) :
    IrysDepositRecord → Async IrysDepositResult
  | .evm _ _ _ => pure (refuse .recordUnreadable)
  | .svm signature lastValidBlockHeight _ _ => do
    let outcome ← confirmSvmFunding signature (digitsValue lastValidBlockHeight.toList)
    match outcome with
    | .expired => do
      clearIrysDepositRecord key
      pure (refuse .expired)
    | .landedWithError => do
      clearIrysDepositRecord key
      pure (refuse .landedError)
    | .statusUnknown => pure (refuseFor .pending "status_unknown")
    | .landedOk => postDeposit args key price signature

/-- `waitEvmConfirmations`, its throws handled. -/
def waitConfirmed (args : EnsureArgs) (txHash : TxId) (minConfirm : ℕ) (expectedTo : String) :
    Async (Except IrysDepositResult EvmDepositConfirmOutcome) :=
  tryCatch
    (do
      let outcome ← waitEvmConfirmations txHash minConfirm expectedTo args.stack.ns
      pure (.ok outcome))
    fun err => pure (.error (caughtAs (fun _ => refuse .pending) err))

/-- The transfer has landed as `hash`: the record is made to name it before it is posted. -/
def followHash (args : EnsureArgs) (key : String) (price : ℤ) (txHash amount : String)
    (createdAt : ℕ) (hash : TxId) : Async IrysDepositResult := do
  if hash ≠ txHash then
    if ← writeIrysDepositRecord key (.evm hash amount createdAt) then
      postDeposit args key price hash
    else
      pure (refuse .recordUnavailable)
  else
    postDeposit args key price hash

def resolveEvm (args : EnsureArgs) (key : String) (price : ℤ) (bundlerAddress : String) :
    IrysDepositRecord → Async IrysDepositResult
  | .svm _ _ _ _ => pure (refuse .recordUnreadable)
  | .evm txHash amount createdAt =>
    match readIrysEvmMinConfirm args with
    | none => pure (refuse .unknownToken)
    | some minConfirm => do
      if !lib.isAddress bundlerAddress then
        pure (refuseFor .sendFailed "bundler_address_unusable")
      else if !args.ports.waitEvmConfirmations then
        pure (refuseFor .sendFailed "missing_evm_confirm_port")
      else
        match ← waitConfirmed args txHash minConfirm (lib.getAddress bundlerAddress) with
        | .error refusal => pure refusal
        | .ok .cancelled => do
          clearIrysDepositRecord key
          pure (refuse .cancelled)
        | .ok (.diverted _) => do
          clearIrysDepositRecord key
          pure (refuse .cancelled)
        | .ok .timeout => pure (refuseFor .pending "evm_confirmations_timeout")
        | .ok (.confirmed hash) => followHash args key price txHash amount createdAt hash

def resolveOpenRecord (args : EnsureArgs) (record : IrysDepositRecord) (key : String) (price : ℤ)
    (bundlerAddress : String) : Async IrysDepositResult := do
  let balanceNow ← ExceptT.mk (pure (parseAtomicAmount (← getBalance)))
  if balanceNow ≥ price then
    clearIrysDepositRecord key
    pure .ok
  else
    match args.stack.vm with
    | .svm => resolveSvm args key price record
    | .evm => resolveEvm lib args key price bundlerAddress record

/-! ### A new transfer -/

def txWriteAvailability (account : ActiveAccount) (chainId : ℕ) : Except TxWriteUnavailable Vm :=
  match account, lib.commercialActive chainId with
  | .disconnected, _ => .error .disconnected
  | _, none => .error .unresolvedNamespace
  | .evm _ _, some stack => if stack.vm = .evm then .ok .evm else .error (.wrongVm stack.vm)
  | .svm _, some stack => if stack.vm = .svm then .ok .svm else .error (.wrongVm stack.vm)

/-- `evmWagmiChain`; a chain outside the write union throws. -/
def evmWagmiChain (ns : ℕ) : Except Thrown (Except TxWriteUnavailable ℕ) :=
  match lib.commercialActive ns with
  | none => .ok (.error .unresolvedNamespace)
  | some stack =>
    if stack.vm ≠ .evm then
      .ok (.error (.wrongVm .evm))
    else if lib.isWriteUnion stack.ns then
      .ok (.ok stack.ns)
    else
      .error (.error ("writeUnionChainId: " ++ toString stack.ns ++
        " is not in the Kargain write-union"))

/-- `walletStandardSignatureBase58`. -/
def signatureText (bytes : List UInt8) : Except String TxId :=
  if bytes.isEmpty then
    .error "wallet_returned_no_signature"
  else if bytes.length ≠ signatureByteLength then
    .error "signature_not_64_bytes"
  else if (lib.base58Decode bytes).isEmpty then
    .error "wallet_returned_no_signature"
  else
    .ok (lib.base58Decode bytes)

def isBlank (s : String) : Bool := s.toList.all Char.isWhitespace

/-- The transaction to be signed, or the cause why there is none: `encodeSystemTransfer` and the
    first half of `assembleSignAndSendSvmInstruction`. -/
def transferChain (stack : CommercialActiveStack) (sender : String) (lamports : ℤ) :
    Except String String :=
  if lamports ≤ 0 then
    .error "lamports_zero"
  else if lamports > 2 ^ 64 - 1 then
    .error "lamports_not_u64"
  else if isBlank sender then
    .error "no_connected_account"
  else
    match stack.walletStandardChain with
    | some chain => .ok chain
    | none => .error "missing_wallet_standard_chain"

/-- `sendSvmNativeTransfer`: the signature and the lifetime, or a refusal. -/
def sendSvmNativeTransfer (stack : CommercialActiveStack) (sender recipient : String)
    (lamports : ℤ) : Async (Except IrysDepositResult (TxId × ℕ)) := do
  match transferChain stack sender lamports with
  | .error cause => pure (.error (refuseFor .sendFailed cause))
  | .ok chain =>
    match ← fetchBlockhash with
    | .error cause => pure (.error (refuseFor .sendFailed cause))
    | .ok lifetime =>
      if !(lib.isSolanaAddress sender && lib.isSolanaAddress recipient) then
        pure (.error (refuseFor .sendFailed "unregistered_program"))
      else if !lib.isBlockhash lifetime.blockhash then
        pure (.error (refuseFor .sendFailed "blockhash_unavailable"))
      else do
        let sent ← signAndSendTransaction sender recipient lamports lifetime.blockhash chain
        match sent.outcome with
        | .error .walletRejection => pure (.error (refuse .walletRejected))
        | .error _ => pure (.error (refuseFor .sendFailed "wallet_send_failed"))
        | .ok bytes =>
          match signatureText lib bytes with
          | .error cause => pure (.error (refuseFor .sendFailed cause))
          | .ok signature => pure (.ok (signature, lifetime.lastValidBlockHeight))

def sendSvm (args : EnsureArgs) (needed : ℤ) (bundlerAddress : String) :
    Async (Except IrysDepositResult IrysDepositRecord) :=
  match args.account with
  | .svm address =>
    if !args.ports.svmSignAndSend then
      pure (.error (refuseFor .sendFailed "missing_svm_port"))
    else do
      match ← sendSvmNativeTransfer lib args.stack address bundlerAddress needed with
      | .error refusal => pure (.error refusal)
      | .ok (signature, lastValid) =>
        pure (.ok (.svm signature (toString lastValid) (toString needed) (← dateNow)))
  | _ => pure (.error (refuseGuard (.writeAvailability (.wrongVm .svm))))

def evmSwitchChainAvailability : ActiveAccount → Except EvmSessionCause Unit
  | .disconnected => .error .disconnected
  | .evm _ _ => .ok ()
  | .svm _ => .error .wrongVm

/-- The wallet is put on the chain of the deposit where it is on another. -/
def switchTo (args : EnsureArgs) (walletChainId : ℕ) : Async (Option IrysDepositResult) := do
  if walletChainId = args.stack.ns then
    pure none
  else
    match evmSwitchChainAvailability args.account with
    | .error cause => pure (some (refuseGuard (.switchChain cause)))
    | .ok _ =>
      if !args.ports.switchChain then
        pure (some (refuseFor .sendFailed "missing_switch_chain_port"))
      else
        match ← ExceptT.mk (pure (evmWagmiChain lib args.stack.ns)) with
        | .error refusal => pure (some (refuseGuard (.writeAvailability refusal)))
        | .ok chainId => do
          switchChain chainId
          pure none

def payEvm (args : EnsureArgs) (needed : ℤ) (bundlerAddress address : String) :
    Async (Except IrysDepositResult IrysDepositRecord) := do
  match ← readEvmAccountKind args.stack.ns address with
  | .error cause => pure (.error (refuseFor .sendFailed cause))
  | .ok .contract => pure (.error (refuse .contractWallet))
  | .ok _ =>
    if (readIrysEvmMinConfirm args).isNone then
      pure (.error (refuse .unknownToken))
    else if !args.ports.sendEvmTransaction then
      pure (.error (refuseFor .sendFailed "missing_evm_port"))
    else if !lib.isAddress bundlerAddress then
      pure (.error (refuseFor .sendFailed "bundler_address_unusable"))
    else do
      let sent ← sendEvmTransaction (lib.getAddress bundlerAddress) needed args.stack.ns
      let txHash ← ExceptT.mk (pure sent.outcome)
      pure (.ok (.evm txHash (toString needed) (← dateNow)))

def sendEvm (args : EnsureArgs) (needed : ℤ) (bundlerAddress : String) :
    Async (Except IrysDepositResult IrysDepositRecord) :=
  match args.account with
  | .evm address walletChainId => do
    match ← switchTo lib args walletChainId with
    | some refusal => pure (.error refusal)
    | none => payEvm lib args needed bundlerAddress address
  | _ => pure (.error (refuseGuard (.writeAvailability (.wrongVm .evm))))

/-- The `try` block of `sendNewDeposit` with its handler. -/
def sendTransfer (args : EnsureArgs) (needed : ℤ) (bundlerAddress : String) :
    Async (Except IrysDepositResult IrysDepositRecord) :=
  tryCatch
    (match args.stack.vm with
      | .svm => sendSvm lib args needed bundlerAddress
      | .evm => sendEvm lib args needed bundlerAddress)
    fun err => pure (.error (caughtAs (refuseFor .sendFailed) err))

def sendNewDeposit (args : EnsureArgs) (needed : ℤ) (key : String) (price : ℤ) :
    Async IrysDepositResult := do
  match txWriteAvailability lib args.account args.stack.ns with
  | .error refusal => pure (refuseGuard (.writeAvailability refusal))
  | .ok _ =>
    if ← probeIrysDepositRecordStoreWritable then
      let bundlerAddress ← getBundlerAddress args.paymentToken
      match ← sendTransfer lib args needed bundlerAddress with
      | .error refusal => pure refusal
      | .ok record =>
        if ← writeIrysDepositRecord key record then
          resolveOpenRecord lib args record key price bundlerAddress
        else
          pure (refuse .recordUnavailable)
    else
      pure (refuse .recordUnavailable)

def ensureFor (args : EnsureArgs) (payer : String) : Async IrysDepositResult := do
  let price ← ExceptT.mk (pure (parseAtomicAmount
    (← getPrice (lib.estimateIrysUploadBytes args.totalBytes))))
  let balance ← ExceptT.mk (pure (parseAtomicAmount (← getBalance)))
  let bundlerAddress ← getBundlerAddress args.paymentToken
  let key := irysDepositRecordKey args.stack.ns payer bundlerAddress
  if balance ≥ price then
    clearIrysDepositRecord key
    pure .ok
  else
    match ← readIrysDepositRecord lib key args.stack.vm with
    | .unreadable => pure (refuse .recordUnreadable)
    | .record record => resolveOpenRecord lib args record key price bundlerAddress
    | .absent =>
      if neededDepositAmount price balance ≤ 0 then
        pure .ok
      else
        sendNewDeposit lib args (neededDepositAmount price balance) key price

/-- The balance is made to cover the upload: a balance that does is enough, an open record is
    resolved before a new payment. -/
def ensureIrysDeposit (args : EnsureArgs) : Async IrysDepositResult :=
  match args.account with
  | .disconnected => pure (refuseGuard (.writeAvailability .disconnected))
  | .evm address _ => ensureFor lib args address
  | .svm address => ensureFor lib args address

end Kargain.Storage
