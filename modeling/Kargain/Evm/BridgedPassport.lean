/-
  Kargain.Evm.BridgedPassport — KarPassport and its gateway on one chain.

  `Chain P` is the storage of KarPassport.sol and KarPassportBridgeGateway.sol
  on one chain, with what they read from elsewhere.  Ownership is the
  ERC-721 ledger `P` of Kargain.Evm.Passport; `inbox` and `outbox` are the
  messages the endpoint has for the gateway and has taken from it.

  A `Message` is one call by an account.  Where the code hands control to
  somebody (a receiver of `_safeMint`, the payee of a bond, the endpoint's
  refund) the message says what that callee does: refuse, or accept after
  sending messages of its own.  Accounts are numbered, and the gateway is
  none of them: it calls the passport from its own three entry points only.

  Ether is left out.  Whether a bond payment goes through is the payee's
  choice, which covers a short balance; a refused one becomes a claim.
-/
import Kargain.Evm.World

namespace Kargain.Evm.Bridge

/-! ## §1. Storage. -/

abbrev Uri := List UInt8

/-- `PassportUriCeiling.BYTES`. -/
def uriCeiling : ℕ := 160

/-- `MAX_ENCUMBRANCE_SOURCES`. -/
def maxEncumbranceSources : ℕ := 8

/-- A word carrying an address in its low 20 bytes. -/
structure Bytes32 where
  high : ℕ
  low : Address
  deriving Repr, DecidableEq

def Bytes32.zero : Bytes32 := ⟨0, .zero⟩

/-- An ONFT message, with the endpoint it is bound for. -/
structure Packet where
  dstEid : ℕ
  sendTo : Bytes32
  tokenId : TokenId
  uri : Uri
  deriving Repr, DecidableEq

inductive Event where
  | passportMinted (dst : Address) (tokenId : TokenId) (uri : Uri)
  | passportVerified (tokenId : TokenId) (verifier : Address)
  | passportDisputed (tokenId : TokenId) (disputer : Address)
  | verificationLapsed (tokenId : TokenId)
  | verificationStood (tokenId : TokenId)
  | passportURIUpdated (tokenId : TokenId) (newURI : Uri) (author : Address)
  | verificationReset (tokenId : TokenId) (author : Address)
  | custodyLockSet (tokenId : TokenId) (isLocked : Bool)
  | passportBridgeMinted (dst : Address) (tokenId : TokenId) (uri : Uri)
  | passportBridgeBurned (tokenId : TokenId)
  | challengeOpened (tokenId : TokenId) (challenger : Address)
  | challengeWithdrawn (tokenId : TokenId) (challenger : Address)
  | challengeJudged (tokenId : TokenId) (judge : Address) (outcome : JudgeOutcome)
  | challengeConcluded (tokenId : TokenId)
  | onftSent (tokenId : TokenId) (sender : Address)
  | onftReceived (tokenId : TokenId) (dst : Address)
  | recoveredLockedHome (tokenId : TokenId) (dst : Address)
  deriving Repr, DecidableEq

structure Chain (P : Type) where
  -- read from elsewhere
  now : ℕ
  chainId : ℕ
  isActiveVerifier : Address → Bool
  sourceAnswer : Address → TokenId → Intent → Option Bool
  -- KarPassport
  erc721 : P
  tokenURI : TokenId → Uri
  nextTokenId : ℕ
  passportStatus : TokenId → Status
  passportVerifier : TokenId → Address
  passportVerifiedAt : TokenId → ℕ
  bridgeGateway : Address
  custodyLocked : TokenId → Bool
  encumbranceSources : List Address
  disputeDeposit : ℕ
  bonds : Bonds
  owner : Address
  locked : Bool
  -- the gateway
  gatewayOwner : Address
  inbox : List Packet
  outbox : List Packet
  log : List Event

variable {P : Type}

namespace Chain

variable (c : Chain P)

def emit (e : Event) : Chain P := { c with log := e :: c.log }

def setErc721 (p : P) : Chain P := { c with erc721 := p }

/-- `passportStatus[t] = s; passportVerifier[t] = v; passportVerifiedAt[t] = at;` -/
def setTrust (t : TokenId) (s : Status) (v : Address) (verifiedAt : ℕ) : Chain P :=
  { c with passportStatus := Function.update c.passportStatus t s
           passportVerifier := Function.update c.passportVerifier t v
           passportVerifiedAt := Function.update c.passportVerifiedAt t verifiedAt }

def setStatus (t : TokenId) (s : Status) : Chain P :=
  { c with passportStatus := Function.update c.passportStatus t s }

def setLock (t : TokenId) (b : Bool) : Chain P :=
  { c with custodyLocked := Function.update c.custodyLocked t b }

def setChallenge (t : TokenId) (ch : Challenge) (total : ℕ) : Chain P :=
  { c with bonds := { c.bonds with
      challenges := Function.update c.bonds.challenges t ch
      totalLockedBonds := total } }

def isChallengeActive (t : TokenId) : Bool := (c.bonds.challenges t).openedAt != 0

def isHome (t : TokenId) : Bool := KarPassport.isHome c.chainId t

variable [Erc721 P]

def ownerOf (t : TokenId) : Option Address := Erc721.ownerOf c.erc721 t

/-- `_requireExists`. -/
def requireExists (t : TokenId) : Except Error Unit :=
  revertIf (c.ownerOf t = none) .nonexistentToken

omit [Erc721 P] in
/-- `_requireNotBridgedAway`. -/
def requireNotBridgedAway (t : TokenId) : Except Error Unit :=
  revertIf (c.custodyLocked t = true) .passportBridgedAway

/-- KarPassport.sol `may`. -/
def may (t : TokenId) (i : Intent) : Except Error Bool := do
  c.requireExists t
  if c.isChallengeActive t then pure false
  else KarPassport.sourcesMay (fun a => c.sourceAnswer a t i) c.encumbranceSources

end Chain

/-! ## §2. KarPassport, the gateway's side. -/

section Gateway

variable (c : Chain P) (sender : Address)

/-- `onlyGateway`. -/
def onlyGateway : Except Error Unit := require (sender = c.bridgeGateway) .notBridgeGateway

/-- `_setTokenURIChecked`. -/
def setTokenURIChecked (t : TokenId) (uri : Uri) : Except Error (Chain P) := do
  revertIf (uri.length > uriCeiling) .uriTooLong
  pure { c with tokenURI := Function.update c.tokenURI t uri }

variable [Erc721 P]

def setCustodyLock (t : TokenId) (b : Bool) : Except Error (Chain P) := do
  onlyGateway c sender
  require (c.isHome t = true) .notHomeToken
  c.requireExists t
  pure ((c.setLock t b).emit (.custodyLockSet t b))

/-- `bridgeMint` up to the receiver's turn in `_safeMint`. -/
def bridgeMint (dst : Address) (t : TokenId) : Except Error (Chain P) := do
  onlyGateway c sender
  revertIf (c.isHome t = true) .notForeignToken
  require (c.ownerOf t = none) .tokenExists
  let p ← orRevert (Erc721.mint c.erc721 dst t) .erc721
  pure ((c.setStatus t .unverified).setErc721 p)

omit [Erc721 P] in
/-- `bridgeMint` after it. -/
def bridgeMintFinish (dst : Address) (t : TokenId) (uri : Uri) : Except Error (Chain P) := do
  let c ← setTokenURIChecked c t uri
  pure (c.emit (.passportBridgeMinted dst t uri))

def bridgeBurn (t : TokenId) : Except Error (Chain P) := do
  onlyGateway c sender
  revertIf (c.isHome t = true) .notForeignToken
  c.requireExists t
  let p ← orRevert (Erc721.burn c.erc721 t) .erc721
  pure (((c.setErc721 p).setTrust t .unverified .zero 0).emit (.passportBridgeBurned t))

def bridgeResetOnUnlock (t : TokenId) (uri : Uri) : Except Error (Chain P) := do
  onlyGateway c sender
  require (c.isHome t = true) .notHomeToken
  c.requireExists t
  let current := c.passportStatus t
  let c := c.setTrust t .unverified .zero 0
  let c := if current = .verified then c.emit (.verificationReset t c.bridgeGateway) else c
  let c ← (if uri ≠ [] ∧ uri ≠ c.tokenURI t then do
      let c ← setTokenURIChecked c t uri
      pure (c.emit (.passportURIUpdated t uri c.bridgeGateway))
    else pure c)
  pure ((c.setLock t false).emit (.custodyLockSet t false))

end Gateway

/-! ## §3. KarPassport, everybody's side. -/

section Passport

variable (c : Chain P) (sender : Address)

/-- `nonReentrant`, on the way in and on the way out. -/
def enter : Except Error (Chain P) := do
  revertIf (c.locked = true) .reentrantCall
  pure { c with locked := true }

def leave : Chain P := { c with locked := false }

/-- `onlyOwner`. -/
def onlyOwner : Except Error Unit := require (sender = c.owner) .notOwner

def setDisputeDeposit (amount : ℕ) : Except Error (Chain P) := do
  onlyOwner c sender
  revertIf (amount = 0) .zeroDisputeDeposit
  pure { c with disputeDeposit := amount }

def addEncumbranceSource (source : Address) : Except Error (Chain P) := do
  onlyOwner c sender
  revertIf (source = .zero) .zeroAddress
  revertIf (c.encumbranceSources.length ≥ maxEncumbranceSources) .tooManyEncumbranceSources
  revertIf (source ∈ c.encumbranceSources) .sourceAlreadyRegistered
  pure { c with encumbranceSources := c.encumbranceSources ++ [source] }

/-- The last source takes the place of the one removed. -/
def removeEncumbranceSource (source : Address) : Except Error (Chain P) := do
  onlyOwner c sender
  require (source ∈ c.encumbranceSources) .sourceNotRegistered
  let moved := c.encumbranceSources.getLastD .zero
  pure { c with encumbranceSources :=
    (c.encumbranceSources.map fun a => if a = source then moved else a).dropLast }

def setBridgeGateway (gateway_ : Address) : Except Error (Chain P) := do
  onlyOwner c sender
  revertIf (c.bridgeGateway ≠ .zero) .gatewayAlreadySet
  revertIf (gateway_ = .zero) .zeroAddress
  pure { c with bridgeGateway := gateway_ }

variable [Erc721 P]

/-- `mintPassport` up to the receiver's turn. -/
def mintPassport (dst : Address) : Except Error (Chain P) := do
  let c ← enter c
  revertIf (c.nextTokenId % 2 ^ 128 = 2 ^ 128 - 1) .tokenIdSpaceExhausted
  let t := c.nextTokenId
  let p ← orRevert (Erc721.mint c.erc721 dst t) .erc721
  pure ({ c with nextTokenId := t + 1 }.setStatus t .unverified |>.setErc721 p)

omit [Erc721 P] in
def mintPassportFinish (dst : Address) (t : TokenId) (uri : Uri) : Except Error (Chain P) := do
  let c ← setTokenURIChecked c t uri
  pure (leave (c.emit (.passportMinted dst t uri)))

def setPassportURI (t : TokenId) (uri : Uri) : Except Error (Chain P) := do
  let c ← enter c
  c.requireExists t
  c.requireNotBridgedAway t
  require (c.ownerOf t = some sender) .notOwner
  revertIf (uri = []) .emptyField
  let current := c.passportStatus t
  revertIf (current = .disputed) .invalidStatus
  revertIf (uri = c.tokenURI t) .sameUri
  let c := if current = .verified then
      (c.setTrust t .unverified .zero 0).emit (.verificationReset t sender)
    else c
  let c ← setTokenURIChecked c t uri
  pure (leave (c.emit (.passportURIUpdated t uri sender)))

def verifyPassport (t : TokenId) : Except Error (Chain P) := do
  let c ← enter c
  c.requireExists t
  c.requireNotBridgedAway t
  require (c.isActiveVerifier sender = true) .notActiveVerifier
  revertIf (c.ownerOf t = some sender) .cannotSelfVerify
  require (c.passportStatus t = .unverified) .invalidStatus
  pure (leave ((c.setTrust t .verified sender c.now).emit (.passportVerified t sender)))

/-! ### The verification challenge. -/

/-- `_openChallenge` under the passport's hooks. -/
def openChallenge (t : TokenId) (value : ℕ) : Except Error (Chain P) := do
  revertIf (c.bonds.configured = false) .challengeNotConfigured
  c.requireNotBridgedAway t
  revertIf (c.isChallengeActive t = true) .disputeActive
  revertIf (value ≠ c.disputeDeposit) .wrongValue
  let total ← checkedAdd c.bonds.totalLockedBonds value
  pure ((c.setChallenge t ⟨c.now, c.bonds.windowDuration, sender, value⟩ total).emit
    (.challengeOpened t sender))

/-- KarPassport.sol `open`. -/
def openDispute (t : TokenId) (value : ℕ) : Except Error (Chain P) := do
  let c ← enter c
  c.requireExists t
  require (c.passportStatus t = .verified) .invalidStatus
  let c ← openChallenge c sender t value
  pure (leave ((c.setStatus t .disputed).emit (.passportDisputed t sender)))

omit [Erc721 P] in
/-- `_requireActiveChallenge`. -/
def requireActiveChallenge (t : TokenId) : Except Error Challenge := do
  require (c.isChallengeActive t = true) .noActiveDispute
  pure (c.bonds.challenges t)

omit [Erc721 P] in
def requireWithinWindow (ch : Challenge) : Except Error Unit := do
  let ends ← checkedAdd ch.openedAt ch.windowDuration
  revertIf (c.now ≥ ends) .disputeWindowElapsed

omit [Erc721 P] in
def requireAfterWindow (ch : Challenge) : Except Error Unit := do
  let ends ← checkedAdd ch.openedAt ch.windowDuration
  revertIf (c.now < ends) .disputeWindowActive

omit [Erc721 P] in
/-- `_clearChallengeAccounting`. -/
def clearChallengeAccounting (t : TokenId) (bondAmount : ℕ) : Except Error (Chain P) := do
  let total ← checkedSub c.bonds.totalLockedBonds bondAmount
  pure (c.setChallenge t .empty total)

omit [Erc721 P] in
/-- `withdraw` up to the payment of the bond. -/
def withdraw (t : TokenId) : Except Error (Chain P) := do
  let c ← enter c
  c.requireNotBridgedAway t
  let ch ← requireActiveChallenge c t
  require (ch.challenger = sender) .notDisputeOpener
  requireWithinWindow c ch
  let c ← clearChallengeAccounting c t ch.bondAmount
  revertIf (ch.challenger = .zero) .cannotRouteBondToJudge
  pure c

omit [Erc721 P] in
/-- `withdraw` after it, with `_onWithdrawn`. -/
def withdrawFinish (t : TokenId) (challenger : Address) : Chain P :=
  leave (((c.emit (.challengeWithdrawn t challenger)).setStatus t .verified).emit
    (.verificationStood t))

/-- `judge` up to the payment of the bond. -/
def judge (t : TokenId) (outcome : JudgeOutcome) : Except Error (Chain P) := do
  let c ← enter c
  c.requireNotBridgedAway t
  let ch ← requireActiveChallenge c t
  requireWithinWindow c ch
  -- `ownerOf` reverts on a burned token
  let holder ← orRevert (c.ownerOf t) .erc721
  revertIf (sender = ch.challenger ∨ sender = holder ∨ sender = c.passportVerifier t)
    .cannotResolveOwnDispute
  require (c.isActiveVerifier sender = true) .notQualifiedJudge
  let bondRecipient := if outcome = .upheld then ch.challenger else c.bonds.forfeitRecipient
  let c ← clearChallengeAccounting c t ch.bondAmount
  revertIf (bondRecipient = sender) .cannotRouteBondToJudge
  pure c

omit [Erc721 P] in
/-- `_lapseVerification`. -/
def lapseVerification (t : TokenId) : Chain P :=
  (c.setTrust t .unverified .zero 0).emit (.verificationLapsed t)

omit [Erc721 P] in
/-- `judge` after it, with `_onUpheld` and `_onRejected`. -/
def judgeFinish (t : TokenId) (outcome : JudgeOutcome) : Chain P :=
  let c := c.emit (.challengeJudged t sender outcome)
  match outcome with
  | .upheld => leave (lapseVerification c t)
  | .rejected => leave ((c.setStatus t .verified).emit (.verificationStood t))

omit [Erc721 P] in
/-- `conclude` up to the payment of the bond. -/
def conclude (t : TokenId) : Except Error (Chain P) := do
  let c ← enter c
  c.requireNotBridgedAway t
  let ch ← requireActiveChallenge c t
  requireAfterWindow c ch
  let c ← clearChallengeAccounting c t ch.bondAmount
  revertIf (c.bonds.forfeitRecipient = .zero) .cannotRouteBondToJudge
  pure c

omit [Erc721 P] in
/-- `conclude` after it, with `_onExpired`. -/
def concludeFinish (t : TokenId) : Chain P :=
  leave (lapseVerification (c.emit (.challengeConcluded t)) t)

end Passport

/-! ## §4. The gateway. -/

section Send

variable [Erc721 P] (c : Chain P) (sender : Address)

/-- `_debit`. -/
def debit (t : TokenId) : Except Error (Chain P) := do
  let ok ← c.may t .leaveChain
  require (ok = true) .leaveChainRefused
  if c.isHome t then
    let p ← orRevert (Erc721.transferFrom c.erc721 .gateway sender .gateway t) .erc721
    setCustodyLock (c.setErc721 p) .gateway t true
  else
    require (c.ownerOf t = some sender) .notRepresentationOwner
    bridgeBurn c .gateway t

/-- `send`, up to the refund of the endpoint. -/
def send (dstEid : ℕ) (dst : Bytes32) (t : TokenId) : Except Error (Chain P) := do
  revertIf (c.ownerOf t = none) .erc721
  let uri := c.tokenURI t
  revertIf (uri.length > uriCeiling) .uriExceedsBridgeCeiling
  revertIf (dst = .zero) .invalidReceiver
  let c ← debit c sender t
  pure { c with outbox := ⟨dstEid, dst, t, uri⟩ :: c.outbox }

/-- `_lzReceive`, up to the receiver's turn; the endpoint hands over a message once. -/
def lzReceive (m : Packet) : Except Error (Chain P) := do
  require (m ∈ c.inbox) .calleeReverted
  let c := { c with inbox := c.inbox.erase m }
  if c.isHome m.tokenId then
    let c ← bridgeResetOnUnlock c .gateway m.tokenId m.uri
    let p ← orRevert (Erc721.transferFrom c.erc721 .gateway .gateway m.sendTo.low m.tokenId)
      .erc721
    pure (c.setErc721 p)
  else bridgeMint c .gateway m.sendTo.low m.tokenId

omit [Erc721 P] in
def lzReceiveFinish (m : Packet) : Except Error (Chain P) := do
  let c ← (if c.isHome m.tokenId then pure c
    else bridgeMintFinish c m.sendTo.low m.tokenId m.uri)
  pure (c.emit (.onftReceived m.tokenId m.sendTo.low))

def recoverLockedHome (t : TokenId) (dst : Address) : Except Error (Chain P) := do
  require (sender = c.gatewayOwner) .notOwner
  revertIf (dst = .zero) .zeroAddress
  require (c.isHome t = true) .notHomeToken
  require (c.ownerOf t = some .gateway) .notLocked
  let c ← bridgeResetOnUnlock c .gateway t []
  let p ← orRevert (Erc721.transferFrom c.erc721 .gateway .gateway dst t) .erc721
  pure ((c.setErc721 p).emit (.recoveredLockedHome t dst))

end Send

/-! ## §5. Messages. -/

inductive Call where
  | transferFrom (src dst : Address) (t : TokenId)
  | safeTransferFrom (src dst : Address) (t : TokenId)
  | approve (spender : Address) (t : TokenId)
  | setApprovalForAll (operator : Address) (b : Bool)
  | mintPassport (dst : Address) (uri : Uri)
  | setPassportURI (t : TokenId) (uri : Uri)
  | verifyPassport (t : TokenId)
  | openDispute (t : TokenId) (value : ℕ)
  | withdraw (t : TokenId)
  | judge (t : TokenId) (outcome : JudgeOutcome)
  | conclude (t : TokenId)
  | setDisputeDeposit (amount : ℕ)
  | addEncumbranceSource (source : Address)
  | removeEncumbranceSource (source : Address)
  | setBridgeGateway
  | setCustodyLock (t : TokenId) (b : Bool)
  | bridgeMint (dst : Address) (t : TokenId) (uri : Uri)
  | bridgeBurn (t : TokenId)
  | bridgeResetOnUnlock (t : TokenId) (uri : Uri)
  | send (dstEid : ℕ) (dst : Bytes32) (t : TokenId)
  | lzReceive (m : Packet)
  | recoverLockedHome (t : TokenId) (dst : Address)
  deriving Repr, DecidableEq

/-- A call, and the turn of the callee the code hands control to: whether it accepts, and
    the messages it sends in before it does. -/
inductive Message where
  | mk (sender : ℕ) (call : Call) (accepts : Bool) (calls : List Message)

/-- Whom the code hands control to: nobody, somebody whose refusal reverts the call, or
    somebody whose refusal is caught. -/
inductive Turn where
  | nobody
  | required
  | caught
  deriving DecidableEq

section Exec

variable [Erc721 P]

omit [Erc721 P] in
/-- `_payNative` calls nobody when there is nothing to pay. -/
def turn (c : Chain P) : Call → Turn
  | .safeTransferFrom .. | .mintPassport .. | .send .. => .required
  | .bridgeMint .. => .required
  | .lzReceive m => if c.isHome m.tokenId then .nobody else .required
  | .withdraw t | .judge t _ | .conclude t =>
    if (c.bonds.challenges t).bondAmount = 0 then .nobody else .caught
  | _ => .nobody

/-- A call up to the callee's turn. -/
def begin (c : Chain P) (s : Address) : Call → Except Error (Chain P)
  | .transferFrom src dst t | .safeTransferFrom src dst t => do
    let p ← orRevert (Erc721.transferFrom c.erc721 s src dst t) .erc721
    pure (c.setErc721 p)
  | .approve spender t => do
    let p ← orRevert (Erc721.approve c.erc721 s spender t) .erc721
    pure (c.setErc721 p)
  | .setApprovalForAll operator b => do
    let p ← orRevert (Erc721.setApprovalForAll c.erc721 s operator b) .erc721
    pure (c.setErc721 p)
  | .mintPassport dst _ => mintPassport c dst
  | .setPassportURI t uri => setPassportURI c s t uri
  | .verifyPassport t => verifyPassport c s t
  | .openDispute t value => openDispute c s t value
  | .withdraw t => withdraw c s t
  | .judge t outcome => judge c s t outcome
  | .conclude t => conclude c t
  | .setDisputeDeposit amount => setDisputeDeposit c s amount
  | .addEncumbranceSource source => addEncumbranceSource c s source
  | .removeEncumbranceSource source => removeEncumbranceSource c s source
  | .setBridgeGateway => setBridgeGateway c s .gateway
  | .setCustodyLock t b => setCustodyLock c s t b
  | .bridgeMint dst t _ => bridgeMint c s dst t
  | .bridgeBurn t => bridgeBurn c s t
  | .bridgeResetOnUnlock t uri => bridgeResetOnUnlock c s t uri
  | .send dstEid dst t => send c s dstEid dst t
  | .lzReceive m => lzReceive c m
  | .recoverLockedHome t dst => recoverLockedHome c s t dst

omit [Erc721 P] in
/-- The rest of the call; `c₀` is the chain the call came to. -/
def finish (c₀ c : Chain P) (s : Address) : Call → Except Error (Chain P)
  | .mintPassport dst uri => mintPassportFinish c dst c₀.nextTokenId uri
  | .bridgeMint dst t uri => bridgeMintFinish c dst t uri
  | .withdraw t => pure (withdrawFinish c t (c₀.bonds.challenges t).challenger)
  | .judge t outcome => pure (judgeFinish c s t outcome)
  | .conclude t => pure (concludeFinish c t)
  | .send _ _ t => pure (c.emit (.onftSent t s))
  | .lzReceive m => lzReceiveFinish c m
  | _ => pure c

mutual

/-- One message, with everything its callees send in. -/
def exec : Message → Chain P → Except Error (Chain P)
  | .mk sender call accepts calls, c => do
    let c₁ ← begin c (.account sender) call
    let c₂ ← (match turn c call with
      | .nobody => pure c₁
      | .required => do
        require (accepts = true) .calleeReverted
        execAll calls c₁
      | .caught => if accepts then execAll calls c₁ else pure c₁)
    finish c c₂ (.account sender) call

def execAll : List Message → Chain P → Except Error (Chain P)
  | [], c => pure c
  | m :: ms, c => do
    let c ← exec m c
    execAll ms c

end

/-- What happens on a chain: a transaction, a message of another chain arriving at the
    endpoint, or time passing and other contracts changing their answers. -/
inductive Action where
  | transaction (m : Message)
  | arrival (m : Packet)
  | outside (now : ℕ) (isActiveVerifier : Address → Bool)
      (sourceAnswer : Address → TokenId → Intent → Option Bool)

def step (c : Chain P) : Action → Except Error (Chain P)
  | .transaction m => exec m c
  | .arrival m => pure { c with inbox := m :: c.inbox }
  | .outside now isActiveVerifier sourceAnswer => do
    require (c.now ≤ now) .calleeReverted
    pure { c with now, isActiveVerifier, sourceAnswer }

/-- A chain right after both contracts are deployed. -/
structure Deployed (c : Chain P) : Prop where
  now_pos : 0 < c.now
  no_passport : ∀ t, c.ownerOf t = none
  nextTokenId : c.nextTokenId = c.chainId * 2 ^ 128
  unverified : ∀ t, c.passportStatus t = .unverified
  unlocked : ∀ t, c.custodyLocked t = false
  no_challenge : ∀ t, c.bonds.challenges t = .empty
  gateway : c.bridgeGateway = .zero ∨ c.bridgeGateway = .gateway
  not_entered : c.locked = false
  no_event : c.log = []

end Exec

end Kargain.Evm.Bridge
