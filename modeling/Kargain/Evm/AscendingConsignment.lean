/-
  Kargain.Evm.AscendingConsignment — the auction mode.

  AscendingConsignment.sol with the two libraries it delegates to,
  AscendingOpenLib.sol (opening bounds and the term snapshot) and
  AscendingHoldLib.sol (the money hold after settlement).  The settlement
  challenge is BondedChallenge instantiated with the hold.

  Left out: the upgrade entry point, which replaces the code, and the
  views.
-/
import Kargain.Evm.Messages
import Kargain.Evm.BondedChallenge

namespace Kargain.Evm

/-! ## §1. Storage and constants. -/

structure AscendingStorage where
  challengeBond : ℕ
  auction : TokenId → AuctionTerms
  holds : TokenId → Hold
  paymentTokenEnabled : Address → Bool

namespace Ascending

def minDuration : ℕ := 259200            -- 3 days
def maxDuration : ℕ := 2592000           -- 30 days
def extensionWindow : ℕ := 900           -- 15 minutes
def minIncrementBps : ℕ := 300
def minProtectionWindow : ℕ := 604800    -- 7 days
def maxProtectionWindow : ℕ := 3888000   -- 45 days
def abandonmentWindow : ℕ := 2592000     -- 30 days

variable {P : Type}

abbrev World (P : Type) := Evm.World P AscendingStorage

def setAuction (w : World P) (t : TokenId) (a : AuctionTerms) : World P :=
  { w with ext := { w.ext with auction := Function.update w.ext.auction t a } }

def setHold (w : World P) (t : TokenId) (h : Hold) : World P :=
  { w with ext := { w.ext with holds := Function.update w.ext.holds t h } }

/-! ## §2. Hooks. -/

def hasUnresolvedSettlement (w : World P) (t : TokenId) : Bool :=
  (w.ext.holds t).buyer != .zero

def isBinding (w : World P) (t : TokenId) : Bool :=
  w.com.phase t == .offered && w.com.committedNotOffered t && (w.ext.holds t).buyer == .zero

def assetAdmitted (w : World P) (asset : Address) : Bool :=
  asset == .zero || w.ext.paymentTokenEnabled asset

def hooks : Hooks P AscendingStorage where
  may w t := !hasUnresolvedSettlement w t
  requireModeOpen w runner _ asset := do
    revertIf (w.env.isActiveVerifier runner = false) .notActiveVerifier
    revertIf (assetAdmitted w asset = false) .paymentTokenNotSupported
  safeDelivery := false

/-! ## §3. Opening (AscendingOpenLib). -/

/-- `requireAuctionOpenParams`. -/
def requireAuctionOpenParams (reserve duration protectionWindow : ℕ) (asset : Address)
    (paymentTokenEnabled : Bool) : Except Error Unit := do
  revertIf (reserve = 0) .badReserve
  revertIf (duration < minDuration ∨ duration > maxDuration) .badDuration
  revertIf (protectionWindow < minProtectionWindow ∨ protectionWindow > maxProtectionWindow)
    .protectionOutOfBounds
  revertIf (asset ≠ .zero ∧ paymentTokenEnabled = false) .paymentTokenNotSupported

/-- `writeAuctionTerms`. -/
def writeAuctionTerms (w : World P) (sender : Address) (t : TokenId)
    (duration protectionWindow reserve : ℕ) : World P :=
  (setAuction w t
    { duration := duration, endsAt := 0, extensionWindow := extensionWindow,
      protectionWindow := protectionWindow, abandonmentWindow := abandonmentWindow,
      minIncrementBps := minIncrementBps, highestBidder := .zero, highestBid := 0 }).emit sender
    (.ascendingTermsSnapshotted t duration extensionWindow protectionWindow abandonmentWindow
      minIncrementBps reserve)

/-- `requireAuctionRules` on the constants and the governed bond. -/
def requireAuctionRules (challengeBond : ℕ) : Except Error Unit := do
  revertIf (minDuration = 0 ∨ maxDuration < minDuration) .badConfig
  revertIf (extensionWindow = 0 ∨ abandonmentWindow = 0) .badConfig
  revertIf (minProtectionWindow = 0 ∨ maxProtectionWindow < minProtectionWindow) .badConfig
  revertIf (minIncrementBps = 0 ∨ minIncrementBps > bpsDenom) .badConfig
  revertIf (challengeBond = 0) .badConfig

def assetDenomination : Denomination := ⟨.asset, 0⟩

section Registry

variable [Erc721 P]

/-- `_requireVerifiedPassport`. -/
def requireVerifiedPassport (w : World P) (t : TokenId) : Except Error Unit :=
  revertIf (w.env.karPassport.passportStatus t ≠ .verified) .passportNotVerified

/-- Body of `openAscendingDirect`. -/
def openAscendingDirectBody (w : World P) (sender : Address) (t : TokenId) (asset : Address)
    (reserve duration protectionWindow : ℕ) : Except Error (World P) := do
  requireNotPaused w
  let owner ← passportOwner w t
  revertIf (owner ≠ sender) .notPassportOwner
  hooks.requireModeOpen w owner assetDenomination asset
  requireCanOpen hooks w t owner
  requireVerifiedPassport w t
  requireAuctionOpenParams reserve duration protectionWindow asset (assetAdmitted w asset)
  let w ← takeCustody w t owner
  let w := writeOpen w sender t owner .zero asset assetDenomination 0 ⟨.margin, 0⟩ reserve
  pure (writeAuctionTerms w sender t duration protectionWindow reserve)

/-- Body of `openAscendingFromMandate`. -/
def openAscendingFromMandateBody (w : World P) (sender : Address) (t : TokenId)
    (reserve duration protectionWindow : ℕ) : Except Error (World P) := do
  requireNotPaused w
  let m ← requireMandateAllowsOpen w t assetDenomination
  revertIf (m.agent ≠ sender) .notConsignmentAgent
  let owner ← passportOwner w t
  hooks.requireModeOpen w m.agent m.denomination m.asset
  requireCanOpen hooks w t owner
  requireVerifiedPassport w t
  requireAuctionOpenParams reserve duration protectionWindow m.asset (assetAdmitted w m.asset)
  let _ ← computeAgentedSplitAmounts reserve m.floor m.compensation w.com.platformFeeBps
  let w ← takeCustody w t owner
  let w := writeOpen w sender t owner m.agent m.asset m.denomination m.floor m.compensation
    reserve
  pure (writeAuctionTerms w sender t duration protectionWindow reserve)

end Registry

/-! ## §4. Bidding. -/

/-- `_pullBid`: the value of a native bid has already arrived with the call. -/
def pullBid (w : World P) (asset : Address) (amount value : ℕ)
    (r : Reply P AscendingStorage) : Except Error (World P) :=
  if asset = .zero then do
    revertIf (value ≠ amount) .wrongValue
    pure w
  else do
    revertIf (value ≠ 0) .directEthNotAccepted
    pullErc20 w asset amount r

/-- `_applyExtension`. -/
def applyExtension (now : ℕ) (a : AuctionTerms) : AuctionTerms :=
  if a.endsAt = 0 then a
  else if now + a.extensionWindow ≥ a.endsAt ∧ u40 (now + a.extensionWindow) > a.endsAt then
    { a with endsAt := u40 (now + a.extensionWindow) }
  else a

/-- The two admission rules for the amount of a bid. -/
def bidHighEnough (c : Consignment) (a : AuctionTerms) (amount : ℕ) : Bool :=
  if a.highestBidder = .zero then !(amount < c.price)
  else !(amount < a.highestBid + a.highestBid * a.minIncrementBps / bpsDenom) &&
    !(amount ≤ a.highestBid)

/-- Body of `bid`, after the value has arrived. -/
def bidBody (w : World P) (sender : Address) (value : ℕ) (t : TokenId) (amount : ℕ)
    (rs : ℕ → Reply P AscendingStorage) : Except Error (World P) := do
  requireNotPaused w
  revertIf ((w.ext.holds t).buyer ≠ .zero) .settlementPending
  revertIf (isOfferedActionable w t = false ∧ isBinding w t = false) .notOffered
  let c := w.com.consignments t
  revertIf (sender = c.seller) .bidFromSeller
  revertIf (sender = c.agent) .bidFromAgent
  let a := w.ext.auction t
  revertIf (a.endsAt ≠ 0 ∧ w.env.now ≥ a.endsAt) .auctionEnded
  revertIf (bidHighEnough c a amount = false) .bidTooLow
  let w ← pullBid w c.asset amount value (rs 0)
  let prev := (w.ext.auction t).highestBidder
  let prevAmt := (w.ext.auction t).highestBid
  let w ← (if prev = .zero then do
      let w ← enterCommittedNotOffered w t
      pure (setAuction w t { w.ext.auction t with
        endsAt := u40 (w.env.now + (w.ext.auction t).duration) })
    else pure w)
  let a := applyExtension w.env.now
    { w.ext.auction t with highestBidder := sender, highestBid := amount }
  let w := (setAuction w t a).emit sender (.bidPlaced t sender amount a.endsAt)
  if prev ≠ .zero then do
    let asset := (w.com.consignments t).asset
    let w ← payOut w sender asset prev prevAmt (rs 1)
    pure (w.emit sender (.bidRefunded t prev asset prevAmt))
  else pure w

/-! ## §5. The hold (AscendingHoldLib). -/

section Registry

variable [Erc721 P]

/-- `settle`: the passport goes to the highest bidder without a callback, the money into
    the hold. -/
def settleBody (w : World P) (sender : Address) (t : TokenId) : Except Error (World P) := do
  revertIf (isBinding w t = false) .notBinding
  let a := w.ext.auction t
  revertIf (a.endsAt = 0) .notBinding
  revertIf (w.env.now < a.endsAt) .auctionNotEnded
  revertIf ((w.ext.holds t).buyer ≠ .zero) .settlementPending
  let ends := u64 (w.env.now + a.protectionWindow)
  let w := setAuction w t .empty
  let p ← orRevert (Erc721.transferFrom w.env.karPassport.erc721 .self .self a.highestBidder t)
    .erc721
  let w := setHold (w.moved .self .self a.highestBidder t p) t
    { buyer := a.highestBidder, gross := a.highestBid, protectionEndsAt := ends,
      frozenRemaining := 0, reversalPending := false, abandonmentDeadline := 0,
      abandonmentWindow := a.abandonmentWindow }
  pure (w.emit sender (.settled t a.highestBidder a.highestBid ends))

end Registry

/-- `_requireActiveHold`. -/
def requireActiveHold (w : World P) (t : TokenId) : Except Error Hold := do
  revertIf ((w.ext.holds t).buyer = .zero) .noHold
  pure (w.ext.holds t)

/-- `clearHoldForConfirm`, then the split. -/
def confirmReceiptBody (w : World P) (sender : Address) (t : TokenId)
    (rs : ℕ → Reply P AscendingStorage) : Except Error (World P) := do
  let h ← requireActiveHold w t
  revertIf (sender ≠ h.buyer) .notHoldBuyer
  revertIf (isChallengeActive w t = true) .disputeActive
  revertIf (h.reversalPending = true) .reversalPending
  let w ← paySplit (setHold w t .empty) sender t h.gross .holdReleased (rs 0) (rs 1) (rs 2)
  pure (w.emit sender (.receiptConfirmed t h.buyer))

/-- `clearHoldForRelease`, then the split. -/
def releaseFundsBody (w : World P) (sender : Address) (t : TokenId)
    (rs : ℕ → Reply P AscendingStorage) : Except Error (World P) := do
  let h ← requireActiveHold w t
  revertIf (isChallengeActive w t = true) .disputeActive
  revertIf (h.reversalPending = true) .reversalPending
  revertIf (w.env.now < h.protectionEndsAt) .holdNotReady
  let w ← paySplit (setHold w t .empty) sender t h.gross .holdReleased (rs 0) (rs 1) (rs 2)
  pure (w.emit sender (.fundsReleased t h.buyer))

/-- `clearHoldForAbandon`, then the split. -/
def abandonReversalBody (w : World P) (sender : Address) (t : TokenId)
    (rs : ℕ → Reply P AscendingStorage) : Except Error (World P) := do
  let h ← requireActiveHold w t
  revertIf (h.reversalPending = false) .noReversalPending
  revertIf (w.env.now < h.abandonmentDeadline) .abandonmentNotReady
  let w ← paySplit (setHold w t .empty) sender t h.gross .reversalAbandoned (rs 0) (rs 1) (rs 2)
  pure (w.emit sender (.reversalAbandoned t h.buyer))

/-- `clearHoldForChallengeTerminal`, then the split: `_onRejected` and `_onExpired`. -/
def challengeTerminal (w : World P) (sender : Address) (t : TokenId)
    (rs : ℕ → Reply P AscendingStorage) : Except Error (World P) := do
  let h ← requireActiveHold w t
  paySplit (setHold w t .empty) sender t h.gross .holdReleased (rs 0) (rs 1) (rs 2)

section Registry

variable [Erc721 P]

/-- `prepareCompleteReversal`, the refund, and the return to the seller. -/
def completeReversalBody (w : World P) (sender : Address) (t : TokenId)
    (rs : ℕ → Reply P AscendingStorage) : Except Error (World P) := do
  let h ← requireActiveHold w t
  revertIf (h.reversalPending = false) .noReversalPending
  revertIf (sender ≠ h.buyer) .notHoldBuyer
  let holder ← passportOwner w t
  revertIf (holder ≠ h.buyer) .notPassportHolder
  let w ← takeCustody (setHold w t .empty) t h.buyer
  let w ← payOut w sender (w.com.consignments t).asset h.buyer h.gross (rs 0)
  let w ← terminateToOwner hooks w sender t .reversalCompleted (rs 1)
  pure (w.emit sender (.reversalCompleted t h.buyer))

end Registry

/-- `freezeForChallenge`. -/
def freezeForChallenge (w : World P) (t : TokenId) : Except Error (World P) := do
  let h ← requireActiveHold w t
  revertIf (h.reversalPending = true) .reversalPending
  revertIf (h.frozenRemaining ≠ 0) .disputeActive
  revertIf (w.env.now ≥ h.protectionEndsAt) .protectionElapsed
  pure (setHold w t { h with frozenRemaining := u64 (h.protectionEndsAt - w.env.now) })

/-- `onUpheld`. -/
def onUpheld (w : World P) (sender : Address) (t : TokenId) : World P :=
  let h := w.ext.holds t
  let deadline := u64 (w.env.now + h.abandonmentWindow)
  (setHold w t { h with
    reversalPending := true, frozenRemaining := 0, protectionEndsAt := 0,
    abandonmentDeadline := deadline }).emit sender (.reversalStarted t h.buyer deadline)

/-- `onWithdrawn`. -/
def onWithdrawn (w : World P) (t : TokenId) : World P :=
  let h := w.ext.holds t
  setHold w t { h with
    frozenRemaining := 0, protectionEndsAt := u64 (w.env.now + h.frozenRemaining) }

/-- The settlement challenge: BondedChallenge on the hold. -/
def challengeHooks : ChallengeHooks P AscendingStorage where
  requiredBondAmount w := w.ext.challengeBond
  actionAllowed _ _ := .ok ()
  isEligibleChallenger w t challenger :=
    (w.ext.holds t).buyer != .zero && challenger == (w.ext.holds t).buyer &&
      !(w.ext.holds t).reversalPending
  isQualifiedJudge w _ judge := w.env.isActiveVerifier judge
  isExcludedJudge w t _ judge :=
    judge == (w.ext.holds t).buyer || judge == (w.com.consignments t).seller ||
      ((w.com.consignments t).agent != .zero && judge == (w.com.consignments t).agent)
  onUpheld w sender t := .ok (onUpheld w sender t)
  onRejected w sender t rs := challengeTerminal w sender t rs
  onExpired w sender t rs := challengeTerminal w sender t rs
  onWithdrawn w _ t := .ok (onWithdrawn w t)

/-- Body of `open`, after the bond has arrived. -/
def openBody (w : World P) (sender : Address) (value : ℕ) (t : TokenId) :
    Except Error (World P) := do
  let w ← freezeForChallenge w t
  openChallenge challengeHooks w sender t value

/-! ## §6. Administration. -/

def setChallengeBond (w : World P) (sender : Address) (challengeBond : ℕ) :
    Except Error (World P) := do
  onlyOwner w sender
  requireAuctionRules challengeBond
  pure ({ w with ext := { w.ext with challengeBond := challengeBond } }.emit sender
    (.auctionRulesSet challengeBond))

def setPaymentToken (w : World P) (token : Address) (b : Bool) : World P :=
  { w with ext := { w.ext with
      paymentTokenEnabled := Function.update w.ext.paymentTokenEnabled token b } }

def approvePaymentToken (w : World P) (sender token : Address)
    (rs : ℕ → Reply P AscendingStorage) : Except Error (World P) := do
  onlyOwner w sender
  revertIf (token = .zero) .zeroAddress
  let w ← requireConforming w token (rs 0)
  let _ ← requireDecimals (rs 1)
  pure ((setPaymentToken w token true).emit sender (.paymentTokenApproved token))

def revokePaymentToken (w : World P) (sender token : Address) : Except Error (World P) := do
  revertIf (sender ≠ w.com.guardian ∧ sender ≠ w.com.owner) .notGuardianOrOwner
  pure ((setPaymentToken w token false).emit sender (.paymentTokenRevoked token))

/-! ## §7. The table of entry points. -/

inductive Call where
  | base (c : BaseCall)
  | setChallengeBond (challengeBond : ℕ)
  | approvePaymentToken (token : Address)
  | revokePaymentToken (token : Address)
  | openAscendingDirect (t : TokenId) (asset : Address) (reserve duration protectionWindow : ℕ)
  | openAscendingFromMandate (t : TokenId) (reserve duration protectionWindow : ℕ)
  | bid (t : TokenId) (amount : ℕ)
  | settle (t : TokenId)
  | confirmReceipt (t : TokenId)
  | releaseFunds (t : TokenId)
  | completeReversal (t : TokenId)
  | abandonReversal (t : TokenId)
  | open (t : TokenId)
  | withdraw (t : TokenId)
  | judge (t : TokenId) (outcome : JudgeOutcome)
  | conclude (t : TokenId)

variable [Erc721 P]

/-- The entry points that are not payable. -/
def dispatchPlain (sender : Address) (rs : ℕ → Reply P AscendingStorage) (w : World P) :
    Call → Except Error (World P)
  | .base c => execBase hooks sender rs w c
  | .setChallengeBond b => setChallengeBond w sender b
  | .approvePaymentToken token => approvePaymentToken w sender token rs
  | .revokePaymentToken token => revokePaymentToken w sender token
  | .openAscendingDirect t asset reserve duration protectionWindow => nonReentrant w fun w =>
    openAscendingDirectBody w sender t asset reserve duration protectionWindow
  | .openAscendingFromMandate t reserve duration protectionWindow => nonReentrant w fun w =>
    openAscendingFromMandateBody w sender t reserve duration protectionWindow
  | .settle t => nonReentrant w fun w => settleBody w sender t
  | .confirmReceipt t => nonReentrant w fun w => confirmReceiptBody w sender t rs
  | .releaseFunds t => nonReentrant w fun w => releaseFundsBody w sender t rs
  | .completeReversal t => nonReentrant w fun w => completeReversalBody w sender t rs
  | .abandonReversal t => nonReentrant w fun w => abandonReversalBody w sender t rs
  | .withdraw t => nonReentrant w fun w => withdrawBody challengeHooks w sender t rs
  | .judge t outcome => nonReentrant w fun w => judgeBody challengeHooks w sender t outcome rs
  | .conclude t => nonReentrant w fun w => concludeBody challengeHooks w sender t rs
  | .bid _ _ | .open _ => .error .nonPayable

/-- `bid` and `open` are payable. -/
def dispatch (sender : Address) (value : ℕ) (call : Call) (rs : ℕ → Reply P AscendingStorage)
    (w : World P) : Except Error (World P) :=
  match call with
  | .bid t amount =>
    nonReentrant (w.receiveValue value) fun w => bidBody w sender value t amount rs
  | .open t => nonReentrant (w.receiveValue value) fun w => openBody w sender value t
  | call => do
    nonPayable value
    dispatchPlain sender rs w call

def mode : Mode P AscendingStorage Call := ⟨hooks, dispatch⟩

/-! ## §8. Initial state. -/

/-- The storage the initializer leaves, on a chain `env`. -/
def initializeStorage (env : Env P) (platformRecipient : Address) (feeBps : ℕ)
    (forfeitRecipient : Address) (challengeBond challengeWindow : ℕ)
    (initialOwner guardian : Address) : Except Error (World P) := do
  revertIf (forfeitRecipient = .zero) .zeroAddress
  revertIf (challengeBond = 0) .badConfig
  requireAuctionRules challengeBond
  revertIf (initialOwner = .zero) .invalidOwner
  revertIf (platformRecipient = .zero ∨ guardian = .zero) .zeroAddress
  revertIf (feeBps > bpsDenom) .feeTooHigh
  revertIf (challengeWindow = 0) .zeroChallengeWindow
  pure
    { env := env
      acct := ⟨0, fun _ => 0, fun _ _ => 0, 0, fun _ => 0, []⟩
      bonds := ⟨fun _ => .empty, forfeitRecipient, challengeWindow, true, 0⟩
      com := ⟨fun _ => .empty, fun _ => 0, platformRecipient, u16 feeBps, fun _ => .none,
        fun _ => .empty, fun _ => false, false, guardian, initialOwner⟩
      ext := ⟨challengeBond, fun _ => .empty, fun _ => .empty, fun _ => false⟩
      locked := false
      log := [] }

/-- A freshly initialised auction on any chain: passports may already exist, and ether and
    tokens may already stand here. -/
def Genesis (w : World P) : Prop :=
  ∃ env platformRecipient feeBps forfeitRecipient challengeBond challengeWindow initialOwner
      guardian w₀ balance tokenBalance,
    RegistryClean env.karPassport.erc721 ∧
    initializeStorage env platformRecipient feeBps forfeitRecipient challengeBond
      challengeWindow initialOwner guardian = .ok w₀ ∧
    w = w₀.setAcct { w₀.acct with balance := balance, tokenBalance := tokenBalance }

/-! ## §9. A small chain. -/

/-- The auction on the small chain: 2.5 % to account 9, bonds of 100 forfeited to it. -/
def smallGenesis : World Registry where
  env := smallEnv
  acct := ⟨0, fun _ => 0, fun _ _ => 0, 0, fun _ => 0, []⟩
  bonds := ⟨fun _ => .empty, .account 9, 86400, true, 0⟩
  com := ⟨fun _ => .empty, fun _ => 0, .account 9, 250, fun _ => .none, fun _ => .empty,
    fun _ => false, false, .account 9, .account 9⟩
  ext := ⟨100, fun _ => .empty, fun _ => .empty, fun _ => false⟩
  locked := false
  log := []

theorem smallGenesis_genesis : Genesis smallGenesis := by
  refine ⟨smallEnv, .account 9, 250, .account 9, 100, 86400, .account 9, .account 9,
    smallGenesis, 0, fun _ => 0, ⟨fun a => ?_, fun t _ => rfl⟩, rfl, rfl⟩
  simp [smallEnv, Erc721.isApprovedForAll]

/-- Account 1 grants account 2 a Margin mandate with floor 1000, account 2 opens at 2000,
    account 3 bids and settles. -/
def settledLot : List (Action Call) :=
  [.call 1 0 (.base (.grant 7 (.account 2) 0 .zero assetDenomination 1000 ⟨.margin, 0⟩)),
    .call 2 0 (.openAscendingFromMandate 7 2000 minDuration minProtectionWindow),
    .call 3 2000 (.bid 7 2000), .tick minDuration, .call 3 0 (.settle 7)]

end Ascending

end Kargain.Evm
