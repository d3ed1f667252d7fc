/-
  Kargain.Evm.FixedPriceConsignment — the fixed-price mode.

  FixedPriceConsignment.sol: a stated price in an asset or in a fiat
  currency, purchase on chain with the price converted at payment time,
  and the external confirmation that moves no money.  Delivery is
  `safeTransferFrom`, so the receiver of a passport gets control before
  the call goes on.

  Left out: the upgrade entry point, which replaces the code, and the
  views.
-/
import Kargain.Evm.Messages

namespace Kargain.Evm

/-! ## §1. Storage and constants. -/

structure PaymentTokenConfig where
  feed : Address
  decimals : ℕ
  enabled : Bool
  stalenessTolerance : ℕ
  deriving Repr, DecidableEq

structure CurrencyFeedConfig where
  feed : Address
  stalenessTolerance : ℕ
  deriving Repr, DecidableEq

structure FixedPriceStorage where
  nativeUsdFeed : Address
  nativeUsdStalenessTolerance : ℕ
  paymentTokens : Address → PaymentTokenConfig
  currencyFeeds : ℕ → CurrencyFeedConfig
  settlementNotes : TokenId → List UInt8

namespace FixedPrice

/-- `bytes32("USD")`. -/
def currencyUsd : ℕ := 0x555344 * 2 ^ 232
def minFeedStaleness : ℕ := 60
def maxFeedStaleness : ℕ := 259200   -- 72 hours
def fiatScale : ℕ := 10 ^ 8

variable {P : Type}

abbrev World (P : Type) := Evm.World P FixedPriceStorage

def setNote (w : World P) (t : TokenId) (note : List UInt8) : World P :=
  { w with ext := { w.ext with
      settlementNotes := Function.update w.ext.settlementNotes t note } }

/-! ## §2. Price feeds. -/

def latestRoundData (w : World P) (feed : Address) : Except Error FeedReading :=
  orRevert (w.env.feed feed) .feedReverted

/-- `_checkFeedFresh`. -/
def checkFeedFresh (w : World P) (updatedAt tolerance : ℕ) : Except Error Unit := do
  let age ← checkedSub w.env.now updatedAt
  revertIf (age > tolerance) .stalePrice

/-- A fresh, positive answer of `feed`. -/
def readFeed (w : World P) (feed : Address) (tolerance : ℕ) : Except Error ℕ := do
  let reading ← latestRoundData w feed
  checkFeedFresh w reading.updatedAt tolerance
  revertIf (reading.answer ≤ 0) .badOracleAnswer
  pure reading.answer.toNat

/-- `_fiatToUsd1e8`. -/
def fiatToUsd1e8 (w : World P) (fiatPrice1e8 currencyCode : ℕ) : Except Error ℕ :=
  if currencyCode = currencyUsd then .ok fiatPrice1e8
  else do
    let cfg := w.ext.currencyFeeds currencyCode
    revertIf (cfg.feed = .zero) .currencyNotAvailableOnChain
    let rate ← readFeed w cfg.feed cfg.stalenessTolerance
    let x ← checkedMul fiatPrice1e8 rate
    pure (x / fiatScale)

/-- `_usdToNative`. -/
def usdToNative (w : World P) (usd1e8 : ℕ) : Except Error ℕ := do
  let px ← readFeed w w.ext.nativeUsdFeed w.ext.nativeUsdStalenessTolerance
  let x ← checkedMul usd1e8 (10 ^ 18)
  pure (x / px)

/-- `_usdToTokenAmount`. -/
def usdToTokenAmount (w : World P) (usd1e8 : ℕ) (cfg : PaymentTokenConfig) :
    Except Error ℕ := do
  revertIf (cfg.feed = .zero) .paymentTokenFeedRequired
  revertIf (10 ^ cfg.decimals ≥ 2 ^ 256) .arithmetic
  let px ← readFeed w cfg.feed cfg.stalenessTolerance
  let x ← checkedMul usd1e8 (10 ^ cfg.decimals)
  pure (x / px)

/-- `_quoteAmount`. -/
def quoteAmount (w : World P) (price : ℕ) (denom : Denomination) (asset : Address) :
    Except Error ℕ :=
  if denom.kind = .asset then .ok price
  else do
    let usd1e8 ← fiatToUsd1e8 w price denom.currencyCode
    if asset = .zero then usdToNative w usd1e8
    else usdToTokenAmount w usd1e8 (w.ext.paymentTokens asset)

/-! ## §3. Hooks. -/

def hooks : Hooks P FixedPriceStorage where
  may w t := !isLiveConsignment w t
  requireModeOpen w _ denomination asset := do
    revertIf (asset ≠ .zero ∧ (w.ext.paymentTokens asset).enabled = false)
      .paymentTokenNotSupported
    revertIf (denomination.kind = .fiat ∧ asset ≠ .zero ∧
      (w.ext.paymentTokens asset).feed = .zero) .paymentTokenFeedRequired
  safeDelivery := true

/-- `_requireOfferedForSale`. -/
def requireOfferedForSale (w : World P) (t : TokenId) : Except Error Unit :=
  revertIf (w.com.phase t ≠ .offered ∨ w.com.committedNotOffered t = true) .notOffered

section Registry

variable [Erc721 P]

/-! ## §4. Opening and amending. -/

/-- Body of `openDirect`. -/
def openDirectBody (w : World P) (sender : Address) (t : TokenId) (denomination : Denomination)
    (asset : Address) (price : ℕ) : Except Error (World P) := do
  requireNotPaused w
  let owner ← passportOwner w t
  revertIf (owner ≠ sender) .notPassportOwner
  hooks.requireModeOpen w owner denomination asset
  requireCanOpen hooks w t owner
  let w ← takeCustody w t owner
  pure (writeOpen w sender t owner .zero asset denomination 0 ⟨.margin, 0⟩ price)

/-- Body of `openFromMandate`. -/
def openFromMandateBody (w : World P) (sender : Address) (t : TokenId)
    (denomination : Denomination) (price : ℕ) : Except Error (World P) := do
  requireNotPaused w
  let m ← requireMandateAllowsOpen w t denomination
  revertIf (m.agent ≠ sender) .notConsignmentAgent
  let owner ← passportOwner w t
  hooks.requireModeOpen w m.agent denomination m.asset
  requireCanOpen hooks w t owner
  let _ ← computeAgentedSplitAmounts price m.floor m.compensation w.com.platformFeeBps
  let w ← takeCustody w t owner
  pure (writeOpen w sender t owner m.agent m.asset m.denomination m.floor m.compensation price)

/-- Body of `setPrice`. -/
def setPriceBody (w : World P) (sender : Address) (t : TokenId) (newPrice : ℕ) :
    Except Error (World P) := do
  revertIf (isOfferedActionable w t = false) .notOffered
  let c := w.com.consignments t
  if c.agent = .zero then
    revertIf (c.seller ≠ sender) .notConsignmentSeller
  else do
    revertIf (c.agent ≠ sender) .notConsignmentRunner
    let _ ← computeAgentedSplitAmounts newPrice c.floor c.compensation c.platformFeeBps
  pure ((w.setConsignment t { c with price := newPrice }).emit sender
    (.consignmentPriceSet t sender newPrice))

/-! ## §5. Purchase and external confirmation. -/

/-- The payment of `buy`: exact value, or exact delivery of the token. -/
def pullPayment (w : World P) (asset : Address) (amount value : ℕ)
    (r : Reply P FixedPriceStorage) : Except Error (World P) :=
  if asset = .zero then do
    revertIf (value ≠ amount) .wrongValue
    pure w
  else do
    revertIf (value ≠ 0) .wrongValue
    pullErc20 w asset amount r

/-- `Math.mulDiv`. -/
def mulDiv (x y denominator : ℕ) : Except Error ℕ := do
  revertIf (denominator = 0 ∨ x * y / denominator ≥ 2 ^ 256) .arithmetic
  pure (x * y / denominator)

/-- The fiat floor of an agented lot, scaled to the amount paid. -/
def scaleFiatFloor (w : World P) (t : TokenId) (amount : ℕ) : Except Error (World P) :=
  let c := w.com.consignments t
  if c.denomination.kind = .fiat ∧ c.agent ≠ .zero ∧ c.floor ≠ 0 then do
    let baseFiat ← agentedFloorScaleBase c.price c.compensation c.platformFeeBps
    let baseAsset ← agentedFloorScaleBase amount c.compensation c.platformFeeBps
    let floorAsset ← mulDiv baseAsset c.floor baseFiat
    revertIf (floorAsset ≥ 2 ^ 128) .badOracleAnswer
    pure (w.setConsignment t { c with floor := floorAsset })
  else .ok w

/-- Body of `buy`, after the value has arrived. -/
def buyBody (w : World P) (sender : Address) (value : ℕ) (t : TokenId)
    (rs : ℕ → Reply P FixedPriceStorage) : Except Error (World P) := do
  requireNotPaused w
  requireOfferedForSale w t
  let c := w.com.consignments t
  let amount ← quoteAmount w c.price c.denomination c.asset
  let w ← pullPayment w c.asset amount value (rs 0)
  let w ← scaleFiatFloor w t amount
  let w ← releaseCustody hooks w t sender (rs 1)
  paySplit (w.emit sender (.bought t sender c.asset amount)) sender t amount .sold
    (rs 2) (rs 3) (rs 4)

/-- Body of `setSettlementNote`. -/
def setSettlementNoteBody (w : World P) (sender : Address) (t : TokenId)
    (note : List UInt8) : Except Error (World P) := do
  requireOfferedForSale w t
  let c := w.com.consignments t
  if c.agent = .zero then
    revertIf (c.seller ≠ sender) .notConsignmentSeller
  else
    revertIf (c.agent ≠ sender) .notConsignmentRunner
  revertIf (note.length = 0) .emptySettlementNote
  pure ((setNote w t note).emit sender (.settlementNoteSet t sender))

/-- Body of `confirmExternalPayment`. -/
def confirmExternalPaymentBody (w : World P) (sender : Address) (t : TokenId)
    (buyer : Address) (rs : ℕ → Reply P FixedPriceStorage) : Except Error (World P) := do
  requireOfferedForSale w t
  let c := w.com.consignments t
  revertIf (sender ≠ c.seller ∧ sender ≠ c.agent) .notSellerOrAgent
  revertIf ((w.ext.settlementNotes t).length = 0) .emptySettlementNote
  revertIf (buyer = .zero) .zeroAddress
  let w ← releaseCustody hooks (setNote w t []) t buyer (rs 0)
  pure (close (w.emit sender (.externalPaymentConfirmed t buyer sender)) sender t
    .externalConfirmed)

end Registry

/-! ## §6. Administration. -/

/-- `_requireStalenessInBounds`. -/
def requireStalenessInBounds (tolerance : ℕ) : Except Error Unit :=
  revertIf (tolerance < minFeedStaleness ∨ tolerance > maxFeedStaleness) .feedStalenessOutOfBounds

/-- `_validateFeed`. -/
def validateFeed (w : World P) (feed : Address) (tolerance : ℕ) : Except Error Unit := do
  revertIf (tolerance = 0) .zeroFeedStaleness
  requireStalenessInBounds tolerance
  revertIf (w.env.hasCode feed = false) .invalidFeed
  let reading ← latestRoundData w feed
  revertIf (reading.decimals ≠ 8) .invalidFeedDecimals
  revertIf (reading.answer ≤ 0) .badOracleAnswer
  checkFeedFresh w reading.updatedAt tolerance

def setPaymentToken (w : World P) (token : Address) (cfg : PaymentTokenConfig) : World P :=
  { w with ext := { w.ext with
      paymentTokens := Function.update w.ext.paymentTokens token cfg } }

def approvePaymentToken (w : World P) (sender token feed : Address) (tolerance : ℕ)
    (rs : ℕ → Reply P FixedPriceStorage) : Except Error (World P) := do
  onlyOwner w sender
  revertIf (token = .zero) .zeroAddress
  let w ← requireConforming w token (rs 0)
  let decimals ← requireDecimals (rs 1)
  revertIf ((w.ext.paymentTokens token).feed ≠ .zero ∧ feed = .zero) .cannotClearPaymentTokenFeed
  if feed = .zero then
    revertIf (tolerance ≠ 0) .stalenessWithoutFeed
  else
    validateFeed w feed tolerance
  pure ((setPaymentToken w token ⟨feed, decimals, true, tolerance⟩).emit sender
    (.paymentTokenAdmitted token feed decimals tolerance))

def revokePaymentToken (w : World P) (sender token : Address) : Except Error (World P) := do
  revertIf (sender ≠ w.com.guardian ∧ sender ≠ w.com.owner) .notGuardianOrOwner
  pure ((setPaymentToken w token { w.ext.paymentTokens token with enabled := false }).emit sender
    (.paymentTokenRevoked token))

def setCurrencyFeed (w : World P) (sender : Address) (currencyCode : ℕ) (feed : Address)
    (tolerance : ℕ) : Except Error (World P) := do
  onlyOwner w sender
  revertIf (currencyCode = currencyUsd) .invalidCurrencyCode
  if feed = .zero then
    revertIf (tolerance ≠ 0) .stalenessWithoutFeed
  else
    validateFeed w feed tolerance
  pure ({ w with ext := { w.ext with
    currencyFeeds := Function.update w.ext.currencyFeeds currencyCode ⟨feed, tolerance⟩ } }.emit
    sender (.currencyFeedSet currencyCode feed tolerance))

def setNativeUsdStalenessTolerance (w : World P) (sender : Address) (tolerance : ℕ) :
    Except Error (World P) := do
  onlyOwner w sender
  requireStalenessInBounds tolerance
  let reading ← latestRoundData w w.ext.nativeUsdFeed
  revertIf (reading.answer ≤ 0) .badOracleAnswer
  checkFeedFresh w reading.updatedAt tolerance
  pure ({ w with ext := { w.ext with nativeUsdStalenessTolerance := tolerance } }.emit sender
    (.nativeUsdStalenessToleranceSet w.ext.nativeUsdStalenessTolerance tolerance))

/-! ## §7. The table of entry points. -/

inductive Call where
  | base (c : BaseCall)
  | approvePaymentToken (token feed : Address) (tolerance : ℕ)
  | revokePaymentToken (token : Address)
  | setCurrencyFeed (currencyCode : ℕ) (feed : Address) (tolerance : ℕ)
  | setNativeUsdStalenessTolerance (tolerance : ℕ)
  | openDirect (t : TokenId) (denomination : Denomination) (asset : Address) (price : ℕ)
  | openFromMandate (t : TokenId) (denomination : Denomination) (price : ℕ)
  | setPrice (t : TokenId) (newPrice : ℕ)
  | buy (t : TokenId)
  | setSettlementNote (t : TokenId) (note : List UInt8)
  | confirmExternalPayment (t : TokenId) (buyer : Address)

variable [Erc721 P]

/-- The entry points that are not payable. -/
def dispatchPlain (sender : Address) (rs : ℕ → Reply P FixedPriceStorage) (w : World P) :
    Call → Except Error (World P)
  | .base c => execBase hooks sender rs w c
  | .approvePaymentToken token feed tolerance =>
    approvePaymentToken w sender token feed tolerance rs
  | .revokePaymentToken token => revokePaymentToken w sender token
  | .setCurrencyFeed currencyCode feed tolerance =>
    setCurrencyFeed w sender currencyCode feed tolerance
  | .setNativeUsdStalenessTolerance tolerance => setNativeUsdStalenessTolerance w sender tolerance
  | .openDirect t denomination asset price => nonReentrant w fun w =>
    openDirectBody w sender t denomination asset price
  | .openFromMandate t denomination price => nonReentrant w fun w =>
    openFromMandateBody w sender t denomination price
  | .setPrice t newPrice => nonReentrant w fun w => setPriceBody w sender t newPrice
  | .setSettlementNote t note => nonReentrant w fun w => setSettlementNoteBody w sender t note
  | .confirmExternalPayment t buyer => nonReentrant w fun w =>
    confirmExternalPaymentBody w sender t buyer rs
  | .buy _ => .error .nonPayable

/-- `buy` is payable. -/
def dispatch (sender : Address) (value : ℕ) (call : Call) (rs : ℕ → Reply P FixedPriceStorage)
    (w : World P) : Except Error (World P) :=
  match call with
  | .buy t => nonReentrant (w.receiveValue value) fun w => buyBody w sender value t rs
  | call => do
    nonPayable value
    dispatchPlain sender rs w call

def mode : Mode P FixedPriceStorage Call := ⟨hooks, dispatch⟩

/-! ## §8. Initial state. -/

/-- The storage the initializer leaves, on a chain `env`. -/
def initializeStorage (env : Env P) (platformRecipient : Address) (feeBps : ℕ)
    (nativeUsdFeed : Address) (tolerance : ℕ) (initialOwner guardian : Address) :
    Except Error (World P) := do
  revertIf (nativeUsdFeed = .zero) .zeroAddress
  revertIf (initialOwner = .zero) .invalidOwner
  revertIf (platformRecipient = .zero ∨ guardian = .zero) .zeroAddress
  revertIf (feeBps > bpsDenom) .feeTooHigh
  let w : World P :=
    { env := env
      acct := ⟨0, fun _ => 0, fun _ _ => 0, 0, fun _ => 0, []⟩
      bonds := ⟨fun _ => .empty, .zero, 0, false, 0⟩
      com := ⟨fun _ => .empty, fun _ => 0, platformRecipient, u16 feeBps, fun _ => .none,
        fun _ => .empty, fun _ => false, false, guardian, initialOwner⟩
      ext := ⟨nativeUsdFeed, tolerance, fun _ => ⟨.zero, 0, false, 0⟩, fun _ => ⟨.zero, 0⟩,
        fun _ => []⟩
      locked := false
      log := [] }
  validateFeed w nativeUsdFeed tolerance
  pure w

/-- A freshly initialised fixed-price mode on any chain, whatever balances stand here. -/
def Genesis (w : World P) : Prop :=
  ∃ env platformRecipient feeBps nativeUsdFeed tolerance initialOwner guardian w₀ balance
      tokenBalance,
    RegistryClean env.karPassport.erc721 ∧
    initializeStorage env platformRecipient feeBps nativeUsdFeed tolerance initialOwner
      guardian = .ok w₀ ∧
    w = w₀.setAcct { w₀.acct with balance := balance, tokenBalance := tokenBalance }

/-! ## §9. A small chain. -/

/-- The mode on the small chain: 2.5 % to account 9. -/
def smallGenesis : World Registry where
  env := smallEnv
  acct := ⟨0, fun _ => 0, fun _ _ => 0, 0, fun _ => 0, []⟩
  bonds := ⟨fun _ => .empty, .zero, 0, false, 0⟩
  com := ⟨fun _ => .empty, fun _ => 0, .account 9, 250, fun _ => .none, fun _ => .empty,
    fun _ => false, false, .account 9, .account 9⟩
  ext := ⟨.account 8, 3600, fun _ => ⟨.zero, 0, false, 0⟩, fun _ => ⟨.zero, 0⟩, fun _ => []⟩
  locked := false
  log := []

theorem smallGenesis_genesis : Genesis smallGenesis := by
  refine ⟨smallEnv, .account 9, 250, .account 8, 3600, .account 9, .account 9, smallGenesis, 0,
    fun _ => 0, ⟨fun a => ?_, fun t _ => rfl⟩, rfl, rfl⟩
  simp [smallEnv, Erc721.isApprovedForAll]

/-- Account 1 grants account 2 a Margin mandate with floor 1000, account 2 opens at 2000,
    account 3 buys. -/
def soldLot : List (Action Call) :=
  [.call 1 0 (.base (.grant 7 (.account 2) 0 .zero ⟨.asset, 0⟩ 1000 ⟨.margin, 0⟩)),
    .call 2 0 (.openFromMandate 7 ⟨.asset, 0⟩ 2000), .call 3 2000 (.buy 7)]

end FixedPrice

end Kargain.Evm
