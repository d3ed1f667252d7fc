/-
  Kargain.Evm.Types — the values the selling-mode contracts work with.

  Records and enumerations of Mandate.sol, ConsignmentBase.sol,
  AscendingTypes.sol and BondedChallenge.sol, with the errors and events
  of the modelled entry points.  Amounts and times are natural numbers;
  where the source casts to a narrower unsigned type the model takes the
  remainder, where it adds under the checked arithmetic of the compiler
  the model reverts at 2^256.
-/
import Mathlib
import Kargain.Base.Revert

namespace Kargain.Evm

/-! ## §1. Addresses and integers. -/

/-- An address.  The code only compares addresses, so the fixed contracts are
    symbols: `self` is `address(this)` of the mode under study, and every other
    account, contract or not, is a numbered one. -/
inductive Address where
  | zero
  | self
  | passport
  | gateway
  | account (n : ℕ)
  deriving Repr, DecidableEq

/-- The sender of a message: any account but the mode itself, which calls
    tokens, the passport and payees but never its own entry points. -/
structure Caller where
  addr : Address
  ne_self : addr ≠ .self
  ne_zero : addr ≠ .zero

/-- Account `n` as a sender. -/
def Caller.account (n : ℕ) : Caller := ⟨.account n, by simp, by simp⟩

abbrev TokenId := ℕ

/-- Truncating casts `uint16(x)`, `uint40(x)`, `uint64(x)`, `uint128(x)`. -/
def u16 (x : ℕ) : ℕ := x % 2 ^ 16
def u40 (x : ℕ) : ℕ := x % 2 ^ 40
def u64 (x : ℕ) : ℕ := x % 2 ^ 64
def u128 (x : ℕ) : ℕ := x % 2 ^ 128

/-! ## §2. Errors. -/

/-- The named errors of the modelled contracts, then what the compiler, the
    inherited guards and the passport registry revert with. -/
inductive Error where
  -- Mandate
  | notPassportOwner | liveConsignment | noLiveConsignment | escrowNotApproved | zeroAddress
  | mandateExpired | noMandate | denominationMismatch | cannotRaiseFloor
  | cannotRaiseCommission | notCommissionForm | notConsignmentAgent
  -- Recall
  | notConsignmentSeller | notOfferedAgented | returnAlreadyRequested | returnNotRequested
  | returnCooldownPending
  -- ConsignmentBase
  | openConsignmentRefused | modeNotEncumbranceSource | notOffered | notDirectConsignment
  | belowFloor | feeTooHigh | notConsignmentRunner | contractPaused | notGuardian
  | notGuardianOrOwner
  -- ClaimablePayouts
  | noClaim | transferFailed
  -- BondedChallenge
  | disputeActive | noActiveDispute | notDisputeOpener | disputeWindowElapsed
  | disputeWindowActive | cannotResolveOwnDispute | wrongValue | notEligibleChallenger
  | notQualifiedJudge | cannotRouteBondToJudge | challengeNotConfigured
  | zeroForfeitRecipient | zeroChallengeWindow
  -- AscendingConsignment and its libraries
  | notActiveVerifier | badDuration | protectionOutOfBounds | badConfig | badReserve
  | bidFromSeller | bidFromAgent | bidTooLow | notBinding | auctionEnded | auctionNotEnded
  | noHold | holdNotReady | notHoldBuyer | reversalPending | noReversalPending
  | abandonmentNotReady | protectionElapsed | settlementPending | paymentTokenNotSupported
  | directEthNotAccepted | shortDelivery | notPassportHolder | passportNotVerified
  -- FixedPriceConsignment
  | stalePrice | badOracleAnswer | emptySettlementNote | paymentTokenFeedRequired
  | currencyNotAvailableOnChain | notSellerOrAgent | cannotClearPaymentTokenFeed
  | zeroFeedStaleness | stalenessWithoutFeed | feedStalenessOutOfBounds | invalidFeed
  | invalidFeedDecimals | invalidCurrencyCode
  -- Erc20Admission
  | tokenHasNoCode | tokenNonConforming | tokenDecimalsUnavailable
  -- KarPassport
  | nonexistentToken | sourceUnanswerable | leaveChainRefused | cannotSelfVerify | invalidStatus
  | emptyField | zeroDisputeDeposit | sameUri | uriTooLong | tokenIdSpaceExhausted
  | gatewayAlreadySet | notBridgeGateway | notForeignToken | notHomeToken | tokenExists
  | passportBridgedAway | sourceAlreadyRegistered | sourceNotRegistered
  | tooManyEncumbranceSources
  -- KarPassportBridgeGateway
  | notRepresentationOwner | notLocked | uriExceedsBridgeCeiling | invalidReceiver
  -- KarProStaking and KarProPass
  | belowMinStake | alreadyVerifier | unbondPending | notVerifier | unbondNotReady | noUnbond
  | belowMinStakeFloor | onlyStaking | alreadyHoldsPass | doesNotHoldPass | soulbound | notHolder
  | invalidCategory
  -- the compiler, ReentrancyGuard, Ownable, SafeERC20, ERC-721, price feeds, the call stack
  | arithmetic | abiDecode | reentrantCall | notOwner | invalidOwner | erc20Failed | erc721
  | feedReverted | callDepth | nonPayable | calleeReverted
  deriving Repr, DecidableEq

/-- `a + b` on uint256. -/
def checkedAdd (a b : ℕ) : Except Error ℕ :=
  if a + b < 2 ^ 256 then .ok (a + b) else .error .arithmetic

/-- `a - b` on an unsigned type. -/
def checkedSub (a b : ℕ) : Except Error ℕ :=
  if b ≤ a then .ok (a - b) else .error .arithmetic

theorem checkedAdd_ok {a b c : ℕ} : checkedAdd a b = .ok c ↔ a + b < 2 ^ 256 ∧ c = a + b := by
  unfold checkedAdd
  by_cases h : a + b < 2 ^ 256
  · rw [if_pos h]
    exact ⟨fun e => ⟨h, (Except.ok.inj e).symm⟩, fun e => e.2 ▸ rfl⟩
  · rw [if_neg h]
    refine ⟨fun e => ?_, fun e => absurd e.1 h⟩
    cases e

theorem checkedSub_ok {a b c : ℕ} : checkedSub a b = .ok c ↔ b ≤ a ∧ c = a - b := by
  unfold checkedSub
  by_cases h : b ≤ a
  · rw [if_pos h]
    exact ⟨fun e => ⟨h, (Except.ok.inj e).symm⟩, fun e => e.2 ▸ rfl⟩
  · rw [if_neg h]
    refine ⟨fun e => ?_, fun e => absurd e.1 h⟩
    cases e

/-! ## §3. Mandate.sol. -/

inductive DenominationKind where
  | asset
  | fiat
  deriving Repr, DecidableEq

inductive CompensationForm where
  | margin
  | commission
  deriving Repr, DecidableEq

structure Denomination where
  kind : DenominationKind
  currencyCode : ℕ
  deriving Repr, DecidableEq

structure Compensation where
  form : CompensationForm
  commissionBps : ℕ
  deriving Repr, DecidableEq

structure MandateRecord where
  agent : Address
  expiry : ℕ
  asset : Address
  denomination : Denomination
  floor : ℕ
  compensation : Compensation
  active : Bool
  deriving Repr, DecidableEq

/-- The value of an unwritten or deleted `mandates` slot. -/
def MandateRecord.empty : MandateRecord :=
  { agent := .zero, expiry := 0, asset := .zero, denomination := ⟨.asset, 0⟩, floor := 0,
    compensation := ⟨.margin, 0⟩, active := false }

/-! ## §4. ConsignmentBase.sol. -/

inductive Phase where
  | none
  | offered
  | closed
  | returned
  deriving Repr, DecidableEq

inductive CloseReason where
  | returned
  | sold
  | externalConfirmed
  | holdReleased
  | recalled
  | reversalCompleted
  | reversalAbandoned
  deriving Repr, DecidableEq

structure Consignment where
  seller : Address
  agent : Address
  asset : Address
  denomination : Denomination
  floor : ℕ
  compensation : Compensation
  platformFeeBps : ℕ
  price : ℕ
  openedAt : ℕ
  deriving Repr, DecidableEq

def Consignment.empty : Consignment :=
  { seller := .zero, agent := .zero, asset := .zero, denomination := ⟨.asset, 0⟩, floor := 0,
    compensation := ⟨.margin, 0⟩, platformFeeBps := 0, price := 0, openedAt := 0 }

structure SplitResult where
  platform : ℕ
  ownerAmount : ℕ
  agentAmount : ℕ
  deriving Repr, DecidableEq

/-! ## §5. AscendingTypes.sol and BondedChallenge.sol. -/

structure AuctionTerms where
  duration : ℕ
  endsAt : ℕ
  extensionWindow : ℕ
  protectionWindow : ℕ
  abandonmentWindow : ℕ
  minIncrementBps : ℕ
  highestBidder : Address
  highestBid : ℕ
  deriving Repr, DecidableEq

def AuctionTerms.empty : AuctionTerms :=
  { duration := 0, endsAt := 0, extensionWindow := 0, protectionWindow := 0,
    abandonmentWindow := 0, minIncrementBps := 0, highestBidder := .zero, highestBid := 0 }

structure Hold where
  buyer : Address
  gross : ℕ
  protectionEndsAt : ℕ
  frozenRemaining : ℕ
  reversalPending : Bool
  abandonmentDeadline : ℕ
  abandonmentWindow : ℕ
  deriving Repr, DecidableEq

def Hold.empty : Hold :=
  { buyer := .zero, gross := 0, protectionEndsAt := 0, frozenRemaining := 0,
    reversalPending := false, abandonmentDeadline := 0, abandonmentWindow := 0 }

inductive JudgeOutcome where
  | upheld
  | rejected
  deriving Repr, DecidableEq

structure Challenge where
  openedAt : ℕ
  windowDuration : ℕ
  challenger : Address
  bondAmount : ℕ
  deriving Repr, DecidableEq

def Challenge.empty : Challenge :=
  { openedAt := 0, windowDuration := 0, challenger := .zero, bondAmount := 0 }

/-! ## §6. Events. -/

inductive Event where
  | transfer (src dst : Address) (tokenId : TokenId)
  | mandateGranted (tokenId : TokenId) (owner agent : Address) (expiry : ℕ) (asset : Address)
      (denomination : Denomination) (floor : ℕ) (compensation : Compensation)
  | mandateRevoked (tokenId : TokenId) (owner priorAgent : Address)
  | consignmentFloorLowered (tokenId : TokenId) (newFloor : ℕ)
  | consignmentCommissionLowered (tokenId : TokenId) (newBps : ℕ)
  | recallRequested (tokenId : TokenId) (seller : Address) (requestedAt : ℕ)
  | paused (account : Address)
  | unpaused (account : Address)
  | guardianSet (previous current : Address)
  | consignmentOpened (tokenId : TokenId) (seller agent asset : Address)
      (denomination : Denomination) (floor : ℕ) (compensation : Compensation)
      (price platformFeeBps openedAt : ℕ)
  | consignmentPriceSet (tokenId : TokenId) (setter : Address) (newPrice : ℕ)
  | consignmentClosed (tokenId : TokenId) (reason : CloseReason)
  | consignmentSplitPaid (tokenId : TokenId) (asset ownerRecipient : Address) (ownerAmount : ℕ)
      (agentRecipient : Address) (agentAmount : ℕ) (platformRecipient : Address)
      (platformAmount : ℕ)
  | claimRecorded (account asset : Address) (amount : ℕ)
  | claimWithdrawn (account asset : Address) (amount : ℕ)
  | challengeOpened (subjectId : TokenId) (challenger : Address)
      (bondAmount windowDuration openedAt : ℕ)
  | challengeWithdrawn (subjectId : TokenId) (challenger : Address)
      (bondAmount windowDuration openedAt : ℕ)
  | challengeJudged (subjectId : TokenId) (challenger judge : Address) (outcome : JudgeOutcome)
      (bondRecipient : Address) (bondAmount windowDuration openedAt : ℕ)
  | challengeConcluded (subjectId : TokenId) (challenger bondRecipient : Address)
      (bondAmount windowDuration openedAt : ℕ)
  | auctionRulesSet (challengeBond : ℕ)
  | paymentTokenApproved (token : Address)
  | paymentTokenRevoked (token : Address)
  | ascendingTermsSnapshotted (tokenId : TokenId)
      (duration extensionWindow protectionWindow abandonmentWindow minIncrementBps reserve : ℕ)
  | bidPlaced (tokenId : TokenId) (bidder : Address) (amount endsAt : ℕ)
  | bidRefunded (tokenId : TokenId) (bidder asset : Address) (amount : ℕ)
  | settled (tokenId : TokenId) (buyer : Address) (gross protectionEndsAt : ℕ)
  | receiptConfirmed (tokenId : TokenId) (buyer : Address)
  | fundsReleased (tokenId : TokenId) (buyer : Address)
  | reversalStarted (tokenId : TokenId) (buyer : Address) (abandonmentDeadline : ℕ)
  | reversalCompleted (tokenId : TokenId) (buyer : Address)
  | reversalAbandoned (tokenId : TokenId) (buyer : Address)
  | bought (tokenId : TokenId) (buyer asset : Address) (amount : ℕ)
  | paymentTokenAdmitted (token feed : Address) (decimals stalenessTolerance : ℕ)
  | currencyFeedSet (currencyCode : ℕ) (feed : Address) (stalenessTolerance : ℕ)
  | nativeUsdStalenessToleranceSet (previous current : ℕ)
  | settlementNoteSet (tokenId : TokenId) (setter : Address)
  | externalPaymentConfirmed (tokenId : TokenId) (buyer confirmer : Address)

end Kargain.Evm
