/-
  Kargain.Svm.Types — addresses, account layouts and errors.

  An address derived by a program from seeds is that program with those
  seeds: two derivations give one address only when program and seeds
  agree.  The zero key is the system program's.

  Account data is one of the layouts the programs read.  A layout is
  known by its length, and no two lengths agree, so bytes written as one
  record never decode as another; `other` is whatever decodes as none,
  with the word at the amount offset of a token account.  Fields the
  programs never read (discriminators outside the answer accounts, bumps)
  are left out.  Bytes that stand for an ordinal are kept as numbers, as
  the records keep them.
-/
import Mathlib
import Kargain.Base.Accounts
import Kargain.Base.Runs

namespace Kargain.Svm

open Kargain.Accounts

/-! ## §1. Addresses. -/

abbrev TokenId := ℕ

/-- Seeds of the accounts the programs keep their records in. -/
inductive Seed
  | config
  | passportBind
  | consignment (t : TokenId)
  | mandate (t : TokenId)
  | recall (t : TokenId)
  | settlementNote (t : TokenId)
  | auction (t : TokenId)
  | hold (t : TokenId)
  | challenge (t : TokenId)
  | answer (seedPrefix : List ℕ) (t : TokenId) (intent : ℕ)
  | asset (t : TokenId)
  | state (t : TokenId)
  | record (t : TokenId) (index : ℕ)
  | freeze
  | peer (eid : ℕ)
  | clear (srcEid sender nonce : ℕ)
deriving DecidableEq

inductive Pubkey
  | system
  | splToken
  | splToken2022
  | mplCore
  | program (n : ℕ)
  | key (n : ℕ)
  | pda (program : Pubkey) (seed : Seed)
  | custody (program : Pubkey)
  | escrow (program : Pubkey) (t : TokenId)
  | claim (program recipient mint : Pubkey)
  | claimAta (program recipient mint : Pubkey)
  | paymentToken (program mint : Pubkey)
  | stake (program wallet : Pubkey)
deriving DecidableEq

instance : Inhabited Pubkey := ⟨.system⟩

/-- `[0u8; 32]`. -/
abbrev Pubkey.zero : Pubkey := .system

def Pubkey.isRecord : Pubkey → Bool
  | .pda _ _ => true
  | _ => false

/-- Is the address derived by `program`?  Nobody else signs for it. -/
def Pubkey.derivedBy (k program : Pubkey) : Bool :=
  match k with
  | .pda q _ | .custody q | .escrow q _ | .claim q _ _ | .claimAta q _ _ | .paymentToken q _
  | .stake q _ => q = program
  | _ => false

/-! ## §2. Records of the commerce programs. -/

def u64Max : ℕ := 2 ^ 64 - 1

/-- `u64::saturating_add`. -/
def saturatingAdd (a b : ℕ) : ℕ := min (a + b) u64Max

/-- `bytes32("USD")`, right-padded. -/
def currencyUsd : ℕ := 0x555344 * 2 ^ 232

namespace Phase
def none : ℕ := 0
def offered : ℕ := 1
def closed : ℕ := 2
def returned : ℕ := 3
end Phase

namespace DenominationKind
def asset : ℕ := 0
def fiat : ℕ := 1
end DenominationKind

namespace CompensationForm
def margin : ℕ := 0
def commission : ℕ := 1
end CompensationForm

structure Denomination where
  kind : ℕ
  currencyCode : ℕ
deriving DecidableEq, Inhabited

structure Compensation where
  form : ℕ
  commissionBps : ℕ
deriving DecidableEq, Inhabited

structure CommerceConfig where
  authority : Pubkey
  platformRecipient : Pubkey
  platformFeeBps : ℕ
  guardian : Pubkey
  paused : Bool
deriving DecidableEq, Inhabited

structure ConsignmentRecord where
  tokenId : TokenId
  seller : Pubkey
  agent : Pubkey
  asset : Pubkey
  denomination : Denomination
  floor : ℕ
  compensation : Compensation
  platformFeeBps : ℕ
  price : ℕ
  openedAt : ℕ
  phase : ℕ
  committedNotOffered : Bool
deriving DecidableEq, Inhabited

structure MandateRecord where
  tokenId : TokenId
  agent : Pubkey
  expiry : ℕ
  asset : Pubkey
  denomination : Denomination
  floor : ℕ
  compensation : Compensation
  active : Bool
deriving DecidableEq, Inhabited

structure RecallRecord where
  tokenId : TokenId
  requestedAt : ℕ
deriving DecidableEq, Inhabited

structure SettlementNoteRecord where
  tokenId : TokenId
  noteLen : ℕ
  note : List ℕ
deriving DecidableEq, Inhabited

structure PassportBinding where
  passportProgram : Pubkey
deriving DecidableEq, Inhabited

structure AscendingConfig where
  authority : Pubkey
  platformRecipient : Pubkey
  platformFeeBps : ℕ
  guardian : Pubkey
  paused : Bool
  stakingProgram : Pubkey
  forfeitRecipient : Pubkey
  challengeBond : ℕ
  challengeWindow : ℕ
  challengeConfigured : Bool
deriving DecidableEq, Inhabited

structure AuctionTermsRecord where
  tokenId : TokenId
  duration : ℕ
  endsAt : ℕ
  extensionWindow : ℕ
  protectionWindow : ℕ
  abandonmentWindow : ℕ
  minIncrementBps : ℕ
  highestBidder : Pubkey
  highestBid : ℕ
deriving DecidableEq, Inhabited

structure HoldRecord where
  tokenId : TokenId
  buyer : Pubkey
  gross : ℕ
  protectionEndsAt : ℕ
  frozenRemaining : ℕ
  reversalPending : Bool
  abandonmentDeadline : ℕ
  abandonmentWindow : ℕ
deriving DecidableEq, Inhabited

structure ChallengeAccount where
  subjectId : TokenId
  openedAt : ℕ
  windowDuration : ℕ
  challenger : Pubkey
  bondAmount : ℕ
deriving DecidableEq, Inhabited

/-- `kar-ascending`'s payment token record. -/
structure PaymentTokenRecord where
  mint : Pubkey
  enabled : Bool
  decimals : ℕ
deriving DecidableEq, Inhabited

/-- `kar-fixed-price`'s payment token record, with the pinned price feed. -/
structure PricedTokenRecord where
  mint : Pubkey
  enabled : Bool
  decimals : ℕ
  priceProgram : Pubkey
  feedId : ℕ
  stalenessTolerance : ℕ
  maxConfidenceBps : ℕ
deriving DecidableEq, Inhabited

structure ClaimAccount where
  recipient : Pubkey
  mint : Pubkey
  amount : ℕ
deriving DecidableEq, Inhabited

structure EncumbranceAnswer where
  tokenId : TokenId
  intent : ℕ
  allowed : Bool
  funder : Pubkey
deriving DecidableEq, Inhabited

/-! ## §3. Records of other programs. -/

structure EncumbranceSourceEntry where
  programId : Pubkey
  seedPrefix : List ℕ
deriving DecidableEq, Inhabited

structure PassportConfig where
  authority : Pubkey
  tokenNamespace : ℕ
  disputeDeposit : ℕ
  stakingProgram : Pubkey
  bridgeGateway : Pubkey
  forfeitRecipient : Pubkey
  nextTokenId : TokenId
  encumbranceSources : List EncumbranceSourceEntry
deriving DecidableEq, Inhabited

inductive Status
  | unverified
  | verified
  | disputed
deriving DecidableEq, Inhabited

structure PassportState where
  tokenId : TokenId
  status : Status
  verifier : Pubkey
  verifiedAt : ℕ
  custodyLocked : Bool
  burned : Bool
  recordCount : ℕ
deriving DecidableEq, Inhabited

/-- A string is its Unicode scalars. -/
abbrev Text := List Char

/-- `str::len`: the bytes of the UTF-8 encoding. -/
def Text.byteLen (s : Text) : ℕ := (s.map Char.utf8Size).sum

structure PassportRecord where
  tokenId : TokenId
  index : ℕ
  timestamp : ℕ
  author : Pubkey
  recordType : Text
  description : Text
  evidenceCid : Text
deriving DecidableEq, Inhabited

structure GatewayConfig where
  authority : Pubkey
  endpointProgram : Pubkey
  passportProgram : Pubkey
  tokenNamespace : ℕ
deriving DecidableEq, Inhabited

structure PeerConfig where
  peerAddress : ℕ
deriving DecidableEq, Inhabited

/-- A live Core asset: its owner, its URI and who may update it, the permanent freeze and
    who holds it, and the address that may transfer the asset for the owner. -/
structure CoreAsset where
  owner : Pubkey
  uri : Text
  updateAuthority : Pubkey
  frozen : Bool
  freezeAuthority : Option Pubkey
  transferDelegate : Option Pubkey
deriving DecidableEq, Inhabited

structure StakeAccount where
  wallet : Pubkey
  active : Bool
deriving DecidableEq, Inhabited

inductive TokenAccountState
  | uninitialized
  | initialized
  | frozen
deriving DecidableEq, Inhabited

structure TokenAccount where
  mint : Pubkey
  authority : Pubkey
  amount : ℕ
  state : TokenAccountState
deriving DecidableEq, Inhabited

/-- What the admission scan of a mint's bytes comes to. -/
structure MintAccount where
  conforming : Bool
  transferFeeExtension : Bool
  permanentDelegate : Option Pubkey
  decimals : ℕ
  initialized : Bool
deriving DecidableEq, Inhabited

structure PriceUpdate where
  feedId : ℕ
  price : ℤ
  conf : ℕ
  expo : ℤ
  publishTime : ℤ
deriving DecidableEq, Inhabited

/-! ## §4. Account data. -/

/-- `byte` is a single byte: the marker of an escrow account, the tombstone of a burned
    asset. -/
inductive Data
  | empty
  | other (word : Option ℕ)
  | commerceConfig (r : CommerceConfig)
  | ascendingConfig (r : AscendingConfig)
  | consignment (r : ConsignmentRecord)
  | mandate (r : MandateRecord)
  | recall (r : RecallRecord)
  | settlementNote (r : SettlementNoteRecord)
  | passportBinding (r : PassportBinding)
  | auction (r : AuctionTermsRecord)
  | hold (r : HoldRecord)
  | challenge (r : ChallengeAccount)
  | paymentToken (r : PaymentTokenRecord)
  | pricedToken (r : PricedTokenRecord)
  | claim (r : ClaimAccount)
  | answer (r : EncumbranceAnswer)
  | byte
  | passportConfig (r : PassportConfig)
  | passportState (r : PassportState)
  | passportRecord (r : PassportRecord)
  | gatewayConfig (r : GatewayConfig)
  | peerConfig (r : PeerConfig)
  | coreAsset (r : CoreAsset)
  | stake (r : StakeAccount)
  | token (r : TokenAccount)
  | mint (r : MintAccount)
  | priceUpdate (r : PriceUpdate)
deriving DecidableEq

/-- Zeroed bytes decode as the default record of their layout. -/
def Data.zeroed : Data → Data
  | .empty => .empty
  | .other word => .other (word.map fun _ => 0)
  | .commerceConfig _ => .commerceConfig default
  | .ascendingConfig _ => .ascendingConfig default
  | .consignment _ => .consignment default
  | .mandate _ => .mandate default
  | .recall _ => .recall default
  | .settlementNote _ => .settlementNote default
  | .passportBinding _ => .other none
  | .auction _ => .auction default
  | .hold _ => .hold default
  | .challenge _ => .challenge default
  | .paymentToken _ => .paymentToken default
  | .pricedToken _ => .pricedToken default
  | .claim _ => .claim default
  | .answer _ => .other (some 0)
  | .byte => .byte
  | .passportConfig _ => .other (some 0)
  | .passportState _ => .passportState default
  | .passportRecord _ => .other (some 0)
  | .gatewayConfig _ => .other (some 0)
  | .peerConfig _ => .peerConfig default
  | .coreAsset _ => .other (some 0)
  | .stake _ => .other (some 0)
  | .token _ => .token default
  | .mint _ => .mint default
  | .priceUpdate _ => .other (some 0)

instance : AccountData Data := ⟨.empty, Data.zeroed⟩

instance : Record Data CommerceConfig where
  toData := .commerceConfig
  ofData | .commerceConfig r => some r | _ => none
  ofData_eq {d r} := by cases d <;> simp

instance : Record Data AscendingConfig where
  toData := .ascendingConfig
  ofData | .ascendingConfig r => some r | _ => none
  ofData_eq {d r} := by cases d <;> simp

instance : Record Data ConsignmentRecord where
  toData := .consignment
  ofData | .consignment r => some r | _ => none
  ofData_eq {d r} := by cases d <;> simp

instance : Record Data MandateRecord where
  toData := .mandate
  ofData | .mandate r => some r | _ => none
  ofData_eq {d r} := by cases d <;> simp

instance : Record Data RecallRecord where
  toData := .recall
  ofData | .recall r => some r | _ => none
  ofData_eq {d r} := by cases d <;> simp

instance : Record Data SettlementNoteRecord where
  toData := .settlementNote
  ofData | .settlementNote r => some r | _ => none
  ofData_eq {d r} := by cases d <;> simp

instance : Record Data PassportBinding where
  toData := .passportBinding
  ofData | .passportBinding r => some r | _ => none
  ofData_eq {d r} := by cases d <;> simp

instance : Record Data AuctionTermsRecord where
  toData := .auction
  ofData | .auction r => some r | _ => none
  ofData_eq {d r} := by cases d <;> simp

instance : Record Data HoldRecord where
  toData := .hold
  ofData | .hold r => some r | _ => none
  ofData_eq {d r} := by cases d <;> simp

instance : Record Data ChallengeAccount where
  toData := .challenge
  ofData | .challenge r => some r | _ => none
  ofData_eq {d r} := by cases d <;> simp

instance : Record Data PaymentTokenRecord where
  toData := .paymentToken
  ofData | .paymentToken r => some r | _ => none
  ofData_eq {d r} := by cases d <;> simp

instance : Record Data PricedTokenRecord where
  toData := .pricedToken
  ofData | .pricedToken r => some r | _ => none
  ofData_eq {d r} := by cases d <;> simp

instance : Record Data ClaimAccount where
  toData := .claim
  ofData | .claim r => some r | _ => none
  ofData_eq {d r} := by cases d <;> simp

instance : Record Data EncumbranceAnswer where
  toData := .answer
  ofData | .answer r => some r | _ => none
  ofData_eq {d r} := by cases d <;> simp

instance : Record Data PassportConfig where
  toData := .passportConfig
  ofData | .passportConfig r => some r | _ => none
  ofData_eq {d r} := by cases d <;> simp

instance : Record Data PassportState where
  toData := .passportState
  ofData | .passportState r => some r | _ => none
  ofData_eq {d r} := by cases d <;> simp

instance : Record Data PassportRecord where
  toData := .passportRecord
  ofData | .passportRecord r => some r | _ => none
  ofData_eq {d r} := by cases d <;> simp

instance : Record Data GatewayConfig where
  toData := .gatewayConfig
  ofData | .gatewayConfig r => some r | _ => none
  ofData_eq {d r} := by cases d <;> simp

instance : Record Data PeerConfig where
  toData := .peerConfig
  ofData | .peerConfig r => some r | _ => none
  ofData_eq {d r} := by cases d <;> simp

instance : Record Data CoreAsset where
  toData := .coreAsset
  ofData | .coreAsset r => some r | _ => none
  ofData_eq {d r} := by cases d <;> simp

instance : Record Data StakeAccount where
  toData := .stake
  ofData | .stake r => some r | _ => none
  ofData_eq {d r} := by cases d <;> simp

instance : Record Data TokenAccount where
  toData := .token
  ofData | .token r => some r | _ => none
  ofData_eq {d r} := by cases d <;> simp

instance : Record Data MintAccount where
  toData := .mint
  ofData | .mint r => some r | _ => none
  ofData_eq {d r} := by cases d <;> simp

instance : Record Data PriceUpdate where
  toData := .priceUpdate
  ofData | .priceUpdate r => some r | _ => none
  ofData_eq {d r} := by cases d <;> simp

/-! ## §5. Errors. -/

inductive KargainError
  | notOwner
  | contractPaused
  | notGuardian
  | notGuardianOrOwner
  | zeroAddress
  | feeTooHigh
  | noMandate
  | mandateExpired
  | denominationMismatch
  | fiatDenominationRefused
  | invalidStatus
  | belowFloor
  | notOffered
  | notConsignmentSeller
  | notConsignmentAgent
  | notConsignmentRunner
  | notSellerOrAgent
  | notPassportOwner
  | notPassportHolder
  | noLiveConsignment
  | liveConsignment
  | cannotRaiseFloor
  | notCommissionForm
  | cannotRaiseCommission
  | notTransferDelegate
  | notOfferedAgented
  | returnAlreadyRequested
  | returnNotRequested
  | returnCooldownPending
  | notDirectConsignment
  | ascendingOpenPath
  | termsFixed
  | harnessInstructionRetired
  | notLiveCoreAsset
  | assetFrozen
  | passportProgramUnbound
  | wrongAnswerFunder
  | invalidEncumbranceSeed
  | invalidEncumbranceIntent
  | modeNotEncumbranceSource
  | sourceUnanswerable
  | nonexistentToken
  | passportNotVerified
  | openConsignmentRefused
  | notActiveVerifier
  | badConfig
  | badReserve
  | badDuration
  | protectionOutOfBounds
  | zeroChallengeWindow
  | settlementPending
  | bidFromSeller
  | bidFromAgent
  | bidTooLow
  | auctionEnded
  | auctionNotEnded
  | notBinding
  | noHold
  | notHoldBuyer
  | holdNotReady
  | disputeActive
  | reversalPending
  | noReversalPending
  | abandonmentNotReady
  | protectionElapsed
  | challengeNotConfigured
  | notEligibleChallenger
  | wrongValue
  | noActiveDispute
  | notDisputeOpener
  | disputeWindowElapsed
  | disputeWindowActive
  | cannotResolveOwnDispute
  | notQualifiedJudge
  | cannotRouteBondToJudge
  | transferFailed
  | arithmeticOverflow
  | missingAgentRecipient
  | wrongPlatformRecipient
  | wrongSellerRecipient
  | wrongAgentRecipient
  | noClaim
  | shortDelivery
  | tokenHasNoCode
  | tokenNonConforming
  | tokenDecimalsUnavailable
  | transferFeeExtensionForbidden
  | paymentTokenNotSupported
  | paymentTokenFeedRequired
  | currencyNotAvailableOnChain
  | badOracleAnswer
  | invalidFeed
  | stalePrice
  | confidenceTooWide
  | stalenessWithoutFeed
  | zeroFeedStaleness
  | feedStalenessOutOfBounds
  | cannotClearPaymentTokenFeed
  | emptySettlementNote
  | zeroDisputeDeposit
  | tooManyEncumbranceSources
  | sourceAlreadyRegistered
  | sourceNotRegistered
  | encumbranceConfigGrowthTooLarge
  | gatewayAlreadySet
  | bridgeGatewayUnbound
  | notBridgeGateway
  | invalidReceiver
  | tokenIdSpaceExhausted
  | tokenExists
  | notHomeToken
  | notForeignToken
  | notRepresentationOwner
  | passportBridgedAway
  | cannotSelfVerify
  | emptyField
  | sameUri
  | uriTooLong
  | uriExceedsBridgeCeiling
  | leaveChainRefused
  | notLocked
  | composeRequired
  | composeUndecodable
deriving DecidableEq

abbrev Error := ProgramError KargainError

abbrev Ledger := Accounts.Ledger Pubkey Data

abbrev Call := Accounts.Call Pubkey

abbrev Exec := Accounts.Exec Pubkey Data

/-- `into_pe`: a program's own error as an instruction error. -/
instance : Coe KargainError Error := ⟨.custom⟩

end Kargain.Svm
