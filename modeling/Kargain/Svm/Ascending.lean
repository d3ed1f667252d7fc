/-
  Kargain.Svm.Ascending — programs/kar-ascending.

  A verifier opens a lot with a reserve; the first bid commits it, every
  higher bid pays the last one back, and after the end anybody settles:
  the passport goes to the highest bidder and the bid is held.  The hold
  ends by the buyer's confirmation, by time, by a challenge, or by a
  reversal that gives passport and money back.  Five of its exits share
  one payout, which finds its accounts by position.

  Accounts come in the order of the source; an account a handler never
  checks is taken as it comes.  The retired harness instructions are one
  instruction here.  Logs are left out.
-/
import Kargain.Svm.BondedChallenge
import Kargain.Svm.Modes

namespace Kargain.Svm

open Kargain.Accounts

namespace Ascending

def programId : Pubkey := .program 1

abbrev auctionPda (t : TokenId) : Pubkey := .pda programId (.auction t)

abbrev holdPda (t : TokenId) : Pubkey := .pda programId (.hold t)

abbrev paymentTokenPda (mint : Pubkey) : Pubkey := .paymentToken programId mint

abbrev escrowPda (t : TokenId) : Pubkey := .escrow programId t

/-! ## §1. Constants. -/

def minDuration : ℕ := 3 * 24 * 60 * 60
def maxDuration : ℕ := 30 * 24 * 60 * 60
def extensionWindow : ℕ := 900
def minIncrementBps : ℕ := 300
def minProtectionWindow : ℕ := 7 * 24 * 60 * 60
def maxProtectionWindow : ℕ := 45 * 24 * 60 * 60
def abandonmentWindow : ℕ := 30 * 24 * 60 * 60

def ascendingConfigSpace : ℕ := 8 + 32 + 32 + 2 + 32 + 1 + 1 + 32 + 32 + 8 + 8 + 1 + 1
def auctionSpace : ℕ := 8 + 32 + 8 * 5 + 2 + 32 + 8 + 1
def holdSpace : ℕ := 8 + 32 + 32 + 8 + 8 + 8 + 1 + 8 + 8 + 1
def paymentTokenSpace : ℕ := 8 + 32 + 1 + 1 + 1
def challengeSpace : ℕ := 8 + 32 + 8 + 8 + 32 + 8 + 1
def escrowSpace : ℕ := 1

end Ascending

/-! ## §2. Records. -/

def AscendingConfig.challengeConfig (c : AscendingConfig) : ChallengeConfig :=
  ⟨c.forfeitRecipient, c.challengeWindow, c.challengeConfigured⟩

def HoldRecord.isActive (h : HoldRecord) : Bool := h.buyer ≠ .zero

/-- `HoldRecord::clear`: the token stays. -/
def HoldRecord.cleared (h : HoldRecord) : HoldRecord :=
  ⟨h.tokenId, .zero, 0, 0, 0, false, 0, 0⟩

@[simp] theorem HoldRecord.cleared_isActive (h : HoldRecord) : h.cleared.isActive = false := rfl

namespace Ascending

/-- `load_asc_config`: any account whose bytes decode. -/
def loadAscConfig (L : Ledger) (config : Pubkey) : Except Error AscendingConfig := load L config

/-- `require_payment_token_enabled`. -/
def requirePaymentTokenEnabled (L : Ledger) (assetMint : Pubkey) (paymentTok : Option Pubkey) :
    Except Error Unit :=
  if assetMint = .zero then .ok ()
  else do
    let info ← orRevert paymentTok (.custom .paymentTokenNotSupported)
    require (info = paymentTokenPda assetMint) .invalidSeeds
    revertIf ((L info).data = .empty) (.custom .paymentTokenNotSupported)
    let record : PaymentTokenRecord ← load L info
    require (record.enabled = true ∧ record.mint = assetMint) (.custom .paymentTokenNotSupported)

def requireAuctionOpenParams (reserve duration protectionWindow : ℕ) : Except Error Unit := do
  revertIf (reserve = 0) (.custom .badReserve)
  revertIf (duration < minDuration ∨ maxDuration < duration) (.custom .badDuration)
  revertIf (protectionWindow < minProtectionWindow ∨ maxProtectionWindow < protectionWindow)
    (.custom .protectionOutOfBounds)

/-- `require_auction_rules_bond`: the bounds on the constants hold. -/
def requireAuctionRulesBond (challengeBond : ℕ) : Except Error Unit :=
  revertIf (challengeBond = 0) (.custom .badConfig)

/-- `is_binding`. -/
def isBinding (c : ConsignmentRecord) (holdActive : Bool) : Bool :=
  c.phase = Phase.offered && c.committedNotOffered && !holdActive

/-- `hold_is_active`. -/
def holdIsActive (L : Ledger) (hold : Pubkey) : Except Error Bool :=
  if (L hold).data = .empty then .ok false
  else do
    let h : HoldRecord ← load L hold
    pure h.isActive

/-- `is_challenge_active`: whatever account is handed in. -/
def isChallengeActive (L : Ledger) (challenge : Pubkey) : Except Error Bool :=
  if (L challenge).data = .empty then .ok false
  else do
    let c : ChallengeAccount ← load L challenge
    pure c.isActive

def applyExtension (a : AuctionTermsRecord) (now : ℕ) : AuctionTermsRecord :=
  if a.endsAt = 0 then a
  else { a with endsAt := max a.endsAt (saturatingAdd now a.extensionWindow) }

/-! ## §3. Challenge hooks. -/

/-- `AscHooks`. -/
structure AscHooks where
  hold : HoldRecord
  consignment : ConsignmentRecord
  challengeBond : ℕ
  judgeQualified : Bool
  now : ℕ
  /-- what is to be paid out after a rejection or an expiry -/
  pendingSplitGross : Option ℕ

def ascHooks : ChallengeHooks AscHooks where
  requiredBondAmount s := s.challengeBond
  requireChallengeActionAllowed _ _ := .ok ()
  isEligibleChallenger s _ challenger :=
    s.hold.isActive && challenger = s.hold.buyer && !s.hold.reversalPending
  isQualifiedJudge s _ _ := s.judgeQualified
  isExcludedJudge s _ _ judge :=
    judge = s.hold.buyer || judge = s.consignment.seller ||
      (s.consignment.agent ≠ .zero && judge = s.consignment.agent)
  onUpheld s _ _ _ := { s with hold := { s.hold with
    reversalPending := true, frozenRemaining := 0, protectionEndsAt := 0,
    abandonmentDeadline := saturatingAdd s.now s.hold.abandonmentWindow } }
  onRejected s _ _ _ := { s with
    pendingSplitGross := some s.hold.gross, hold := s.hold.cleared }
  onExpired s _ _ := { s with
    pendingSplitGross := some s.hold.gross, hold := s.hold.cleared }
  onWithdrawn s _ _ := { s with hold := { s.hold with
    frozenRemaining := 0, protectionEndsAt := saturatingAdd s.now s.hold.frozenRemaining } }

section Handlers

variable (P : Platform) (W : AmountOffset) (x : Call) (now : ℕ) (w : Exec)

/-! ## §4. Configuration. -/

def initConfig (platformFeeBps challengeBond challengeWindow : ℕ) (stakingProgram : Pubkey) :
    Except Error Exec := do
  let payer ← x.account 0
  let config ← x.account 1
  let authority ← x.account 2
  let platform ← x.account 3
  let guardian ← x.account 4
  let forfeit ← x.account 5
  let _system ← x.account 6
  require (x.isSigner payer ∧ x.isSigner authority) .missingRequiredSignature
  requireAuctionRulesBond challengeBond
  revertIf (challengeWindow = 0) (.custom .zeroChallengeWindow)
  revertIf (stakingProgram = .zero ∨ forfeit = .zero) (.custom .zeroAddress)
  revertIf (platform = .zero ∨ guardian = .zero) (.custom .zeroAddress)
  revertIf (platformFeeBps > bpsDenom) (.custom .feeTooHigh)
  require (config = configPda programId) .invalidSeeds
  require ((w.ledger config).data = .empty) .accountAlreadyInitialized
  let w ← createPda P programId x w payer config programId ascendingConfigSpace
    (.ascendingConfig default)
  w.store config (⟨authority, platform, platformFeeBps, guardian, false, stakingProgram, forfeit,
    challengeBond, challengeWindow, true⟩ : AscendingConfig)

def bindPassportProgram : Except Error Exec :=
  Svm.bindPassportProgram P programId x w fun config => do
    let cfg ← loadAscConfig w.ledger config
    pure cfg.authority

def pause : Except Error Exec := do
  let guardian ← x.account 0
  let config ← x.account 1
  require (x.isSigner guardian) .missingRequiredSignature
  require (config = configPda programId) .invalidSeeds
  let cfg ← loadAscConfig w.ledger config
  require (guardian = cfg.guardian) (.custom .notGuardian)
  w.store config { cfg with paused := true }

/-- A handler of the config's authority, with what it writes. -/
def amendConfig (amend : AscendingConfig → Except Error AscendingConfig) : Except Error Exec := do
  let authority ← x.account 0
  let config ← x.account 1
  let cfg ← loadAscConfig w.ledger config
  requireConfigAuthority programId x authority config cfg.authority
  let cfg ← amend cfg
  w.store config cfg

def unpause : Except Error Exec := amendConfig x w fun cfg => .ok { cfg with paused := false }

def setChallengeBond (challengeBond : ℕ) : Except Error Exec :=
  amendConfig x w fun cfg => do
    requireAuctionRulesBond challengeBond
    pure { cfg with challengeBond }

def setGuardian (newGuardian : Pubkey) : Except Error Exec :=
  amendConfig x w fun cfg => do
    revertIf (newGuardian = .zero) (.custom .zeroAddress)
    pure { cfg with guardian := newGuardian }

/-! ## §5. Payment tokens and mandates. -/

def approvePaymentToken : Except Error Exec := do
  let authority ← x.account 0
  let config ← x.account 1
  let mint ← x.account 2
  let paymentToken ← x.account 3
  let payer ← x.account 5
  require (x.isSigner payer) .missingRequiredSignature
  revertIf (mint = .zero) (.custom .zeroAddress)
  let cfg ← loadAscConfig w.ledger config
  requireConfigAuthority programId x authority config cfg.authority
  let decimals ← requireAdmittedSplMintAccount w.ledger mint
  require (paymentToken = paymentTokenPda mint) .invalidSeeds
  let w ← ensurePda P programId x w payer paymentToken programId paymentTokenSpace
    (.paymentToken default)
  w.store paymentToken (⟨mint, true, decimals⟩ : PaymentTokenRecord)

/-- `revoke_payment_token`: guardian or authority of the config handed in. -/
def revokePaymentToken (mint : Pubkey) : Except Error Exec := do
  let caller ← x.account 0
  let config ← x.account 1
  let paymentToken ← x.account 2
  require (x.isSigner caller) .missingRequiredSignature
  let cfg ← loadAscConfig w.ledger config
  require (caller = cfg.guardian ∨ caller = cfg.authority) (.custom .notGuardianOrOwner)
  require (paymentToken = paymentTokenPda mint) .invalidSeeds
  let record : PaymentTokenRecord ← load w.ledger paymentToken
  w.store paymentToken { record with enabled := false }

def grant (t : TokenId) (agent : Pubkey) (expiry : ℕ) (asset : Pubkey)
    (denomKind currencyCode floor form commissionBps : ℕ) : Except Error Exec :=
  Svm.grant P programId x w t agent expiry asset denomKind currencyCode floor form commissionBps

def revoke (t : TokenId) : Except Error Exec := Svm.revoke programId x w t

def withdrawClaim : Except Error Exec := withdrawSplClaim P programId x w

/-! ## §6. Opening. -/

def writeAuctionTerms (payer auction : Pubkey) (t : TokenId) (duration protectionWindow : ℕ) :
    Except Error Exec := do
  require (auction = auctionPda t) .invalidSeeds
  let w ← ensurePda P programId x w payer auction programId auctionSpace (.auction default)
  w.store auction (⟨t, duration, 0, extensionWindow, protectionWindow, abandonmentWindow,
    minIncrementBps, .zero, 0⟩ : AuctionTermsRecord)

/-- The accounts of an opening that come after the answers. -/
structure Opening extends Admitted where
  passportState : Pubkey
  consignment : Pubkey
  custody : Pubkey
  payer : Pubkey
  coreProgram : Pubkey
  auction : Pubkey

/-- The passport may be consigned, `runner` is an active verifier of the config's staking
    program, and the consignment account holds no live lot. -/
def admitOpening (i : ℕ) (t : TokenId) (cfg : AscendingConfig) (runner : Pubkey) :
    Except Error Opening := do
  let o ← mayOpen programId x w i t
  let passportState ← x.account o.next
  let consignment ← x.account (o.next + 1)
  let custody ← x.account (o.next + 2)
  let payer ← x.account (o.next + 4)
  let coreProgram ← x.account (o.next + 5)
  let stake ← x.account (o.next + 6)
  let stakingProgram ← x.account (o.next + 7)
  let auction ← x.account (o.next + 8)
  require (x.isSigner payer) .missingRequiredSignature
  require (stakingProgram = cfg.stakingProgram) .invalidAccountData
  proveActiveVerifier w.ledger stake runner stakingProgram
  requireNoLiveLot w.ledger consignment
  pure ⟨o, passportState, consignment, custody, payer, coreProgram, auction⟩

/-- The payment token account comes only with a mint; the rest moves up one place. -/
def paymentTokAt (i : ℕ) (assetMint : Pubkey) : Except Error (Option Pubkey × ℕ) :=
  if assetMint = .zero then .ok (none, i)
  else do
    let k ← x.account i
    pure (some k, i + 1)

def marginCompensation : Compensation := ⟨CompensationForm.margin, 0⟩

def openAscendingDirect (t : TokenId) (assetMint : Pubkey)
    (reserve duration protectionWindow : ℕ) : Except Error Exec := do
  let seller ← x.account 0
  let config ← x.account 1
  require (x.isSigner seller) .missingRequiredSignature
  let cfg ← loadAscConfig w.ledger config
  requireNotPaused cfg.paused
  let (paymentTok, i) ← paymentTokAt x 2 assetMint
  requirePaymentTokenEnabled w.ledger assetMint paymentTok
  let o ← admitOpening x w i t cfg seller
  let owner ← coreAssetOwner w.ledger o.asset
  require (owner = seller) (.custom .notPassportOwner)
  requireVerifiedPassportStatus o.passportProgram t w.ledger o.passportState
  requireAuctionOpenParams reserve duration protectionWindow
  let w ← ensureConsignmentAccount P programId x w o.payer o.consignment t
  let w ← transferOwnerToCustody P programId x w o.passportProgram t o.asset seller o.custody
    o.payer o.coreProgram
  let w ← w.store o.consignment (writeOpen t seller .zero assetMint assetDenom 0
    marginCompensation reserve cfg.platformFeeBps now)
  writeAuctionTerms P x w o.payer o.auction t duration protectionWindow

/-- `open_ascending_from_mandate`: the mandate is any account whose bytes decode. -/
def openAscendingFromMandate (t : TokenId) (reserve duration protectionWindow : ℕ) :
    Except Error Exec := do
  let agent ← x.account 0
  let config ← x.account 1
  let mandate ← x.account 2
  require (x.isSigner agent) .missingRequiredSignature
  let cfg ← loadAscConfig w.ledger config
  requireNotPaused cfg.paused
  let m : MandateRecord ← load w.ledger mandate
  requireMandateAllowsOpen m assetDenom now
  require (m.denomination.kind = DenominationKind.asset) (.custom .fiatDenominationRefused)
  require (m.agent = agent) (.custom .notConsignmentAgent)
  let (paymentTok, i) ← paymentTokAt x 3 m.asset
  requirePaymentTokenEnabled w.ledger m.asset paymentTok
  let o ← admitOpening x w i t cfg agent
  require (o.custody = .custody programId) .invalidSeeds
  requireTransferDelegate w.ledger o.asset o.custody
  requireVerifiedPassportStatus o.passportProgram t w.ledger o.passportState
  requireAuctionOpenParams reserve duration protectionWindow
  requireAgentedPriceMeetsFloor reserve m.floor m.compensation cfg.platformFeeBps
  let seller ← coreAssetOwner w.ledger o.asset
  let w ← ensureConsignmentAccount P programId x w o.payer o.consignment t
  let w ← transferDelegateToCustody P programId x w o.passportProgram t o.asset o.custody o.payer
    o.coreProgram
  let w ← w.store o.consignment (writeOpen t seller m.agent m.asset m.denomination m.floor
    m.compensation reserve cfg.platformFeeBps now)
  writeAuctionTerms P x w o.payer o.auction t duration protectionWindow

/-! ## §7. Bids. -/

/-- The least a bid must be over the one that stands. -/
def minNext (a : AuctionTermsRecord) : ℕ :=
  saturatingAdd a.highestBid (a.highestBid * a.minIncrementBps / bpsDenom % 2 ^ 64)

def requireBidHighEnough (a : AuctionTermsRecord) (reserve amount : ℕ) : Except Error Unit :=
  if a.highestBidder = .zero then revertIf (amount < reserve) (.custom .bidTooLow)
  else revertIf (amount < minNext a ∨ amount ≤ a.highestBid) (.custom .bidTooLow)

/-- Pull the bid into the escrow; a mint's comes with the accounts it is paid out by. -/
def pullBid (asset bidder escrow : Pubkey) (amount : ℕ) :
    Except Error (Exec × Option SplSource) :=
  if asset = .zero then do
    let w ← payNative programId x w bidder escrow amount
    pure (w, none)
  else do
    let (w, src) ← pullSpl P programId x w W 8 asset bidder escrow amount
    pure (w, some src)

/-- The first bid commits the lot. -/
def commitLot (consignment : Pubkey) (c : ConsignmentRecord) (a : AuctionTermsRecord) :
    Except Error Exec :=
  if a.highestBidder = .zero then do
    let c ← enterCommittedNotOffered c
    w.store consignment c
  else .ok w

/-- The auction with the bid in it. -/
def placeBid (a : AuctionTermsRecord) (bidder : Pubkey) (amount : ℕ) : AuctionTermsRecord :=
  let endsAt := if a.highestBidder = .zero then saturatingAdd now a.duration else a.endsAt
  applyExtension { a with endsAt, highestBidder := bidder, highestBid := amount } now

/-- Pay the last bid back to its bidder. -/
def refundBid (payer escrow prev : Pubkey) (amount : ℕ) (src : Option SplSource) :
    Except Error Exec :=
  if prev = .zero then .ok w
  else match src with
    | none => do
      let prevAccount ← x.account 8
      require (prevAccount = prev) .invalidAccountData
      payNativeFromPda w escrow prevAccount amount
    | some src => do
      let prevAccount ← x.account 12
      require (prevAccount = prev) .invalidAccountData
      paySplLegAt P programId x w src.tokenProgram payer src 13 prevAccount amount

/-- `bid`: the hold account is not checked. -/
def bid (t : TokenId) (amount : ℕ) : Except Error Exec := do
  let bidder ← x.account 0
  let config ← x.account 1
  let consignment ← x.account 2
  let auction ← x.account 3
  let hold ← x.account 4
  let escrow ← x.account 5
  let payer ← x.account 7
  require (x.isSigner bidder ∧ x.isSigner payer) .missingRequiredSignature
  let cfg ← loadAscConfig w.ledger config
  requireNotPaused cfg.paused
  let active ← holdIsActive w.ledger hold
  revertIf (active = true) (.custom .settlementPending)
  require (consignment = consignmentPda programId t) .invalidSeeds
  let c : ConsignmentRecord ← load w.ledger consignment
  require (c.isOfferedActionable = true ∨ isBinding c false = true) (.custom .notOffered)
  revertIf (bidder = c.seller) (.custom .bidFromSeller)
  revertIf (c.agent ≠ .zero ∧ bidder = c.agent) (.custom .bidFromAgent)
  require (auction = auctionPda t) .invalidSeeds
  let a : AuctionTermsRecord ← load w.ledger auction
  revertIf (a.endsAt ≠ 0 ∧ a.endsAt ≤ now) (.custom .auctionEnded)
  requireBidHighEnough a c.price amount
  require (escrow = escrowPda t) .invalidSeeds
  let w ← ensurePda P programId x w payer escrow programId escrowSpace .byte
  let (w, src) ← pullBid P W x w c.asset bidder escrow amount
  let w ← commitLot w consignment c a
  let w ← w.store auction (placeBid now a bidder amount)
  refundBid P x w payer escrow a.highestBidder a.highestBid src

/-! ## §8. Settlement. -/

/-- The token account whose balance a settlement must not change, with its balance. -/
def escrowBalance (asset : Pubkey) : Except Error (Option (Pubkey × ℕ)) :=
  if asset = .zero then .ok none
  else do
    let ata ← x.account 15
    let before ← splTokenAccountAmount W w.ledger ata
    pure (some (ata, before))

def requireEscrowKept (before : Option (Pubkey × ℕ)) : Except Error Unit :=
  match before with
  | none => .ok ()
  | some (ata, expected) => do
    let after ← splTokenAccountAmount W w.ledger ata
    require (after = expected) .invalidAccountData

/-- The hold a settlement writes. -/
def newHold (t : TokenId) (a : AuctionTermsRecord) : HoldRecord :=
  ⟨t, a.highestBidder, a.highestBid, saturatingAdd now a.protectionWindow, 0, false, 0,
    a.abandonmentWindow⟩

def settle (t : TokenId) : Except Error Exec := do
  let _caller ← x.account 0
  let consignment ← x.account 1
  let auction ← x.account 2
  let hold ← x.account 3
  let binding ← x.account 4
  let passportConfig ← x.account 5
  let asset ← x.account 6
  let custody ← x.account 7
  let buyer ← x.account 8
  let escrow ← x.account 9
  let payer ← x.account 11
  let coreProgram ← x.account 12
  let leave ← x.account 13
  let openAnswer ← x.account 14
  require (x.isSigner payer) .missingRequiredSignature
  require (consignment = consignmentPda programId t) .invalidSeeds
  let c : ConsignmentRecord ← load w.ledger consignment
  let active ← holdIsActive w.ledger hold
  revertIf (active = true) (.custom .settlementPending)
  require (isBinding c false = true) (.custom .notBinding)
  require (auction = auctionPda t) .invalidSeeds
  let a : AuctionTermsRecord ← load w.ledger auction
  revertIf (a.endsAt = 0) (.custom .notBinding)
  revertIf (now < a.endsAt) (.custom .auctionNotEnded)
  let lamports := (w.ledger escrow).lamports
  let before ← escrowBalance W x w c.asset
  require (buyer = a.highestBidder) .invalidAccountData
  require (hold = holdPda t) .invalidSeeds
  let w ← ensurePda P programId x w payer hold programId holdSpace (.hold default)
  let w ← w.store hold (newHold now t a)
  let passportProgram ← requireBoundPassportProgram programId w.ledger binding
  let (seedPrefix, _) ←
    encumbranceSeedPrefixForSource w.ledger passportConfig passportProgram programId
  let w ← transferCustodyToRecipient P programId x w passportProgram t asset custody buyer payer
    coreProgram
  let w ← openObligation P programId x w payer leave openAnswer seedPrefix t
  let w := closePda w auction payer
  require ((w.ledger escrow).lamports = lamports) .invalidAccountData
  requireEscrowKept W w before
  pure w

/-! ## §9. The payout the exits share. -/

/-- Where a caller's accounts stand. -/
structure PaySplitIdx where
  consignment : ℕ
  escrow : ℕ
  platform : ℕ
  seller : ℕ
  agent : ℕ
  system : ℕ
  payer : ℕ
  splStart : ℕ

/-- The token legs, their accounts from `splStart` on; nothing ties the token account to the
    escrow, nor the mint to the lot. -/
def paySplSplit (idx : PaySplitIdx) (payer escrow : Pubkey) (r : Recipients)
    (split : SplitResult) : Except Error Exec := do
  let escrowAta ← x.account idx.splStart
  let mint ← x.account (idx.splStart + 1)
  let tokenProgram ← x.account (idx.splStart + 2)
  paySplLegs P programId x w tokenProgram payer ⟨escrowAta, escrow, mint, tokenProgram⟩
    (idx.splStart + 3) r split

def paySplit (idx : PaySplitIdx) (asset payer escrow : Pubkey) (r : Recipients)
    (split : SplitResult) : Except Error Exec :=
  if asset = .zero then payNativeLegs w escrow r split
  else paySplSplit P x w idx payer escrow r split

/-- The escrow that signs for the token legs is the token's own; the one handed in only has to
    be it for the signature to be there. -/
def requireEscrowSigns (t : TokenId) (asset escrow : Pubkey) (split : SplitResult) :
    Except Error Unit :=
  require (asset = .zero ∨ split = ⟨0, 0, 0⟩ ∨ escrow = escrowPda t ∨ x.isSigner escrow)
    .missingRequiredSignature

/-- `pay_split_and_close`: neither consignment nor escrow is tied to the token. -/
def paySplitAndClose (idx : PaySplitIdx) (cfg : AscendingConfig) (t : TokenId) (gross : ℕ) :
    Except Error Exec := do
  let consignment ← x.account idx.consignment
  let escrow ← x.account idx.escrow
  let platform ← x.account idx.platform
  let seller ← x.account idx.seller
  let agent ← x.account idx.agent
  let _system ← x.account idx.system
  let payer ← x.account idx.payer
  let c : ConsignmentRecord ← load w.ledger consignment
  let split ← computeSplitForLot gross c
  verifyRecipients ⟨platform, seller, agent⟩ split ⟨cfg.platformRecipient, c.seller, c.agent⟩
  requireEscrowSigns x t c.asset escrow split
  let w ← paySplit P x w idx c.asset payer escrow ⟨platform, seller, agent⟩ split
  w.store consignment { closeLot c with price := 0, floor := 0 }

/-- `close_answers_from_binding`. -/
def closeAnswersFromBinding (binding passportConfig funder leave openAnswer : Pubkey)
    (t : TokenId) : Except Error Exec := do
  let passportProgram ← requireBoundPassportProgram programId w.ledger binding
  let (seedPrefix, _) ←
    encumbranceSeedPrefixForSource w.ledger passportConfig passportProgram programId
  closeObligation programId x w funder leave openAnswer seedPrefix t

/-! ## §10. The ways a hold ends. -/

/-- `confirm_receipt`: hold, challenge and consignment are not tied to the token. -/
def confirmReceipt (t : TokenId) : Except Error Exec := do
  let buyer ← x.account 0
  let config ← x.account 1
  let hold ← x.account 3
  let challenge ← x.account 4
  let payer ← x.account 10
  let binding ← x.account 11
  let passportConfig ← x.account 12
  let leave ← x.account 13
  let openAnswer ← x.account 14
  let funder ← x.account 15
  require (x.isSigner buyer ∧ x.isSigner payer) .missingRequiredSignature
  let cfg ← loadAscConfig w.ledger config
  let h : HoldRecord ← load w.ledger hold
  require (h.isActive = true) (.custom .noHold)
  require (buyer = h.buyer) (.custom .notHoldBuyer)
  let active ← isChallengeActive w.ledger challenge
  revertIf (active = true) (.custom .disputeActive)
  revertIf (h.reversalPending = true) (.custom .reversalPending)
  let w ← w.store hold h.cleared
  let w ← closeAnswersFromBinding x w binding passportConfig funder leave openAnswer t
  paySplitAndClose P x w ⟨2, 5, 6, 7, 8, 9, 10, 15⟩ cfg t h.gross

/-- `release_funds`: anybody calls it; hold, challenge and consignment are not tied to the
    token. -/
def releaseFunds (t : TokenId) : Except Error Exec := do
  let _caller ← x.account 0
  let config ← x.account 1
  let hold ← x.account 3
  let challenge ← x.account 4
  let payer ← x.account 10
  let binding ← x.account 11
  let passportConfig ← x.account 12
  let leave ← x.account 13
  let openAnswer ← x.account 14
  let funder ← x.account 15
  require (x.isSigner payer) .missingRequiredSignature
  let cfg ← loadAscConfig w.ledger config
  let h : HoldRecord ← load w.ledger hold
  require (h.isActive = true) (.custom .noHold)
  let active ← isChallengeActive w.ledger challenge
  revertIf (active = true) (.custom .disputeActive)
  revertIf (h.reversalPending = true) (.custom .reversalPending)
  revertIf (now < h.protectionEndsAt) (.custom .holdNotReady)
  let w ← w.store hold h.cleared
  let w ← closeAnswersFromBinding x w binding passportConfig funder leave openAnswer t
  paySplitAndClose P x w ⟨2, 5, 6, 7, 8, 9, 10, 15⟩ cfg t h.gross

/-- The bid goes back to the buyer; for a mint the accounts follow the answers. -/
def repayBuyer (t : TokenId) (asset payer escrow buyer : Pubkey) (gross : ℕ) :
    Except Error Exec :=
  if asset = .zero then payNativeFromPda w escrow buyer gross
  else do
    let buyerAta ← x.account 15
    let escrowAta ← x.account 16
    let mint ← x.account 17
    let tokenProgram ← x.account 18
    let claim ← x.account 19
    let claimAta ← x.account 20
    requireEscrowSigns x t asset escrow ⟨0, gross, 0⟩
    paySplLegSigned P programId x w tokenProgram payer ⟨escrowAta, escrow, mint, tokenProgram⟩
      buyer buyerAta claim claimAta gross

/-- `complete_reversal`: passport and money go back. -/
def completeReversal (t : TokenId) : Except Error Exec := do
  let buyer ← x.account 0
  let config ← x.account 1
  let consignment ← x.account 2
  let hold ← x.account 3
  let binding ← x.account 4
  let passportConfig ← x.account 5
  let asset ← x.account 6
  let seller ← x.account 7
  let escrow ← x.account 8
  let _system ← x.account 9
  let payer ← x.account 10
  let coreProgram ← x.account 11
  let leave ← x.account 12
  let openAnswer ← x.account 13
  let funder ← x.account 14
  require (x.isSigner buyer ∧ x.isSigner payer) .missingRequiredSignature
  let _cfg ← loadAscConfig w.ledger config
  let h : HoldRecord ← load w.ledger hold
  require (h.isActive = true) (.custom .noHold)
  require (h.reversalPending = true) (.custom .noReversalPending)
  require (buyer = h.buyer) (.custom .notHoldBuyer)
  let owner ← coreAssetOwner w.ledger asset
  require (owner = h.buyer) (.custom .notPassportHolder)
  let c : ConsignmentRecord ← load w.ledger consignment
  require (seller = c.seller) .invalidAccountData
  let w ← w.store hold h.cleared
  let passportProgram ← requireBoundPassportProgram programId w.ledger binding
  let (seedPrefix, _) ←
    encumbranceSeedPrefixForSource w.ledger passportConfig passportProgram programId
  let w ← transferOwnerToRecipient P programId x w passportProgram t asset buyer seller payer
    coreProgram
  let w ← closeObligation programId x w funder leave openAnswer seedPrefix t
  let w ← w.store consignment { terminateToOwner c with price := 0, floor := 0 }
  repayBuyer P x w t c.asset payer escrow buyer h.gross

/-- `abandon_reversal`: hold and consignment are not tied to the token. -/
def abandonReversal (t : TokenId) : Except Error Exec := do
  let _caller ← x.account 0
  let config ← x.account 1
  let hold ← x.account 3
  let payer ← x.account 9
  let binding ← x.account 10
  let passportConfig ← x.account 11
  let leave ← x.account 12
  let openAnswer ← x.account 13
  let funder ← x.account 14
  require (x.isSigner payer) .missingRequiredSignature
  let cfg ← loadAscConfig w.ledger config
  let h : HoldRecord ← load w.ledger hold
  require (h.isActive = true) (.custom .noHold)
  require (h.reversalPending = true) (.custom .noReversalPending)
  revertIf (now < h.abandonmentDeadline) (.custom .abandonmentNotReady)
  let w ← w.store hold h.cleared
  let w ← closeAnswersFromBinding x w binding passportConfig funder leave openAnswer t
  paySplitAndClose P x w ⟨2, 4, 5, 6, 7, 8, 9, 14⟩ cfg t h.gross

/-! ## §11. Challenges. -/

def freezeForChallenge (h : HoldRecord) : Except Error HoldRecord := do
  require (h.isActive = true) (.custom .noHold)
  revertIf (h.reversalPending = true) (.custom .reversalPending)
  revertIf (h.frozenRemaining ≠ 0) (.custom .disputeActive)
  revertIf (h.protectionEndsAt ≤ now) (.custom .protectionElapsed)
  pure { h with frozenRemaining := h.protectionEndsAt - now }

/-- The challenge account of an opening: a new one, or one whose challenge has ended. -/
def readyChallenge (payer challenge : Pubkey) : Except Error Exec :=
  if (w.ledger challenge).data = .empty then
    createPda P programId x w payer challenge programId challengeSpace (.challenge default)
  else do
    let existing : ChallengeAccount ← load w.ledger challenge
    revertIf (existing.isActive = true) (.custom .disputeActive)
    pure w

/-- `open_challenge_ix`: only the challenge account is the token's own. -/
def openChallengeIx (t : TokenId) : Except Error Exec := do
  let challenger ← x.account 0
  let config ← x.account 1
  let consignment ← x.account 2
  let hold ← x.account 3
  let challenge ← x.account 4
  let _system ← x.account 5
  let payer ← x.account 6
  require (x.isSigner challenger ∧ x.isSigner payer) .missingRequiredSignature
  let cfg ← loadAscConfig w.ledger config
  let c : ConsignmentRecord ← load w.ledger consignment
  let h : HoldRecord ← load w.ledger hold
  let h ← freezeForChallenge now h
  require (challenge = challengePda programId t) .invalidSeeds
  let w ← readyChallenge P x w payer challenge
  let hooks : AscHooks := ⟨h, c, cfg.challengeBond, false, now, none⟩
  let account ← openChallenge ascHooks hooks cfg.challengeConfig t challenger cfg.challengeBond now
  let w ← payNative programId x w challenger challenge cfg.challengeBond
  let w ← w.store challenge account
  w.store hold h

/-- `withdraw_challenge_ix`: none of the accounts is tied to the token. -/
def withdrawChallengeIx : Except Error Exec := do
  let challenger ← x.account 0
  let config ← x.account 1
  let consignment ← x.account 2
  let hold ← x.account 3
  let challenge ← x.account 4
  require (x.isSigner challenger) .missingRequiredSignature
  let cfg ← loadAscConfig w.ledger config
  let c : ConsignmentRecord ← load w.ledger consignment
  let h : HoldRecord ← load w.ledger hold
  let account : ChallengeAccount ← load w.ledger challenge
  let hooks : AscHooks := ⟨h, c, cfg.challengeBond, false, now, none⟩
  let (account, hooks, disposition) ← withdrawChallenge ascHooks hooks account challenger now
  let w ← transferBondLamports w challenge challenger disposition.amount
  let w ← w.store challenge account
  w.store hold hooks.hold

/-- What judgment and conclusion share after the challenge is decided: the bond is paid, both
    records are written, and a hold that was let go is paid out. -/
def settleChallenge (idx : PaySplitIdx) (cfg : AscendingConfig) (t : TokenId)
    (hold challenge bondRecipient binding passportConfig funder leave openAnswer : Pubkey)
    (ended : ChallengeAccount × AscHooks × BondDisposition) : Except Error Exec := do
  let (account, hooks, disposition) := ended
  require (bondRecipient = disposition.recipient) .invalidAccountData
  let w ← transferBondLamports w challenge bondRecipient disposition.amount
  let w ← w.store challenge account
  let w ← w.store hold hooks.hold
  match hooks.pendingSplitGross with
  | none => pure w
  | some gross => do
    let w ← closeAnswersFromBinding x w binding passportConfig funder leave openAnswer t
    paySplitAndClose P x w idx cfg t gross

def judgeOutcome : ℕ → Except Error JudgeOutcome
  | 0 => .ok .upheld
  | 1 => .ok .rejected
  | _ => .error .invalidInstructionData

/-- `judge_challenge_ix`: none of the accounts is tied to the token. -/
def judgeChallengeIx (t : TokenId) (outcome : ℕ) : Except Error Exec := do
  let judge ← x.account 0
  let config ← x.account 1
  let consignment ← x.account 2
  let hold ← x.account 3
  let challenge ← x.account 4
  let bondRecipient ← x.account 5
  let stake ← x.account 6
  let stakingProgram ← x.account 7
  let payer ← x.account 13
  let binding ← x.account 14
  let passportConfig ← x.account 15
  let leave ← x.account 16
  let openAnswer ← x.account 17
  let funder ← x.account 18
  require (x.isSigner judge ∧ x.isSigner payer) .missingRequiredSignature
  let outcome ← judgeOutcome outcome
  let cfg ← loadAscConfig w.ledger config
  require (stakingProgram = cfg.stakingProgram) .invalidAccountData
  proveActiveVerifier w.ledger stake judge stakingProgram
  let c : ConsignmentRecord ← load w.ledger consignment
  let h : HoldRecord ← load w.ledger hold
  let account : ChallengeAccount ← load w.ledger challenge
  let hooks : AscHooks := ⟨h, c, cfg.challengeBond, true, now, none⟩
  let ended ← judgeChallenge ascHooks hooks cfg.challengeConfig account judge outcome now
  settleChallenge P x w ⟨2, 8, 9, 10, 11, 12, 13, 18⟩ cfg t hold challenge bondRecipient binding
    passportConfig funder leave openAnswer ended

/-- `conclude_challenge_ix`: none of the accounts is tied to the token. -/
def concludeChallengeIx (t : TokenId) : Except Error Exec := do
  let _caller ← x.account 0
  let config ← x.account 1
  let consignment ← x.account 2
  let hold ← x.account 3
  let challenge ← x.account 4
  let bondRecipient ← x.account 5
  let payer ← x.account 11
  let binding ← x.account 12
  let passportConfig ← x.account 13
  let leave ← x.account 14
  let openAnswer ← x.account 15
  let funder ← x.account 16
  require (x.isSigner payer) .missingRequiredSignature
  let cfg ← loadAscConfig w.ledger config
  let c : ConsignmentRecord ← load w.ledger consignment
  let h : HoldRecord ← load w.ledger hold
  let account : ChallengeAccount ← load w.ledger challenge
  let hooks : AscHooks := ⟨h, c, cfg.challengeBond, false, now, none⟩
  let ended ← concludeChallenge ascHooks hooks cfg.challengeConfig account now
  settleChallenge P x w ⟨2, 6, 7, 8, 9, 10, 11, 16⟩ cfg t hold challenge bondRecipient binding
    passportConfig funder leave openAnswer ended

/-! ## §12. The clock set by the authority. -/

def forceAuctionEndsAt (t : TokenId) (endsAt : ℕ) : Except Error Exec := do
  let authority ← x.account 0
  let config ← x.account 1
  let auction ← x.account 2
  let cfg ← loadAscConfig w.ledger config
  requireConfigAuthority programId x authority config cfg.authority
  require (auction = auctionPda t) .invalidSeeds
  let a : AuctionTermsRecord ← load w.ledger auction
  w.store auction { a with endsAt }

def forceHoldClock (t : TokenId) (protectionEndsAt frozenRemaining abandonmentDeadline : ℕ) :
    Except Error Exec := do
  let authority ← x.account 0
  let config ← x.account 1
  let hold ← x.account 2
  let cfg ← loadAscConfig w.ledger config
  requireConfigAuthority programId x authority config cfg.authority
  require (hold = holdPda t) .invalidSeeds
  let h : HoldRecord ← load w.ledger hold
  w.store hold { h with protectionEndsAt, frozenRemaining, abandonmentDeadline }

end Handlers

/-! ## §13. The program. -/

/-- `AscendingIx`; the openings and the price of the shared signature are refused, the retired
    harness instructions are one. -/
inductive Instruction
  | initConfig (platformFeeBps challengeBond challengeWindow : ℕ) (stakingProgram : Pubkey)
  | retired
  | grant (t : TokenId) (agent : Pubkey) (expiry : ℕ) (asset : Pubkey)
      (denomKind currencyCode floor form commissionBps : ℕ)
  | revoke (t : TokenId)
  | openDirect (t : TokenId) (assetMint : Pubkey) (denomKind currencyCode price : ℕ)
  | openFromMandate (t : TokenId) (denomKind currencyCode price : ℕ)
  | setPrice (t : TokenId) (newPrice : ℕ)
  | openAscendingDirect (t : TokenId) (assetMint : Pubkey) (reserve duration protectionWindow : ℕ)
  | openAscendingFromMandate (t : TokenId) (reserve duration protectionWindow : ℕ)
  | bid (t : TokenId) (amount : ℕ)
  | settle (t : TokenId)
  | confirmReceipt (t : TokenId)
  | releaseFunds (t : TokenId)
  | completeReversal (t : TokenId)
  | abandonReversal (t : TokenId)
  | openChallenge (t : TokenId)
  | withdrawChallenge (t : TokenId)
  | judgeChallenge (t : TokenId) (outcome : ℕ)
  | concludeChallenge (t : TokenId)
  | approvePaymentToken
  | revokePaymentToken (mint : Pubkey)
  | pause
  | unpause
  | setChallengeBond (challengeBond : ℕ)
  | withdrawClaim
  | forceAuctionEndsAt (t : TokenId) (endsAt : ℕ)
  | forceHoldClock (t : TokenId) (protectionEndsAt frozenRemaining abandonmentDeadline : ℕ)
  | bindPassportProgram
  | setGuardian (newGuardian : Pubkey)
deriving DecidableEq

/-- `process_instruction`. -/
def processInstruction (P : Platform) (W : AmountOffset) (now : ℕ) (x : Call) (w : Exec) :
    Instruction → Except Error Exec
  | .initConfig feeBps bond window staking => initConfig P x w feeBps bond window staking
  | .retired => .error (.custom .harnessInstructionRetired)
  | .grant t agent expiry asset kind code floor form bps =>
    grant P x w t agent expiry asset kind code floor form bps
  | .revoke t => revoke x w t
  | .openDirect .. | .openFromMandate .. => .error (.custom .ascendingOpenPath)
  | .setPrice .. => .error (.custom .termsFixed)
  | .openAscendingDirect t mint reserve duration window =>
    openAscendingDirect P x now w t mint reserve duration window
  | .openAscendingFromMandate t reserve duration window =>
    openAscendingFromMandate P x now w t reserve duration window
  | .bid t amount => bid P W x now w t amount
  | .settle t => settle P W x now w t
  | .confirmReceipt t => confirmReceipt P x w t
  | .releaseFunds t => releaseFunds P x now w t
  | .completeReversal t => completeReversal P x w t
  | .abandonReversal t => abandonReversal P x now w t
  | .openChallenge t => openChallengeIx P x now w t
  | .withdrawChallenge _ => withdrawChallengeIx x now w
  | .judgeChallenge t outcome => judgeChallengeIx P x now w t outcome
  | .concludeChallenge t => concludeChallengeIx P x now w t
  | .approvePaymentToken => approvePaymentToken P x w
  | .revokePaymentToken mint => revokePaymentToken x w mint
  | .pause => pause x w
  | .unpause => unpause x w
  | .setChallengeBond bond => setChallengeBond x w bond
  | .withdrawClaim => withdrawClaim P x w
  | .forceAuctionEndsAt t endsAt => forceAuctionEndsAt x w t endsAt
  | .forceHoldClock t ends remaining deadline => forceHoldClock x w t ends remaining deadline
  | .bindPassportProgram => bindPassportProgram P x w
  | .setGuardian guardian => setGuardian x w guardian

/-- The program runs, and the runtime looks at what it did. -/
def execute (P : Platform) (W : AmountOffset) (now : ℕ) (x : Call) (ix : Instruction)
    (L : Ledger) : Except Error Ledger := do
  let w ← processInstruction P W now x (Exec.start L) ix
  let w ← w.verify programId x
  pure w.ledger

end Ascending

end Kargain.Svm
