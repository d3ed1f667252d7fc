/-
  Kargain.Svm.FixedPrice — programs/kar-fixed-price.

  A seller, or an agent under a mandate, opens a lot at a price; the
  passport goes into the custody of the mode.  The lot ends by a sale,
  by a payment confirmed outside the chain, or by giving the passport
  back.  Accounts come in the order of the source; an account a handler
  never checks is taken as it comes.

  The five retired harness instructions refuse whatever they are given
  and are one instruction here.  Logs are left out.
-/
import Kargain.Svm.Modes

namespace Kargain.Svm

open Kargain.Accounts

/-- `PaymentTokenRecord::has_feed`. -/
def PricedTokenRecord.hasFeed (r : PricedTokenRecord) : Bool := r.feedId ≠ 0

namespace FixedPrice

def programId : Pubkey := .program 2

abbrev paymentTokenPda (mint : Pubkey) : Pubkey := .paymentToken programId mint

abbrev notePda (t : TokenId) : Pubkey := .pda programId (.settlementNote t)

abbrev escrowPda (t : TokenId) : Pubkey := .escrow programId t

/-! ## §1. Sizes and bounds. -/

def commerceConfigSpace : ℕ := 8 + 32 + 32 + 2 + 32 + 1 + 1 + 1
def recallSpace : ℕ := 8 + 32 + 8 + 1
def paymentTokenSpace : ℕ := 8 + 32 + 1 + 1 + 1 + 32 + 32 + 4 + 4
def settlementNoteSpace : ℕ := 8 + 32 + 4 + 256 + 1
def escrowSpace : ℕ := 1
def maxNoteLen : ℕ := 256

/-! ## §2. Reading. -/

/-- `load_config`: any account whose bytes decode. -/
def loadConfig (L : Ledger) (config : Pubkey) : Except Error CommerceConfig := load L config

/-- `CommerceConfig::new`. -/
def newConfig (authority platformRecipient : Pubkey) (platformFeeBps : ℕ) (guardian : Pubkey) :
    Except Error CommerceConfig := do
  revertIf (platformRecipient = .zero ∨ guardian = .zero) (.custom .zeroAddress)
  revertIf (platformFeeBps > bpsDenom) (.custom .feeTooHigh)
  pure ⟨authority, platformRecipient, platformFeeBps, guardian, false⟩

def isFiat (d : Denomination) : Bool := d.kind = DenominationKind.fiat

/-- `require_mode_open`; `paymentTok` is the account handed in for a mint. -/
def requireModeOpen (L : Ledger) (denomination : Denomination) (assetMint : Pubkey)
    (paymentTok : Option Pubkey) : Except Error Unit := do
  revertIf (isFiat denomination = true ∧
    (denomination.currencyCode ≠ currencyUsd ∨ assetMint = .zero))
    (.custom .currencyNotAvailableOnChain)
  if assetMint = .zero then pure ()
  else do
    let info ← orRevert paymentTok (.custom .paymentTokenNotSupported)
    require (info = paymentTokenPda assetMint) .invalidSeeds
    revertIf ((L info).data = .empty) (.custom .paymentTokenNotSupported)
    let record : PricedTokenRecord ← load L info
    require (record.enabled = true ∧ record.mint = assetMint) (.custom .paymentTokenNotSupported)
    revertIf (isFiat denomination = true ∧ record.hasFeed = false)
      (.custom .paymentTokenFeedRequired)

/-- The payment token account comes only with a mint; the rest moves up one place. -/
def paymentTokAt (x : Call) (i : ℕ) (assetMint : Pubkey) : Except Error (Option Pubkey × ℕ) :=
  if assetMint = .zero then .ok (none, i)
  else do
    let k ← x.account i
    pure (some k, i + 1)

section Handlers

variable (P : Platform) (W : AmountOffset) (x : Call) (now : ℕ) (w : Exec)

/-! ## §3. Configuration. -/

def initConfig (platformFeeBps : ℕ) : Except Error Exec := do
  let payer ← x.account 0
  let config ← x.account 1
  let authority ← x.account 2
  let platform ← x.account 3
  let guardian ← x.account 4
  let _system ← x.account 5
  require (x.isSigner payer ∧ x.isSigner authority) .missingRequiredSignature
  require (config = configPda programId) .invalidSeeds
  require ((w.ledger config).data = .empty) .accountAlreadyInitialized
  let w ← createPda P programId x w payer config programId commerceConfigSpace
    (.commerceConfig default)
  let cfg ← newConfig authority platform platformFeeBps guardian
  w.store config cfg

def bindPassportProgram : Except Error Exec :=
  Svm.bindPassportProgram P programId x w fun config => do
    let cfg ← loadConfig w.ledger config
    pure cfg.authority

def pause : Except Error Exec := do
  let guardian ← x.account 0
  let config ← x.account 1
  require (x.isSigner guardian) .missingRequiredSignature
  require (config = configPda programId) .invalidSeeds
  let cfg ← loadConfig w.ledger config
  require (guardian = cfg.guardian) (.custom .notGuardian)
  w.store config { cfg with paused := true }

def unpause : Except Error Exec := do
  let authority ← x.account 0
  let config ← x.account 1
  let cfg ← loadConfig w.ledger config
  requireConfigAuthority programId x authority config cfg.authority
  w.store config { cfg with paused := false }

def setGuardian (newGuardian : Pubkey) : Except Error Exec := do
  let authority ← x.account 0
  let config ← x.account 1
  let cfg ← loadConfig w.ledger config
  requireConfigAuthority programId x authority config cfg.authority
  require (authority = cfg.authority) (.custom .notGuardianOrOwner)
  revertIf (newGuardian = .zero) (.custom .zeroAddress)
  w.store config { cfg with guardian := newGuardian }

/-! ## §4. Payment tokens. -/

/-- The bounds of a feed, or of its absence. -/
def requireFeed (priceProgram : Pubkey) (feedId stalenessTolerance maxConfidenceBps : ℕ) :
    Except Error Unit :=
  if feedId = 0 then do
    revertIf (stalenessTolerance ≠ 0 ∨ maxConfidenceBps ≠ 0) (.custom .stalenessWithoutFeed)
    revertIf (priceProgram ≠ .zero) (.custom .invalidFeed)
  else do
    revertIf (priceProgram = .zero) (.custom .invalidFeed)
    revertIf (stalenessTolerance = 0) (.custom .zeroFeedStaleness)
    revertIf (stalenessTolerance < minFeedStaleness ∨ maxFeedStaleness < stalenessTolerance)
      (.custom .feedStalenessOutOfBounds)

/-- A token that has a feed keeps one. -/
def requireFeedKept (L : Ledger) (paymentToken : Pubkey) (feedId : ℕ) : Except Error Unit :=
  if (L paymentToken).data = .empty then .ok ()
  else do
    let existing : PricedTokenRecord ← load L paymentToken
    revertIf (existing.hasFeed = true ∧ feedId = 0) (.custom .cannotClearPaymentTokenFeed)

def approvePaymentToken (priceProgram : Pubkey) (feedId stalenessTolerance maxConfidenceBps : ℕ) :
    Except Error Exec := do
  let authority ← x.account 0
  let config ← x.account 1
  let mint ← x.account 2
  let paymentToken ← x.account 3
  let payer ← x.account 5
  require (x.isSigner payer) .missingRequiredSignature
  revertIf (mint = .zero) (.custom .zeroAddress)
  let cfg ← loadConfig w.ledger config
  requireConfigAuthority programId x authority config cfg.authority
  let decimals ← requireAdmittedSplMintAccount w.ledger mint
  require (paymentToken = paymentTokenPda mint) .invalidSeeds
  requireFeed priceProgram feedId stalenessTolerance maxConfidenceBps
  requireFeedKept w.ledger paymentToken feedId
  let w ← ensurePda P programId x w payer paymentToken programId paymentTokenSpace
    (.pricedToken default)
  w.store paymentToken (if feedId = 0 then ⟨mint, true, decimals, .zero, 0, 0, 0⟩
    else ⟨mint, true, decimals, priceProgram, feedId, stalenessTolerance, maxConfidenceBps⟩ :
      PricedTokenRecord)

/-- `revoke_payment_token`: guardian or authority of the config handed in. -/
def revokePaymentToken (mint : Pubkey) : Except Error Exec := do
  let caller ← x.account 0
  let config ← x.account 1
  let paymentToken ← x.account 2
  require (x.isSigner caller) .missingRequiredSignature
  let cfg ← loadConfig w.ledger config
  require (caller = cfg.guardian ∨ caller = cfg.authority) (.custom .notGuardianOrOwner)
  require (paymentToken = paymentTokenPda mint) .invalidSeeds
  let record : PricedTokenRecord ← load w.ledger paymentToken
  w.store paymentToken { record with enabled := false }

/-! ## §5. Mandates. -/

def grant (t : TokenId) (agent : Pubkey) (expiry : ℕ) (asset : Pubkey)
    (denomKind currencyCode floor form commissionBps : ℕ) : Except Error Exec :=
  Svm.grant P programId x w t agent expiry asset denomKind currencyCode floor form commissionBps

def revoke (t : TokenId) : Except Error Exec := Svm.revoke programId x w t

/-! ## §6. Opening. -/

/-- What an opening goes by. -/
structure Opening extends Admitted where
  consignment : Pubkey
  custody : Pubkey
  payer : Pubkey
  coreProgram : Pubkey
  leave : Pubkey
  openAnswer : Pubkey

/-- The passport may be consigned, and the consignment account holds no live lot. -/
def admitOpening (i : ℕ) (t : TokenId) : Except Error Opening := do
  let o ← mayOpen programId x w i t
  let consignment ← x.account o.next
  let custody ← x.account (o.next + 1)
  let payer ← x.account (o.next + 3)
  let coreProgram ← x.account (o.next + 4)
  let leave ← x.account (o.next + 5)
  let openAnswer ← x.account (o.next + 6)
  require (x.isSigner payer) .missingRequiredSignature
  requireNoLiveLot w.ledger consignment
  pure ⟨o, consignment, custody, payer, coreProgram, leave, openAnswer⟩

/-- `Compensation::margin`. -/
def marginCompensation : Compensation := ⟨CompensationForm.margin, 0⟩

def openDirect (t : TokenId) (assetMint : Pubkey) (denomKind currencyCode price : ℕ) :
    Except Error Exec := do
  let seller ← x.account 0
  let config ← x.account 1
  require (x.isSigner seller) .missingRequiredSignature
  let cfg ← loadConfig w.ledger config
  requireNotPaused cfg.paused
  let denomination ← parseDenom denomKind currencyCode
  let (paymentTok, i) ← paymentTokAt x 2 assetMint
  requireModeOpen w.ledger denomination assetMint paymentTok
  let o ← admitOpening x w i t
  let owner ← coreAssetOwner w.ledger o.asset
  require (owner = seller) (.custom .notPassportOwner)
  let w ← ensureConsignmentAccount P programId x w o.payer o.consignment t
  let w ← transferOwnerToCustody P programId x w o.passportProgram t o.asset seller o.custody
    o.payer o.coreProgram
  let w ← w.store o.consignment (writeOpen t seller .zero assetMint denomination 0
    marginCompensation price cfg.platformFeeBps now)
  openObligation P programId x w o.payer o.leave o.openAnswer o.seedPrefix t

/-- `open_from_mandate`: the mandate is any account whose bytes decode. -/
def openFromMandate (t : TokenId) (denomKind currencyCode price : ℕ) : Except Error Exec := do
  let agent ← x.account 0
  let config ← x.account 1
  let mandate ← x.account 2
  require (x.isSigner agent) .missingRequiredSignature
  let cfg ← loadConfig w.ledger config
  requireNotPaused cfg.paused
  let m : MandateRecord ← load w.ledger mandate
  let denomination ← parseDenom denomKind currencyCode
  requireMandateAllowsOpen m denomination now
  require (m.agent = agent) (.custom .notConsignmentAgent)
  let (paymentTok, i) ← paymentTokAt x 3 m.asset
  requireModeOpen w.ledger m.denomination m.asset paymentTok
  let o ← admitOpening x w i t
  requireAgentedPriceMeetsFloor price m.floor m.compensation cfg.platformFeeBps
  let seller ← coreAssetOwner w.ledger o.asset
  let w ← ensureConsignmentAccount P programId x w o.payer o.consignment t
  let w ← transferDelegateToCustody P programId x w o.passportProgram t o.asset o.custody o.payer
    o.coreProgram
  let w ← w.store o.consignment (writeOpen t seller m.agent m.asset m.denomination m.floor
    m.compensation price cfg.platformFeeBps now)
  openObligation P programId x w o.payer o.leave o.openAnswer o.seedPrefix t

/-! ## §7. Terms of a live lot. -/

/-- A handler that rewrites the consignment of `t`, the account at place `i`. -/
def amendLot (i : ℕ) (t : TokenId)
    (amend : Pubkey → ConsignmentRecord → Except Error ConsignmentRecord) : Except Error Exec := do
  let caller ← x.account 0
  let consignment ← x.account i
  require (x.isSigner caller) .missingRequiredSignature
  require (consignment = consignmentPda programId t) .invalidSeeds
  let c : ConsignmentRecord ← load w.ledger consignment
  let c ← amend caller c
  w.store consignment c

def setPrice (t : TokenId) (newPrice : ℕ) : Except Error Exec :=
  amendLot x w 1 t fun caller c => Svm.setPrice c caller newPrice

/-- The passport is in custody: its owner for concessions is the seller of the lot. -/
def lowerFloor (t : TokenId) (newFloor : ℕ) : Except Error Exec :=
  amendLot x w 2 t fun caller c => Svm.lowerFloor c c.seller caller newFloor

def lowerCommission (t : TokenId) (newBps : ℕ) : Except Error Exec :=
  amendLot x w 1 t fun caller c => Svm.lowerCommission c caller newBps

/-! ## §8. Recalls. -/

/-- `request_recall_ix`: the consignment is not tied to the token. -/
def requestRecall (t : TokenId) : Except Error Exec := do
  let seller ← x.account 0
  let consignment ← x.account 1
  let recallInfo ← x.account 2
  let payer ← x.account 4
  require (x.isSigner seller ∧ x.isSigner payer) .missingRequiredSignature
  let c : ConsignmentRecord ← load w.ledger consignment
  let requested ← recallAccountRequestedAt w.ledger recallInfo
  let requestedAt ← Svm.requestRecall c seller (requested ≠ 0) now
  require (recallInfo = recallPda programId t) .invalidSeeds
  let w ← ensurePda P programId x w payer recallInfo programId recallSpace (.recall default)
  w.store recallInfo (⟨t, requestedAt⟩ : RecallRecord)

/-- A recall record with no request. -/
def unrequested : Data → Data
  | .recall r => .recall { r with requestedAt := 0 }
  | d => d

/-- `clear_recall`: whatever account is handed in, if it is a recall record at all. -/
def clearRecall (recallInfo : Pubkey) : Exec :=
  w.setData recallInfo (unrequested (w.ledger recallInfo).data)

/-- `force_recall_at`. -/
def forceRecallRequestedAt (t : TokenId) (requestedAt : ℕ) : Except Error Exec := do
  let authority ← x.account 0
  let config ← x.account 1
  let recallInfo ← x.account 2
  let cfg ← loadConfig w.ledger config
  requireConfigAuthority programId x authority config cfg.authority
  require (recallInfo = recallPda programId t) .invalidSeeds
  let r : RecallRecord ← load w.ledger recallInfo
  w.store recallInfo { r with requestedAt }

/-! ## §9. Giving the passport back. -/

/-- The three exits that return the passport to the seller: `check` says who may, with the
    recall account at hand, and `settled` is what is written besides the phase.  Neither the
    consignment nor the recall account is tied to the token. -/
def returnLot (t : TokenId) (check : ConsignmentRecord → Pubkey → Pubkey → Except Error Unit)
    (settled : ConsignmentRecord → ConsignmentRecord) : Except Error Exec := do
  let caller ← x.account 0
  let consignment ← x.account 1
  let recallInfo ← x.account 2
  let binding ← x.account 3
  let passportConfig ← x.account 4
  let asset ← x.account 5
  let custody ← x.account 6
  let recipient ← x.account 7
  let payer ← x.account 8
  let coreProgram ← x.account 9
  let leave ← x.account 11
  let openAnswer ← x.account 12
  let funder ← x.account 13
  require (x.isSigner caller ∧ x.isSigner payer) .missingRequiredSignature
  let c : ConsignmentRecord ← load w.ledger consignment
  check c caller recallInfo
  let w := clearRecall w recallInfo
  require (recipient = c.seller) .invalidAccountData
  let passportProgram ← requireBoundPassportProgram programId w.ledger binding
  let (seedPrefix, _) ←
    encumbranceSeedPrefixForSource w.ledger passportConfig passportProgram programId
  let w ← transferCustodyToRecipient P programId x w passportProgram t asset custody recipient
    payer coreProgram
  let w ← closeObligation programId x w funder leave openAnswer seedPrefix t
  w.store consignment (settled (terminateToOwner c))

def ownerWithdraw (t : TokenId) : Except Error Exec :=
  returnLot P x w t (fun c seller _ => ownerWithdrawOk c seller) fun c => { c with price := 0 }

def agentWithdraw (t : TokenId) : Except Error Exec :=
  returnLot P x w t (fun c agent _ => agentWithdrawOk c agent) fun c => { c with price := 0 }

/-- The request is read from the account handed in. -/
def recallReady (L : Ledger) (c : ConsignmentRecord) (seller recallInfo : Pubkey) :
    Except Error Unit := do
  let requestedAt ← recallAccountRequestedAt L recallInfo
  forceRecallReady c seller requestedAt now

def forceRecall (t : TokenId) : Except Error Exec :=
  returnLot P x w t (recallReady now w.ledger) fun c => { c with price := 0, floor := 0 }

def enterCommitted (t : TokenId) : Except Error Exec := do
  let consignment ← x.account 0
  let recallInfo ← x.account 1
  require (consignment = consignmentPda programId t) .invalidSeeds
  let c : ConsignmentRecord ← load w.ledger consignment
  let c ← enterCommittedNotOffered c
  (clearRecall w recallInfo).store consignment c

/-! ## §10. Sales. -/

/-- What the buyer is charged: the price, or its worth by the pinned feed. -/
def chargedAmount (L : Ledger) (c : ConsignmentRecord) : Except Error ℕ :=
  if isFiat c.denomination = true then do
    revertIf (c.denomination.currencyCode ≠ currencyUsd) (.custom .currencyNotAvailableOnChain)
    revertIf (c.asset = .zero) (.custom .currencyNotAvailableOnChain)
    let paymentTok ← x.account 18
    let priceAccount ← x.account 19
    require (paymentTok = paymentTokenPda c.asset) .invalidSeeds
    let record : PricedTokenRecord ← load L paymentTok
    require (record.mint = c.asset ∧ record.hasFeed = true) (.custom .paymentTokenFeedRequired)
    let reading ← readPriceUpdate (L priceAccount) record.priceProgram record.feedId now
      record.stalenessTolerance record.maxConfidenceBps
    fiatUsd1e8ToTokenAmount c.price reading record.decimals
  else .ok c.price

/-- The floor of a fiat lot in units of the asset, before the split. -/
def floorInAsset (c : ConsignmentRecord) (amount : ℕ) : Except Error ConsignmentRecord := do
  let form ← orRevert c.compensation.formEnum .invalidAccountData
  let baseFiat ←
    agentedFloorScaleBase c.price form c.compensation.commissionBps c.platformFeeBps
  let baseAsset ←
    agentedFloorScaleBase amount form c.compensation.commissionBps c.platformFeeBps
  revertIf (baseFiat = 0) (.custom .badOracleAnswer)
  setSnapshotFloor c (baseAsset * c.floor / baseFiat % 2 ^ 64)

/-- Only an agented fiat lot with a floor is rewritten. -/
def snapshotFloor (consignment : Pubkey) (c : ConsignmentRecord) (amount : ℕ) :
    Except Error (Exec × ConsignmentRecord) :=
  if isFiat c.denomination = true ∧ c.agent ≠ .zero ∧ c.floor ≠ 0 then do
    let c ← floorInAsset c amount
    let w ← w.store consignment c
    pure (w, c)
  else .ok (w, c)

/-- Pull the payment into the escrow; a mint's comes with the accounts it is paid out by. -/
def pullPayment (i : ℕ) (asset buyer escrow : Pubkey) (amount : ℕ) :
    Except Error (Exec × Option SplSource) :=
  if asset = .zero then do
    let w ← payNative programId x w buyer escrow amount
    pure (w, none)
  else do
    let (w, src) ← pullSpl P programId x w W i asset buyer escrow amount
    pure (w, some src)

def payLegs (payer escrow : Pubkey) (src : Option SplSource) (i : ℕ) (r : Recipients)
    (split : SplitResult) : Except Error Exec :=
  match src with
  | none => payNativeLegs w escrow r split
  | some src => paySplLegs P programId x w .splToken payer src i r split

/-- The accounts of a sale that come in every case. -/
structure SaleAccounts where
  buyer : Pubkey
  config : Pubkey
  consignment : Pubkey
  binding : Pubkey
  passportConfig : Pubkey
  asset : Pubkey
  custody : Pubkey
  recipients : Recipients
  recallInfo : Pubkey
  payer : Pubkey
  escrow : Pubkey
  coreProgram : Pubkey
  leave : Pubkey
  openAnswer : Pubkey
  funder : Pubkey

def saleAccounts : Except Error SaleAccounts := do
  let buyer ← x.account 0
  let config ← x.account 1
  let consignment ← x.account 2
  let binding ← x.account 3
  let passportConfig ← x.account 4
  let asset ← x.account 5
  let custody ← x.account 6
  let platform ← x.account 7
  let seller ← x.account 8
  let agent ← x.account 9
  let recallInfo ← x.account 10
  let payer ← x.account 12
  let escrow ← x.account 13
  let coreProgram ← x.account 14
  let leave ← x.account 15
  let openAnswer ← x.account 16
  let funder ← x.account 17
  pure ⟨buyer, config, consignment, binding, passportConfig, asset, custody,
    ⟨platform, seller, agent⟩, recallInfo, payer, escrow, coreProgram, leave, openAnswer, funder⟩

/-- `buy`: the lot is the token's own, the recall account is not checked. -/
def buy (t : TokenId) : Except Error Exec := do
  let a ← saleAccounts x
  require (x.isSigner a.buyer ∧ x.isSigner a.payer) .missingRequiredSignature
  let passportProgram ← requireBoundPassportProgram programId w.ledger a.binding
  let (seedPrefix, _) ←
    encumbranceSeedPrefixForSource w.ledger a.passportConfig passportProgram programId
  let cfg ← loadConfig w.ledger a.config
  requireNotPaused cfg.paused
  require (a.consignment = consignmentPda programId t) .invalidSeeds
  let c : ConsignmentRecord ← load w.ledger a.consignment
  require (c.isOfferedActionable = true) (.custom .notOffered)
  let amount ← chargedAmount x now w.ledger c
  let (w, c) ← snapshotFloor w a.consignment c amount
  require (a.escrow = escrowPda t) .invalidSeeds
  let w ← ensurePda P programId x w a.payer a.escrow programId escrowSpace .byte
  let i := if isFiat c.denomination = true then 20 else 18
  let (w, src) ← pullPayment P W x w i c.asset a.buyer a.escrow amount
  let split ← computeSplitForLot amount c
  verifyRecipients a.recipients split ⟨cfg.platformRecipient, c.seller, c.agent⟩
  let w ← transferCustodyToRecipient P programId x w passportProgram t a.asset a.custody a.buyer
    a.payer a.coreProgram
  let w ← closeObligation programId x w a.funder a.leave a.openAnswer seedPrefix t
  let w ← payLegs P x w a.payer a.escrow src (i + 4) a.recipients split
  (clearRecall w a.recallInfo).store a.consignment { closeLot c with price := 0, floor := 0 }

/-! ## §11. Payments outside the chain. -/

/-- `set_settlement_note`: the consignment is not tied to the token. -/
def setSettlementNote (t : TokenId) (note : List ℕ) (noteLen : ℕ) : Except Error Exec := do
  let caller ← x.account 0
  let consignment ← x.account 1
  let noteAccount ← x.account 2
  let payer ← x.account 4
  require (x.isSigner caller ∧ x.isSigner payer) .missingRequiredSignature
  revertIf (noteLen = 0 ∨ maxNoteLen < noteLen) (.custom .emptySettlementNote)
  let c : ConsignmentRecord ← load w.ledger consignment
  require (c.isOfferedActionable = true) (.custom .notOffered)
  revertIf (c.agent = .zero ∧ c.seller ≠ caller) (.custom .notConsignmentSeller)
  revertIf (c.agent ≠ .zero ∧ c.agent ≠ caller) (.custom .notConsignmentRunner)
  require (noteAccount = notePda t) .invalidSeeds
  let w ← ensurePda P programId x w payer noteAccount programId settlementNoteSpace
    (.settlementNote default)
  w.store noteAccount (⟨t, noteLen, note⟩ : SettlementNoteRecord)

/-- `confirm_external`: consignment, note and recall are not tied to the token. -/
def confirmExternalPayment (t : TokenId) (buyer : Pubkey) : Except Error Exec := do
  let caller ← x.account 0
  let consignment ← x.account 1
  let noteAccount ← x.account 2
  let recallInfo ← x.account 3
  let binding ← x.account 4
  let passportConfig ← x.account 5
  let asset ← x.account 6
  let custody ← x.account 7
  let buyerAccount ← x.account 8
  let payer ← x.account 9
  let coreProgram ← x.account 10
  let leave ← x.account 12
  let openAnswer ← x.account 13
  let funder ← x.account 14
  require (x.isSigner caller ∧ x.isSigner payer) .missingRequiredSignature
  revertIf (buyer = .zero) (.custom .zeroAddress)
  require (buyerAccount = buyer) .invalidAccountData
  let c : ConsignmentRecord ← load w.ledger consignment
  require (c.isOfferedActionable = true) (.custom .notOffered)
  require (caller = c.seller ∨ caller = c.agent) (.custom .notSellerOrAgent)
  let note : SettlementNoteRecord ← load w.ledger noteAccount
  revertIf (note.noteLen = 0) (.custom .emptySettlementNote)
  let w ← w.store noteAccount { note with noteLen := 0, note := List.replicate 256 0 }
  let passportProgram ← requireBoundPassportProgram programId w.ledger binding
  let (seedPrefix, _) ←
    encumbranceSeedPrefixForSource w.ledger passportConfig passportProgram programId
  let w ← transferCustodyToRecipient P programId x w passportProgram t asset custody buyerAccount
    payer coreProgram
  let w ← closeObligation programId x w funder leave openAnswer seedPrefix t
  (clearRecall w recallInfo).store consignment { closeLot c with price := 0, floor := 0 }

def withdrawClaim : Except Error Exec := withdrawSplClaim P programId x w

end Handlers

/-! ## §12. The program. -/

inductive Instruction
  | initConfig (platformFeeBps : ℕ)
  | retired
  | grant (t : TokenId) (agent : Pubkey) (expiry : ℕ) (asset : Pubkey)
      (denomKind currencyCode floor form commissionBps : ℕ)
  | revoke (t : TokenId)
  | openDirect (t : TokenId) (assetMint : Pubkey) (denomKind currencyCode price : ℕ)
  | openFromMandate (t : TokenId) (denomKind currencyCode price : ℕ)
  | setPrice (t : TokenId) (newPrice : ℕ)
  | lowerFloor (t : TokenId) (newFloor : ℕ)
  | lowerCommission (t : TokenId) (newBps : ℕ)
  | requestRecall (t : TokenId)
  | forceRecall (t : TokenId)
  | ownerWithdraw (t : TokenId)
  | agentWithdraw (t : TokenId)
  | enterCommitted (t : TokenId)
  | pause
  | unpause
  | approvePaymentToken (priceProgram : Pubkey) (feedId stalenessTolerance maxConfidenceBps : ℕ)
  | revokePaymentToken (mint : Pubkey)
  | buy (t : TokenId)
  | setSettlementNote (t : TokenId) (note : List ℕ) (noteLen : ℕ)
  | confirmExternalPayment (t : TokenId) (buyer : Pubkey)
  | withdrawClaim
  | forceRecallRequestedAt (t : TokenId) (requestedAt : ℕ)
  | bindPassportProgram
  | setGuardian (newGuardian : Pubkey)
deriving DecidableEq

/-- `process_instruction`. -/
def processInstruction (P : Platform) (W : AmountOffset) (now : ℕ) (x : Call) (w : Exec) :
    Instruction → Except Error Exec
  | .initConfig feeBps => initConfig P x w feeBps
  | .retired => .error (.custom .harnessInstructionRetired)
  | .grant t agent expiry asset kind code floor form bps =>
    grant P x w t agent expiry asset kind code floor form bps
  | .revoke t => revoke x w t
  | .openDirect t mint kind code price => openDirect P x now w t mint kind code price
  | .openFromMandate t kind code price => openFromMandate P x now w t kind code price
  | .setPrice t price => setPrice x w t price
  | .lowerFloor t floor => lowerFloor x w t floor
  | .lowerCommission t bps => lowerCommission x w t bps
  | .requestRecall t => requestRecall P x now w t
  | .forceRecall t => forceRecall P x now w t
  | .ownerWithdraw t => ownerWithdraw P x w t
  | .agentWithdraw t => agentWithdraw P x w t
  | .enterCommitted t => enterCommitted x w t
  | .pause => pause x w
  | .unpause => unpause x w
  | .approvePaymentToken program feed staleness confidence =>
    approvePaymentToken P x w program feed staleness confidence
  | .revokePaymentToken mint => revokePaymentToken x w mint
  | .buy t => buy P W x now w t
  | .setSettlementNote t note len => setSettlementNote P x w t note len
  | .confirmExternalPayment t buyer => confirmExternalPayment P x w t buyer
  | .withdrawClaim => withdrawClaim P x w
  | .forceRecallRequestedAt t at' => forceRecallRequestedAt x w t at'
  | .bindPassportProgram => bindPassportProgram P x w
  | .setGuardian guardian => setGuardian x w guardian

/-- The program runs, and the runtime looks at what it did. -/
def execute (P : Platform) (W : AmountOffset) (now : ℕ) (x : Call) (ix : Instruction)
    (L : Ledger) : Except Error Ledger := do
  let w ← processInstruction P W now x (Exec.start L) ix
  let w ← w.verify programId x
  pure w.ledger

end FixedPrice

end Kargain.Svm
