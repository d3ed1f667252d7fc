import Kargain.Base.Revert
import Kargain.Base.Runs
import Kargain.Base.Abi
import Kargain.Base.Reserve
import Kargain.Evm.Types
import Kargain.Base.Accounts
import Kargain.Evm.AscendingConsignment
import Kargain.Evm.AscendingEffects
import Kargain.Evm.AscendingFloor
import Kargain.Evm.AscendingSolvency
import Kargain.Evm.ClaimLedger
import Kargain.Evm.BridgedEffects
import Kargain.Evm.FixedPriceConsignment
import Kargain.Evm.FixedPriceEffects
import Kargain.Evm.MandateHistory
import Kargain.Evm.PassportStatus
import Kargain.Evm.SingleRepresentation
import Kargain.Evm.StakingLaw
import Kargain.Evm.AscendingBonds
import Kargain.Evm.HoldClock
import Kargain.Evm.HoldIndex
import Kargain.Evm.EventLog
import Kargain.Evm.FloorFit
import Kargain.Evm.SettlementNotes
import Kargain.Evm.SourceProbe
import Kargain.Evm.PassportContent
import Kargain.Evm.PassportRow
import Kargain.Evm.RowAgreement
import Kargain.Svm.Consignment
import Kargain.Svm.Effects
import Kargain.Svm.Payouts
import Kargain.Svm.Modes
import Kargain.Svm.FixedPrice
import Kargain.Svm.Ascending
import Kargain.Svm.AscendingClock
import Kargain.Svm.AscendingLog
import Kargain.Svm.AscendingPayouts
import Kargain.Svm.FixedPriceSystem
import Kargain.Svm.FixedPriceLots
import Kargain.Svm.RecallCooldown
import Kargain.Svm.SettlementNotes
import Kargain.Svm.BridgeSystem
import Kargain.Svm.Arrivals
import Kargain.Svm.Returns
import Kargain.Deliverability
import Kargain.NoteFreshness
import Kargain.Svm.PassportUri
import Kargain.Ingest.Watermark
import Kargain.Ingest.ProjectionRebuild
import Kargain.Nostr.Watchlist
import Kargain.Svm.ProLifecycle
import Kargain.Wire.Crossing
import Kargain.Storage.DepositRuns
import Kargain.Evm.PayoutShape
import Kargain.Pricing.AgentedSplit
import Kargain.Pricing.PriceUpdate
import Kargain.Pricing.Quotes
import Kargain.Evm.BiddingLaw
import Kargain.Wire.AccountState
import Kargain.Svm.MintAdmission
import Kargain.Storage.SvmConfirm
import Kargain.Storage.DepositFate
import Kargain.UriFlag
import Kargain.Ingest.InvokeLog
import Kargain.Ingest.ClaimCauses
import Kargain.Evm.SettlementGates
import Kargain.Evm.EncumbranceRegistry
import Kargain.Wire.OnftParity
import Kargain.Nostr.NwcPay
import Kargain.Nostr.AttestedProfile
import Kargain.Pricing.BrowsePrice
import Kargain.Base.Separated
import Kargain.Wire.FetchGuard
import Kargain.Messaging.Isolation
import Kargain.Messaging.Quiescence
import Kargain.Commons.Acceptance
import Kargain.Custody.Rows
import Kargain.Custody.Agreement
import Kargain.Custody.Transit
import Kargain.Pricing.SplitPreview
