import TapTrade.OrderBook.Search
import TapTrade.OrderBook.Backing
import TapTrade.OrderBook.Terms
import TapTrade.OrderBook.Quote
import TapTrade.OrderBook.Deadline
import TapTrade.OrderBook.Exclusion
import TapTrade.OrderBook.Pending
import TapTrade.Bonds.Mempool
import TapTrade.Bonds.Batch
import TapTrade.Bonds.Acceptance
import TapTrade.Bonds.Overflow
import TapTrade.Taking.Usability
import TapTrade.Taking.Failure
import TapTrade.Taking.Rivalry
import TapTrade.Taking.Roles
import TapTrade.Taking.TakerBond
import TapTrade.Dispute.Consent
import TapTrade.Dispute.Verdict
import TapTrade.Dispute.Finality
import TapTrade.Payout.Amounts
import TapTrade.Payout.Agreement
import TapTrade.Payout.Preparation
import TapTrade.Payout.Closing
import TapTrade.Payout.Rejection
import TapTrade.Payout.Strangers
import TapTrade.Payout.Fees
import TapTrade.Payout.Lock
import TapTrade.Payout.Release
import TapTrade.Escrow.Aggregate
import TapTrade.Escrow.Rejection
import TapTrade.Escrow.Broadcast
import TapTrade.Escrow.Confirmation
import TapTrade.Escrow.Conservation
import TapTrade.Escrow.Encoding
import TapTrade.Punishment.Round
import TapTrade.Punishment.Snapshot
import TapTrade.Trading.Insertions
import TapTrade.Trading.Acting
import TapTrade.Trading.Spellings
import TapTrade.Session.Signing
import TapTrade.Session.Settings
import TapTrade.Session.Polling
import TapTrade.System.Consent
import TapTrade.System.Refinement
