import Avalant.Lib.Table
import Avalant.Lib.Run
import Avalant.Lib.Python
import Avalant.Db.Txn
import Avalant.Reconcile.Fuse
import Avalant.Trade.Result
import Avalant.Trigger.Api
import Avalant.Trigger.System
import Avalant.Trigger.Workers
import Avalant.Trigger.Terminal
import Avalant.Trigger.Closing
import Avalant.Trigger.PositionTerminal
import Avalant.Trigger.Terms
import Avalant.Trigger.Quantity
import Avalant.Trigger.Protection
import Avalant.Trade.Proxy
import Avalant.Trade.PlaceOrder
import Avalant.Trade.OneOrder
import Avalant.Trigger.Fills
import Avalant.Leverage.StateCache
import Avalant.Leverage.System
import Avalant.Leverage.Soundness
import Avalant.Lib.Aggregate
import Avalant.Referral.Ledger
import Avalant.Referral.Operations
import Avalant.Referral.Invariant
import Avalant.Referral.Conservation
import Avalant.Referral.PayoutTxns
import Avalant.Referral.PayoutRace
import Avalant.Lib.Tasks
import Avalant.Lib.Go
import Avalant.Billing.Rows
import Avalant.Billing.System
import Avalant.Referral.Credits
import Avalant.Billing.Convergence
import Avalant.Billing.Effects
import Avalant.Billing.Charges
import Avalant.Billing.PromoCaps
import Avalant.Billing.DiscountCap
import Avalant.Referral.Registry
import Avalant.Referral.RegistryCaps
import Avalant.Auth.TwoFactor
import Avalant.Auth.Disarm
import Avalant.Auth.RecoveryCodes
import Avalant.Auth.Sessions
import Avalant.Auth.SecondFactor
import Avalant.Auth.CurrentUser
import Avalant.Ws.JwtValidator
import Avalant.Lib.Replica
import Avalant.Ws.Feed
import Avalant.Ws.Channel
import Avalant.Ws.Replication
import Avalant.Ws.LongShort
import Avalant.Ws.Convergence
import Avalant.Cache.Store
import Avalant.Ws.Book
import Avalant.Ws.BookOrder
import Avalant.Ws.BookFlight
import Avalant.Ws.BookSenders
import Avalant.Gate.Futures
import Avalant.Gate.Seeding
import Avalant.Gate.Recovery
import Avalant.Exchange.Runner
import Avalant.Exchange.Agreement
import Avalant.Exchange.Cap
import Avalant.Exchange.Manager
import Avalant.Exchange.Priority
import Avalant.Exchange.Interest
import Avalant.Cache.Dumper
import Avalant.Cache.Mirror
import Avalant.UserStream.Snapshot
import Avalant.UserStream.Supervisor
import Avalant.UserStream.Frames
import Avalant.UserStream.FrameLoss
import Avalant.Funding.Store
import Avalant.UserStream.Registry
import Avalant.Spread.Candles
import Avalant.Spread.Rollup
import Avalant.Lib.Redelivery
import Avalant.Spread.Ingest
import Avalant.Spread.Consumer
import Avalant.Ws.Trades
import Avalant.Ws.TradesOrder
import Avalant.Ws.InOut
import Avalant.Ws.InOutRows
import Avalant.Lib.EventLog
import Avalant.Alerts.Check
import Avalant.Alerts.Triggers
import Avalant.Wallets.Service
import Avalant.Wallets.Caps
import Avalant.Referral.Reversal
import Avalant.Alerts.AnyPair
import Avalant.UserStream.Units
import Avalant.Backpack.Futures
import Avalant.Wallets.Main
import Avalant.Ws.HotRefcount
import Avalant.Referral.Register
import Avalant.Lib.UnitOfWork
import Avalant.Billing.RefundFailure
import Avalant.Lib.Transducer
import Avalant.Lib.Timeline
import Avalant.Lib.Grouping
import Avalant.Fills.Reconstruct
import Avalant.Fills.Sync
import Avalant.Fills.Shadow
import Avalant.Lib.Numbered
import Avalant.Exchange.Session
import Avalant.Lib.Ladder
import Avalant.Exchange.Overlay
import Avalant.Exchange.DualTrack
import Avalant.Kraken.Futures
import Avalant.Htx.Futures
import Avalant.Exchange.Sequences
import Avalant.Okx.Futures
import Avalant.Bybit.Futures
import Avalant.Gate.Ticker
import Avalant.Exchange.MergedBooks
import Avalant.Hyperliquid.Backstop
import Avalant.Arb.NetProfit
import Avalant.Lib.Rounding
import Avalant.Arb.Tick
import Avalant.Lib.Float
import Avalant.Lib.Median
import Avalant.Lib.Ranking
import Avalant.Arb.PickFromPools
import Avalant.Lib.Ascii
import Avalant.Dex.CexAssets
import Avalant.Dex.TokenRefs
import Avalant.Trade.BinanceSizing
import Avalant.Trade.GateContracts
import Avalant.Wallets.Credentials
import Avalant.Wallets.Balances
import Avalant.Lib.Digits
import Avalant.Trade.Requests
import Avalant.Hyperliquid.Orders
import Avalant.Spread.Recorder
import Avalant.Lib.Window
import Avalant.Auth.RateLimit
import Avalant.Auth.LoginThrottle
import Avalant.Exchange.Circuit
import Avalant.Trade.CloseSide
import Avalant.Paradex.Orders
import Avalant.Lighter.Orders
import Avalant.Extended.Orders
import Avalant.Trade.Reducing
import Avalant.Trade.Priced
import Avalant.Bybit.Orders
import Avalant.Kucoin.Orders
import Avalant.Trade.Conditional
import Avalant.Trade.SignedAmounts
import Avalant.Reconcile.StillLive
import Avalant.Trigger.Accounting
import Avalant.Trade.OrderLog
import Avalant.Lib.Matching
import Avalant.Trade.LivePairs
import Avalant.Trade.Pnl
import Avalant.Trade.PnlBooks
import Avalant.Reconcile.Mirrors
import Avalant.Fills.Balance
import Avalant.Lib.Binary64
import Avalant.Referral.Preview
import Avalant.Lib.Admission
import Avalant.Ws.SubscriptionCap
import Avalant.Ws.Broadcasts
import Avalant.Admin.Settings
import Avalant.Subscriptions.Notifier
import Avalant.Subscriptions.Expiry
import Avalant.Arb.Compute
import Avalant.Arb.DexTables
import Avalant.Metrics.Histogram
import Avalant.Fetcher.Supervise
import Avalant.Fetcher.Merge
import Avalant.Exchange.Watchlist
import Avalant.Exchange.RowBooks
import Avalant.Telegram.Updates
import Avalant.Reconcile.Leader
import Avalant.UserStream.Leader
import Avalant.Exchange.BestPrices
