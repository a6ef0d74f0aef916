import Scalper.Lib.Decimal
import Scalper.Lib.Run
import Scalper.Lib.Rows
import Scalper.Lib.Loop
import Scalper.Lib.Dict
import Scalper.Lib.Through
import Scalper.Lib.While
import Scalper.Lib.Window
import Scalper.Lib.Deque
import Scalper.Lib.Series
import Scalper.Lib.TokenBucket
import Scalper.Lib.Groups
import Scalper.Lib.Interleave
import Scalper.Lib.DecimalText
import Scalper.Lib.Grid
import Scalper.Lib.Average
import Scalper.Lib.Backoff
import Scalper.Lib.Expiry
import Scalper.Lib.Grouping
import Scalper.Lib.Interpolation
import Scalper.Lib.Rendering
import Scalper.Lib.Numeral
import Scalper.Lib.Polyline
import Scalper.Lib.Json
import Scalper.Lib.Drawdown
import Scalper.Exchange.Types
import Scalper.Paper.Persistence
import Scalper.Paper.Adapter
import Scalper.Paper.Books
import Scalper.Paper.Operations
import Scalper.Paper.Consistency
import Scalper.Paper.Quantity
import Scalper.Paper.Stops
import Scalper.Paper.TradingStop
import Scalper.Paper.Pnl
import Scalper.Paper.Mirror
import Scalper.Paper.Restart
import Scalper.Paper.Agreement
import Scalper.Paper.Interleaving
import Scalper.Paper.Optimism
import Scalper.Execution.Db
import Scalper.Execution.Persist
import Scalper.Execution.Dispatcher
import Scalper.Execution.Recording
import Scalper.Execution.Service
import Scalper.Execution.Integrity
import Scalper.Execution.Ledger
import Scalper.Bus.Dedup
import Scalper.Bus.ReplayBus
import Scalper.Execution.Redelivery
import Scalper.Execution.Tracking
import Scalper.Execution.Race
import Scalper.Exchange.Quantize
import Scalper.Exchange.RateLimiter
import Scalper.Execution.Placement
import Scalper.Execution.Watchdog
import Scalper.Execution.ClosedPnl
import Scalper.Execution.Lifecycle
import Scalper.Execution.RowIdentity
import Scalper.Execution.StopType
import Scalper.Execution.Trailing
import Scalper.Execution.Tick
import Scalper.Execution.Overwrite
import Scalper.Execution.MonitorFaults
import Scalper.Execution.Excursion
import Scalper.Execution.Matching
import Scalper.Execution.SlWatchdog
import Scalper.Execution.Restart
import Scalper.Execution.RestartTracking
import Scalper.Execution.Lifespan
import Scalper.Execution.LifecycleState
import Scalper.Execution.DualWrite
import Scalper.Sizing.Compute
import Scalper.Execution.StopGeometry
import Scalper.Execution.SizedPlacement
import Scalper.Execution.CatchUp
import Scalper.Execution.FillSplit
import Scalper.Shadow.Worker
import Scalper.Shadow.Noninterference
import Scalper.Shadow.Replay
import Scalper.Shadow.HandlerOrder
import Scalper.Shadow.MonitorAgreement
import Scalper.Shadow.Rejected
import Scalper.Shadow.RejectedRestart
import Scalper.Scoring.Resolver
import Scalper.Scoring.Evaluator
import Scalper.Scoring.NothingDropped
import Scalper.Scoring.Outcomes
import Scalper.Scoring.Nested
import Scalper.Scoring.FailOpen
import Scalper.Strategy.Consumer
import Scalper.Backtest.Run
import Scalper.Backtest.LookAhead
import Scalper.Backtest.Summary
import Scalper.Bus.ConcurrentDedup
import Scalper.Bus.LiveReplay
import Scalper.Bus.SubjectMatching
import Scalper.Shadow.Registry
import Scalper.Strategy.KillSwitchRace
import Scalper.Strategy.ConcurrentCaps
import Scalper.Strategy.OneOutcome
import Scalper.Strategy.OppositeSide
import Scalper.Strategy.Cooldown
import Scalper.Features.Buffers
import Scalper.Features.Builtins
import Scalper.Features.Bounds
import Scalper.Features.Pipeline
import Scalper.Features.Session
import Scalper.Features.Recurrence
import Scalper.Features.Persistence
import Scalper.Features.Backfill
import Scalper.Features.Agreement
import Scalper.Market.Backfill
import Scalper.Market.Subscription
import Scalper.Market.Feeds
import Scalper.Market.Reconnect
import Scalper.Outbox.Relay
import Scalper.Outbox.States
import Scalper.Outbox.Redelivery
import Scalper.Outbox.Order
import Scalper.Gateway.Webhook
import Scalper.Gateway.SlidingWindows
import Scalper.Gateway.Retry
import Scalper.Exchange.PrivateWs
import Scalper.Exchange.FailOpen
import Scalper.Analytics.SseMultiplexer
import Scalper.Analytics.Compute
import Scalper.Analytics.Cache
import Scalper.Admin.SymbolMapTrail
import Scalper.Admin.ConfigVersions
import Scalper.Gateway.SymbolCache
import Scalper.Exchange.BybitOrders
import Scalper.Alerting.Handler
import Scalper.Observability.Redact
import Scalper.Market.OhlcPipeline
import Scalper.Exchange.LeverageCache
import Scalper.Exchange.BybitPages
import Scalper.Backtest.RunTrades
import Scalper.Features.Warmup
import Scalper.Features.AutoBackfill
