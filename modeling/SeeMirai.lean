import SeeMirai.Lib.InsertionMap
import SeeMirai.Lib.Grouping
import SeeMirai.Lib.WriteLog
import SeeMirai.Lib.TextKeys
import SeeMirai.Lib.ObjectCounts
import SeeMirai.Lib.Fallible
import SeeMirai.Lib.JsHost
import SeeMirai.Lib.StableSort
import SeeMirai.Lib.TextOrder
import SeeMirai.Lib.ThrowingSort
import SeeMirai.Lib.SignificantDigits
import SeeMirai.Lib.JsArithmetic
import SeeMirai.Lib.DecimalPlaces
import SeeMirai.Lib.DecimalHost
import SeeMirai.Lib.RawDecimal
import SeeMirai.Lib.ChunkedDrain
import SeeMirai.Lib.Effect
import SeeMirai.Lib.Table
import SeeMirai.Lib.Async
import SeeMirai.Lib.AverageCost
import SeeMirai.Lib.JsonText
import SeeMirai.Shared.Decimal
import SeeMirai.Lib.LatestWins
import SeeMirai.Pnl.Facts
import SeeMirai.Pnl.Ledger
import SeeMirai.Pnl.Snapshots
import SeeMirai.Pnl.Calculator
import SeeMirai.Pnl.Seeds
import SeeMirai.Pnl.Coverage
import SeeMirai.Pnl.SnapshotOrder
import SeeMirai.Pnl.OrderIndependence
import SeeMirai.Pnl.Completeness
import SeeMirai.Pnl.DailyReport
import SeeMirai.Shared.Orders
import SeeMirai.Paper.FillSimulator
import SeeMirai.Paper.Broker
import SeeMirai.Paper.Solvency
import SeeMirai.Paper.Idempotency
import SeeMirai.Shared.StateMachines
import SeeMirai.KillSwitch.Control
import SeeMirai.KillSwitch.Runs
import SeeMirai.Reconcile.Snapshots
import SeeMirai.Reconcile.OrderPolicy
import SeeMirai.Reconcile.Engine
import SeeMirai.Reconcile.Worker
import SeeMirai.Reconcile.Matching
import SeeMirai.Reconcile.LoopRun
import SeeMirai.Reconcile.Advancement
import SeeMirai.Reconcile.CleanCompleteness
import SeeMirai.Reconcile.TradeEvents
import SeeMirai.Reconcile.Untracked
import SeeMirai.Execution.Validation
import SeeMirai.Execution.InFlight
import SeeMirai.Paper.FingerprintSoundness
import SeeMirai.Paper.ExecutionPersistence
import SeeMirai.Paper.PersistedOrders
import SeeMirai.Paper.FillConservation
import SeeMirai.Market.Replay
import SeeMirai.Market.DataStore
import SeeMirai.Risk.Gate
import SeeMirai.Risk.Runtime
import SeeMirai.Execution.EvidenceFactory
import SeeMirai.Execution.Positions
import SeeMirai.Exit.Submission
import SeeMirai.Live.EntryPreflight
import SeeMirai.Live.EntryRuntime
import SeeMirai.Live.EntryBudget
import SeeMirai.Jobs.Queue
import SeeMirai.Jobs.QueueRuns
import SeeMirai.Alerts.Cooldown
import SeeMirai.Alerts.StoreAgreement
import SeeMirai.Alerts.Dispatch
import SeeMirai.Alerts.Leases
import SeeMirai.Alerts.LeaseRuns
import SeeMirai.Alerts.DispatchSends
import SeeMirai.Alerts.RetryRuntime
import SeeMirai.Alerts.RetryRuns
import SeeMirai.Live.Autonomous24x7
import SeeMirai.Live.ExitGuard
import SeeMirai.Live.AutonomousOrders
import SeeMirai.Live.ChunkedExit
import SeeMirai.Live.ExitAttempt
import SeeMirai.Decision.Runner
import SeeMirai.Decision.Ledger
import SeeMirai.Decision.LedgerRuns
import SeeMirai.Decision.LedgerKeys
import SeeMirai.Decision.CostModel
import SeeMirai.Decision.Submissions
import SeeMirai.Decision.Metrics
import SeeMirai.Decision.PaperPnl
import SeeMirai.Decision.PnlRuns
import SeeMirai.Decision.CalibrationChecks
import SeeMirai.Decision.CalibrationRuns
import SeeMirai.Universe.Eligibility
import SeeMirai.Universe.Resolver
import SeeMirai.Universe.AuditLog
import SeeMirai.Exit.Sizing
import SeeMirai.Lib.GreedyFill
import SeeMirai.Paper.ExecutableDepth
import SeeMirai.Pnl.OpeningCheck
import SeeMirai.Pnl.PaperSummary
import SeeMirai.Approval.SubmissionRecheck
import SeeMirai.Lib.UnionFind
import SeeMirai.Reconcile.OrderComponents
import SeeMirai.Reconcile.BalanceLock
import SeeMirai.Lib.JsonValue
import SeeMirai.Lib.IsoTimestamp
import SeeMirai.Approval.Fingerprint
import SeeMirai.Lib.PercentEncoding
import SeeMirai.Lib.Calendar
import SeeMirai.Upbit.QueryString
import SeeMirai.Alerts.FingerprintText
import SeeMirai.Market.TimestampInstant
import SeeMirai.Lib.Words
import SeeMirai.Lib.AsciiCase
import SeeMirai.Telegram.CommandParser
import SeeMirai.Lib.Pagination
import SeeMirai.Upbit.PrivateOrders
import SeeMirai.Upbit.OpenOrders
import SeeMirai.Upbit.SubmitOrder
import SeeMirai.Pnl.SnapshotCover
import SeeMirai.Lib.PromiseChain
import SeeMirai.Alerts.FailureStateLock
import SeeMirai.Lib.Transaction
import SeeMirai.Paper.OrderStore
import SeeMirai.Lib.RoundedSums
import SeeMirai.Paper.OrderTables
import SeeMirai.Approval.ProposalStore
import SeeMirai.Approval.CommandRuntime
import SeeMirai.Approval.CommandRuns
import SeeMirai.Approval.Submissions
import SeeMirai.Lib.Digest
import SeeMirai.Telegram.InboundRuntime
import SeeMirai.Telegram.InboundRuns
import SeeMirai.Telegram.ControlSafety
import SeeMirai.Lib.DateTime
import SeeMirai.DailyReport.Window
