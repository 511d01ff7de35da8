import QuantEngine.Analytics.ConsumedZones
import QuantEngine.Analytics.EqualLevels
import QuantEngine.Analytics.FourAtrs
import QuantEngine.Analytics.Repainting
import QuantEngine.Analytics.ValueArea
import QuantEngine.Backtesting.CleanSeries
import QuantEngine.Backtesting.EveryTrade
import QuantEngine.Backtesting.InsideTheBar
import QuantEngine.Backtesting.LevelFills
import QuantEngine.Backtesting.MonteCarlo
import QuantEngine.Backtesting.OneMarket
import QuantEngine.Backtesting.UnseenData
import QuantEngine.Backtesting.Versioning
import QuantEngine.Brokers.ClosingTicket
import QuantEngine.Brokers.LostConnection
import QuantEngine.Cache.CacheService
import QuantEngine.Core.Delivery
import QuantEngine.Dashboard.AtomicOverrides
import QuantEngine.Evaluation.BalancedCounters
import QuantEngine.Evaluation.VirtualOutcome
import QuantEngine.Execution.BalanceSync
import QuantEngine.Execution.BreakerAnnouncement
import QuantEngine.Execution.BreakerWindow
import QuantEngine.Execution.CashConservation
import QuantEngine.Execution.EntryAtomicity
import QuantEngine.Execution.EntryLimits
import QuantEngine.Execution.ExposureUnits
import QuantEngine.Execution.Flattening
import QuantEngine.Execution.PaperFills
import QuantEngine.Execution.RiskAtStop
import QuantEngine.Execution.SettleOnce
import QuantEngine.Execution.SizingCaps
import QuantEngine.Execution.StopTightening
import QuantEngine.Execution.TerminalOrders
import QuantEngine.Execution.TradeDocuments
import QuantEngine.Execution.TradeFiles
import QuantEngine.Execution.WinCounters
import QuantEngine.Learning.ActivationStack
import QuantEngine.Learning.Drift
import QuantEngine.Learning.Governance
import QuantEngine.Learning.KnownOutcomes
import QuantEngine.Learning.LeafFrequencies
import QuantEngine.Learning.Metrics
import QuantEngine.Learning.NoLookahead
import QuantEngine.Learning.Restart
import QuantEngine.Market.BookReplay
import QuantEngine.Market.CandleMerge
import QuantEngine.Market.Collector
import QuantEngine.Market.DepthTrim
import QuantEngine.Market.MarketFeed
import QuantEngine.Market.NaiveTimes
import QuantEngine.Market.NoBadNumbers
import QuantEngine.Market.StreamConnection
import QuantEngine.Monitoring.Supervision
import QuantEngine.Production.BackupRoundTrip
import QuantEngine.Production.DrawdownBaseline
import QuantEngine.Production.Exposition
import QuantEngine.Production.FailClosed
import QuantEngine.Production.Failover
import QuantEngine.Production.KillSwitch
import QuantEngine.Production.LeaseFile
import QuantEngine.Production.LiveMode
import QuantEngine.Production.PositionSnapshots
import QuantEngine.Production.RestartLimits
import QuantEngine.Production.RestoreIdempotence
import QuantEngine.Production.SafeExtract
import QuantEngine.Production.SafeMode
import QuantEngine.Production.ScheduledCutOff
import QuantEngine.Production.StateFiles
import QuantEngine.Research.InsideTheRange
import QuantEngine.Research.LogReplay
import QuantEngine.Research.MissingEvidence
import QuantEngine.Research.NoPeeking
import QuantEngine.Research.ParetoFront
import QuantEngine.Research.ShadowNeutral
import QuantEngine.Research.SoundPromotion
import QuantEngine.Research.Stats
import QuantEngine.Security.RateLimiter
import QuantEngine.Signals.AcceptedSignals
import QuantEngine.Signals.ConsideredSignals
import QuantEngine.Signals.CorrelationWindow
import QuantEngine.Signals.FairVote
import QuantEngine.Signals.FeatureStore
import QuantEngine.Signals.SignalConservation
import QuantEngine.Signals.StrategyEngine
import QuantEngine.Storage.NothingLost
