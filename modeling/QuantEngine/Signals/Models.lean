import QuantEngine.Execution.Models

set_option autoImplicit false

namespace QuantEngine

open Calendar (Moment)

inductive Direction where
  | long
  | short
  | neutral
  deriving DecidableEq

def Direction.value : Direction → String
  | .long => "long"
  | .short => "short"
  | .neutral => "neutral"

inductive DecisionAction where
  | openLong
  | openShort
  | standAside
  deriving DecidableEq

def DecisionAction.value : DecisionAction → String
  | .openLong => "open_long"
  | .openShort => "open_short"
  | .standAside => "stand_aside"

inductive SignalStatus where
  | pending
  | accepted
  | rejected
  | expired
  | superseded
  deriving DecidableEq

inductive VolatilityState where
  | low
  | normal
  | high
  deriving DecidableEq

structure EntryZone where
  low : ℚ
  high : ℚ
  deriving DecidableEq

structure StrategySignal where
  signalId : String
  strategyName : String
  symbol : String
  timestamp : Moment
  direction : Direction
  confidence : ℚ
  score : ℚ
  entryZone : Option EntryZone := none
  stopLoss : Option ℚ := none
  takeProfit : Option ℚ := none
  riskReward : Option ℚ := none
  reasons : List String := []
  requiredConfirmation : Bool := false
  expiration : Option Moment := none
  deriving DecidableEq

def StrategySignal.priority (signal : StrategySignal) : ℚ := signal.score * signal.confidence

structure SignalRecord where
  signal : StrategySignal
  status : SignalStatus
  statusReasons : List String := []
  recordedAt : Moment
  resolvedAt : Option Moment := none
  deriving DecidableEq

structure MarketContext where
  symbol : String
  regime : Option String := none
  sessions : List String := []
  volatility : VolatilityState := .normal
  atrPct : Option ℚ := none
  spreadBps : Option ℚ := none
  spreadElevated : Bool := false
  volumeRecent : Option ℚ := none
  volumeSufficient : Bool := true
  newsBlackout : Bool := false
  dataQuality : ℚ := 0
  deriving DecidableEq

structure FilterResult where
  name : String
  passed : Bool
  reason : String := ""
  deriving DecidableEq

structure ConsensusResult where
  method : String
  symbol : String
  direction : Direction
  score : ℚ
  agreement : ℚ
  participants : List String := []
  reasons : List String := []
  deriving DecidableEq

-- The identifier is drawn from one counter, so that no two coincide.
structure Decision where
  decisionId : Nat
  symbol : String
  timestamp : Moment
  action : DecisionAction
  accepted : Bool
  score : ℚ
  confidence : ℚ
  agreement : ℚ
  consensus : Option ConsensusResult := none
  signalsConsidered : List String := []
  filtersBlocking : List String := []
  explanation : List String := []
  regime : String := "unknown"
  deriving DecidableEq

end QuantEngine
