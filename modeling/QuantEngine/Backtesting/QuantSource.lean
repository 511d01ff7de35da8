import QuantEngine.Backtesting.MarketContext
import QuantEngine.Signals.DecisionEngine

set_option autoImplicit false

namespace QuantEngine.Backtesting

open QuantEngine.Calendar QuantEngine.Timeframes QuantEngine.Candles
open DecisionEngine (begin_ submit)

inductive CadenceKind where
  | everyTick
  | everySecond
  | everyCandle
  | interval
  deriving DecidableEq

-- `features` is the market that the feature store given reads.
structure AnalysisContext where
  symbol : String
  firedAt : Moment
  trigger : String
  market : LiveMarket
  features : LiveMarket
  context : FullContext

-- A class of the library with its parameters: any function of the context.
structure Strategy where
  name : String
  symbols : List String
  timeframe : Timeframe
  cadence : CadenceKind
  enabled : Bool
  analyze : AnalysisContext → Option StrategySignal

inductive Component where
  | contextEngine
  | regimeDetector
  | featureStore
  | strategies
  deriving DecidableEq

structure Reading where
  component : Component
  market : LiveMarket

structure Settings where
  decisions : DecisionEngine
  context : QuantContextSettings := {}
  regime : QuantRegimeSettings := {}
  signals : SignalEngine := {}
  library : List Strategy

-- The markets built so far are a heap, and each component holds one by its
-- place there, as it was when the component was built. `readings` is a ghost:
-- what each component has read since the start of the bar.
structure QuantSource where
  symbol : String
  spreadFrac : ℚ
  heap : List LiveMarket
  state : Nat
  features : Nat
  contextMarket : Nat
  contextFeatures : Nat
  regimeMarket : Nat
  desk : Desk
  strategies : List Strategy
  initialized : Bool
  fedIndex : Int
  readings : List Reading

namespace QuantSource

def new (settings : Settings) (symbol : String) (spreadBps : ℚ) (now : Moment) : QuantSource where
  symbol := upper symbol
  spreadFrac := spreadBps / 10000
  heap := [LiveMarket.new]
  state := 0
  features := 0
  contextMarket := 0
  contextFeatures := 0
  regimeMarket := 0
  desk := { now := now, signals := settings.signals }
  strategies := []
  initialized := false
  fedIndex := -1
  readings := []

def marketAt (source : QuantSource) (place : Nat) : LiveMarket := (source.heap[place]?).getD LiveMarket.new

def loads (symbol : String) (strategy : Strategy) : Bool :=
  strategy.enabled && decide (strategy.timeframe = .m1) &&
    (strategy.symbols.isEmpty || decide (symbol ∈ strategy.symbols.map upper))

def ensureInitialized (settings : Settings) (source : QuantSource) : QuantSource :=
  if source.initialized then source
  else { source with
    strategies := source.strategies ++ settings.library.filter (loads source.symbol)
    initialized := true }

-- The market, its service and the feature store are new; the others keep what
-- they hold.
def reset (source : QuantSource) : QuantSource :=
  { source with
    fedIndex := -1
    heap := source.heap ++ [LiveMarket.new]
    state := source.heap.length
    features := source.heap.length }

def updateState (source : QuantSource) (change : LiveMarket → LiveMarket) : QuantSource :=
  { source with heap := source.heap.modify source.state change }

def tickerOf (source : QuantSource) (last : MarketCandle) (now : Moment) : MarketTicker :=
  let half := last.close * source.spreadFrac / 2
  ⟨source.symbol, "backtest", last.close - half, last.close + half, none, now, now⟩

def feedUpTo (source : QuantSource) (candles : List MarketCandle) (index : Nat) (now : Moment) : QuantSource :=
  let fresh := (candles.take (index + 1)).drop (source.fedIndex + 1).toNat
  let fed := { source.updateState (fun market => fresh.foldl LiveMarket.updateCandle market) with fedIndex := index }
  match candles[index]? with
  | none => fed
  | some last => fed.updateState (fun market => market.updateTicker (source.tickerOf last now))

def buildContext (settings : Settings) (source : QuantSource) (symbol : String) : Option FullContext × QuantSource :=
  let market := source.marketAt source.contextMarket
  let features := source.marketAt source.contextFeatures
  let detector := source.marketAt source.regimeMarket
  (MarketContextEngine.build settings.context settings.regime market features detector symbol source.desk.now,
    { source with
      readings := source.readings ++
        [⟨.featureStore, features⟩, ⟨.regimeDetector, detector⟩, ⟨.contextEngine, market⟩] })

def applies (symbol : String) (strategy : Strategy) : Bool :=
  (strategy.symbols.isEmpty || decide (symbol ∈ strategy.symbols.map upper)) && decide (strategy.cadence = .everyCandle)

def analyzing (source : QuantSource) (symbol : String) (context : FullContext) (strategy : Strategy) :
    Option StrategySignal × QuantSource :=
  let market := source.marketAt source.state
  let features := source.marketAt source.features
  (strategy.analyze ⟨symbol, source.desk.now, "candle:1m", market, features, context⟩,
    { source with readings := source.readings ++ [⟨.strategies, market⟩, ⟨.featureStore, features⟩] })

-- One evaluation of the decision engine, which builds the context again.
def evaluate (settings : Settings) (source : QuantSource) (symbol : String) : Option Decision × QuantSource :=
  let begun := begin_ symbol source.desk
  let built := buildContext settings { source with desk := begun.2 } begun.1.symbol
  match built.1 with
  | none => (none, built.2)
  | some full =>
      let concluded := settings.decisions.conclude begun.1 { full.context with symbol := begun.1.symbol } built.2.desk
      (some concluded.1, { built.2 with desk := concluded.2 })

inductive Turn where
  | through
  | decided (decision : Decision)
  | raised

def opens (decision : Decision) : Bool :=
  decision.accepted && (decide (decision.action.value = "open_long") || decide (decision.action.value = "open_short"))

def judge (settings : Settings) (source : QuantSource) (symbol : String) (signal : StrategySignal) : Turn × QuantSource :=
  let submitted := submit signal source.desk
  let after := { source with desk := submitted.2 }
  if submitted.1 then
    match evaluate settings after symbol with
    | (none, later) => (.raised, later)
    | (some decision, later) => (if opens decision then .decided decision else .through, later)
  else (.through, after)

def consult (settings : Settings) (source : QuantSource) (symbol : String) (strategy : Strategy) : Turn × QuantSource :=
  if applies symbol strategy then
    match buildContext settings source symbol with
    | (none, later) => (.raised, later)
    | (some context, later) =>
        match analyzing later symbol context strategy with
        | (none, after) => (.through, after)
        | (some signal, after) => judge settings after symbol signal
  else (.through, source)

def consultAll (settings : Settings) (symbol : String) : QuantSource → List Strategy → Turn × QuantSource
  | source, [] => (.through, source)
  | source, strategy :: rest =>
      match consult settings source symbol strategy with
      | (.through, later) => consultAll settings symbol later rest
      | ended => ended

def generated (symbol : String) (decision : Decision) : DecisionGenerated where
  decisionId := toString decision.decisionId
  symbol := symbol
  action := decision.action.value
  accepted := true
  score := decision.score
  confidence := decision.confidence
  summary := decision.explanation.headD ""

def decideAsync (settings : Settings) (source : QuantSource) (symbol : String) (candles : List MarketCandle) (index : Nat)
    (now : Moment) : Turn × QuantSource :=
  let ready := ensureInitialized settings { source with desk := { source.desk with now := now }, readings := [] }
  let fed := feedUpTo ready candles index now
  consultAll settings symbol fed fed.strategies

-- A bar: what was decided, `none` where it raises, and what was read.
structure Bar where
  decision : Option (Option DecisionGenerated)
  readings : List Reading

def bar (symbol : String) (turn : Turn × QuantSource) : Bar where
  decision := match turn.1 with
    | .through => some none
    | .decided decision => some (some (generated symbol decision))
    | .raised => none
  readings := turn.2.readings

-- The clock of a run stands at the end of the candle.
def bars (settings : Settings) (symbol : String) (candles : List MarketCandle) :
    QuantSource → List (Nat × MarketCandle) → List Bar × QuantSource
  | source, [] => ([], source)
  | source, (index, candle) :: rest =>
      let turn := decideAsync settings source symbol candles index candle.end_
      match turn.1 with
      | .raised => ([bar symbol turn], turn.2)
      | _ =>
          let later := bars settings symbol candles turn.2 rest
          (bar symbol turn :: later.1, later.2)

structure Backtest where
  symbol : String
  candles : List MarketCandle

def enumerate (candles : List MarketCandle) : List (Nat × MarketCandle) := candles.zipIdx.map Prod.swap

-- It raises without candles.
def runAsync (settings : Settings) (source : QuantSource) (run : Backtest) : List Bar × QuantSource :=
  if run.candles = [] then ([], source)
  else bars settings (upper run.symbol) run.candles source.reset (enumerate run.candles)

def after (settings : Settings) (source : QuantSource) (runs : List Backtest) : QuantSource :=
  runs.foldl (fun source run => (runAsync settings source run).2) source

end QuantSource

end QuantEngine.Backtesting
