import QuantEngine.Execution.Tasks
import QuantEngine.Market.MarketState

set_option autoImplicit false

namespace QuantEngine.BacktestEngine

open Calendar (Moment)
open Candles (MarketCandle)
open Decimal (roundTo)

structure HistoricalMarket where
  store : MarketState.MarketStateStore
  tickers : Dict String Ticker

namespace HistoricalMarket

def new : HistoricalMarket := ⟨MarketState.new 10000, .empty⟩

def pushCandle (market : HistoricalMarket) (candle : MarketCandle) : HistoricalMarket :=
  { market with store := MarketState.updateCandle market.store candle }

def pushPrice (market : HistoricalMarket) (symbol : String) (price spreadBps : ℚ) : HistoricalMarket :=
  let half := price * (spreadBps / 2) / 10000
  { market with
    tickers := market.tickers.insert (upper symbol) ⟨roundTo 8 (price - half), roundTo 8 (price + half)⟩ }

-- What the execution engine reads of a candle.
def bar (candle : MarketCandle) : Candle := ⟨candle.high, candle.low, candle.close⟩

def series (market : HistoricalMarket) (symbol : String) : List MarketCandle :=
  MarketState.seriesAt market.store (upper symbol, .m1)

def service (market : HistoricalMarket) : Market where
  tickers symbol := market.tickers.lookup (upper symbol)
  candles symbol := (market.series symbol).map bar

end HistoricalMarket

-- A source keeps a state of its own.
structure DecisionSource (σ : Type) where
  reset : σ → σ
  decide : σ → String → List MarketCandle → Nat → Option DecisionGenerated × σ

structure BacktestConfig where
  symbol : String
  initialBalance : ℚ := 10000
  spreadBps : ℚ := 2

structure EquityPoint where
  timestamp : Moment
  equity : ℚ
  balance : ℚ
  drawdownPct : ℚ
  openPositions : Nat
  deriving DecidableEq

structure BacktestResult where
  trades : List TradeRecord
  equityCurve : List EquityPoint
  bars : Nat
  finalEquity : ℚ
  finalBalance : ℚ

-- The settings of a run. The random generators of the broker are part of it.
structure Backtest (σ : Type) where
  execution : ExecutionSettings
  paper : PaperBroker
  source : DecisionSource σ
  config : BacktestConfig

structure Replay (σ : Type) where
  market : HistoricalMarket
  world : World PaperState
  source : σ
  equityCurve : List EquityPoint

def ohlcPath (candle : MarketCandle) : List ℚ :=
  if candle.open_ ≤ candle.close then [candle.open_, candle.low, candle.high, candle.close]
  else [candle.open_, candle.high, candle.low, candle.close]

namespace Backtest

variable {σ : Type} (backtest : Backtest σ)

def settings : ExecutionSettings := { backtest.execution with initialBalance := backtest.config.initialBalance }

-- `build_execution_stack`: no bus, no context, and the journal in memory only.
def engine : ExecutionEngine PaperState := ⟨backtest.settings, backtest.paper.broker, false⟩

def start (source : σ) (now : Moment) : Replay σ where
  market := .new
  world := .fresh backtest.settings { hasPath := false, persist := false } none {} HistoricalMarket.new.service now
  source := backtest.source.reset source
  equityCurve := []

-- A task of an engine without context never waits.
def perform (task : Flow PaperState Unit) (world : World PaperState) : World PaperState :=
  (task world).finish (fun _ => none)

def openBar (candle : MarketCandle) (replay : Replay σ) : Replay σ :=
  let market := replay.market.pushCandle candle
  { replay with market := market, world := { replay.world with now := candle.end_, market := market.service } }

def walk (replay : Replay σ) (price : ℚ) : Replay σ :=
  let market := replay.market.pushPrice backtest.config.symbol price backtest.config.spreadBps
  { replay with
    market := market
    world := perform backtest.engine.manageOnce { replay.world with market := market.service } }

def consult (candles : List MarketCandle) (index : Nat) (replay : Replay σ) : Replay σ :=
  let decided := backtest.source.decide replay.source backtest.config.symbol candles index
  let world := match decided.1 with
    | none => replay.world
    | some decision =>
        if decision.accepted then perform (backtest.engine.processDecision decision) replay.world else replay.world
  { replay with source := decided.2, world := world }

def sample (candle : MarketCandle) (replay : Replay σ) : Replay σ :=
  let snapshot := replay.world.portfolio.snapshot replay.world.openPositions replay.world.now
  { replay with
    world := { replay.world with portfolio := snapshot.2 }
    equityCurve := replay.equityCurve ++ [{
      timestamp := candle.end_
      equity := snapshot.1.equity
      balance := snapshot.1.balance
      drawdownPct := snapshot.1.drawdownPct
      openPositions := replay.world.openPositions.length }] }

def bar (candles : List MarketCandle) (replay : Replay σ) (entry : MarketCandle × Nat) : Replay σ :=
  let walked := (ohlcPath entry.1).foldl backtest.walk (openBar entry.1 replay)
  sample entry.1 (backtest.consult candles entry.2 walked)

-- The state after the first `count` bars.
def after (candles : List MarketCandle) (source : σ) (now : Moment) (count : Nat) : Replay σ :=
  (candles.take count).zipIdx.foldl (backtest.bar candles) (backtest.start source now)

theorem after_succ (candles : List MarketCandle) (source : σ) (now : Moment) (index : Nat) :
    backtest.after candles source now (index + 1) = match candles[index]? with
      | none => backtest.after candles source now index
      | some candle => backtest.bar candles (backtest.after candles source now index) (candle, index) := by
  cases here : candles[index]? with
  | none =>
      have beyond := List.getElem?_eq_none_iff.mp here
      simp only [after]
      rw [List.take_of_length_le (Nat.le_succ_of_le beyond), List.take_of_length_le beyond]
  | some candle =>
      obtain ⟨below, -⟩ := List.getElem?_eq_some_iff.mp here
      have taken : candles.take (index + 1) = candles.take index ++ [candle] := by
        rw [List.take_add_one, here]
        rfl
      have length : (candles.take index).length = index := List.length_take_of_le (Nat.le_of_lt below)
      simp only [after]
      rw [taken, List.zipIdx_append, List.foldl_append, length, Nat.zero_add]
      rfl

-- The positions that the data leave open are closed.
def liquidate (world : World PaperState) : World PaperState :=
  world.openIds.foldl (fun world id => perform (backtest.engine.closePosition id .manual []) world) world

def report (candles : List MarketCandle) (replay : Replay σ) : BacktestResult :=
  let world := backtest.liquidate replay.world
  let final := (world.portfolio.snapshot world.openPositions world.now).1
  { trades := world.journal.all
    equityCurve := replay.equityCurve
    bars := candles.length
    finalEquity := final.equity
    finalBalance := final.balance }

-- An empty series is refused with a `ValueError`.
def runAsync (candles : List MarketCandle) (source : σ) : Option BacktestResult :=
  match candles with
  | [] => none
  | first :: _ => some (backtest.report candles (backtest.after candles source first.start candles.length))

end Backtest

end QuantEngine.BacktestEngine
