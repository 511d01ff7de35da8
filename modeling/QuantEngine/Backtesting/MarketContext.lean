import QuantEngine.Library.Decimal
import QuantEngine.Market.MarketState
import QuantEngine.Signals.Models
import QuantEngine.Signals.SignalEngine

set_option autoImplicit false

namespace QuantEngine.Backtesting

open QuantEngine.Calendar QuantEngine.Timeframes QuantEngine.Candles
open QuantEngine.MarketState (MarketStateStore)

-- The store as a backtest uses it, read through a service without feed and with
-- an empty cache: no trades and no books.
structure LiveMarket where
  store : MarketStateStore
  tickers : Dict String MarketTicker
  lastUpdate : Dict String Moment

namespace LiveMarket

def new : LiveMarket := ⟨MarketState.new 500, Dict.empty, Dict.empty⟩

def updateCandle (market : LiveMarket) (candle : MarketCandle) : LiveMarket :=
  { market with store := MarketState.updateCandle market.store candle }

def updateTicker (market : LiveMarket) (ticker : MarketTicker) : LiveMarket :=
  { market with
    tickers := market.tickers.insert ticker.symbol ticker
    lastUpdate := market.lastUpdate.insert ticker.symbol ticker.localTs }

def getTicker (market : LiveMarket) (symbol : String) : Option MarketTicker := market.tickers.lookup (upper symbol)

def getLastPrice (market : LiveMarket) (symbol : String) : Option ℚ := (market.getTicker symbol).map MarketTicker.mid

def getCandles (market : LiveMarket) (symbol : String) (timeframe : Timeframe) (limit : Int) : List MarketCandle :=
  MarketState.candles market.store symbol timeframe limit

def stalenessSeconds (market : LiveMarket) (symbol : String) (now : Moment) : Option ℚ :=
  (market.lastUpdate.lookup (upper symbol)).map (fun last => SignalEngine.secondsBetween last now)

end LiveMarket

-- The features of the context, from the market that the feature store holds.
namespace Features

variable (market : LiveMarket) (symbol : String)

def lastPrice : Option ℚ := market.getLastPrice symbol

def spreadBps : Option ℚ :=
  (market.getTicker symbol).map (fun ticker =>
    if ticker.mid = 0 then 0 else (ticker.ask - ticker.bid) / ticker.mid * 10000)

def trueRanges : List MarketCandle → List ℚ
  | prev :: curr :: rest =>
      max (max (curr.high - curr.low) |curr.high - prev.close|) |curr.low - prev.close| :: trueRanges (curr :: rest)
  | _ => []

def atr (timeframe : Timeframe) : Option ℚ :=
  let ranges := Deque.newest 14 (trueRanges (market.getCandles symbol timeframe 15))
  if ranges = [] then none else some (ranges.sum / ranges.length)

def atrPct (timeframe : Timeframe) : Option ℚ :=
  match atr market symbol timeframe, lastPrice market symbol with
  | some atr, some price => if price ≤ 0 then none else some (atr / price * 100)
  | _, _ => none

def volume (timeframe : Timeframe) : Option ℚ :=
  match market.getCandles symbol timeframe 20 with
  | [] => none
  | candles => some (candles.map MarketCandle.volume).sum

end Features

inductive Regime where
  | trending
  | ranging
  | expansion
  | compression
  | breakout
  | reversal
  | highVolatility
  | lowVolatility
  | unknown
  deriving DecidableEq

def Regime.value : Regime → String
  | .trending => "trending"
  | .ranging => "ranging"
  | .expansion => "expansion"
  | .compression => "compression"
  | .breakout => "breakout"
  | .reversal => "reversal"
  | .highVolatility => "high_volatility"
  | .lowVolatility => "low_volatility"
  | .unknown => "unknown"

structure QuantRegimeSettings where
  timeframe : Timeframe := .m1
  lookback : Int := 50
  trendingEfficiency : ℚ := 35 / 100
  expansionRatio : ℚ := 14 / 10
  compressionRatio : ℚ := 7 / 10
  breakoutLookback : Int := 20

structure RegimeState where
  symbol : String
  primary : Regime
  tags : List Regime := []
  metrics : List (String × ℚ) := []
  detectedAt : Moment

namespace RegimeDetector

variable (settings : QuantRegimeSettings)

-- The slice `values[-lookback - 1:-1]`.
def priorWindow (lookback : Int) (values : List ℚ) : List ℚ :=
  let start : Int := if 0 ≤ lookback then values.length - lookback - 1 else -lookback - 1
  values.dropLast.drop start.toNat

def path : List ℚ → ℚ
  | a :: b :: rest => |b - a| + path (b :: rest)
  | _ => 0

def flag (holds : Bool) : ℚ := if holds then 1 else 0

-- `max` and `min` raise over an empty window.
def classify (symbol : String) (candles : List MarketCandle) (now : Moment) : Option RegimeState :=
  let count := candles.length
  if count < 10 then
    some { symbol := symbol, primary := .unknown, metrics := [("candles", count)], detectedAt := now }
  else
    let closes := candles.map MarketCandle.close
    let ranges := candles.map (fun candle => candle.high - candle.low)
    let first := closes.headD 0
    let last := closes.getLastD 0
    let middle := closes.getD (count / 2) 0
    let length := path closes
    let efficiency := if 0 < length then |last - first| / length else 0
    let short := Deque.newest 5 ranges
    let atrShort := short.sum / short.length
    let atrLong := ranges.sum / ranges.length
    let volRatio := if 0 < atrLong then atrShort / atrLong else 1
    let lookback := min settings.breakoutLookback (count - 1)
    match (priorWindow lookback (candles.map MarketCandle.high)).max?,
      (priorWindow lookback (candles.map MarketCandle.low)).min? with
    | some priorHigh, some priorLow =>
        let breakoutUp := decide (priorHigh < last)
        let breakoutDown := decide (last < priorLow)
        let firstLeg := middle - first
        let lastLeg := last - middle
        let reversal := decide (efficiency < settings.trendingEfficiency ∧ atrLong < |firstLeg| ∧
          atrLong / 2 < |lastLeg| ∧ ¬ (0 < firstLeg ↔ 0 < lastLeg))
        let tags := if settings.expansionRatio ≤ volRatio then [.expansion, .highVolatility]
          else if volRatio ≤ settings.compressionRatio then [.compression, .lowVolatility] else []
        let primary := if breakoutUp || breakoutDown then .breakout
          else if reversal then .reversal
          else if settings.trendingEfficiency ≤ efficiency then .trending else .ranging
        some {
          symbol := symbol
          primary := primary
          tags := tags
          metrics := [("efficiency_ratio", Decimal.roundTo 4 efficiency), ("vol_ratio", Decimal.roundTo 4 volRatio),
            ("atr_short", Decimal.roundTo 8 atrShort), ("atr_long", Decimal.roundTo 8 atrLong),
            ("breakout_up", flag breakoutUp), ("breakout_down", flag breakoutDown), ("candles", count)]
          detectedAt := now }
    | _, _ => none

def detect (market : LiveMarket) (symbol : String) (now : Moment) : Option RegimeState :=
  classify settings (upper symbol) (market.getCandles (upper symbol) settings.timeframe settings.lookback) now

end RegimeDetector

structure QuantContextSettings where
  contextTimeframe : Timeframe := .m1
  sessionHours : List (String × Int × Int) := [("asia", 0, 9), ("europe", 7, 16), ("america", 13, 22)]
  maxSpreadBps : ℚ := 5
  minVolume : ℚ := 0
  atrPctLow : ℚ := 5 / 100
  atrPctHigh : ℚ := 8 / 10
  staleDataSeconds : ℚ := 30
  newsBlackouts : List (Moment × Moment) := []

-- The context with what only the strategies read of it.
structure FullContext where
  context : MarketContext
  generatedAt : Moment
  regimeState : RegimeState
  atr : Option ℚ
  lastPrice : Option ℚ

namespace MarketContextEngine

variable (settings : QuantContextSettings)

def activeSessions (moment : Moment) : List String :=
  let hour := hourOf moment
  (settings.sessionHours.filter (fun session => decide ((session.2.1 ≤ hour ∧ hour < session.2.2) ∨
    (session.2.2 < session.2.1 ∧ (session.2.1 ≤ hour ∨ hour < session.2.2))))).map Prod.fst

def inNewsBlackout (moment : Moment) : Bool :=
  settings.newsBlackouts.any (fun window => decide (window.1 ≤ moment ∧ moment ≤ window.2))

-- Without a feed the market is never connected. It divides by the threshold.
def dataQuality (market : LiveMarket) (symbol : String) (now : Moment) : Option ℚ :=
  match market.stalenessSeconds symbol now with
  | none => some 0
  | some staleness =>
      if staleness ≤ settings.staleDataSeconds then some (1 / 2)
      else if settings.staleDataSeconds = 0 then none
      else some (max 0 (min 1 (1 / 2 - min (1 / 2) ((staleness / settings.staleDataSeconds - 1) / 4))))

def volatilityOf (atrPct : Option ℚ) : VolatilityState :=
  match atrPct with
  | none => .normal
  | some atrPct => if settings.atrPctHigh ≤ atrPct then .high else if atrPct ≤ settings.atrPctLow then .low else .normal

-- The engine, its feature store and its regime detector each hold a market.
def build (regime : QuantRegimeSettings) (market features detector : LiveMarket) (symbol : String) (now : Moment) :
    Option FullContext :=
  let symbol := upper symbol
  let timeframe := settings.contextTimeframe
  let atrPct := Features.atrPct features symbol timeframe
  let spreadBps := Features.spreadBps features symbol
  let volume := Features.volume features symbol timeframe
  match RegimeDetector.detect regime detector symbol now, dataQuality settings market symbol now with
  | some state, some quality => some {
      context := {
        symbol := symbol
        regime := some state.primary.value
        sessions := activeSessions settings now
        volatility := volatilityOf settings atrPct
        atrPct := atrPct
        spreadBps := spreadBps
        spreadElevated := spreadBps.any (fun spread => decide (settings.maxSpreadBps < spread))
        volumeRecent := volume
        volumeSufficient := volume.all (fun volume => decide (settings.minVolume ≤ volume))
        newsBlackout := inNewsBlackout settings now
        dataQuality := quality }
      generatedAt := now
      regimeState := state
      atr := Features.atr features symbol timeframe
      lastPrice := Features.lastPrice features symbol }
  | _, _ => none

end MarketContextEngine

end QuantEngine.Backtesting
