import QuantEngine.Library.Extended
import QuantEngine.Market.Validator

set_option autoImplicit false

namespace QuantEngine.FloatValidator

open Calendar
open Validator (QualityIssueType QualityIssue issueIf shouldDiscard)

-- The objects with the numbers that `as_float` gives, which takes "NaN" and
-- "inf" as numbers too.
structure Trade where
  symbol : String
  tradeId : String
  price : Extended
  size : Extended
  exchangeTs : Moment
  localTs : Moment

structure Ticker where
  symbol : String
  bid : Extended
  ask : Extended
  bidSize : Extended
  askSize : Extended
  last : Option Extended
  markPrice : Option Extended
  indexPrice : Option Extended
  exchangeTs : Moment
  localTs : Moment

structure Candle where
  symbol : String
  start : Moment
  end_ : Moment
  open_ : Extended
  high : Extended
  low : Extended
  close : Extended
  volume : Extended
  buyVolume : Extended
  sellVolume : Extended
  vwap : Extended

structure DepthLevel where
  price : Extended
  size : Extended

structure OrderBookDelta where
  symbol : String
  bids : List DepthLevel
  asks : List DepthLevel

structure Liquidation where
  symbol : String
  price : Extended
  size : Extended
  exchangeTs : Moment
  localTs : Moment

structure SymbolTrack where
  lastTradeTs : Option Moment
  lastPrice : Option Extended
  recentIds : List String

structure DataValidator where
  maxJump : Extended
  maxVolume : Extended
  futureTolerance : Int
  stale : Int
  dupWindow : Nat
  oooGrace : Int
  tracks : Dict String SymbolTrack

def zero : Extended := .finite 0

-- Datetimes carry their zone here, so none is naive.
def timestampChecks (v : DataValidator) (symbol : String) (exchangeTs localTs : Moment) : List QualityIssue :=
  if localTs + v.futureTolerance < exchangeTs then [⟨.futureTimestamp, symbol, true⟩]
  else issueIf (v.stale < localTs - exchangeTs) .staleTimestamp symbol false

def commonChecks (v : DataValidator) (symbol : String) (price : Extended) (exchangeTs localTs : Moment) :
    List QualityIssue :=
  timestampChecks v symbol exchangeTs localTs ++ issueIf (price.le zero) .negativePrice symbol true

def sizeChecks (v : DataValidator) (trade : Trade) : List QualityIssue :=
  if trade.size.lt zero then [⟨.negativeSize, trade.symbol, true⟩]
  else issueIf (v.maxVolume.lt trade.size) .impossibleVolume trade.symbol true

def track (v : DataValidator) (symbol : String) : SymbolTrack := (v.tracks.lookup symbol).getD ⟨none, none, []⟩

def seenId (known : SymbolTrack) (trade : Trade) : Prop := trade.tradeId ≠ "" ∧ trade.tradeId ∈ known.recentIds

instance (known : SymbolTrack) (trade : Trade) : Decidable (seenId known trade) := inferInstanceAs (Decidable (_ ∧ _))

def rememberId (v : DataValidator) (known : SymbolTrack) (trade : Trade) : List String :=
  if trade.tradeId = "" ∨ trade.tradeId ∈ known.recentIds then known.recentIds
  else Deque.push v.dupWindow known.recentIds trade.tradeId

def late (v : DataValidator) (known : SymbolTrack) (trade : Trade) : Bool :=
  match known.lastTradeTs with
  | none => false
  | some last => decide (trade.exchangeTs < last - v.oooGrace)

-- The last price is above zero wherever it is divided by.
def jumpPct (price last : Extended) : Extended :=
  match (Floats.abs (price.add last.neg)).div last with
  | .ok ratio => ratio.mul (.finite 100)
  | .error _ => .nan

def jumps (v : DataValidator) (known : SymbolTrack) (trade : Trade) : Bool :=
  match known.lastPrice with
  | none => false
  | some last => zero.lt last && zero.lt trade.price && v.maxJump.lt (jumpPct trade.price last)

def tradeIssues (v : DataValidator) (trade : Trade) : List QualityIssue :=
  let known := track v trade.symbol
  commonChecks v trade.symbol trade.price trade.exchangeTs trade.localTs ++ sizeChecks v trade ++
    issueIf (seenId known trade) .duplicate trade.symbol true ++
    issueIf (late v known trade) .outOfOrder trade.symbol true ++
    issueIf (jumps v known trade) .priceGap trade.symbol true

def latest (known : SymbolTrack) (trade : Trade) : Moment :=
  match known.lastTradeTs with
  | none => trade.exchangeTs
  | some last => max last trade.exchangeTs

def validateTrade (v : DataValidator) (trade : Trade) : List QualityIssue × DataValidator :=
  let known := track v trade.symbol
  let issues := tradeIssues v trade
  let remembered := { known with recentIds := rememberId v known trade }
  let kept := if shouldDiscard issues then remembered
    else { remembered with lastTradeTs := some (latest known trade), lastPrice := some trade.price }
  (issues, { v with tracks := v.tracks.insert trade.symbol kept })

def validateTicker (v : DataValidator) (ticker : Ticker) : List QualityIssue :=
  commonChecks v ticker.symbol ticker.bid ticker.exchangeTs ticker.localTs ++
    (if ticker.ask.le zero then [⟨.negativePrice, ticker.symbol, true⟩]
    else issueIf (zero.lt ticker.bid ∧ ticker.ask.lt ticker.bid) .crossedBook ticker.symbol true)

def malformed (candle : Candle) : Prop :=
  candle.high.lt (Floats.maxOf candle.open_ [candle.close]) ∨ (Floats.minOf candle.open_ [candle.close]).lt candle.low ∨
    candle.high.lt candle.low

instance (candle : Candle) : Decidable (malformed candle) := inferInstanceAs (Decidable (_ ∨ _ ∨ _))

def validateCandle (v : DataValidator) (candle : Candle) : List QualityIssue :=
  issueIf (malformed candle) .malformedCandle candle.symbol true ++
    issueIf ((Floats.minOf candle.open_ [candle.high, candle.low, candle.close]).le zero) .negativePrice
      candle.symbol true ++
    issueIf (candle.volume.lt zero ∨ v.maxVolume.lt candle.volume) .impossibleVolume candle.symbol true ++
    issueIf (candle.end_ ≤ candle.start) .invalidTimestamp candle.symbol true

-- The loop leaves at the first level it objects to.
def levelIssues (symbol : String) : List DepthLevel → List QualityIssue
  | [] => []
  | level :: rest =>
      if level.price.le zero then [⟨.negativePrice, symbol, true⟩]
      else if level.size.lt zero then [⟨.negativeSize, symbol, true⟩]
      else levelIssues symbol rest

def validateBookDelta (delta : OrderBookDelta) : List QualityIssue :=
  levelIssues delta.symbol (delta.bids ++ delta.asks)

def validateLiquidation (v : DataValidator) (liq : Liquidation) : List QualityIssue :=
  commonChecks v liq.symbol liq.price liq.exchangeTs liq.localTs ++
    issueIf (liq.size.lt zero) .negativeSize liq.symbol true

inductive MarketObject where
  | trade (trade : Trade)
  | ticker (ticker : Ticker)
  | candle (candle : Candle)
  | bookDelta (delta : OrderBookDelta)
  | liquidation (liq : Liquidation)

def validate (v : DataValidator) : MarketObject → List QualityIssue × DataValidator
  | .trade trade => validateTrade v trade
  | .ticker ticker => (validateTicker v ticker, v)
  | .candle candle => (validateCandle v candle, v)
  | .bookDelta delta => (validateBookDelta delta, v)
  | .liquidation liq => (validateLiquidation v liq, v)

def step (v : DataValidator) (object : MarketObject) : DataValidator := (validate v object).2

-- `DataValidator(...)`, which has seen nothing.
def fresh (maxJump maxVolume : Extended) (futureTolerance stale : Int) (dupWindow : Nat) (oooGrace : Int) :
    DataValidator :=
  ⟨maxJump, maxVolume, futureTolerance, stale, dupWindow, oooGrace, .empty⟩

theorem jump_pct_finite (price last : ℚ) (positive : 0 < last) :
    jumpPct (.finite price) (.finite last) = .finite (|price - last| / last * 100) := by
  rw [jumpPct, Extended.add_neg_finite, Extended.abs_finite]
  simp [Extended.div, Extended.isZero, positive.ne', Extended.mul]

end QuantEngine.FloatValidator
