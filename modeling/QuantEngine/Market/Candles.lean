import Mathlib.Algebra.Order.Ring.Rat
import QuantEngine.Library.Dict
import QuantEngine.Market.Timeframes

set_option autoImplicit false

namespace QuantEngine.Candles

open QuantEngine.Calendar QuantEngine.Timeframes

inductive TradeSide where
  | buy
  | sell
  | unknown
deriving DecidableEq

structure Trade where
  symbol : String
  provider : String
  tradeId : String
  price : Rat
  size : Rat
  side : TradeSide
  exchangeTs : Moment
  localTs : Moment
deriving DecidableEq

def Trade.notional (trade : Trade) : Rat := trade.price * trade.size

structure MarketTicker where
  symbol : String
  provider : String
  bid : Rat
  ask : Rat
  last : Option Rat
  exchangeTs : Moment
  localTs : Moment

def MarketTicker.mid (ticker : MarketTicker) : Rat := (ticker.bid + ticker.ask) / 2

-- One price point to fold: a trade or a quote.
structure Point where
  symbol : String
  provider : String
  exchangeTs : Moment
  price : Rat
  size : Rat
  side : Option TradeSide
  notional : Option Rat
deriving DecidableEq

-- `folded` is a ghost in both: the points that went in, which no code reads.
structure MarketCandle where
  symbol : String
  provider : String
  timeframe : Timeframe
  start : Moment
  end_ : Moment
  open_ : Rat
  high : Rat
  low : Rat
  close : Rat
  volume : Rat
  buyVolume : Rat
  sellVolume : Rat
  vwap : Rat
  trades : Nat
  closed : Bool
  source : String
  folded : List Point

structure Building where
  symbol : String
  provider : String
  timeframe : Timeframe
  start : Moment
  end_ : Moment
  open_ : Rat
  high : Rat
  low : Rat
  close : Rat
  volume : Rat
  buyVolume : Rat
  sellVolume : Rat
  notional : Rat
  trades : Nat
  folded : List Point

def Building.addPoint (building : Building) (point : Point) : Building :=
  { building with
    high := max building.high point.price
    low := min building.low point.price
    close := point.price
    volume := building.volume + point.size
    notional := building.notional + point.notional.getD (point.price * point.size)
    trades := building.trades + 1
    buyVolume := if point.side = some .buy then building.buyVolume + point.size else building.buyVolume
    sellVolume := if point.side = some .sell then building.sellVolume + point.size else building.sellVolume
    folded := building.folded ++ [point] }

def Building.freeze (building : Building) (closed : Bool) : MarketCandle where
  symbol := building.symbol
  provider := building.provider
  timeframe := building.timeframe
  start := building.start
  end_ := building.end_
  open_ := building.open_
  high := building.high
  low := building.low
  close := building.close
  volume := building.volume
  buyVolume := building.buyVolume
  sellVolume := building.sellVolume
  vwap := if 0 < building.volume then building.notional / building.volume else building.close
  trades := building.trades
  closed := closed
  source := "aggregated"
  folded := building.folded

structure CandleAggregator where
  timeframes : List Frame
  building : Dict (String × Frame) Building
  closedCount : Nat

-- TICK is ignored.
def framesOf (timeframes : List Timeframe) : List Frame :=
  timeframes.filterMap (fun timeframe => if framed : timeframe ≠ .tick then some ⟨timeframe, framed⟩ else none)

def CandleAggregator.new (timeframes : List Timeframe) : CandleAggregator :=
  ⟨framesOf timeframes, Dict.empty, 0⟩

def openBuilding (frame : Frame) (point : Point) : Building where
  symbol := point.symbol
  provider := point.provider
  timeframe := frame.1
  start := frame.start point.exchangeTs
  end_ := frame.stop (frame.start point.exchangeTs)
  open_ := point.price
  high := point.price
  low := point.price
  close := point.price
  volume := 0
  buyVolume := 0
  sellVolume := 0
  notional := 0
  trades := 0
  folded := []

-- What one pass of the loop of `_fold` closes and what it leaves in building.
def foldInto (found : Option Building) (frame : Frame) (point : Point) : List MarketCandle × Building :=
  match found with
  | none => ([], (openBuilding frame point).addPoint point)
  | some building =>
      if building.end_ ≤ point.exchangeTs then ([building.freeze true], (openBuilding frame point).addPoint point)
      else ([], building.addPoint point)

def foldFrame (point : Point) (state : List MarketCandle × CandleAggregator) (frame : Frame) : List MarketCandle × CandleAggregator :=
  let key := (point.symbol, frame)
  let turn := foldInto (state.2.building.lookup key) frame point
  (state.1 ++ turn.1,
    { state.2 with
      building := state.2.building.insert key turn.2
      closedCount := state.2.closedCount + turn.1.length })

def fold (aggregator : CandleAggregator) (point : Point) : List MarketCandle × CandleAggregator :=
  aggregator.timeframes.foldl (foldFrame point) ([], aggregator)

def tradePoint (trade : Trade) : Point :=
  ⟨trade.symbol, trade.provider, trade.exchangeTs, trade.price, trade.size, some trade.side, some trade.notional⟩

def addTrade (aggregator : CandleAggregator) (trade : Trade) : List MarketCandle × CandleAggregator :=
  fold aggregator (tradePoint trade)

-- A last price of zero is no last price.
def tickerPrice (ticker : MarketTicker) : Rat :=
  match ticker.last with
  | some last => if last = 0 then ticker.mid else last
  | none => ticker.mid

def addTicker (aggregator : CandleAggregator) (ticker : MarketTicker) : List MarketCandle × CandleAggregator :=
  if tickerPrice ticker ≤ 0 then ([], aggregator)
  else fold aggregator ⟨ticker.symbol, ticker.provider, ticker.exchangeTs, tickerPrice ticker, 1, none, none⟩

def buildingCandle (aggregator : CandleAggregator) (symbol : String) (frame : Frame) : Option MarketCandle :=
  (aggregator.building.lookup (symbol, frame)).map (fun building => building.freeze false)

def flushStale (aggregator : CandleAggregator) (now : Moment) : List MarketCandle × CandleAggregator :=
  let stale := aggregator.building.entries.filter (fun entry => decide (entry.2.end_ ≤ now))
  (stale.map (fun entry => entry.2.freeze true),
    { aggregator with
      building := aggregator.building.filter (fun entry => !decide (entry.2.end_ ≤ now))
      closedCount := aggregator.closedCount + stale.length })

end QuantEngine.Candles
