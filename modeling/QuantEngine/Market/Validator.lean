import Mathlib.Algebra.Order.Ring.Rat
import QuantEngine.Library.Deque
import QuantEngine.Market.Candles

set_option autoImplicit false

namespace QuantEngine.Validator

open QuantEngine.Calendar QuantEngine.Candles

inductive QualityIssueType where
  | negativePrice
  | negativeSize
  | invalidTimestamp
  | futureTimestamp
  | staleTimestamp
  | outOfOrder
  | duplicate
  | priceGap
  | impossibleVolume
  | malformedCandle
  | crossedBook
deriving DecidableEq

structure QualityIssue where
  issue : QualityIssueType
  symbol : String
  discard : Bool
deriving DecidableEq

structure SymbolTrack where
  lastTradeTs : Option Moment
  lastPrice : Option Rat
  recentIds : List String

structure DataValidator where
  maxJump : Rat
  maxVolume : Rat
  futureTolerance : Int
  stale : Int
  dupWindow : Nat
  oooGrace : Int
  tracks : Dict String SymbolTrack

def issueIf (condition : Prop) [Decidable condition] (issue : QualityIssueType) (symbol : String) (discard : Bool) :
    List QualityIssue :=
  if condition then [⟨issue, symbol, discard⟩] else []

-- Datetimes carry their zone here, so none is naive.
def timestampChecks (v : DataValidator) (symbol : String) (exchangeTs localTs : Moment) : List QualityIssue :=
  if localTs + v.futureTolerance < exchangeTs then [⟨.futureTimestamp, symbol, true⟩]
  else issueIf (v.stale < localTs - exchangeTs) .staleTimestamp symbol false

def commonChecks (v : DataValidator) (symbol : String) (price : Rat) (exchangeTs localTs : Moment) : List QualityIssue :=
  timestampChecks v symbol exchangeTs localTs ++ issueIf (price ≤ 0) .negativePrice symbol true

def sizeChecks (v : DataValidator) (trade : Trade) : List QualityIssue :=
  if trade.size < 0 then [⟨.negativeSize, trade.symbol, true⟩]
  else issueIf (v.maxVolume < trade.size) .impossibleVolume trade.symbol true

def track (v : DataValidator) (symbol : String) : SymbolTrack := (v.tracks.lookup symbol).getD ⟨none, none, []⟩

def seenId (known : SymbolTrack) (trade : Trade) : Prop := trade.tradeId ≠ "" ∧ trade.tradeId ∈ known.recentIds

instance (known : SymbolTrack) (trade : Trade) : Decidable (seenId known trade) := inferInstanceAs (Decidable (_ ∧ _))

-- The deque of identifiers keeps the newest `dupWindow`.
def rememberId (v : DataValidator) (known : SymbolTrack) (trade : Trade) : List String :=
  if trade.tradeId = "" ∨ trade.tradeId ∈ known.recentIds then known.recentIds
  else Deque.push v.dupWindow known.recentIds trade.tradeId

def late (v : DataValidator) (known : SymbolTrack) (trade : Trade) : Bool :=
  match known.lastTradeTs with
  | none => false
  | some last => decide (trade.exchangeTs < last - v.oooGrace)

def jumps (v : DataValidator) (known : SymbolTrack) (trade : Trade) : Bool :=
  match known.lastPrice with
  | none => false
  | some last => decide (0 < last ∧ 0 < trade.price ∧ v.maxJump < |trade.price - last| / last * 100)

def tradeIssues (v : DataValidator) (trade : Trade) : List QualityIssue :=
  let known := track v trade.symbol
  commonChecks v trade.symbol trade.price trade.exchangeTs trade.localTs ++ sizeChecks v trade ++
    issueIf (seenId known trade) .duplicate trade.symbol true ++
    issueIf (late v known trade = true) .outOfOrder trade.symbol true ++
    issueIf (jumps v known trade = true) .priceGap trade.symbol true

def shouldDiscard (issues : List QualityIssue) : Bool := issues.any QualityIssue.discard

def latest (known : SymbolTrack) (trade : Trade) : Moment :=
  match known.lastTradeTs with
  | none => trade.exchangeTs
  | some last => max last trade.exchangeTs

def validateTrade (v : DataValidator) (trade : Trade) : List QualityIssue × DataValidator :=
  let known := track v trade.symbol
  let issues := tradeIssues v trade
  let remembered := { known with recentIds := rememberId v known trade }
  let kept := if shouldDiscard issues then remembered
    else { remembered with lastTradeTs := some (latest known trade), lastPrice := some trade.price }
  (issues, { v with tracks := v.tracks.insert trade.symbol kept })

def validateTicker (v : DataValidator) (ticker : MarketTicker) : List QualityIssue :=
  commonChecks v ticker.symbol ticker.bid ticker.exchangeTs ticker.localTs ++
    (if ticker.ask ≤ 0 then [⟨.negativePrice, ticker.symbol, true⟩]
    else issueIf (0 < ticker.bid ∧ ticker.ask < ticker.bid) .crossedBook ticker.symbol true)

-- A candle's own fields, whoever made it.
def validateCandle (v : DataValidator) (candle : MarketCandle) : List QualityIssue :=
  issueIf (candle.high < max candle.open_ candle.close ∨ min candle.open_ candle.close < candle.low ∨
      candle.high < candle.low) .malformedCandle candle.symbol true ++
    issueIf (min (min candle.open_ candle.high) (min candle.low candle.close) ≤ 0) .negativePrice candle.symbol true ++
    issueIf (candle.volume < 0 ∨ v.maxVolume < candle.volume) .impossibleVolume candle.symbol true ++
    issueIf (candle.end_ ≤ candle.start) .invalidTimestamp candle.symbol true

theorem should_discard_append (a b : List QualityIssue) :
    shouldDiscard (a ++ b) = (shouldDiscard a || shouldDiscard b) := List.any_append

end QuantEngine.Validator
