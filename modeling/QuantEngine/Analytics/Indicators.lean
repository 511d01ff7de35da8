import Mathlib.Algebra.Order.Field.Rat
import QuantEngine.Library.Json
import QuantEngine.Library.Slices
import QuantEngine.Market.Candles

set_option autoImplicit false

namespace QuantEngine.Analytics

open Candles (MarketCandle)

-- The first candle has no true range.
def trueRanges : List MarketCandle → List ℚ
  | prev :: curr :: rest =>
      max (max (curr.high - curr.low) |curr.high - prev.close|) |curr.low - prev.close| :: trueRanges (curr :: rest)
  | _ => []

def atr (candles : List MarketCandle) (period : Int) : Option ℚ :=
  let ranges := trueRanges candles
  if ranges.isEmpty then none
  else
    let window := Slices.last period ranges
    some (window.sum / window.length)

-- The averages after the first: one range enters and another leaves.
def rolled (period acc : ℚ) : List ℚ → List ℚ → List ℚ
  | entering :: rest, leaving :: others =>
      let acc := acc + (entering - leaving)
      acc / period :: rolled period acc rest others
  | _, _ => []

-- A period of zero divides by zero.
def atrSeries (candles : List MarketCandle) (period : Nat) : Except PyError (List ℚ) :=
  let ranges := trueRanges candles
  if period = 0 then .error (.other "ZeroDivisionError")
  else if ranges.length < period then .ok []
  else
    let acc := (ranges.take period).sum
    .ok (acc / period :: rolled period acc (ranges.drop period) ranges)

end QuantEngine.Analytics

namespace QuantEngine.Analytics

open Calendar (Moment)
open Candles (MarketCandle)

inductive SwingKind where
  | high
  | low
deriving DecidableEq

structure SwingPoint where
  index : Nat
  price : ℚ
  kind : SwingKind
  time : Moment
  label : String := ""
deriving DecidableEq

-- The `left` candles before `index` and the `right` candles after it.
def neighborhood (candles : List MarketCandle) (left right index : Nat) : List MarketCandle :=
  (candles.drop (index - left)).take left ++ (candles.drop (index + 1)).take right

def highPivot (candles : List MarketCandle) (left right index : Nat) (candle : MarketCandle) : Bool :=
  (neighborhood candles left right index).all (fun other => decide (other.high < candle.high))

def lowPivot (candles : List MarketCandle) (left right index : Nat) (candle : MarketCandle) : Bool :=
  (neighborhood candles left right index).all (fun other => decide (candle.low < other.low))

def pivotsAt (candles : List MarketCandle) (left right : Nat) (entry : MarketCandle × Nat) : List SwingPoint :=
  (if highPivot candles left right entry.2 entry.1 then [⟨entry.2, entry.1.high, .high, entry.1.start, ""⟩] else []) ++
    (if lowPivot candles left right entry.2 entry.1 then [⟨entry.2, entry.1.low, .low, entry.1.start, ""⟩] else [])

-- In the order of the sort by index and kind already.
def rawPivots (candles : List MarketCandle) (left right : Nat) : List SwingPoint :=
  ((candles.zipIdx.take (candles.length - right)).drop left).flatMap (pivotsAt candles left right)

def labelOf (last : Option SwingPoint) (point : SwingPoint) : String :=
  match last, point.kind with
  | none, _ => ""
  | some last, .high => if last.price < point.price then "HH" else "LH"
  | some last, .low => if last.price < point.price then "HL" else "LL"

def labeled (lastHigh lastLow : Option SwingPoint) : List SwingPoint → List SwingPoint
  | [] => []
  | point :: rest =>
      match point.kind with
      | .high => { point with label := labelOf lastHigh point } :: labeled (some point) lastLow rest
      | .low => { point with label := labelOf lastLow point } :: labeled lastHigh (some point) rest

-- Without neighbours there is no maximum, a `ValueError`.
def swingPoints (candles : List MarketCandle) (left right : Nat) : Except PyError (List SwingPoint) :=
  if left + right = 0 ∧ candles ≠ [] then .error .value else .ok (labeled none none (rawPivots candles left right))

end QuantEngine.Analytics
