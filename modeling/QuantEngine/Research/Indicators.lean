import QuantEngine.Library.Extended
import QuantEngine.Library.IsoTime

set_option autoImplicit false

namespace QuantEngine.Research

structure Candle (F : Type) where
  start : Datetime
  high : F
  low : F
  close : F
  volume : F
  buyVolume : F
  sellVolume : F

namespace Indicators

variable {F α : Type} [Floats F]

def zero : F := Floats.ofRat 0

def one : F := Floats.ofRat 1

-- There are not `needed` values for a period that is one.
def short (values : List α) (period needed : Int) : Bool := decide (period ≤ 0) || decide ((values.length : Int) < needed)

-- `values[-count:]` of a list that has so many.
def window (values : List α) (count : Int) : List α := values.drop (values.length - count.toNat)

def at_ (values : List F) (place : Nat) : F := values.getD place zero

def last (values : List F) : F := at_ values (values.length - 1)

def average (values : List F) (period : Int) : F := Floats.divNat (Floats.sum values) period.toNat

def sma (values : List F) (period : Int) : Option F :=
  if short values period period then none else some (average (window values period) period)

def ema (values : List F) (period : Int) : Option F :=
  if short values period period then none
  else
    let alpha : F := Floats.divNat (Floats.ofRat 2) (period.toNat + 1)
    let seed := average (values.take period.toNat) period
    some ((values.drop period.toNat).foldl
      (fun result value => Floats.add (Floats.mul alpha value) (Floats.mul (Floats.sub one alpha) result)) seed)

def addChange (closes : List F) (moves : F × F) (place : Nat) : F × F :=
  let change := Floats.sub (at_ closes place) (at_ closes (place - 1))
  if Floats.le zero change then (Floats.add moves.1 change, moves.2) else (moves.1, Floats.sub moves.2 change)

def rsi (closes : List F) (period : Int) : Except PyError (Option F) :=
  if short closes period (period + 1) then .ok none
  else do
    let moves := (List.range' (closes.length - period.toNat) period.toNat).foldl (addChange closes) (zero, zero)
    let avgGain := Floats.divNat moves.1 period.toNat
    let avgLoss := Floats.divNat moves.2 period.toNat
    if Floats.eq avgLoss zero then .ok (some (Floats.ofRat 100))
    else
      let rs ← Floats.div avgGain avgLoss
      let part ← Floats.div (Floats.ofRat 100) (Floats.add one rs)
      .ok (some (Floats.sub (Floats.ofRat 100) part))

def rangesAfter (prevClose : F) : List (Candle F) → List F
  | [] => []
  | candle :: rest =>
      Floats.maxOf (Floats.sub candle.high candle.low)
        [Floats.abs (Floats.sub candle.high prevClose), Floats.abs (Floats.sub candle.low prevClose)] ::
        rangesAfter candle.close rest

def trueRanges : List (Candle F) → List F
  | [] => []
  | candle :: rest => Floats.sub candle.high candle.low :: rangesAfter candle.close rest

def atr (candles : List (Candle F)) (period : Int) : Option F :=
  if short candles period (period + 1) then none
  else some (average (window (trueRanges candles) period) period)

def momentum (closes : List F) (period : Int) : Except PyError (Option F) :=
  if short closes period (period + 1) then .ok none
  else
    let base := at_ closes (closes.length - period.toNat - 1)
    if Floats.eq base zero then .ok none
    else (Floats.div (Floats.sub (last closes) base) base).map some

-- `candles[-period - 1 : -1]`.
def previous (candles : List α) (period : Int) : List α := (window candles (period + 1)).take period.toNat

def extreme (pick : F → List F → F) : List F → Option F
  | [] => none
  | first :: rest => some (pick first rest)

def donchianHigh (candles : List (Candle F)) (period : Int) : Option F :=
  if short candles period (period + 1) then none
  else extreme Floats.maxOf ((previous candles period).map Candle.high)

def donchianLow (candles : List (Candle F)) (period : Int) : Option F :=
  if short candles period (period + 1) then none
  else extreme Floats.minOf ((previous candles period).map Candle.low)

-- `values[:end_]`, where a negative end counts from the other side.
def upTo (values : List α) (end_ : Int) : List α :=
  if 0 ≤ end_ then values.take end_.toNat else values.take ((values.length : Int) + end_).toNat

def macdAt (closes : List F) (fast slow end_ : Int) : Option F :=
  match ema (upTo closes end_) fast, ema (upTo closes end_) slow with
  | some fastEma, some slowEma => some (Floats.sub fastEma slowEma)
  | _, _ => none

def macd (closes : List F) (fast slow signal : Int) : Option (F × F) :=
  if slow ≤ fast ∨ (closes.length : Int) < slow + signal then none
  else
    let ends := (List.range ((closes.length : Int) + 1 - slow).toNat).map (fun (n : Nat) => slow + (n : Int))
    let series := ends.filterMap (macdAt closes fast slow)
    if (series.length : Int) < signal then none
    else (ema series signal).map (fun line => (last series, line))

def typical (candle : Candle F) : F := Floats.divNat (Floats.add (Floats.add candle.high candle.low) candle.close) 3

def volumes (candles : List (Candle F)) : List F := candles.map Candle.volume

def rollingVwap (candles : List (Candle F)) (period : Int) : Except PyError (Option F) :=
  if short candles period period then .ok none
  else
    let seen := window candles period
    let totalVolume := Floats.sum (volumes seen)
    if Floats.le totalVolume zero then .ok (some (average (seen.map typical) period))
    else (Floats.div (Floats.sum (seen.map (fun candle => Floats.mul (typical candle) candle.volume))) totalVolume).map some

def delta (candle : Candle F) : F := Floats.sub candle.buyVolume candle.sellVolume

def cvd (candles : List (Candle F)) (period : Int) : Option F :=
  if short candles period period then none else some (Floats.sum ((window candles period).map delta))

def bookPressure (candle : Candle F) : Except PyError F :=
  if Floats.le candle.volume zero then .ok zero
  else (Floats.div (delta candle) candle.volume).map
    (fun share => Floats.maxOf (Floats.neg one) [Floats.minOf one [share]])

def slope (values : List F) (period : Int) : Option F :=
  if short values (period - 1) period then none
  else
    let seen := window values period
    some (Floats.divNat (Floats.sub (last seen) (at_ seen 0)) (period - 1).toNat)

def squares (mu : F) : List F → Except PyError (List F)
  | [] => .ok []
  | value :: rest => do
      let first ← Floats.square (Floats.sub value mu)
      let others ← squares mu rest
      .ok (first :: others)

def stdevWindow (values : List F) (period : Int) : Except PyError (Option F) :=
  if short values (period - 1) period then .ok none
  else do
    let seen := window values period
    let squared ← squares (average seen period) seen
    let deviation ← Floats.sqrt (average squared (period - 1))
    .ok (some deviation)

end Indicators

end QuantEngine.Research
