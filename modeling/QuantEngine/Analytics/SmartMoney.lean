import Mathlib.Data.List.Sort
import QuantEngine.Analytics.Indicators

set_option autoImplicit false

namespace QuantEngine.Analytics

open Candles (MarketCandle)

inductive Bias where
  | bullish
  | bearish
deriving DecidableEq

structure FairValueGap where
  index : Nat
  direction : Bias
  top : ℚ
  bottom : ℚ
  filledPct : ℚ
deriving DecidableEq

structure OrderBlockZone where
  index : Nat
  direction : Bias
  top : ℚ
  bottom : ℚ
  mitigated : Bool
  breaker : Bool
deriving DecidableEq

structure EqualLevels where
  kind : SwingKind
  level : ℚ
  count : Nat
  internal : Bool
deriving DecidableEq

inductive BreakKind where
  | bos
  | choch
deriving DecidableEq

inductive BreakDirection where
  | up
  | down
deriving DecidableEq

structure StructureBreak where
  index : Nat
  kind : BreakKind
  direction : BreakDirection
  level : ℚ
  displacement : ℚ
  mss : Bool
deriving DecidableEq

-- The ATR that was passed, else that of the candles; none unless it is positive.
def usableAtr (candles : List MarketCandle) (atrValue : Option ℚ) : Option ℚ :=
  (atrValue.or (atr candles 14)).filter (fun value => decide (0 < value))

theorem usable_some (candles : List MarketCandle) (value : ℚ) (positive : 0 < value) :
    usableAtr candles (some value) = some value := by
  rw [usableAtr, Option.some_or, Option.filter_some, if_pos (decide_eq_true positive)]

theorem usable_none (candles : List MarketCandle) (value : ℚ) (flat : ¬ 0 < value) :
    usableAtr candles (some value) = none := by
  rw [usableAtr, Option.some_or, Option.filter_some, if_neg (by simpa using flat)]

-- `min(values, default=default)` and `max(values, default=default)`.
def minOf (values : List ℚ) (default : ℚ) : ℚ :=
  match values with
  | [] => default
  | first :: rest => rest.foldl min first

def maxOf (values : List ℚ) (default : ℚ) : ℚ :=
  match values with
  | [] => default
  | first :: rest => rest.foldl max first

def bullishFilled (top bottom : ℚ) (after : List MarketCandle) : ℚ :=
  let lowestAfter := minOf (after.map MarketCandle.low) top
  if lowestAfter ≤ bottom then 1 else max 0 (min 1 ((top - max lowestAfter bottom) / (top - bottom)))

def bearishFilled (top bottom : ℚ) (after : List MarketCandle) : ℚ :=
  let highestAfter := maxOf (after.map MarketCandle.high) bottom
  if top ≤ highestAfter then 1 else max 0 (min 1 ((min highestAfter top - bottom) / (top - bottom)))

-- A filled gap is left out.
def openGap (index : Nat) (direction : Bias) (top bottom filled : ℚ) : List FairValueGap :=
  if filled < 1 then [⟨index, direction, top, bottom, filled⟩] else []

def gapsAt (minSize : ℚ) (index : Nat) (prev nxt : MarketCandle) (after : List MarketCandle) : List FairValueGap :=
  (if prev.high < nxt.low ∧ minSize ≤ nxt.low - prev.high then
      openGap index .bullish nxt.low prev.high (bullishFilled nxt.low prev.high after)
    else []) ++
    (if nxt.high < prev.low ∧ minSize ≤ prev.low - nxt.high then
      openGap index .bearish prev.low nxt.high (bearishFilled prev.low nxt.high after)
    else [])

-- `index` is that of the middle candle.
def gapsFrom (minSize : ℚ) (index : Nat) : List MarketCandle → List FairValueGap
  | prev :: middle :: nxt :: rest => gapsAt minSize index prev nxt rest ++ gapsFrom minSize (index + 1) (middle :: nxt :: rest)
  | _ => []

def fairValueGaps (candles : List MarketCandle) (minSizeAtr : ℚ) (atrValue : Option ℚ) : List FairValueGap :=
  match usableAtr candles atrValue with
  | none => []
  | some value => if candles.length < 3 then [] else gapsFrom (minSizeAtr * value) 1 candles

def blockDirection (displacement : ℚ) (candle nxt : MarketCandle) : Option Bias :=
  if candle.close < candle.open_ ∧ displacement ≤ nxt.close - nxt.open_ then some .bullish
  else if candle.open_ < candle.close ∧ displacement ≤ nxt.open_ - nxt.close then some .bearish
  else none

def blockZone (useFullRange : Bool) (candle : MarketCandle) : ℚ × ℚ :=
  if useFullRange then (candle.high, candle.low)
  else (max candle.open_ candle.close, min candle.open_ candle.close)

def blockAt (index : Nat) (direction : Bias) (zone : ℚ × ℚ) (after : List MarketCandle) : OrderBlockZone where
  index := index
  direction := direction
  top := zone.1
  bottom := zone.2
  mitigated := after.any (fun candle => decide (candle.low ≤ zone.1 ∧ zone.2 ≤ candle.high))
  breaker := match direction with
    | .bullish => after.any (fun candle => decide (candle.close < zone.2))
    | .bearish => after.any (fun candle => decide (zone.1 < candle.close))

def blocksFrom (displacement : ℚ) (useFullRange : Bool) (index : Nat) : List MarketCandle → List OrderBlockZone
  | candle :: nxt :: rest =>
      ((blockDirection displacement candle nxt).map
        (fun direction => blockAt index direction (blockZone useFullRange candle) rest)).toList ++
        blocksFrom displacement useFullRange (index + 1) (nxt :: rest)
  | _ => []

def orderBlocks (candles : List MarketCandle) (displacementAtr : ℚ) (useFullRange : Bool) (atrValue : Option ℚ)
    (maxBlocks : Int) : List OrderBlockZone :=
  match usableAtr candles atrValue with
  | none => []
  | some value =>
      if candles.length < 3 then []
      else Slices.last maxBlocks (blocksFrom (displacementAtr * value) useFullRange 0 candles)

def pointsOf (kind : SwingKind) (swings : List SwingPoint) : List ℚ :=
  ((swings.filter (fun swing => decide (swing.kind = kind))).map SwingPoint.price).insertionSort (· ≤ ·)

-- `last` is the price the cluster grew by.
def joins (tolerancePct last price : ℚ) : Bool := decide (|price - last| ≤ last * tolerancePct / 100)

def keep (clusters : List (List ℚ)) (cluster : List ℚ) : List (List ℚ) :=
  if 2 ≤ cluster.length then clusters ++ [cluster] else clusters

-- One pass of the loop over the results and the cluster at hand.
def addPrice (tolerancePct : ℚ) (state : List (List ℚ) × List ℚ) (price : ℚ) : List (List ℚ) × List ℚ :=
  match state.2.getLast? with
  | none => (state.1, state.2 ++ [price])
  | some last =>
      if joins tolerancePct last price then (state.1, state.2 ++ [price]) else (keep state.1 state.2, [price])

def clusters (tolerancePct : ℚ) (points : List ℚ) : List (List ℚ) :=
  let state := points.foldl (addPrice tolerancePct) ([], [])
  keep state.1 state.2

def isInternal (level : ℚ) (rangeHigh rangeLow : Option ℚ) : Bool :=
  match rangeHigh, rangeLow with
  | some high, some low =>
      let band := (high - low) * (1 / 10)
      decide (low + band < level ∧ level < high - band)
  | _, _ => true

def makeEqual (kind : SwingKind) (rangeHigh rangeLow : Option ℚ) (cluster : List ℚ) : EqualLevels :=
  let level := cluster.sum / cluster.length
  ⟨kind, level, cluster.length, isInternal level rangeHigh rangeLow⟩

def equalLevels (swings : List SwingPoint) (tolerancePct : ℚ) (rangeHigh rangeLow : Option ℚ) : List EqualLevels :=
  [SwingKind.high, SwingKind.low].flatMap (fun kind =>
    (clusters tolerancePct (pointsOf kind swings)).map (makeEqual kind rangeHigh rangeLow))

-- The trend, unknown at first, and the last pivots that no close has broken.
structure Levels where
  trend : Option BreakDirection := none
  lastHigh : Option SwingPoint := none
  lastLow : Option SwingPoint := none
deriving DecidableEq

def above (lastHigh : Option SwingPoint) (index : Nat) (close : ℚ) : Option SwingPoint :=
  lastHigh.filter (fun swing => decide (swing.price < close ∧ swing.index < index))

def below (lastLow : Option SwingPoint) (index : Nat) (close : ℚ) : Option SwingPoint :=
  lastLow.filter (fun swing => decide (close < swing.price ∧ swing.index < index))

-- The threshold of an MSS, in ATRs, and the ATR.
structure Displacement where
  mssAtr : ℚ
  value : ℚ

def breakOf (rule : Displacement) (trend : Option BreakDirection) (direction : BreakDirection) (index : Nat)
    (candle : MarketCandle) (level : ℚ) : StructureBreak :=
  let displacement := |candle.close - candle.open_| / rule.value
  let kind := if trend = some direction ∨ trend = none then BreakKind.bos else .choch
  ⟨index, kind, direction, level, displacement, decide (kind = .choch ∧ rule.mssAtr ≤ displacement)⟩

def brokenAt (rule : Displacement) (levels : Levels) (index : Nat) (candle : MarketCandle) : Option StructureBreak :=
  match above levels.lastHigh index candle.close with
  | some swing => some (breakOf rule levels.trend .up index candle swing.price)
  | none => (below levels.lastLow index candle.close).map
      (fun swing => breakOf rule levels.trend .down index candle swing.price)

-- After a break the next one needs a new pivot.
def Levels.consume (levels : Levels) (found : Option StructureBreak) : Levels :=
  match found.map StructureBreak.direction with
  | none => levels
  | some .up => { levels with trend := some .up, lastHigh := none }
  | some .down => { levels with trend := some .down, lastLow := none }

def Levels.activate (levels : Levels) (swing : SwingPoint) : Levels :=
  match swing.kind with
  | .high => { levels with lastHigh := some swing }
  | .low => { levels with lastLow := some swing }

-- The pivots of a candle become levels right after it.
def Levels.next (rule : Displacement) (swings : List SwingPoint) (levels : Levels) (index : Nat) (candle : MarketCandle) :
    Levels :=
  (swings.filter (fun swing => decide (swing.index = index))).foldl Levels.activate
    (levels.consume (brokenAt rule levels index candle))

def breaksFrom (rule : Displacement) (swings : List SwingPoint) (levels : Levels) (index : Nat) :
    List MarketCandle → List StructureBreak
  | [] => []
  | candle :: rest =>
      (brokenAt rule levels index candle).toList ++
        breaksFrom rule swings (levels.next rule swings index candle) (index + 1) rest

def structureBreaks (candles : List MarketCandle) (swings : List SwingPoint) (mssDisplacementAtr : ℚ)
    (atrValue : Option ℚ) : List StructureBreak :=
  match usableAtr candles atrValue with
  | none => []
  | some value => breaksFrom ⟨mssDisplacementAtr, value⟩ swings {} 0 candles

end QuantEngine.Analytics
