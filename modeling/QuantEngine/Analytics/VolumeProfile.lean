import QuantEngine.Library.Decimal
import QuantEngine.Library.Json
import QuantEngine.Library.Tallies
import QuantEngine.Market.Candles

set_option autoImplicit false

namespace QuantEngine.Analytics

open Candles (MarketCandle)

structure ProfileBin where
  low : ℚ
  high : ℚ
  volume : ℚ
deriving DecidableEq

def ProfileBin.mid (bin : ProfileBin) : ℚ := (bin.low + bin.high) / 2

structure VolumeProfile where
  bins : List ProfileBin
  poc : ℚ
  vah : ℚ
  val : ℚ
  hvn : List ℚ
  lvn : List ℚ
  totalVolume : ℚ
  valueAreaPct : ℚ
deriving DecidableEq

namespace VolumeProfile

-- The band of prices that the bins share out.
structure Scale where
  low : ℚ
  step : ℚ
  bins : Nat

def Scale.edge (scale : Scale) (i : Nat) : ℚ := scale.low + i * scale.step

def Scale.clampBin (scale : Scale) (x : ℚ) : Nat :=
  (min ((scale.bins : Int) - 1) (max 0 (Decimal.truncate x))).toNat

def hair : ℚ := 1 / 10 ^ 12

def Scale.first (scale : Scale) (candle : MarketCandle) : Nat := scale.clampBin ((candle.low - scale.low) / scale.step)

def Scale.last (scale : Scale) (candle : MarketCandle) : Nat :=
  scale.clampBin ((candle.high - scale.low) / scale.step - hair)

def Scale.share (scale : Scale) (candle : MarketCandle) (i : Nat) : Option (Nat × ℚ) :=
  let overlap := min candle.high (scale.edge i + scale.step) - max candle.low (scale.edge i)
  if 0 < overlap then some (i, candle.volume * (overlap / (candle.high - candle.low))) else none

-- What a candle adds to the bins.
def Scale.shares (scale : Scale) (candle : MarketCandle) : List (Nat × ℚ) :=
  if candle.volume ≤ 0 then []
  else if candle.high - candle.low ≤ 0 then [(scale.first candle, candle.volume)]
  else if scale.first candle = scale.last candle then [(scale.last candle, candle.volume)]
  else (List.range' (scale.first candle) (scale.last candle + 1 - scale.first candle)).filterMap (scale.share candle)

def binVolumes (scale : Scale) (candles : List MarketCandle) : List ℚ :=
  candles.foldl (fun volumes candle => Scatter.scatter volumes (scale.shares candle)) (List.replicate scale.bins 0)

def volumeAt (volumes : List ℚ) (i : Nat) : ℚ := volumes.getD i 0

-- The first bin of the largest volume.
def pocIndex (volumes : List ℚ) : Nat :=
  (List.range volumes.length).foldl (fun best i => if volumeAt volumes best < volumeAt volumes i then i else best) 0

structure Area where
  included : List Nat
  volume : ℚ
  lo : Nat
  hi : Nat
deriving DecidableEq

def Area.start (volumes : List ℚ) : Area :=
  let poc := pocIndex volumes
  ⟨[poc], volumeAt volumes poc, poc, poc⟩

def Area.below (volumes : List ℚ) (area : Area) : ℚ := if 0 < area.lo then volumeAt volumes (area.lo - 1) else -1

def Area.above (volumes : List ℚ) (area : Area) : ℚ :=
  if area.hi < volumes.length - 1 then volumeAt volumes (area.hi + 1) else -1

def Area.up (volumes : List ℚ) (area : Area) : Area :=
  ⟨area.included ++ [area.hi + 1], area.volume + volumeAt volumes (area.hi + 1), area.lo, area.hi + 1⟩

def Area.down (volumes : List ℚ) (area : Area) : Area :=
  ⟨area.included ++ [area.lo - 1], area.volume + volumeAt volumes (area.lo - 1), area.lo - 1, area.hi⟩

-- One pass of the loop towards the larger neighbour; none where its condition fails.
def Area.widen (volumes : List ℚ) (target : ℚ) (area : Area) : Option Area :=
  if area.volume < target ∧ (0 < area.lo ∨ area.hi < volumes.length - 1) then
    if area.below volumes ≤ area.above volumes then some (area.up volumes) else some (area.down volumes)
  else none

-- The loop, for so many passes at most.
def Area.expand (volumes : List ℚ) (target : ℚ) : Nat → Area → Area
  | 0, area => area
  | passes + 1, area =>
      match area.widen volumes target with
      | none => area
      | some wider => expand volumes target passes wider

def valueArea (volumes : List ℚ) (target : ℚ) : Area := (Area.start volumes).expand volumes target volumes.length

def neighbour (volumes : List ℚ) (i : Nat) : ℚ × ℚ :=
  (if 0 < i then volumeAt volumes (i - 1) else -1, if i < volumes.length - 1 then volumeAt volumes (i + 1) else -1)

def isPeak (volumes : List ℚ) (i : Nat) : Bool :=
  decide ((neighbour volumes i).1 ≤ volumeAt volumes i ∧ (neighbour volumes i).2 ≤ volumeAt volumes i)

def isValley (volumes : List ℚ) (i : Nat) : Bool :=
  decide (volumeAt volumes i ≤ (neighbour volumes i).1 ∧ volumeAt volumes i ≤ (neighbour volumes i).2)

def Scale.bin (scale : Scale) (volumes : List ℚ) (i : Nat) : ProfileBin :=
  ⟨scale.edge i, scale.edge (i + 1), volumeAt volumes i⟩

def lowest (candles : List MarketCandle) (first : MarketCandle) : ℚ :=
  candles.foldl (fun least candle => min least candle.low) first.low

def highest (candles : List MarketCandle) (first : MarketCandle) : ℚ :=
  candles.foldl (fun most candle => max most candle.high) first.high

def Scale.of (first : MarketCandle) (rest : List MarketCandle) (bins : Nat) : Scale :=
  let low := lowest rest first
  ⟨low, (highest rest first - low) / bins, bins⟩

def report (scale : Scale) (volumes : List ℚ) (valueAreaPct nodeRatio : ℚ) : VolumeProfile :=
  let total := volumes.sum
  let area := valueArea volumes (valueAreaPct * total)
  let baseline := total / scale.bins
  let places := List.range scale.bins
  let nodes (wanted : Nat → Bool) := (places.filter wanted).map (fun i => (scale.bin volumes i).mid)
  { bins := places.map (scale.bin volumes)
    poc := (scale.bin volumes (pocIndex volumes)).mid
    vah := (scale.bin volumes (area.included.foldl max (pocIndex volumes))).high
    val := (scale.bin volumes (area.included.foldl min (pocIndex volumes))).low
    hvn := nodes (fun i => isPeak volumes i && decide (nodeRatio * baseline ≤ volumeAt volumes i))
    lvn := nodes (fun i => isValley volumes i && decide (volumeAt volumes i ≤ baseline / nodeRatio))
    totalVolume := total
    valueAreaPct := area.volume / total }

end VolumeProfile

open VolumeProfile in
-- At a valley a node ratio of zero divides by zero.
def volumeProfile (candles : List MarketCandle) (bins : Nat) (valueAreaPct nodeRatio : ℚ) :
    Except PyError (Option VolumeProfile) :=
  match candles with
  | [] => .ok none
  | first :: rest =>
      if bins ≤ 1 ∨ highest rest first ≤ lowest rest first then .ok none
      else
        let scale := Scale.of first rest bins
        let volumes := binVolumes scale (first :: rest)
        if volumes.sum ≤ 0 then .ok none
        else if nodeRatio = 0 ∧ (List.range bins).any (isValley volumes) then .error (.other "ZeroDivisionError")
        else .ok (some (report scale volumes valueAreaPct nodeRatio))

end QuantEngine.Analytics
