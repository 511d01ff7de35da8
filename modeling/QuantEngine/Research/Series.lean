import QuantEngine.Library.Causal
import QuantEngine.Research.Indicators

set_option autoImplicit false

namespace QuantEngine.Research.Series

open Indicators Causal

variable {F : Type} [Floats F] [HasNan F]

-- The parameters of the functions are their defaults: no caller gives others.
abbrev SeriesFn (F : Type) := List (Candle F) → Except PyError (List F)

def orNan (value : Option F) : F := value.getD HasNan.nan

-- `value and value > 0`.
def positive (value : F) : Bool := !PyFloat.isZero value && Floats.lt zero value

def closes (candles : List (Candle F)) : List F := candles.map Candle.close

-- `for i in range(len(candles))`, where a round reads `candles[: i + 1]`.
def perBar (value : List (Candle F) → Except PyError F) (candles : List (Candle F)) : Except PyError (List F) :=
  loop (fun (_ : Unit) i => (value (candles.take (i + 1))).map (fun x => ((), x))) () 0 candles.length

def slopeOf (hist : List F) (window : Int) : F :=
  let finite := hist.filter Floats.isFinite
  if window ≤ finite.length then orNan (slope finite window) else HasNan.nan

-- Likewise, where the values found so far are kept.
def slopes (value : List (Candle F) → Option F) (window : Int) (candles : List (Candle F)) : Except PyError (List F) :=
  loop (fun (hist : List F) i =>
    let hist := hist ++ [orNan (value (candles.take (i + 1)))]
    .ok (hist, slopeOf hist window)) [] 0 candles.length

def lastClose (candles : List (Candle F)) : F := last (closes candles)

def atrSlope : SeriesFn F := slopes (fun seen => atr seen 14) 5

def vwapDistance : SeriesFn F :=
  perBar (fun seen => do
    match ← rollingVwap seen 30 with
    | some vwap => if positive vwap then Floats.div (Floats.sub (lastClose seen) vwap) vwap else .ok HasNan.nan
    | none => .ok HasNan.nan)

def deltaMomentum (period : Int) : SeriesFn F :=
  perBar (fun seen =>
    let volume := if period ≤ seen.length then Floats.sum (volumes (window seen period)) else zero
    match cvd seen period with
    | some value => if Floats.lt zero volume then Floats.div value volume else .ok HasNan.nan
    | none => .ok HasNan.nan)

def liquidityScore : SeriesFn F :=
  perBar (fun seen =>
    match sma (volumes seen) 20 with
    | some avg =>
        if positive avg then (Floats.div (last (volumes seen)) avg).map (fun share => Floats.sub share one)
        else .ok HasNan.nan
    | none => .ok HasNan.nan)

def trendScore : SeriesFn F := perBar (fun seen => (momentum (closes seen) 20).map orNan)

def bookPressureScore : SeriesFn F :=
  forEach (fun c => if Floats.lt zero c.volume then bookPressure c else .ok HasNan.nan)

def range (candle : Candle F) : F := Floats.sub candle.high candle.low

def microprice : SeriesFn F :=
  forEach (fun c =>
    let mid := Floats.divNat (Floats.add c.high c.low) 2
    if Floats.le mid zero then .ok HasNan.nan
    else do
      let pressure ← bookPressure c
      Floats.div (Floats.divNat (Floats.mul pressure (range c)) 2) mid)

def spreadVelocity : SeriesFn F := fun candles =>
  (forEach (fun c => if Floats.lt zero c.close then Floats.div (range c) c.close else .ok HasNan.nan) candles).bind
    (fun ranges => loop (fun (_ : Unit) i => .ok ((), slopeOf (ranges.take (i + 1)) 3)) () 0 ranges.length)

def volatilityExpansion : SeriesFn F :=
  perBar (fun seen =>
    match atr seen 7, atr seen 28 with
    | some short, some long =>
        if positive long then (Floats.div short long).map (fun ratio => Floats.sub ratio one) else .ok HasNan.nan
    | _, _ => .ok HasNan.nan)

def emaSlope : SeriesFn F := slopes (fun seen => ema (closes seen) 20) 5

-- The deviation of the last value from the mean, in standard deviations.
def zscore (deviation : F → F → F) (values : List F) : Except PyError F := do
  let sd ← stdevWindow values 20
  match sma values 20, sd with
  | some avg, some sd =>
      if Floats.le sd zero then .ok HasNan.nan else Floats.div (deviation (last values) avg) sd
  | _, _ => .ok HasNan.nan

def reversionZ : SeriesFn F := perBar (fun seen => zscore (fun value avg => Floats.neg (Floats.sub value avg)) (closes seen))

def rsiBias : SeriesFn F :=
  perBar (fun seen => do
    match ← rsi (closes seen) 14 with
    | some value => .ok (Floats.divNat (Floats.sub (Floats.ofRat 50) value) 50)
    | none => .ok HasNan.nan)

def volumeZscore : SeriesFn F := perBar (fun seen => zscore Floats.sub (volumes seen))

def atrPct : SeriesFn F :=
  perBar (fun seen =>
    match atr seen 14 with
    | some value => if Floats.lt zero (lastClose seen) then Floats.div value (lastClose seen) else .ok HasNan.nan
    | none => .ok HasNan.nan)

def hour (candle : Candle F) : Int := Calendar.hourOf candle.start.moment

def hourOfDay : SeriesFn F :=
  forEach (fun c =>
    .ok (Floats.sub (Floats.mul (Floats.divNat (Floats.ofRat (hour c)) 23) (Floats.ofRat 2)) one))

def cvdFactor : SeriesFn F := deltaMomentum 20

def buyRatio : SeriesFn F :=
  forEach (fun c =>
    if Floats.lt zero c.volume then (Floats.div c.buyVolume c.volume).map (fun share => Floats.sub share (Floats.ofRat (1 / 2)))
    else .ok HasNan.nan)

def product (first second : F) : F :=
  if Floats.isFinite first && Floats.isFinite second then Floats.mul first second else HasNan.nan

def trendXLiquidity : SeriesFn F := zipped trendScore liquidityScore product

def vwapdistXPressure : SeriesFn F := zipped vwapDistance bookPressureScore product

-- The catalogues of the two laboratories.
def defaultFeatures : List (String × SeriesFn F) :=
  [("atr_slope", atrSlope), ("vwap_distance", vwapDistance), ("delta_momentum", deltaMomentum 10),
    ("liquidity_score", liquidityScore), ("trend_score", trendScore), ("book_pressure_score", bookPressureScore),
    ("microprice", microprice), ("spread_velocity", spreadVelocity), ("volatility_expansion", volatilityExpansion)]

def factors : List (String × String × SeriesFn F) :=
  [("trend_momentum", "trend", trendScore), ("trend_ema_slope", "trend", emaSlope),
    ("reversion_zscore", "reversion", reversionZ), ("reversion_rsi", "reversion", rsiBias),
    ("liquidity_volume_z", "liquidity", volumeZscore), ("liquidity_score", "liquidity", liquidityScore),
    ("volatility_atr_pct", "volatility", atrPct), ("volatility_expansion", "volatility", volatilityExpansion),
    ("temporal_hour", "temporal", hourOfDay), ("volume_cvd", "volume", cvdFactor),
    ("volume_buy_ratio", "volume", buyRatio), ("hybrid_trend_liquidity", "hybrid", trendXLiquidity),
    ("hybrid_vwapdist_pressure", "hybrid", vwapdistXPressure)]

end QuantEngine.Research.Series
