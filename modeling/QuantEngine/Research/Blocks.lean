import QuantEngine.Library.Causal
import QuantEngine.Research.Indicators
import QuantEngine.Research.Models
import QuantEngine.Signals.Models

set_option autoImplicit false

namespace QuantEngine.Research.Blocks

open Indicators

variable {F : Type} [Floats F]

abbrev BlockPredicate (F : Type) := Dict String F → List (Candle F) → Nat → Except PyError Direction

abbrev FilterPredicate (F : Type) := Dict String F → List (Candle F) → Nat → Except PyError Bool

structure BlockSpec (F : Type) where
  kind : String
  defaults : Dict String F
  predicate : BlockPredicate F

structure FilterSpec (F : Type) where
  kind : String
  defaults : Dict String F
  predicate : FilterPredicate F

def param (params : Dict String F) (name : String) : Except PyError F :=
  match params.lookup name with
  | some value => .ok value
  | none => .error .key

-- `int(params[name])`.
def intParam (params : Dict String F) (name : String) : Except PyError Int := do
  PyFloat.truncate (← param params name)

def closes (candles : List (Candle F)) (index : Nat) : List F := (candles.take (index + 1)).map Candle.close

def closeOf (candles : List (Candle F)) : F := last (candles.map Candle.close)

-- A pair of averages, each of its own period.
def crossing (average : List F → Int → Option F) : BlockPredicate F := fun params candles index => do
  let fastPeriod ← intParam params "fast"
  let slowPeriod ← intParam params "slow"
  match average (closes candles index) fastPeriod, average (closes candles index) slowPeriod with
  | some fast, some slow => .ok (if Floats.lt slow fast then .long else .short)
  | _, _ => .ok .neutral

def emaCross : BlockPredicate F := crossing ema

def smaCross : BlockPredicate F := crossing sma

-- Long above the one bound, short below the other.
def outside (value upper lower : F) : Direction :=
  if Floats.lt upper value then .long else if Floats.lt value lower then .short else .neutral

def donchianBreakout : BlockPredicate F := fun params candles index => do
  let seen := candles.take (index + 1)
  let period ← intParam params "period"
  match donchianHigh seen period, donchianLow seen period with
  | some high, some low => .ok (outside (closeOf seen) high low)
  | _, _ => .ok .neutral

def atrBreakout : BlockPredicate F := fun params candles index => do
  let seen := candles.take (index + 1)
  let period ← intParam params "period"
  match atr seen period with
  | some value =>
      if seen.length < 2 then .ok .neutral
      else
        let prevClose := at_ (seen.map Candle.close) (seen.length - 2)
        let mult ← param params "mult"
        .ok (outside (closeOf seen) (Floats.add prevClose (Floats.mul mult value)) (Floats.sub prevClose (Floats.mul mult value)))
  | none => .ok .neutral

-- A value beyond a threshold on either side.
def beyond (params : Dict String F) (value : Option F) : Except PyError Direction :=
  match value with
  | some value => do
      let threshold ← param params "threshold"
      .ok (outside value threshold (Floats.neg threshold))
  | none => .ok .neutral

def momentumBlock : BlockPredicate F := fun params candles index => do
  let period ← intParam params "period"
  beyond params (← momentum (closes candles index) period)

def rsiReversion : BlockPredicate F := fun params candles index => do
  let period ← intParam params "period"
  match ← rsi (closes candles index) period with
  | some value =>
      let low ← param params "low"
      if Floats.lt value low then .ok .long
      else
        let high ← param params "high"
        .ok (if Floats.lt high value then .short else .neutral)
  | none => .ok .neutral

def vwapReversion : BlockPredicate F := fun params candles index => do
  let seen := candles.take (index + 1)
  let period ← intParam params "period"
  match ← rollingVwap seen period with
  | some vwap =>
      if Floats.le vwap zero then .ok .neutral
      else
        let band ← param params "band"
        .ok (if Floats.lt (closeOf seen) (Floats.mul vwap (Floats.sub one band)) then .long
          else if Floats.lt (Floats.mul vwap (Floats.add one band)) (closeOf seen) then .short
          else .neutral)
  | none => .ok .neutral

def macdBlock : BlockPredicate F := fun params candles index => do
  let fast ← intParam params "fast"
  let slow ← intParam params "slow"
  let signal ← intParam params "signal"
  match macd (closes candles index) fast slow signal with
  | some (macdLine, signalLine) => .ok (if Floats.lt signalLine macdLine then .long else .short)
  | none => .ok .neutral

def deltaMomentum : BlockPredicate F := fun params candles index => do
  let period ← intParam params "period"
  beyond params (cvd (candles.take (index + 1)) period)

def cvdTrend : BlockPredicate F := fun params candles index => do
  let period ← intParam params "period"
  match cvd (candles.take (index + 1)) period with
  | some value =>
      .ok (if Floats.eq value zero then .neutral else if Floats.lt zero value then .long else .short)
  | none => .ok .neutral

-- A window that crosses midnight is the hours from its start and those before its end.
def sessionFilter : FilterPredicate F := fun params candles index =>
  match candles[index]? with
  | some candle => do
      let hour := Calendar.hourOf candle.start.moment
      let start ← intParam params "start_hour"
      let end_ ← intParam params "end_hour"
      let start := start % 24
      let end_ := end_ % 24
      .ok (if start = end_ then true
        else if start < end_ then decide (start ≤ hour) && decide (hour < end_)
        else decide (start ≤ hour) || decide (hour < end_))
  | none => .error (.other "IndexError")

def volatilityFilter : FilterPredicate F := fun params candles index => do
  let seen := candles.take (index + 1)
  let period ← intParam params "period"
  match atr seen period with
  | some value =>
      if Floats.le (closeOf seen) zero then .ok true
      else
        let atrPct ← Floats.div value (closeOf seen)
        let minPct ← param params "min_pct"
        if Floats.le minPct atrPct then
          let maxPct ← param params "max_pct"
          .ok (Floats.le atrPct maxPct)
        else .ok false
  | none => .ok true

def liquidityFilter : FilterPredicate F := fun params candles index => do
  let seen := candles.take (index + 1)
  let period ← intParam params "period"
  match sma (volumes seen) period with
  | some avg =>
      if Floats.le avg zero then .ok true
      else
        let minRatio ← param params "min_ratio"
        .ok (Floats.le (Floats.mul minRatio avg) (last (volumes seen)))
  | none => .ok true

def trendRegimeFilter : FilterPredicate F := fun params candles index => do
  let period ← intParam params "period"
  match ← momentum (closes candles index) period with
  | some value =>
      let least ← param params "min_abs_momentum"
      .ok (Floats.le least (Floats.abs value))
  | none => .ok true

def defaults (entries : List (String × ℚ)) : Dict String F :=
  Dict.insertAll .empty (entries.map (fun entry => (entry.1, Floats.ofRat entry.2)))

def signalBlocks : List (BlockSpec F) :=
  [⟨"ema_cross", defaults [("fast", 9), ("slow", 21)], emaCross⟩,
    ⟨"sma_cross", defaults [("fast", 10), ("slow", 30)], smaCross⟩,
    ⟨"donchian_breakout", defaults [("period", 20)], donchianBreakout⟩,
    ⟨"atr_breakout", defaults [("period", 14), ("mult", 3 / 2)], atrBreakout⟩,
    ⟨"momentum", defaults [("period", 10), ("threshold", 4 / 1000)], momentumBlock⟩,
    ⟨"rsi_reversion", defaults [("period", 14), ("low", 30), ("high", 70)], rsiReversion⟩,
    ⟨"vwap_reversion", defaults [("period", 30), ("band", 4 / 1000)], vwapReversion⟩,
    ⟨"macd", defaults [("fast", 12), ("slow", 26), ("signal", 9)], macdBlock⟩,
    ⟨"delta_momentum", defaults [("period", 10), ("threshold", 0)], deltaMomentum⟩,
    ⟨"cvd_trend", defaults [("period", 20)], cvdTrend⟩]

def contextFilters : List (FilterSpec F) :=
  [⟨"session", defaults [("start_hour", 7), ("end_hour", 20)], sessionFilter⟩,
    ⟨"volatility", defaults [("period", 14), ("min_pct", 5 / 10000), ("max_pct", 5 / 100)], volatilityFilter⟩,
    ⟨"liquidity", defaults [("period", 20), ("min_ratio", 6 / 10)], liquidityFilter⟩,
    ⟨"trend_regime", defaults [("period", 30), ("min_abs_momentum", 2 / 1000)], trendRegimeFilter⟩]

-- A predicate of the bar `index` reads the candles up to it.
def Local {β : Type} (predicate : Dict String F → List (Candle F) → Nat → Except PyError β) : Prop :=
  ∀ params xs ys index, xs.take (index + 1) = ys.take (index + 1) → predicate params xs index = predicate params ys index

omit [Floats F] in
theorem closes_local (xs ys : List (Candle F)) (index : Nat) (same : xs.take (index + 1) = ys.take (index + 1)) :
    closes xs index = closes ys index := congrArg (List.map Candle.close) same

theorem signal_blocks_local (spec : BlockSpec F) (listed : spec ∈ signalBlocks) : Local spec.predicate := by
  intro params xs ys index same
  have prices := closes_local xs ys index same
  simp only [signalBlocks, List.mem_cons, List.not_mem_nil, or_false] at listed
  rcases listed with rfl | rfl | rfl | rfl | rfl | rfl | rfl | rfl | rfl | rfl
  · simp only [emaCross, crossing, prices]
  · simp only [smaCross, crossing, prices]
  · simp only [donchianBreakout, same]
  · simp only [atrBreakout, same]
  · simp only [momentumBlock, prices]
  · simp only [rsiReversion, prices]
  · simp only [vwapReversion, same]
  · simp only [macdBlock, prices]
  · simp only [deltaMomentum, same]
  · simp only [cvdTrend, same]

theorem session_local : Local (sessionFilter (F := F)) := by
  intro params xs ys index same
  have bar : ∀ zs : List (Candle F), zs[index]? = (zs.take (index + 1))[index]? := by
    intro zs
    rw [List.getElem?_take_of_lt (Nat.lt_succ_self index)]
  rw [sessionFilter, sessionFilter, bar xs, bar ys, same]

theorem context_filters_local (spec : FilterSpec F) (listed : spec ∈ contextFilters) : Local spec.predicate := by
  intro params xs ys index same
  have prices := closes_local xs ys index same
  simp only [contextFilters, List.mem_cons, List.not_mem_nil, or_false] at listed
  rcases listed with rfl | rfl | rfl | rfl
  · exact session_local params xs ys index same
  · simp only [volatilityFilter, same]
  · simp only [liquidityFilter, same]
  · simp only [trendRegimeFilter, prices]

end QuantEngine.Research.Blocks

namespace QuantEngine.Research.Compiler

open Blocks

variable {F : Type} [Floats F]

inductive Side where
  | up
  | down
  deriving DecidableEq

-- A predicate with the parameters it is called with.
abbrev Bound (β F : Type) := (Dict String F → List (Candle F) → Nat → Except PyError β) × Dict String F

structure GenomeDecisionSource (F : Type) where
  genome : StrategyGenome F
  blocks : List (Bound Direction F)
  filters : List (Bound Bool F)
  lastSide : Option Side

def compileBlock (block : SignalBlock F) : Except PyError (Bound Direction F) :=
  match signalBlocks.find? (fun spec => decide (spec.kind = block.kind)) with
  | some spec => .ok (spec.predicate, spec.defaults.insertAll block.params.entries)
  | none => .error (.other "StrategyGenerationError")

def compileFilter (filt : ContextFilter F) : Except PyError (Bound Bool F) :=
  match contextFilters.find? (fun spec => decide (spec.kind = filt.kind)) with
  | some spec => .ok (spec.predicate, spec.defaults.insertAll filt.params.entries)
  | none => .error (.other "StrategyGenerationError")

def compileGenome (genome : StrategyGenome F) : Except PyError (GenomeDecisionSource F) :=
  if genome.blocks.isEmpty then .error (.other "StrategyGenerationError")
  else do
    let blocks ← Causal.forEach compileBlock genome.blocks
    let filters ← Causal.forEach compileFilter genome.filters
    .ok ⟨genome, blocks, filters, none⟩

def openDecision (symbol action summary : String) : DecisionGenerated where
  decisionId := "bt-" ++ symbol ++ "-" ++ action
  symbol := symbol
  action := action
  accepted := true
  score := 1
  confidence := 1
  summary := if summary.isEmpty then "backtest " ++ action else summary

namespace GenomeDecisionSource

def reset (source : GenomeDecisionSource F) : GenomeDecisionSource F := { source with lastSide := none }

def passes (candles : List (Candle F)) (index : Nat) : List (Bound Bool F) → Except PyError Bool
  | [] => .ok true
  | (predicate, params) :: rest => do
      if ← predicate params candles index then passes candles index rest else .ok false

-- How many blocks are for each direction.
def votes (candles : List (Candle F)) (index : Nat) : List (Bound Direction F) → Except PyError (Nat × Nat)
  | [] => .ok (0, 0)
  | (predicate, params) :: rest => do
      let direction ← predicate params candles index
      let (longs, shorts) ← votes candles index rest
      match direction with
      | .long => .ok (longs + 1, shorts)
      | .short => .ok (longs, shorts + 1)
      | .neutral => .ok (longs, shorts)

def verdict (mode : Combine) (blocks longs shorts : Nat) : Direction :=
  if longs + shorts = 0 then .neutral
  else match mode with
    | .all => if longs = blocks then .long else if shorts = blocks then .short else .neutral
    | .any =>
        if 0 < longs ∧ shorts = 0 then .long else if 0 < shorts ∧ longs = 0 then .short else .neutral
    | .majority => if shorts < longs then .long else if longs < shorts then .short else .neutral

def combine (source : GenomeDecisionSource F) (candles : List (Candle F)) (index : Nat) : Except PyError Direction := do
  let (longs, shorts) ← votes candles index source.blocks
  .ok (verdict source.genome.combine source.blocks.length longs shorts)

def sideOf : Direction → Option Side
  | .long => some .up
  | .short => some .down
  | .neutral => none

-- A side other than the last becomes it, and is announced.
def turn (source : GenomeDecisionSource F) (symbol : String) (side : Side) :
    Option DecisionGenerated × GenomeDecisionSource F :=
  if source.lastSide = some side then (none, source)
  else
    let next := { source with lastSide := some side }
    match side with
    | .up => (some (openDecision symbol "open_long" (source.genome.name ++ " long")), next)
    | .down =>
        if source.genome.allowShort then (some (openDecision symbol "open_short" (source.genome.name ++ " short")), next)
        else (none, next)

def direction (source : GenomeDecisionSource F) (candles : List (Candle F)) (index : Nat) : Except PyError Direction := do
  if ← passes candles index source.filters then combine source candles index else .ok .neutral

-- What is raised leaves the source as it is.
def decide_ (source : GenomeDecisionSource F) (symbol : String) (candles : List (Candle F)) (index : Int) :
    Except PyError (Option DecisionGenerated) × GenomeDecisionSource F :=
  if index < 0 ∨ (candles.length : Int) ≤ index then (.ok none, source)
  else match source.direction candles index.toNat with
    | .error e => (.error e, source)
    | .ok direction =>
        match sideOf direction with
        | none => (.ok none, source)
        | some side =>
            let (decision, next) := source.turn symbol side
            (.ok decision, next)

-- The outcomes of one call for each of the bars given.
def decisions (source : GenomeDecisionSource F) (symbol : String) (candles : List (Candle F)) :
    List Int → List (Except PyError (Option DecisionGenerated))
  | [] => []
  | index :: rest =>
      let (outcome, next) := source.decide_ symbol candles index
      outcome :: next.decisions symbol candles rest

end GenomeDecisionSource

end QuantEngine.Research.Compiler
