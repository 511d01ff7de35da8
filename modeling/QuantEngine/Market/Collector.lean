import QuantEngine.Library.Coroutine
import QuantEngine.Market.MarketState
import QuantEngine.Market.Validator

set_option autoImplicit false

namespace QuantEngine.Collector

open QuantEngine.Calendar QuantEngine.Timeframes QuantEngine.Candles QuantEngine.MarketState
open Validator (DataValidator validateTrade validateTicker validateCandle shouldDiscard QualityIssue)
open Run (Each Always Along final)
open QuantEngine.Task

-- `applied` is a ghost: the candles given to `update_candle`, in order.
structure TickCollector where
  validator : DataValidator
  aggregator : CandleAggregator
  aggregateFromTicks : Bool
  store : MarketStateStore
  applied : List MarketCandle

def applyCandle (s : TickCollector) (candle : MarketCandle) : TickCollector :=
  { s with store := updateCandle s.store candle, applied := s.applied ++ [candle] }

inductive Wait where
  | cache
  | publish
  | fetch (symbol : String) (timeframe : Timeframe) (limit : Nat)

inductive Answer where
  | done
  | fails
  | candles (items : List MarketCandle)

def Answer.failed : Answer → Bool
  | .fails => true
  | _ => false

-- A provider that fails leaves nothing to seed.
def Answer.items : Answer → List MarketCandle
  | .candles items => items
  | _ => []

abbrev CollectorTask := Task TickCollector Wait Answer

def stored : CollectorTask Unit := do
  let answer ← suspend .cache
  if answer.failed then raise else pure ()

-- A full bus is tolerated.
def published : CollectorTask Unit := do
  let _ ← suspend .publish
  pure ()

def emitClosedCandle (candle : MarketCandle) : CollectorTask Unit := do
  modify (fun s => applyCandle s candle)
  stored
  published

def reject (issues : List QualityIssue) : CollectorTask Unit := each (fun _ => published) issues

def processTrade (trade : Trade) : CollectorTask Unit := do
  let issues ← sync (fun s =>
    let checked := validateTrade s.validator trade
    (checked.1, { s with validator := checked.2 }))
  if shouldDiscard issues then reject issues
  else do
    stored
    stored
    let closed ← sync (fun s =>
      let folded := addTrade s.aggregator trade
      (folded.1, { s with aggregator := folded.2 }))
    each emitClosedCandle closed
    published
    published

def processTicker (ticker : MarketTicker) : CollectorTask Unit := do
  let s ← get
  let issues := validateTicker s.validator ticker
  if shouldDiscard issues then reject issues
  else do
    stored
    let closed ← sync (fun s =>
      let folded := addTicker s.aggregator ticker
      if s.aggregateFromTicks then (folded.1, { s with aggregator := folded.2 }) else ([], s))
    each emitClosedCandle closed
    published
    published

def processCandle (candle : MarketCandle) : CollectorTask Unit := do
  let s ← get
  let issues := validateCandle s.validator candle
  if shouldDiscard issues then reject issues
  else if candle.closed then emitClosedCandle candle
  else pure ()

def flushStaleCandles (now : Moment) : CollectorTask Unit := do
  let closed ← sync (fun s =>
    let flushed := flushStale s.aggregator now
    (flushed.1, { s with aggregator := flushed.2 }))
  each emitClosedCandle closed

def primeCandle (candle : MarketCandle) : CollectorTask Unit :=
  if candle.closed then do
    modify (fun s => applyCandle s candle)
    stored
  else pure ()

def primeCandles (candles : List MarketCandle) : CollectorTask Unit := each primeCandle candles

def backfill (symbol : String) (timeframes : List Timeframe) (limit : Nat) : CollectorTask Unit :=
  each (fun timeframe => do
    let answer ← suspend (.fetch symbol timeframe limit)
    primeCandles answer.items) timeframes

inductive Job where
  | trade (trade : Trade)
  | ticker (ticker : MarketTicker)
  | candle (candle : MarketCandle)
  | flush (now : Moment)
  | backfill (symbol : String) (timeframes : List Timeframe) (limit : Nat)

def perform : Job → CollectorTask Unit
  | .trade trade => processTrade trade
  | .ticker ticker => processTicker ticker
  | .candle candle => processCandle candle
  | .flush now => flushStaleCandles now
  | .backfill symbol timeframes limit => backfill symbol timeframes limit

-- A stretch of code gives candles to the store one after another.
def Applies (before after : TickCollector) : Prop :=
  ∃ candles, after.store = final updateCandle before.store candles ∧ after.applied = before.applied ++ candles

theorem applies_refl (s : TickCollector) : Applies s s := ⟨[], rfl, (List.append_nil _).symm⟩

theorem applies_trans (a b c : TickCollector) (first : Applies a b) (second : Applies b c) : Applies a c := by
  obtain ⟨left, leftStore, leftApplied⟩ := first
  obtain ⟨right, rightStore, rightApplied⟩ := second
  refine ⟨left ++ right, ?_, ?_⟩
  · rw [rightStore, leftStore, final, final, final, List.foldl_append]
  · rw [rightApplied, leftApplied, List.append_assoc]

theorem stored_applies : stored.Guarantees Applies := by
  refine guarantees_seq Applies applies_trans _ _ (guarantees_suspend Applies applies_refl .cache) (fun answer => ?_)
  split
  · exact guarantees_raise Applies applies_refl
  · exact guarantees_pure Applies applies_refl ()

theorem published_applies : published.Guarantees Applies :=
  guarantees_seq Applies applies_trans _ _ (guarantees_suspend Applies applies_refl .publish)
    (fun _ => guarantees_pure Applies applies_refl ())

theorem apply_applies (candle : MarketCandle) :
    (modify (fun s => applyCandle s candle) : CollectorTask Unit).Guarantees Applies :=
  guarantees_modify Applies _ (fun _ => ⟨[candle], rfl, rfl⟩)

theorem emit_applies (candle : MarketCandle) : (emitClosedCandle candle).Guarantees Applies :=
  guarantees_seq Applies applies_trans _ _ (apply_applies candle) (fun _ =>
    guarantees_seq Applies applies_trans _ _ stored_applies (fun _ => published_applies))

theorem reject_applies (issues : List QualityIssue) : (reject issues).Guarantees Applies :=
  guarantees_each Applies applies_refl applies_trans _ (fun _ => published_applies) issues

theorem emitted_applies (candles : List MarketCandle) : (each emitClosedCandle candles).Guarantees Applies :=
  guarantees_each Applies applies_refl applies_trans _ emit_applies candles

theorem twice_published_applies : (do published; published : CollectorTask Unit).Guarantees Applies :=
  guarantees_seq Applies applies_trans _ _ published_applies (fun _ => published_applies)

theorem trade_applies (trade : Trade) : (processTrade trade).Guarantees Applies := by
  refine guarantees_seq Applies applies_trans _ _ (guarantees_sync Applies _ (fun _ => applies_refl _)) (fun issues => ?_)
  split
  · exact reject_applies issues
  · refine guarantees_seq Applies applies_trans _ _ stored_applies (fun _ => ?_)
    refine guarantees_seq Applies applies_trans _ _ stored_applies (fun _ => ?_)
    refine guarantees_seq Applies applies_trans _ _ (guarantees_sync Applies _ (fun _ => applies_refl _)) (fun closed => ?_)
    exact guarantees_seq Applies applies_trans _ _ (emitted_applies closed) (fun _ => twice_published_applies)

theorem ticker_applies (ticker : MarketTicker) : (processTicker ticker).Guarantees Applies := by
  refine guarantees_read Applies _ (fun s => ?_)
  dsimp only
  split
  · exact reject_applies _
  · refine guarantees_seq Applies applies_trans _ _ stored_applies (fun _ => ?_)
    refine guarantees_seq Applies applies_trans _ _ (guarantees_sync Applies _ (fun later => ?_)) (fun closed => ?_)
    · split
      · exact applies_refl _
      · exact applies_refl _
    · exact guarantees_seq Applies applies_trans _ _ (emitted_applies closed) (fun _ => twice_published_applies)

theorem candle_applies (candle : MarketCandle) : (processCandle candle).Guarantees Applies := by
  refine guarantees_read Applies _ (fun s => ?_)
  dsimp only
  split
  · exact reject_applies _
  · split
    · exact emit_applies candle
    · exact guarantees_pure Applies applies_refl ()

theorem prime_applies (candles : List MarketCandle) : (primeCandles candles).Guarantees Applies := by
  refine guarantees_each Applies applies_refl applies_trans _ (fun candle => ?_) candles
  rw [primeCandle]
  split
  · exact guarantees_seq Applies applies_trans _ _ (apply_applies candle) (fun _ => stored_applies)
  · exact guarantees_pure Applies applies_refl ()

theorem perform_applies (job : Job) : (perform job).Guarantees Applies := by
  cases job with
  | trade trade => exact trade_applies trade
  | ticker ticker => exact ticker_applies ticker
  | candle candle => exact candle_applies candle
  | flush now =>
      exact guarantees_seq Applies applies_trans _ _ (guarantees_sync Applies _ (fun _ => applies_refl _)) emitted_applies
  | backfill symbol timeframes limit =>
      refine guarantees_each Applies applies_refl applies_trans _ (fun timeframe => ?_) timeframes
      exact guarantees_seq Applies applies_trans _ _ (guarantees_suspend Applies applies_refl _)
        (fun answer => prime_applies answer.items)

abbrev CollectorPool := Pool TickCollector Wait Answer

abbrev CollectorAction := Action Job Answer Empty

def undisturbed (change : Empty) (_ : TickCollector) : TickCollector := change.elim

def step : CollectorPool → CollectorAction → CollectorPool := Pool.step perform undisturbed

def idle (validator : DataValidator) (timeframes : List Timeframe) (aggregateFromTicks : Bool) (limit : Nat) :
    CollectorPool :=
  ⟨⟨validator, CandleAggregator.new timeframes, aggregateFromTicks, new limit, []⟩, []⟩

-- Whatever the interleaving of the jobs, the store is what the candles given to
-- it make of it.
theorem collector_applies (validator : DataValidator) (timeframes : List Timeframe) (aggregateFromTicks : Bool)
    (limit : Nat) (actions : List CollectorAction) :
    Along step (fun before after => Applies before.state after.state) (idle validator timeframes aggregateFromTicks limit)
      actions :=
  Pool.along_guaranteed perform undisturbed Applies (fun _ _ => True) applies_refl
    (fun job state _ => perform_applies job state) (fun change => change.elim)
    (idle validator timeframes aggregateFromTicks limit) actions rfl
    (Run.each_of_all _ _ (fun _ action => by cases action <;> trivial) _ actions)

theorem sorted_of_arrived (limit : Nat) (applied : List MarketCandle)
    (arrive : Each updateCandle Arrives (new limit) applied) : TimeSeries (final updateCandle (new limit) applied) :=
  Run.always_final _ _ _ _ ((updates_sorted_iff limit applied).mpr arrive)

theorem sorted_now (limit : Nat) (pool : CollectorPool) (actions : List CollectorAction)
    (along : Along step (fun before after => Applies before.state after.state) pool actions)
    (made : pool.state.store = final updateCandle (new limit) pool.state.applied)
    (arrive : Each updateCandle Arrives (new limit) (final step pool actions).state.applied) :
    TimeSeries pool.state.store := by
  have total : Applies pool.state (final step pool actions).state :=
    Run.final_of_along step (fun before after => Applies before.state after.state) (fun reached => applies_refl reached.state)
      (fun a b c => applies_trans a.state b.state c.state) pool actions along
  obtain ⟨more, _, applied⟩ := total
  rw [applied, Run.each_append] at arrive
  rw [made]
  exact sorted_of_arrived limit _ arrive.1

theorem sorted_so_far (limit : Nat) (pool : CollectorPool) (actions : List CollectorAction)
    (along : Along step (fun before after => Applies before.state after.state) pool actions)
    (made : pool.state.store = final updateCandle (new limit) pool.state.applied)
    (arrive : Each updateCandle Arrives (new limit) (final step pool actions).state.applied) :
    Always step (fun reached => TimeSeries reached.state.store) pool actions := by
  have now := sorted_now limit pool actions along made arrive
  induction actions generalizing pool with
  | nil => exact ⟨now, trivial⟩
  | cons action rest ih =>
      obtain ⟨here, later⟩ := along
      have madeNext : (step pool action).state.store = final updateCandle (new limit) (step pool action).state.applied := by
        obtain ⟨candles, store, applied⟩ := here
        rw [store, made, applied, final, final, final, List.foldl_append]
      exact ⟨now, ih (step pool action) later madeNext arrive (sorted_now limit _ rest later madeNext arrive)⟩

-- The series that strategies read are time series in exactly the sequences of
-- updates in which every candle starts no earlier than the last one of its
-- series; and so in every run of the collector whose candles arrive so.
theorem candle_history_sorted (limit : Nat) :
    (∀ updates, Always updateCandle TimeSeries (new limit) updates ↔ Each updateCandle Arrives (new limit) updates) ∧
    ∀ validator timeframes aggregateFromTicks actions,
      Each updateCandle Arrives (new limit)
        (final step (idle validator timeframes aggregateFromTicks limit) actions).state.applied →
      Always step (fun reached => TimeSeries reached.state.store) (idle validator timeframes aggregateFromTicks limit)
        actions := by
  refine ⟨updates_sorted_iff limit, fun validator timeframes aggregateFromTicks actions arrive => ?_⟩
  exact sorted_so_far limit _ actions (collector_applies validator timeframes aggregateFromTicks limit actions) rfl arrive

def providerCandle (start : Moment) : MarketCandle :=
  ⟨"BTCUSDT", "binance", .m1, start, start + minute, 100, 101, 99, 100, 1, 0, 0, 100, 1, true, "provider", []⟩

def calmValidator : DataValidator := ⟨20, 1000000, 5 * second, 120 * second, 16, 2 * second, Dict.empty⟩

theorem backfill_before_live :
    Always step (fun reached => TimeSeries reached.state.store) (idle calmValidator [.m1] false 500)
      [.spawn (.backfill "BTCUSDT" [.m1] 2), .resume 0 (.candles [providerCandle 0, providerCandle minute]),
        .resume 0 .done, .spawn (.candle (providerCandle (2 * minute)))] :=
  (candle_history_sorted 500).2 calmValidator [.m1] false
    [.spawn (.backfill "BTCUSDT" [.m1] 2), .resume 0 (.candles [providerCandle 0, providerCandle minute]),
      .resume 0 .done, .spawn (.candle (providerCandle (2 * minute)))] (by decide +kernel)

-- A live candle of the third minute arrives first; the backfill, in ascending
-- order, then seeds the first two minutes behind it.
theorem backfill_after_live :
    ¬ Increasing (candles
      (final step (idle calmValidator [.m1] false 500)
        [.spawn (.backfill "BTCUSDT" [.m1] 2), .spawn (.candle (providerCandle (2 * minute))),
          .resume 0 (.candles [providerCandle 0, providerCandle minute])]).state.store "BTCUSDT" .m1 100) := by
  decide +kernel

end QuantEngine.Collector
