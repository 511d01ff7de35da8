import Mathlib.Tactic.Linarith
import QuantEngine.Analytics.Indicators
import QuantEngine.Backtesting.BacktestEngine
import QuantEngine.Backtesting.MarketContext
import QuantEngine.Library.Extended
import QuantEngine.Research.Indicators

set_option autoImplicit false

namespace QuantEngine.Analytics

open Backtesting (LiveMarket)
open BacktestEngine (HistoricalMarket)
open Candles (MarketCandle)
open Timeframes (Timeframe)

namespace FeatureStore

-- The feature store's own loop over pairs of neighbours.
def atr (market : LiveMarket) (symbol : String) (timeframe : Timeframe) (period : Int) : Option ℚ :=
  let candles := market.getCandles symbol timeframe (period + 1)
  if candles.length < 2 then none
  else
    let window := Slices.last period (Backtesting.Features.trueRanges candles)
    if window.isEmpty then none else some (window.sum / window.length)

end FeatureStore

-- What the indicators of research read of a candle.
def prices (candle : Research.Candle Extended) : Extended × Extended × Extended := (candle.high, candle.low, candle.close)

def exactPrices (candle : MarketCandle) : Extended × Extended × Extended :=
  (.finite candle.high, .finite candle.low, .finite candle.close)

section

variable (candles : List MarketCandle)

theorem true_ranges_length : (trueRanges candles).length = candles.length - 1 := by
  induction candles with
  | nil => rfl
  | cons prev rest ih =>
      cases rest with
      | nil => rfl
      | cons curr rest =>
          rw [trueRanges, List.length_cons, ih]
          rfl

theorem true_ranges_drop (count : Nat) : trueRanges (candles.drop count) = (trueRanges candles).drop count := by
  induction candles generalizing count with
  | nil => simp [trueRanges]
  | cons prev rest ih =>
      cases count with
      | zero => rfl
      | succ count =>
          rw [List.drop_succ_cons, ih]
          cases rest with
          | nil => simp [trueRanges]
          | cons curr rest => rw [trueRanges, List.drop_succ_cons]

theorem true_ranges_take (count : Nat) : trueRanges (candles.take (count + 1)) = (trueRanges candles).take count := by
  induction candles generalizing count with
  | nil => simp [trueRanges]
  | cons prev rest ih =>
      cases rest with
      | nil => simp [trueRanges]
      | cons curr rest =>
          cases count with
          | zero => rfl
          | succ count =>
              have onward := ih count
              rw [List.take_succ_cons] at onward ⊢
              rw [List.take_succ_cons, trueRanges, trueRanges, List.take_succ_cons, onward]

theorem store_ranges : Backtesting.Features.trueRanges candles = trueRanges candles := by
  induction candles with
  | nil => rfl
  | cons prev rest ih =>
      cases rest with
      | nil => rfl
      | cons curr rest => rw [Backtesting.Features.trueRanges, trueRanges, ih]

theorem engine_ranges : Market.trueRanges (candles.map HistoricalMarket.bar) = trueRanges candles := by
  induction candles with
  | nil => rfl
  | cons prev rest ih =>
      cases rest with
      | nil => rfl
      | cons curr rest =>
          rw [List.map_cons] at ih ⊢
          rw [List.map_cons, Market.trueRanges, trueRanges, ih, ← max_assoc]
          rfl

theorem last_empty (period : Nat) (ranges : List ℚ) : (Slices.last period ranges).isEmpty = ranges.isEmpty := by
  rw [Bool.eq_iff_iff, List.isEmpty_iff_length_eq_zero, List.isEmpty_iff_length_eq_zero, Slices.last]
  split
  · rename_i positive
    rw [List.length_drop]
    omega
  · rw [List.length_drop]
    omega

-- Over the same candles the four take the same mean.
theorem feature_reads (market : LiveMarket) (symbol : String) (timeframe : Timeframe) (period : Nat) :
    FeatureStore.atr market symbol timeframe period = atr (market.getCandles symbol timeframe (period + 1)) period := by
  rw [FeatureStore.atr, atr]
  dsimp only
  rw [store_ranges, last_empty]
  split
  · rename_i short
    have none_yet : (trueRanges (market.getCandles symbol timeframe (period + 1))).isEmpty := by
      rw [List.isEmpty_iff_length_eq_zero, true_ranges_length]
      omega
    rw [if_pos none_yet]
  · rfl

theorem engine_reads (period : Nat) : Market.atr (candles.map HistoricalMarket.bar) period = atr candles period := by
  have window : (if period = 0 then trueRanges candles else Deque.newest period (trueRanges candles)) =
      Slices.last period (trueRanges candles) := by
    rcases Nat.eq_zero_or_pos period with rfl | positive
    · rfl
    · rw [if_neg positive.ne', Slices.last, if_pos (Int.natCast_pos.mpr positive)]
      rfl
  rw [Market.atr, atr]
  dsimp only
  rw [engine_ranges, window, last_empty]

-- Candles before the last `period + 1` do not matter.
theorem atr_drop (period count : Nat) (positive : 0 < period) (enough : period + 1 + count ≤ candles.length) :
    atr (candles.drop count) period = atr candles period := by
  have length := true_ranges_length candles
  have some_left : ((trueRanges candles).drop count).isEmpty = (trueRanges candles).isEmpty := by
    rw [Bool.eq_iff_iff, List.isEmpty_iff_length_eq_zero, List.isEmpty_iff_length_eq_zero, List.length_drop]
    omega
  have window : Slices.last period ((trueRanges candles).drop count) = Slices.last period (trueRanges candles) := by
    have long : (period : Int).toNat ≤ ((trueRanges candles).drop count).length := by
      rw [List.length_drop]
      omega
    have split := Slices.last_append period ((trueRanges candles).take count) _ (Int.natCast_pos.mpr positive) long
    rwa [List.take_append_drop, eq_comm] at split
  rw [atr, atr]
  dsimp only
  rw [true_ranges_drop, some_left, window]

-- With just `period + 1` candles the mean is over all ranges.
theorem atr_exact (period : Nat) (positive : 0 < period) (exactly : candles.length = period + 1) :
    atr candles period = some ((trueRanges candles).sum / period) := by
  have length : (trueRanges candles).length = period := by rw [true_ranges_length, exactly, Nat.add_sub_cancel]
  have some_range : ¬ (trueRanges candles).isEmpty := by
    rw [List.isEmpty_iff_length_eq_zero, length]
    exact positive.ne'
  have all : Slices.last period (trueRanges candles) = trueRanges candles := by
    rw [Slices.last, if_pos (Int.natCast_pos.mpr positive), Int.toNat_natCast, length, Nat.sub_self, List.drop_zero]
  rw [atr]
  dsimp only
  rw [if_neg some_range, all, length]

-- The indicator at each candle that has `period` ranges behind it.
theorem atr_take (period start : Nat) (positive : 0 < period) (inside : period + 1 + start ≤ candles.length) :
    atr (candles.take (period + 1 + start)) period = some ((((trueRanges candles).drop start).take period).sum / period) := by
  have length : (candles.take (period + 1 + start)).length = period + 1 + start := by
    rw [List.length_take, Nat.min_eq_left inside]
  rw [← atr_drop (candles.take (period + 1 + start)) period start positive length.ge,
    atr_exact _ period positive (by rw [List.length_drop, length, Nat.add_sub_cancel]), List.drop_take,
    Nat.add_sub_cancel, true_ranges_take, true_ranges_drop]

end

-- Each average after the first is that of the window one range further on.
theorem rolled_windows (period : Nat) (positive : 0 < period) (ranges : List ℚ) :
    rolled period (ranges.take period).sum (ranges.drop period) ranges =
      (List.range (ranges.length - period)).map (fun start => ((ranges.drop (start + 1)).take period).sum / period) := by
  induction ranges with
  | nil => simp [rolled]
  | cons leaving rest ih =>
      obtain ⟨size, rfl⟩ : ∃ size, period = size + 1 := ⟨period - 1, by omega⟩
      cases ahead : rest.drop size with
      | nil =>
          have short : rest.length ≤ size := List.drop_eq_nil_iff.mp ahead
          rw [List.drop_succ_cons, ahead, rolled, List.length_cons, Nat.sub_eq_zero_of_le (Nat.succ_le_succ short),
            List.range_zero, List.map_nil]
          simp
      | cons entering others =>
          have next : rest.drop (size + 1) = others := by rw [← List.tail_drop, ahead, List.tail_cons]
          have inside : size < rest.length := by
            by_contra beyond
            rw [List.drop_eq_nil_of_le (not_lt.mp beyond)] at ahead
            cases ahead
          have shifted : (rest.take (size + 1)).sum = (rest.take size).sum + entering := by
            rw [List.take_add_one, List.sum_append, ← List.head?_drop, ahead]
            simp
          have acc : ((leaving :: rest).take (size + 1)).sum + (entering - leaving) = (rest.take (size + 1)).sum := by
            rw [List.take_succ_cons, List.sum_cons, shifted]
            ring
          rw [List.drop_succ_cons, ahead, rolled, acc, ← next, ih, List.length_cons,
            show rest.length + 1 - (size + 1) = rest.length - (size + 1) + 1 by omega, List.range_succ_eq_map, List.map_cons,
            List.map_map]
          rfl

-- The rolling series has the indicator of each long enough prefix.
theorem series_prefixes (candles : List MarketCandle) (period : Nat) (positive : 0 < period) : ∃ series,
    atrSeries candles period = .ok series ∧
      series.map some = (List.range' (period + 1) (candles.length - period)).map (fun count => atr (candles.take count) period) := by
  have length := true_ranges_length candles
  rw [atrSeries]
  dsimp only
  rw [if_neg positive.ne']
  by_cases short : (trueRanges candles).length < period
  · rw [if_pos short]
    refine ⟨[], rfl, ?_⟩
    rw [show candles.length - period = 0 by omega]
    rfl
  · rw [if_neg short, rolled_windows period positive]
    refine ⟨_, rfl, ?_⟩
    have windows : (trueRanges candles).length - period + 1 = candles.length - period := by omega
    rw [← windows, List.range'_eq_map_range, List.range_succ_eq_map, List.map_cons, List.map_cons, List.map_cons,
      atr_take candles period 0 positive (by omega), List.drop_zero, List.map_map, List.map_map, List.map_map]
    congr 1
    refine List.map_congr_left (fun start member => ?_)
    have inside := List.mem_range.mp member
    exact (atr_take candles period (start + 1) positive (by omega)).symm

theorem pick_finite (a b : ℚ) : (if Floats.lt (Extended.finite a) (.finite b) then Extended.finite b else .finite a) =
    .finite (max a b) := by
  have order : Floats.lt (Extended.finite a) (.finite b) = decide (a < b) := Extended.lt_finite a b
  rw [order]
  rcases lt_or_ge a b with below | above
  · rw [if_pos (decide_eq_true below), max_eq_right below.le]
  · rw [if_neg (by simpa using above), max_eq_left above]

theorem range_finite (reading : Research.Candle Extended) (candle : MarketCandle) (same : prices reading = exactPrices candle)
    (close : ℚ) : Floats.maxOf (Floats.sub reading.high reading.low)
      [Floats.abs (Floats.sub reading.high (.finite close)), Floats.abs (Floats.sub reading.low (.finite close))] =
      .finite (max (max (candle.high - candle.low) |candle.high - close|) |candle.low - close|) := by
  have difference (x y : ℚ) : Floats.sub (Extended.finite x) (.finite y) = .finite (x - y) := Extended.add_neg_finite x y
  obtain ⟨high, rest⟩ := Prod.mk.inj same
  obtain ⟨low, -⟩ := Prod.mk.inj rest
  rw [high, low, difference, difference, difference, Extended.abs_finite, Extended.abs_finite, Floats.maxOf, List.foldl_cons,
    List.foldl_cons, List.foldl_nil, pick_finite, pick_finite]

theorem ranges_after (prev : MarketCandle) (candles : List MarketCandle) (readings : List (Research.Candle Extended))
    (same : readings.map prices = candles.map exactPrices) :
    Research.Indicators.rangesAfter (.finite prev.close) readings = (trueRanges (prev :: candles)).map Extended.finite := by
  induction candles generalizing prev readings with
  | nil => rw [List.map_eq_nil_iff.mp same, Research.Indicators.rangesAfter, trueRanges, List.map_nil]; simp
  | cons candle rest ih =>
      cases readings with
      | nil => cases same
      | cons reading others =>
          obtain ⟨here, later⟩ := List.cons.inj same
          have close : reading.close = .finite candle.close := congrArg (fun triple => triple.2.2) here
          rw [Research.Indicators.rangesAfter, range_finite reading candle here, close, ih candle others later, trueRanges,
            List.map_cons]

theorem sum_finite (values : List ℚ) (start : ℚ) :
    (values.map Extended.finite).foldl Extended.add (.finite start) = .finite (start + values.sum) := by
  induction values generalizing start with
  | nil => simp
  | cons value rest ih =>
      rw [List.map_cons, List.foldl_cons, List.sum_cons, ← add_assoc]
      exact ih (start + value)

theorem research_atr (period : Nat) (positive : 0 < period) (candles : List MarketCandle) (enough : period + 1 ≤ candles.length)
    (readings : List (Research.Candle Extended)) (same : readings.map prices = candles.map exactPrices) :
    Research.Indicators.atr readings period = (atr candles period).map Extended.finite := by
  have length : readings.length = candles.length := by simpa using congrArg List.length same
  have ranges := true_ranges_length candles
  have served : Research.Indicators.short readings period (period + 1) = false := by
    rw [Research.Indicators.short, Bool.or_eq_false_iff, decide_eq_false_iff_not, decide_eq_false_iff_not]
    omega
  have window : Research.Indicators.window (Research.Indicators.trueRanges readings) period =
      (Slices.last period (trueRanges candles)).map Extended.finite := by
    cases candles with
    | nil => cases enough
    | cons candle rest =>
        cases readings with
        | nil => cases same
        | cons reading others =>
            obtain ⟨here, later⟩ := List.cons.inj same
            have close : reading.close = .finite candle.close := congrArg (fun triple => triple.2.2) here
            rw [List.length_cons, Nat.add_sub_cancel] at ranges
            rw [List.length_cons] at enough
            rw [Research.Indicators.trueRanges, close, ranges_after candle rest others later, Research.Indicators.window,
              Slices.last, if_pos (Int.natCast_pos.mpr positive), Int.toNat_natCast, List.length_cons, List.length_map, ranges,
              show rest.length + 1 - period = rest.length - period + 1 by omega, List.drop_succ_cons, List.map_drop]
  have some_range : ¬ (trueRanges candles).isEmpty := by
    rw [List.isEmpty_iff_length_eq_zero]
    omega
  have count : (Slices.last period (trueRanges candles)).length = period := by
    rw [Slices.last_length _ _ (Int.natCast_pos.mpr positive)]
    omega
  have sum : Floats.sum ((Slices.last period (trueRanges candles)).map Extended.finite) =
      Extended.finite (0 + (Slices.last period (trueRanges candles)).sum) := sum_finite _ 0
  rw [Research.Indicators.atr, served, window, Research.Indicators.average, sum, atr]
  dsimp only
  rw [if_neg some_range, count, zero_add, Int.toNat_natCast, Option.map_some, div_eq_mul_one_div]
  rfl

-- What each of the four gives for these candles.
structure Agree (candles : List MarketCandle) (period : Nat) (value : ℚ) : Prop where
  indicator : atr candles period = some value
  rolling : ∃ series, atrSeries candles period = .ok series ∧ series.getLast? = some value
  feature : ∀ (market : LiveMarket) (symbol : String) (timeframe : Timeframe),
    MarketState.seriesAt market.store (upper symbol, timeframe) = candles →
    FeatureStore.atr market symbol timeframe period = some value
  engine : ∀ (β : Type) (engine : ExecutionEngine β) (symbol : String) (world : World β),
    engine.settings.sizing.atrPeriod = period → world.market.candles symbol = candles.map HistoricalMarket.bar →
    engine.symbolAtr symbol world = some value
  research : ∀ readings : List (Research.Candle Extended), readings.map prices = candles.map exactPrices →
    Research.Indicators.atr readings period = some (.finite value)

theorem four_atrs (period : Nat) (positive : 0 < period) (candles : List MarketCandle) :
    (period + 1 ≤ candles.length → ∃ value, Agree candles period value) ∧
    ∃ series, atrSeries candles period = .ok series ∧
      series.map some = (List.range' (period + 1) (candles.length - period)).map (fun count => atr (candles.take count) period) := by
  refine ⟨fun enough => ?_, series_prefixes candles period positive⟩
  obtain ⟨series, rolling, prefixes⟩ := series_prefixes candles period positive
  have known := atr_take candles period (candles.length - (period + 1)) positive (by omega)
  rw [Nat.add_sub_cancel' enough, List.take_length] at known
  refine ⟨_, known, ⟨series, rolling, ?_⟩, ?_, ?_, ?_⟩
  · have last := congrArg List.getLast? prefixes
    have place : period + 1 + (candles.length - period) - 1 = candles.length := by omega
    rw [List.getLast?_map, List.getLast?_map, List.getLast?_range', if_neg (by omega), place, Option.map_some, List.take_length,
      known] at last
    obtain ⟨value, found, same⟩ := Option.map_eq_some_iff.mp last
    rw [found, same]
  · intro market symbol timeframe held
    have read : market.getCandles symbol timeframe (period + 1) = candles.drop (candles.length - (period + 1)) := by
      rw [LiveMarket.getCandles, MarketState.candles, held, MarketState.lastItems, if_pos (by omega), Deque.newest]
      rfl
    rw [feature_reads, read, atr_drop candles period _ positive (by omega), known]
  · rintro β engine symbol world set read
    rw [ExecutionEngine.symbolAtr, Market.symbolAtr, set, read, ← Deque.newest_map, engine_reads, Deque.newest,
      atr_drop candles period _ positive (by omega), known]
  · intro readings same
    rw [research_atr period positive candles enough readings same, known, Option.map_some]

def closing (high low close : ℚ) : MarketCandle :=
  ⟨"BTCUSDT", "binance", .m1, 0, 60000000, close, high, low, close, 1, 0, 0, 0, 1, true, "provider", []⟩

theorem four_atrs_rally : ∃ value, Agree [closing 10 9 9, closing 12 10 11, closing 13 12 13, closing 13 11 12] 2 value :=
  (four_atrs 2 (by decide) [closing 10 9 9, closing 12 10 11, closing 13 12 13, closing 13 11 12]).1 (by decide)

end QuantEngine.Analytics
