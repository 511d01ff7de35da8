import QuantEngine.Execution.Models
import QuantEngine.Library.Deque
import QuantEngine.Library.Run
import QuantEngine.Market.Candles

set_option autoImplicit false

namespace QuantEngine.MarketState

open QuantEngine.Calendar QuantEngine.Timeframes QuantEngine.Candles
open Run (Each Always)

-- The closed candles of the store, by symbol as written and timeframe.
structure MarketStateStore where
  candlesLimit : Nat
  candles : Dict (String × Timeframe) (List MarketCandle)

def new (candlesLimit : Nat) : MarketStateStore := ⟨candlesLimit, Dict.empty⟩

def seriesAt (store : MarketStateStore) (key : String × Timeframe) : List MarketCandle := (store.candles.lookup key).getD []

def lastStart (items : List MarketCandle) : Option Moment := items.getLast?.map MarketCandle.start

-- The same bucket again replaces the last candle.
def appendCandle (limit : Nat) (items : List MarketCandle) (candle : MarketCandle) : List MarketCandle :=
  if lastStart items = some candle.start then items.dropLast ++ [candle] else Deque.push limit items candle

def updateCandle (store : MarketStateStore) (candle : MarketCandle) : MarketStateStore :=
  let key := (candle.symbol, candle.timeframe)
  { store with candles := store.candles.insert key (appendCandle store.candlesLimit (seriesAt store key) candle) }

-- `items[-limit:]`: all of them for zero, and a negative limit skips the first ones.
def lastItems (limit : Int) (items : List MarketCandle) : List MarketCandle :=
  if 0 < limit then Deque.newest limit.toNat items else items.drop (-limit).toNat

def candles (store : MarketStateStore) (symbol : String) (timeframe : Timeframe) (limit : Int) : List MarketCandle :=
  lastItems limit (seriesAt store (upper symbol, timeframe))

def Increasing (items : List MarketCandle) : Prop := (items.map MarketCandle.start).Pairwise (· < ·)

instance (items : List MarketCandle) : Decidable (Increasing items) := inferInstanceAs (Decidable (List.Pairwise _ _))

-- Every series a strategy can read is in order of start, without repetition.
def TimeSeries (store : MarketStateStore) : Prop :=
  ∀ symbol timeframe limit, Increasing (candles store symbol timeframe limit)

-- No query reads a series whose symbol is not in upper case.
def Arrives (store : MarketStateStore) (candle : MarketCandle) : Prop :=
  upper candle.symbol = candle.symbol → store.candlesLimit ≤ 1 ∨
    ∀ last ∈ lastStart (seriesAt store (candle.symbol, candle.timeframe)), last ≤ candle.start

instance (store : MarketStateStore) (candle : MarketCandle) : Decidable (Arrives store candle) :=
  inferInstanceAs (Decidable (_ → _))

theorem time_series_iff (store : MarketStateStore) :
    TimeSeries store ↔ ∀ symbol timeframe, upper symbol = symbol → Increasing (seriesAt store (symbol, timeframe)) := by
  constructor
  · intro sorted symbol timeframe high
    have whole := sorted symbol timeframe 0
    rw [candles, high] at whole
    exact whole
  · intro sorted symbol timeframe limit
    have whole := sorted (upper symbol) timeframe (upper_upper symbol)
    rw [candles, lastItems, Increasing]
    split
    · exact whole.sublist ((List.drop_sublist _ _).map _)
    · exact whole.sublist ((List.drop_sublist _ _).map _)

theorem update_series (store : MarketStateStore) (candle : MarketCandle) (key : String × Timeframe) :
    seriesAt (updateCandle store candle) key =
      if key = (candle.symbol, candle.timeframe) then appendCandle store.candlesLimit (seriesAt store key) candle
      else seriesAt store key := by
  simp only [seriesAt, updateCandle, Dict.lookup_insert]
  by_cases same : key = (candle.symbol, candle.timeframe)
  · rw [if_pos same, if_pos same, same]
    rfl
  · rw [if_neg same, if_neg same]

theorem increasing_snoc (items : List MarketCandle) (candle : MarketCandle) :
    Increasing (items ++ [candle]) ↔ Increasing items ∧ ∀ other ∈ items, other.start < candle.start := by
  rw [Increasing, List.map_append, List.pairwise_append]
  simp [Increasing]

theorem last_greatest (items : List MarketCandle) (sorted : Increasing items) (start : Moment) :
    (∀ other ∈ items, other.start < start) ↔ ∀ last ∈ lastStart items, last < start := by
  cases List.eq_nil_or_concat items with
  | inl empty =>
      subst empty
      simp [lastStart]
  | inr split =>
      obtain ⟨front, last, rfl⟩ := split
      rw [List.concat_eq_append] at sorted ⊢
      have order := ((increasing_snoc front last).mp sorted).2
      simp only [lastStart, List.getLast?_append, List.getLast?_singleton, Option.some_or, Option.map_some, Option.mem_def,
        Option.some.injEq, forall_eq']
      constructor
      · intro all
        exact all last (List.mem_append_right _ List.mem_cons_self)
      · intro less other member
        cases List.mem_append.mp member with
        | inl old => exact lt_trans (order other old) less
        | inr here => exact List.mem_singleton.mp here ▸ less

theorem replace_increasing (items : List MarketCandle) (sorted : Increasing items) (candle : MarketCandle)
    (same : lastStart items = some candle.start) : Increasing (items.dropLast ++ [candle]) := by
  cases List.eq_nil_or_concat items with
  | inl empty =>
      rw [empty] at same
      cases same
  | inr split =>
      obtain ⟨front, last, rfl⟩ := split
      rw [List.concat_eq_append] at sorted same ⊢
      rw [lastStart, List.getLast?_concat] at same
      have start : last.start = candle.start := Option.some.inj same
      rw [List.dropLast_concat, increasing_snoc]
      have order := (increasing_snoc front last).mp sorted
      exact ⟨order.1, fun other member => start ▸ order.2 other member⟩

theorem push_split (limit : Nat) (items : List MarketCandle) (room : 2 ≤ limit)
    (candle : MarketCandle) : ∃ kept, Deque.push limit items candle = kept ++ [candle] ∧ kept.Sublist items ∧
      lastStart kept = lastStart items := by
  refine ⟨items.drop (items.length + 1 - limit), ?_, List.drop_sublist _ _, ?_⟩
  · rw [Deque.push, Deque.newest, List.length_append, List.length_singleton,
      List.drop_append_of_le_length (by omega)]
  · rw [lastStart, lastStart, List.getLast?_drop]
    by_cases empty : items = []
    · rw [empty]
      rfl
    · have length := List.length_pos_iff.mpr empty
      rw [if_neg (by omega)]

-- A deque of at most one candle is always in order; a longer one is while no
-- candle starts before the last.
theorem append_increasing_iff (limit : Nat) (items : List MarketCandle) (sorted : Increasing items)
    (candle : MarketCandle) :
    Increasing (appendCandle limit items candle) ↔ limit ≤ 1 ∨ ∀ last ∈ lastStart items, last ≤ candle.start := by
  rw [appendCandle]
  by_cases same : lastStart items = some candle.start
  · rw [if_pos same]
    refine ⟨fun _ => Or.inr (fun last member => ?_), fun _ => replace_increasing items sorted candle same⟩
    rw [same] at member
    exact le_of_eq (Option.some.inj member).symm
  · rw [if_neg same]
    by_cases small : limit ≤ 1
    · refine ⟨fun _ => Or.inl small, fun _ => ?_⟩
      have short : ((Deque.push limit items candle).map MarketCandle.start).length ≤ 1 := by
        rw [List.length_map, Deque.push, Deque.newest_length]
        omega
      rw [Increasing]
      cases starts : (Deque.push limit items candle).map MarketCandle.start with
      | nil => exact List.Pairwise.nil
      | cons first rest =>
          rw [starts, List.length_cons] at short
          rw [List.eq_nil_of_length_eq_zero (show rest.length = 0 by omega)]
          exact List.pairwise_singleton _ _
    · obtain ⟨kept, split, part, last⟩ := push_split limit items (by omega) candle
      have keptSorted : Increasing kept := List.Pairwise.sublist (part.map _) sorted
      rw [split, increasing_snoc, last_greatest kept keptSorted, last]
      constructor
      · intro after
        exact Or.inr (fun start member => le_of_lt (after.2 start member))
      · intro either
        cases either with
        | inl small' => exact absurd small' small
        | inr later =>
            refine ⟨keptSorted, fun start member => lt_of_le_of_ne (later start member) (fun equal => same ?_)⟩
            rw [← equal]
            exact member

theorem new_sorted (limit : Nat) : TimeSeries (new limit) :=
  (time_series_iff (new limit)).mpr (fun _ _ _ => List.Pairwise.nil)

theorem update_sorted_iff (store : MarketStateStore) (candle : MarketCandle) (inv : TimeSeries store) :
    TimeSeries (updateCandle store candle) ↔ Arrives store candle := by
  have sorted := (time_series_iff store).mp inv
  rw [time_series_iff]
  constructor
  · intro after high
    have here := after candle.symbol candle.timeframe high
    rw [update_series, if_pos rfl] at here
    exact (append_increasing_iff _ _ (sorted _ _ high) candle).mp here
  · intro arrives symbol timeframe high
    rw [update_series]
    by_cases same : (symbol, timeframe) = (candle.symbol, candle.timeframe)
    · rw [if_pos same]
      obtain ⟨rfl, rfl⟩ := Prod.mk.inj same
      exact (append_increasing_iff _ _ (sorted _ _ high) candle).mpr (arrives high)
    · rw [if_neg same]
      exact sorted symbol timeframe high

theorem updates_sorted_iff (limit : Nat) (updates : List MarketCandle) :
    Always updateCandle TimeSeries (new limit) updates ↔ Each updateCandle Arrives (new limit) updates :=
  Run.always_iff updateCandle TimeSeries Arrives TimeSeries (fun _ sorted => sorted)
    (fun store candle sorted => update_sorted_iff store candle sorted)
    (fun store candle sorted arrives => (update_sorted_iff store candle sorted).mpr arrives) (new limit) updates
    (new_sorted limit)

end QuantEngine.MarketState
