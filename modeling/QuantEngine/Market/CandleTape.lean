import Mathlib.Algebra.Order.Ring.Rat
import Mathlib.Tactic.Ring
import QuantEngine.Library.Tallies
import QuantEngine.Market.Candles

set_option autoImplicit false

namespace QuantEngine.CandleTape

open QuantEngine.Calendar QuantEngine.Timeframes QuantEngine.Candles QuantEngine.Merging

-- The aggregator with the candles it has emitted so far and, as a ghost, the
-- points it was given.
structure Tape where
  aggregator : CandleAggregator
  emitted : List MarketCandle
  points : List Point

def Tape.add (tape : Tape) (point : Point) : Tape :=
  let folded := fold tape.aggregator point
  ⟨folded.2, tape.emitted ++ folded.1, tape.points ++ [point]⟩

def Tape.flush (tape : Tape) (now : Moment) : Tape :=
  let flushed := flushStale tape.aggregator now
  ⟨flushed.2, tape.emitted ++ flushed.1, tape.points⟩

def start (timeframes : List Timeframe) : Tape := ⟨CandleAggregator.new timeframes, [], []⟩

structure Series where
  closed : List MarketCandle
  building : Option Building
  points : List Point

def MarketCandle.of (key : String × Frame) (candle : MarketCandle) : Bool :=
  decide (candle.symbol = key.1) && decide (candle.timeframe = key.2.1)

def series (key : String × Frame) (tape : Tape) : Series where
  closed := tape.emitted.filter (MarketCandle.of key)
  building := tape.aggregator.building.lookup key
  points := tape.points.filter (fun point => decide (point.symbol = key.1))

def Series.add (x : Series) (frame : Frame) (point : Point) : Series :=
  let turn := foldInto x.building frame point
  ⟨x.closed ++ turn.1, some turn.2, x.points ++ [point]⟩

def Series.flush (x : Series) (now : Moment) : Series :=
  match x.building with
  | none => x
  | some building => if building.end_ ≤ now then ⟨x.closed ++ [building.freeze true], none, x.points⟩ else x

def Series.candles (x : Series) : List MarketCandle := x.closed ++ x.building.toList.map (fun building => building.freeze false)

def Matches (key : String × Frame) (building : Building) : Prop :=
  building.symbol = key.1 ∧ building.timeframe = key.2.1

def Keyed (building : Dict (String × Frame) Building) : Prop :=
  ∀ key found, building.lookup key = some found → Matches key found

theorem frozen_of (key : String × Frame) (building : Building) (keyed : Matches key building) (closed : Bool)
    (other : String × Frame) : MarketCandle.of other (building.freeze closed) = decide (other = key) := by
  obtain ⟨symbol, frame⟩ := key
  obtain ⟨otherSymbol, otherFrame⟩ := other
  have sameSymbol : building.symbol = symbol := keyed.1
  have sameFrame : building.timeframe = frame.1 := keyed.2
  rw [MarketCandle.of, Building.freeze]
  dsimp only
  rw [sameSymbol, sameFrame, ← Bool.decide_and]
  refine decide_eq_decide.mpr ?_
  rw [Prod.mk.injEq, Subtype.ext_iff]
  exact and_congr eq_comm eq_comm

theorem fold_into_matches (key : String × Frame) (found : Option Building) (point : Point) (symbol : point.symbol = key.1)
    (keyed : ∀ building, found = some building → Matches key building) :
    Matches key (foldInto found key.2 point).2 ∧
      ∀ other, (foldInto found key.2 point).1.filter (MarketCandle.of other) =
        if other = key then (foldInto found key.2 point).1 else [] := by
  cases found with
  | none => exact ⟨⟨symbol, rfl⟩, fun other => by simp [foldInto]⟩
  | some building =>
      have here := keyed building rfl
      rw [foldInto]
      split
      · refine ⟨⟨symbol, rfl⟩, fun other => ?_⟩
        rw [List.filter_singleton, frozen_of key building here]
        by_cases same : other = key
        · rw [if_pos same, decide_eq_true same]
          rfl
        · rw [if_neg same, decide_eq_false same]
          rfl
      · exact ⟨here, fun other => by simp⟩

-- What the loop has closed and what it has in building for one key.
def cell (key : String × Frame) (state : List MarketCandle × CandleAggregator) : List MarketCandle × Option Building :=
  (state.1.filter (MarketCandle.of key), state.2.building.lookup key)

def turnCell (frame : Frame) (point : Point) (c : List MarketCandle × Option Building) : List MarketCandle × Option Building :=
  (c.1 ++ (foldInto c.2 frame point).1, some (foldInto c.2 frame point).2)

theorem fold_frame_cell (point : Point) (state : List MarketCandle × CandleAggregator) (frame : Frame)
    (keyed : Keyed state.2.building) (key : String × Frame) :
    cell key (foldFrame point state frame) =
      if key = (point.symbol, frame) then turnCell frame point (cell key state) else cell key state := by
  have turn := fold_into_matches (point.symbol, frame) (state.2.building.lookup (point.symbol, frame)) point rfl
    (keyed (point.symbol, frame))
  simp only [cell, foldFrame, List.filter_append, Dict.lookup_insert, turn.2 key]
  by_cases same : key = (point.symbol, frame)
  · rw [if_pos same, if_pos same, if_pos same, turnCell, same]
  · rw [if_neg same, if_neg same, if_neg same, List.append_nil]

theorem fold_frame_keyed (point : Point) (state : List MarketCandle × CandleAggregator) (frame : Frame)
    (keyed : Keyed state.2.building) : Keyed (foldFrame point state frame).2.building := by
  intro key found looked
  have turn := fold_into_matches (point.symbol, frame) (state.2.building.lookup (point.symbol, frame)) point rfl
    (keyed (point.symbol, frame))
  simp only [foldFrame, Dict.lookup_insert] at looked
  by_cases same : key = (point.symbol, frame)
  · rw [if_pos same] at looked
    cases looked
    rw [same]
    exact turn.1
  · rw [if_neg same] at looked
    exact keyed key found looked

theorem fold_frames_keyed (point : Point) (frames : List Frame) (state : List MarketCandle × CandleAggregator)
    (keyed : Keyed state.2.building) : Keyed (frames.foldl (foldFrame point) state).2.building := by
  induction frames generalizing state with
  | nil => exact keyed
  | cons frame rest ih => exact ih (foldFrame point state frame) (fold_frame_keyed point state frame keyed)

theorem fold_frames_cell (point : Point) (frames : List Frame) (once : frames.Nodup)
    (state : List MarketCandle × CandleAggregator) (keyed : Keyed state.2.building) (key : String × Frame) :
    cell key (frames.foldl (foldFrame point) state) =
      if key.1 = point.symbol ∧ key.2 ∈ frames then turnCell key.2 point (cell key state) else cell key state := by
  induction frames generalizing state with
  | nil => simp
  | cons frame rest ih =>
      obtain ⟨fresh, onceRest⟩ := List.nodup_cons.mp once
      rw [List.foldl_cons, ih onceRest (foldFrame point state frame) (fold_frame_keyed point state frame keyed),
        fold_frame_cell point state frame keyed key]
      by_cases here : key = (point.symbol, frame)
      · rw [if_pos here, here]
        simp [fresh]
      · rw [if_neg here]
        by_cases later : key.1 = point.symbol ∧ key.2 ∈ rest
        · rw [if_pos later, if_pos ⟨later.1, List.mem_cons_of_mem frame later.2⟩]
        · rw [if_neg later, if_neg]
          intro either
          cases List.mem_cons.mp either.2 with
          | inl head => exact here (Prod.ext either.1 head)
          | inr tail => exact later ⟨either.1, tail⟩

structure Wired (tape : Tape) : Prop where
  once : tape.aggregator.timeframes.Nodup
  keyed : Keyed tape.aggregator.building

theorem fold_frames_timeframes (point : Point) (frames : List Frame) (state : List MarketCandle × CandleAggregator) :
    (frames.foldl (foldFrame point) state).2.timeframes = state.2.timeframes := by
  induction frames generalizing state with
  | nil => rfl
  | cons frame rest ih => exact ih (foldFrame point state frame)

theorem series_add (tape : Tape) (wired : Wired tape) (point : Point) (key : String × Frame)
    (configured : key.2 ∈ tape.aggregator.timeframes) :
    series key (tape.add point) =
      if key.1 = point.symbol then (series key tape).add key.2 point else series key tape := by
  have loop := fold_frames_cell point tape.aggregator.timeframes wired.once ([], tape.aggregator) wired.keyed key
  simp only [configured, and_true] at loop
  have closed := congrArg Prod.fst loop
  have building := congrArg Prod.snd loop
  simp only [cell, turnCell, List.filter_nil, List.nil_append] at closed building
  simp only [series, Tape.add, fold, List.filter_append, closed, building]
  by_cases same : key.1 = point.symbol
  · simp [same, Series.add]
  · simp [same, Ne.symm same]

theorem add_wired (tape : Tape) (wired : Wired tape) (point : Point) : Wired (tape.add point) := by
  have frames : (tape.add point).aggregator.timeframes = tape.aggregator.timeframes :=
    fold_frames_timeframes point tape.aggregator.timeframes ([], tape.aggregator)
  constructor
  · rw [frames]
    exact wired.once
  · exact fold_frames_keyed point tape.aggregator.timeframes ([], tape.aggregator) wired.keyed

theorem stale_of_key (building : Dict (String × Frame) Building) (keyed : Keyed building) (now : Moment)
    (key : String × Frame) :
    ((building.entries.filter (fun entry => decide (entry.2.end_ ≤ now))).map
        (fun entry => entry.2.freeze true)).filter (MarketCandle.of key) =
      ((building.lookup key).toList.filter (fun found => decide (found.end_ ≤ now))).map
        (fun found => found.freeze true) := by
  have owned : ∀ entry ∈ building.entries, MarketCandle.of key (entry.2.freeze true) = decide (entry.1 = key) := by
    intro entry member
    have matched := keyed entry.1 entry.2 (Dict.lookup_of_mem building entry.1 entry.2 member)
    rw [frozen_of entry.1 entry.2 matched true key]
    exact decide_eq_decide.mpr eq_comm
  calc ((building.entries.filter (fun entry => decide (entry.2.end_ ≤ now))).map
        (fun entry => entry.2.freeze true)).filter (MarketCandle.of key)
      = ((building.entries.filter (fun entry => decide (entry.2.end_ ≤ now))).filter
          (fun entry => MarketCandle.of key (entry.2.freeze true))).map (fun entry => entry.2.freeze true) := by
        rw [List.filter_map]
        rfl
    _ = ((building.entries.filter (fun entry => decide (entry.2.end_ ≤ now))).filter
          (fun entry => decide (entry.1 = key))).map (fun entry => entry.2.freeze true) := by
        congr 1
        exact List.filter_congr (fun entry member => owned entry (List.mem_filter.mp member).1)
    _ = ((building.entries.filter (fun entry => decide (entry.1 = key))).filter
          (fun entry => decide (entry.2.end_ ≤ now))).map (fun entry => entry.2.freeze true) := by
        rw [List.filter_comm]
    _ = ((building.lookup key).toList.filter (fun found => decide (found.end_ ≤ now))).map
        (fun found => found.freeze true) := by
        rw [Dict.entries_of_key, List.filter_map, List.map_map]
        rfl

theorem series_flush (tape : Tape) (wired : Wired tape) (now : Moment) (key : String × Frame) :
    series key (tape.flush now) = (series key tape).flush now := by
  have closed := stale_of_key tape.aggregator.building wired.keyed now key
  simp only [series, Tape.flush, flushStale, List.filter_append, closed, Dict.lookup_filter, Series.flush]
  cases found : tape.aggregator.building.lookup key with
  | none => simp
  | some building =>
      by_cases stale : building.end_ ≤ now
      · simp [stale]
      · simp [stale]

theorem flush_wired (tape : Tape) (wired : Wired tape) (now : Moment) : Wired (tape.flush now) := by
  constructor
  · exact wired.once
  · intro key found looked
    simp only [Tape.flush, flushStale, Dict.lookup_filter, Option.filter_eq_some_iff] at looked
    exact wired.keyed key found looked.1

theorem start_wired (timeframes : List Timeframe) (once : timeframes.Nodup) : Wired (start timeframes) := by
  constructor
  · refine List.Nodup.filterMap ?_ once
    intro a b frame left right
    simp only [Option.mem_def, Option.dite_none_right_eq_some, Option.some.injEq] at left right
    obtain ⟨_, rfl⟩ := left
    obtain ⟨_, same⟩ := right
    exact (congrArg Subtype.val same).symm
  · intro key found looked
    cases looked

end QuantEngine.CandleTape
