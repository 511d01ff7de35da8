import QuantEngine.Library.Run
import QuantEngine.Market.CandleBars
import QuantEngine.Market.Validator

set_option autoImplicit false

namespace QuantEngine.CandleBuckets

open QuantEngine.Calendar QuantEngine.Buckets QuantEngine.Timeframes QuantEngine.Candles QuantEngine.CandleTape
  QuantEngine.CandleBars
open Validator (DataValidator validateTrade shouldDiscard)
open Run (Each Always)

structure Feed where
  validator : DataValidator
  tape : Tape

inductive FeedAction where
  | trade (trade : Trade)
  | flush (now : Moment)

def accepts (s : Feed) (trade : Trade) : Prop := shouldDiscard (validateTrade s.validator trade).1 = false

instance (s : Feed) (trade : Trade) : Decidable (accepts s trade) := inferInstanceAs (Decidable (_ = _))

def step (s : Feed) : FeedAction → Feed
  | .trade trade =>
      ⟨(validateTrade s.validator trade).2, if accepts s trade then s.tape.add (tradePoint trade) else s.tape⟩
  | .flush now => ⟨s.validator, s.tape.flush now⟩

def begin_ (validator : DataValidator) (timeframes : List Timeframe) : Feed := ⟨validator, start timeframes⟩

def inBucket (candle : MarketCandle) (point : Point) : Bool := decide (Inside candle.start candle.end_ point.exchangeTs)

-- Closed candles in order of start, and no candle with a point of another bucket.
def OwnPoints (x : Series) : Prop :=
  (x.closed.map MarketCandle.start).Pairwise (· < ·) ∧
    ∀ candle ∈ x.candles, ∀ point ∈ candle.folded, inBucket candle point = true

instance (x : Series) : Decidable (OwnPoints x) := inferInstanceAs (Decidable (_ ∧ _))

-- Emitted and building candles in order of start, each with exactly the points
-- of its own bucket.
structure OneEach (x : Series) : Prop where
  increasing : (x.candles.map MarketCandle.start).Pairwise (· < ·)
  own : ∀ candle ∈ x.candles, candle.folded = x.points.filter (inBucket candle)

theorem one_each_own_points (x : Series) (each : OneEach x) : OwnPoints x := by
  have increasing := each.increasing
  rw [Series.candles, List.map_append] at increasing
  refine ⟨(List.pairwise_append.mp increasing).1, fun candle member point folded => ?_⟩
  rw [each.own candle member] at folded
  exact (List.mem_filter.mp folded).2

-- A trade for a series is in order if the candle in building, when its bucket
-- has not ended, starts no later; and if the candle it would open starts no
-- later than the trade and after every closed one.
structure InOrder (x : Series) (frame : Frame) (moment : Moment) : Prop where
  adds : ∀ building, x.building = some building → moment < building.end_ → building.start ≤ moment
  opens : (∀ building, x.building = some building → building.end_ ≤ moment) →
    frame.start moment ≤ moment ∧ ∀ candle ∈ x.closed, candle.start < frame.start moment

instance (x : Series) (frame : Frame) (moment : Moment) : Decidable (InOrder x frame moment) :=
  decidable_of_iff
    ((∀ building, x.building = some building → moment < building.end_ → building.start ≤ moment) ∧
      ((∀ building, x.building = some building → building.end_ ≤ moment) →
        frame.start moment ≤ moment ∧ ∀ candle ∈ x.closed, candle.start < frame.start moment))
    ⟨fun both => ⟨both.1, both.2⟩, fun ordered => ⟨ordered.adds, ordered.opens⟩⟩

structure Bucketed (x : Series) (frame : Frame) : Prop where
  closed : ∀ candle ∈ x.closed, (grid frame).IsBucket candle.start candle.end_
  building : ∀ building, x.building = some building → (grid frame).IsBucket building.start building.end_

theorem bucketed_add (x : Series) (frame : Frame) (bucketed : Bucketed x frame) (point : Point) :
    Bucketed (x.add frame point) frame where
  closed := add_closed x _ bucketed.closed bucketed.building frame point
  building := add_building x frame point _ (fun building found _ => bucketed.building building found)
    (start_bucket frame point.exchangeTs).1

theorem bucketed_flush (x : Series) (frame : Frame) (bucketed : Bucketed x frame) (now : Moment) :
    Bucketed (x.flush now) frame where
  closed := flush_closed x _ bucketed.closed bucketed.building now
  building := fun building left => bucketed.building building (flush_building x now building left)

structure Stretch where
  start : Moment
  end_ : Moment
  folded : List Point

def stretchOf (candle : MarketCandle) : Stretch := ⟨candle.start, candle.end_, candle.folded⟩

def inside (stretch : Stretch) (point : Point) : Bool := decide (Inside stretch.start stretch.end_ point.exchangeTs)

structure Partition (stretches : List Stretch) (points : List Point) : Prop where
  increasing : (stretches.map Stretch.start).Pairwise (· < ·)
  own : ∀ stretch ∈ stretches, stretch.folded = points.filter (inside stretch)

theorem one_each_iff (x : Series) : OneEach x ↔ Partition (x.candles.map stretchOf) x.points := by
  have starts : (x.candles.map stretchOf).map Stretch.start = x.candles.map MarketCandle.start := by
    rw [List.map_map]
    rfl
  constructor
  · intro each
    refine ⟨by rw [starts]; exact each.increasing, fun stretch member => ?_⟩
    obtain ⟨candle, inCandles, rfl⟩ := List.mem_map.mp member
    exact each.own candle inCandles
  · intro parts
    refine ⟨by rw [← starts]; exact parts.increasing, fun candle member => ?_⟩
    exact parts.own (stretchOf candle) (List.mem_map_of_mem member)

theorem inside_iff (stretch : Stretch) (point : Point) :
    inside stretch point = true ↔ stretch.start ≤ point.exchangeTs ∧ point.exchangeTs < stretch.end_ := by
  rw [inside, decide_eq_true_iff, Inside]

theorem filter_snoc_out (stretch : Stretch) (points : List Point) (point : Point)
    (past : stretch.end_ ≤ point.exchangeTs) : (points ++ [point]).filter (inside stretch) = points.filter (inside stretch) := by
  have out : inside stretch point = false := by
    rw [inside, decide_eq_false_iff_not, Inside]
    exact fun both => absurd both.2 (not_lt.mpr past)
  rw [List.filter_append, List.filter_singleton, out]
  exact List.append_nil _

theorem filter_snoc_in (stretch : Stretch) (points : List Point) (point : Point) (here : inside stretch point = true) :
    (points ++ [point]).filter (inside stretch) = points.filter (inside stretch) ++ [point] := by
  rw [List.filter_append, List.filter_singleton, here]
  rfl

theorem starts_snoc (init : List Stretch) (last : Stretch) :
    ((init ++ [last]).map Stretch.start).Pairwise (· < ·) ↔
      (init.map Stretch.start).Pairwise (· < ·) ∧ ∀ stretch ∈ init, stretch.start < last.start := by
  rw [List.map_append, List.pairwise_append]
  simp

theorem partition_last (stretches : List Stretch) (last : Stretch) (points : List Point) (point : Point)
    (parts : Partition (stretches ++ [last]) (points ++ [point])) (member : point ∈ last.folded) :
    last.start ≤ point.exchangeTs := by
  rw [parts.own last (List.mem_append_right stretches List.mem_cons_self)] at member
  exact ((inside_iff last point).mp (List.mem_filter.mp member).2).1

theorem partition_extend (g : Grid) (init : List Stretch) (last : Stretch) (points : List Point) (point : Point)
    (buckets : ∀ stretch ∈ init ++ [last], g.IsBucket stretch.start stretch.end_)
    (parts : Partition (init ++ [last]) points) (before : point.exchangeTs < last.end_) :
    Partition (init ++ [⟨last.start, last.end_, last.folded ++ [point]⟩]) (points ++ [point]) ↔
      last.start ≤ point.exchangeTs := by
  have order := (starts_snoc init last).mp parts.increasing
  constructor
  · intro after
    exact partition_last init ⟨last.start, last.end_, last.folded ++ [point]⟩ points point after
      (List.mem_append_right _ List.mem_cons_self)
  · intro started
    refine ⟨(starts_snoc init _).mpr order, fun stretch member => ?_⟩
    cases List.mem_append.mp member with
    | inl old =>
        have apart := g.buckets_apart _ _ _ _ (buckets stretch (List.mem_append_left _ old))
          (buckets last (List.mem_append_right _ List.mem_cons_self)) (order.2 stretch old)
        rw [parts.own stretch (List.mem_append_left _ old)]
        exact (filter_snoc_out stretch points point (le_trans apart started)).symm
    | inr here =>
        rw [List.mem_singleton.mp here]
        have own := parts.own last (List.mem_append_right _ List.mem_cons_self)
        have taken := filter_snoc_in last points point ((inside_iff last point).mpr ⟨started, before⟩)
        rw [← own] at taken
        exact taken.symm

theorem partition_open (g : Grid) (stretches : List Stretch) (start end_ : Moment) (points : List Point) (point : Point)
    (buckets : ∀ stretch ∈ stretches, g.IsBucket stretch.start stretch.end_) (fresh : g.IsBucket start end_)
    (known : ∀ old ∈ points, ∃ stretch ∈ stretches, old ∈ stretch.folded)
    (parts : Partition stretches points) (before : point.exchangeTs < end_) :
    Partition (stretches ++ [⟨start, end_, [point]⟩]) (points ++ [point]) ↔
      start ≤ point.exchangeTs ∧ ∀ stretch ∈ stretches, stretch.start < start := by
  constructor
  · intro after
    refine ⟨?_, ((starts_snoc stretches _).mp after.increasing).2⟩
    exact partition_last stretches _ points point after List.mem_cons_self
  · rintro ⟨started, later⟩
    have ended : ∀ stretch ∈ stretches, stretch.end_ ≤ start := fun stretch member =>
      g.buckets_apart _ _ _ _ (buckets stretch member) fresh (later stretch member)
    refine ⟨(starts_snoc stretches _).mpr ⟨parts.increasing, later⟩, fun stretch member => ?_⟩
    cases List.mem_append.mp member with
    | inl old =>
        rw [parts.own stretch old]
        exact (filter_snoc_out stretch points point (le_trans (ended stretch old) started)).symm
    | inr here =>
        rw [List.mem_singleton.mp here, filter_snoc_in _ points point ((inside_iff _ point).mpr ⟨started, before⟩)]
        have none : points.filter (inside ⟨start, end_, [point]⟩) = [] := by
          refine List.filter_eq_nil_iff.mpr (fun old inPoints within => ?_)
          obtain ⟨stretch, inStretches, folded⟩ := known old inPoints
          rw [parts.own stretch inStretches] at folded
          have first := ((inside_iff stretch old).mp (List.mem_filter.mp folded).2).2
          have second := ((inside_iff _ old).mp within).1
          exact absurd (lt_of_lt_of_le first (le_trans (ended stretch inStretches) second)) (lt_irrefl _)
        rw [none]
        rfl

structure Inv (x : Series) (frame : Frame) : Prop where
  told : Series.Told x
  bucketed : Bucketed x frame
  each : OneEach x

theorem candles_bucketed (x : Series) (frame : Frame) (bucketed : Bucketed x frame) :
    ∀ stretch ∈ x.candles.map stretchOf, (grid frame).IsBucket stretch.start stretch.end_ := by
  intro stretch member
  obtain ⟨candle, inCandles, rfl⟩ := List.mem_map.mp member
  cases List.mem_append.mp inCandles with
  | inl old => exact bucketed.closed candle old
  | inr new =>
      obtain ⟨building, found, rfl⟩ := List.mem_map.mp new
      exact bucketed.building building (Option.mem_toList.mp found)

theorem points_known (x : Series) (told : Series.Told x) :
    ∀ old ∈ x.points, ∃ stretch ∈ x.candles.map stretchOf, old ∈ stretch.folded := by
  intro old member
  rw [← told.points] at member
  cases List.mem_append.mp member with
  | inl closed =>
      obtain ⟨candle, inClosed, folded⟩ := List.mem_flatMap.mp closed
      exact ⟨stretchOf candle, List.mem_map_of_mem (List.mem_append_left _ inClosed), folded⟩
  | inr last =>
      obtain ⟨building, found, folded⟩ := List.mem_flatMap.mp last
      exact ⟨stretchOf (building.freeze false),
        List.mem_map_of_mem (List.mem_append_right _ (List.mem_map_of_mem found)), folded⟩

theorem add_one_each_iff (x : Series) (frame : Frame) (inv : Inv x frame) (point : Point) :
    OneEach (x.add frame point) ↔ InOrder x frame point.exchangeTs := by
  have buckets := candles_bucketed x frame inv.bucketed
  have parts := (one_each_iff x).mp inv.each
  rw [one_each_iff]
  cases add_cases x frame point with
  | inl extends_ =>
      obtain ⟨building, found, ahead, after⟩ := extends_
      rw [after]
      have before : x.candles.map stretchOf =
          x.closed.map stretchOf ++ [⟨building.start, building.end_, building.folded⟩] := by
        rw [Series.candles, found, List.map_append]
        rfl
      rw [before] at buckets parts
      have extend := partition_extend (grid frame) _ _ x.points point buckets parts ahead
      have now : (Series.candles ⟨x.closed, some (building.addPoint point), x.points ++ [point]⟩).map stretchOf =
          x.closed.map stretchOf ++ [⟨building.start, building.end_, building.folded ++ [point]⟩] := by
        rw [Series.candles, List.map_append]
        rfl
      rw [now, extend]
      constructor
      · intro started
        refine ⟨fun other same _ => ?_, fun past => ?_⟩
        · rw [found] at same
          cases same
          exact started
        · exact absurd ahead (not_lt.mpr (past building found))
      · intro ordered
        exact ordered.adds building found ahead
  | inr opens =>
      obtain ⟨past, after⟩ := opens
      rw [after]
      have fresh := start_bucket frame point.exchangeTs
      have opened := partition_open (grid frame) _ _ _ x.points point buckets fresh.1 (points_known x inv.told) parts fresh.2
      have now : (Series.candles ⟨x.closed ++ x.building.toList.map (fun building => building.freeze true),
            some ((openBuilding frame point).addPoint point), x.points ++ [point]⟩).map stretchOf =
          x.candles.map stretchOf ++
            [⟨frame.start point.exchangeTs, frame.stop (frame.start point.exchangeTs), [point]⟩] := by
        simp only [Series.candles, List.map_append, List.map_map, List.append_assoc]
        rfl
      rw [now, opened]
      constructor
      · rintro ⟨started, later⟩
        refine ⟨fun building found ahead => absurd ahead (not_lt.mpr (past building found)), fun _ => ⟨started, ?_⟩⟩
        intro candle member
        exact later (stretchOf candle) (List.mem_map_of_mem (List.mem_append_left _ member))
      · intro ordered
        obtain ⟨started, later⟩ := ordered.opens past
        refine ⟨started, fun stretch member => ?_⟩
        obtain ⟨candle, inCandles, rfl⟩ := List.mem_map.mp member
        cases List.mem_append.mp inCandles with
        | inl old => exact later candle old
        | inr new =>
            obtain ⟨building, found, rfl⟩ := List.mem_map.mp new
            have inBuilding := Option.mem_toList.mp found
            exact (grid frame).bucket_after _ _ _ _ point.exchangeTs (inv.bucketed.building building inBuilding) fresh.1
              (past building inBuilding) fresh.2

theorem flush_one_each (x : Series) (each : OneEach x) (now : Moment) : OneEach (x.flush now) := by
  have parts := (one_each_iff x).mp each
  cases flush_cases x now with
  | inl same =>
      rw [same]
      exact each
  | inr closes =>
      obtain ⟨building, found, _, after⟩ := closes
      rw [after, one_each_iff]
      have same : (Series.candles ⟨x.closed ++ [building.freeze true], none, x.points⟩).map stretchOf =
          x.candles.map stretchOf := by
        simp only [Series.candles, found, List.map_append, Option.toList_none, Option.toList_some, List.map_cons, List.map_nil,
          List.append_nil]
        rfl
      rw [same]
      exact parts

def InTime (s : Feed) : FeedAction → Prop
  | .trade trade =>
      accepts s trade → ∀ frame ∈ s.tape.aggregator.timeframes,
        InOrder (series (trade.symbol, frame) s.tape) frame trade.exchangeTs
  | .flush _ => True

instance (s : Feed) : ∀ action, Decidable (InTime s action)
  | .trade trade =>
      inferInstanceAs (Decidable (accepts s trade → ∀ frame ∈ s.tape.aggregator.timeframes,
        InOrder (series (trade.symbol, frame) s.tape) frame trade.exchangeTs))
  | .flush _ => inferInstanceAs (Decidable True)

def AllOneEach (s : Feed) : Prop :=
  ∀ symbol, ∀ frame ∈ s.tape.aggregator.timeframes, OneEach (series (symbol, frame) s.tape)

structure FeedInv (s : Feed) : Prop where
  wired : Wired s.tape
  each : ∀ symbol, ∀ frame ∈ s.tape.aggregator.timeframes, Inv (series (symbol, frame) s.tape) frame

theorem feed_inv_start (validator : DataValidator) (timeframes : List Timeframe) (once : timeframes.Nodup) :
    FeedInv (begin_ validator timeframes) := by
  refine ⟨start_wired timeframes once, fun symbol frame _ => ⟨told_start timeframes (symbol, frame), ⟨?_, ?_⟩, ⟨?_, ?_⟩⟩⟩
  · exact fun candle member => absurd member List.not_mem_nil
  · exact fun building found => absurd found.symm (Option.some_ne_none building)
  · exact List.Pairwise.nil
  · exact fun candle member => absurd member List.not_mem_nil

theorem add_timeframes (tape : Tape) (point : Point) :
    (tape.add point).aggregator.timeframes = tape.aggregator.timeframes :=
  fold_frames_timeframes point tape.aggregator.timeframes ([], tape.aggregator)

theorem trade_each_iff (s : Feed) (inv : FeedInv s) (trade : Trade) (accepted : accepts s trade) :
    AllOneEach (step s (.trade trade)) ↔
      ∀ frame ∈ s.tape.aggregator.timeframes, InOrder (series (trade.symbol, frame) s.tape) frame trade.exchangeTs := by
  have after : (step s (.trade trade)).tape = s.tape.add (tradePoint trade) := if_pos accepted
  rw [AllOneEach, after, add_timeframes]
  have moved (symbol : String) (frame : Frame) (configured : frame ∈ s.tape.aggregator.timeframes) :=
    series_add s.tape inv.wired (tradePoint trade) (symbol, frame) configured
  constructor
  · intro each frame configured
    have here := each trade.symbol frame configured
    have own : (trade.symbol, frame).1 = (tradePoint trade).symbol := rfl
    rw [moved trade.symbol frame configured, if_pos own] at here
    exact (add_one_each_iff _ frame (inv.each trade.symbol frame configured) (tradePoint trade)).mp here
  · intro ordered symbol frame configured
    rw [moved symbol frame configured]
    by_cases own : (symbol, frame).1 = (tradePoint trade).symbol
    · have same : symbol = trade.symbol := own
      rw [if_pos own, same]
      exact (add_one_each_iff _ frame (inv.each trade.symbol frame configured) (tradePoint trade)).mpr
        (ordered frame configured)
    · rw [if_neg own]
      exact (inv.each symbol frame configured).each

theorem flush_each (s : Feed) (inv : FeedInv s) (now : Moment) : AllOneEach (step s (.flush now)) := by
  intro symbol frame configured
  have after : (step s (.flush now)).tape = s.tape.flush now := rfl
  rw [after, series_flush s.tape inv.wired now]
  exact flush_one_each _ (inv.each symbol frame configured).each now

theorem step_each_iff (s : Feed) (action : FeedAction) (inv : FeedInv s) : AllOneEach (step s action) ↔ InTime s action := by
  cases action with
  | trade trade =>
      by_cases accepted : accepts s trade
      · rw [trade_each_iff s inv trade accepted, InTime]
        exact ⟨fun ordered _ => ordered, fun ordered => ordered accepted⟩
      · have same : (step s (.trade trade)).tape = s.tape := if_neg accepted
        refine ⟨fun _ yes => absurd yes accepted, fun _ symbol frame configured => ?_⟩
        rw [same] at configured ⊢
        exact (inv.each symbol frame configured).each
  | flush now => exact ⟨fun _ => trivial, fun _ => flush_each s inv now⟩

theorem tape_add_inv (tape : Tape) (wired : Wired tape) (point : Point) (key : String × Frame)
    (configured : key.2 ∈ tape.aggregator.timeframes) (told : Series.Told (series key tape))
    (bucketed : Bucketed (series key tape) key.2) :
    Series.Told (series key (tape.add point)) ∧ Bucketed (series key (tape.add point)) key.2 := by
  rw [series_add tape wired point key configured]
  by_cases own : key.1 = point.symbol
  · rw [if_pos own]
    exact ⟨told_add _ told key.2 point, bucketed_add _ key.2 bucketed point⟩
  · rw [if_neg own]
    exact ⟨told, bucketed⟩

theorem step_inv (s : Feed) (action : FeedAction) (inv : FeedInv s) (inTime : InTime s action) : FeedInv (step s action) := by
  have each := (step_each_iff s action inv).mpr inTime
  cases action with
  | trade trade =>
      by_cases accepted : accepts s trade
      · have after : (step s (.trade trade)).tape = s.tape.add (tradePoint trade) := if_pos accepted
        refine ⟨by rw [after]; exact add_wired s.tape inv.wired _, fun symbol frame configured => ?_⟩
        have before := configured
        rw [after, add_timeframes] at before
        have old := inv.each symbol frame before
        have kept := tape_add_inv s.tape inv.wired (tradePoint trade) (symbol, frame) before old.told old.bucketed
        rw [← after] at kept
        exact ⟨kept.1, kept.2, each symbol frame configured⟩
      · have same : (step s (.trade trade)).tape = s.tape := if_neg accepted
        refine ⟨by rw [same]; exact inv.wired, fun symbol frame configured => ?_⟩
        rw [same] at configured ⊢
        exact inv.each symbol frame configured
  | flush now =>
      have after : (step s (.flush now)).tape = s.tape.flush now := rfl
      refine ⟨by rw [after]; exact flush_wired s.tape inv.wired now, fun symbol frame configured => ?_⟩
      have old := inv.each symbol frame configured
      refine ⟨?_, ?_, each symbol frame configured⟩
      · rw [after, series_flush s.tape inv.wired now]
        exact told_flush _ old.told now
      · rw [after, series_flush s.tape inv.wired now]
        exact bucketed_flush _ frame old.bucketed now

def AllOwnPoints (s : Feed) : Prop :=
  ∀ symbol, ∀ frame ∈ s.tape.aggregator.timeframes, OwnPoints (series (symbol, frame) s.tape)

-- With no timeframe configured twice, the candles of every series are one for
-- each bucket, with the trades of that bucket, in exactly the runs whose
-- accepted trades all come in order.
theorem one_candle_each_iff (validator : DataValidator) (timeframes : List Timeframe) (once : timeframes.Nodup)
    (actions : List FeedAction) :
    (Always step AllOneEach (begin_ validator timeframes) actions ↔
      Each step InTime (begin_ validator timeframes) actions) ∧
    (Each step InTime (begin_ validator timeframes) actions →
      Always step AllOwnPoints (begin_ validator timeframes) actions) := by
  have begins := feed_inv_start validator timeframes once
  constructor
  · exact Run.always_iff step AllOneEach InTime FeedInv
      (fun _ inv symbol frame configured => (inv.each symbol frame configured).each)
      (fun s action inv => step_each_iff s action inv) (fun s action inv inTime => step_inv s action inv inTime)
      (begin_ validator timeframes) actions begins
  · exact Run.always_of_invariant step InTime FeedInv AllOwnPoints
      (fun s action inv inTime => step_inv s action inv inTime)
      (fun _ inv symbol frame configured => one_each_own_points _ (inv.each symbol frame configured).each)
      (begin_ validator timeframes) actions begins

def openValidator : DataValidator := ⟨20, 1000000, 5 * second, 120 * second, 16, 2 * second, Dict.empty⟩

def tradeAt (price : Rat) (moment : Moment) : Trade := ⟨"BTCUSDT", "binance", "", price, 1, .buy, moment, moment⟩

theorem m1_once : [Timeframe.m1].Nodup := List.nodup_singleton _

theorem one_candle_each_two_minutes :
    Always step AllOneEach (begin_ openValidator [.m1])
      [.trade (tradeAt 100 59000000), .trade (tradeAt 101 60500000), .flush 120000000] :=
  (one_candle_each_iff openValidator [.m1] m1_once
    [.trade (tradeAt 100 59000000), .trade (tradeAt 101 60500000), .flush 120000000]).1.mpr (by decide +kernel)

-- Three accepted trades, the last one of the minute before: it is in the
-- candle of the minute after.
theorem late_trade_next_candle :
    ∃ frame ∈ framesOf [.m1],
      ¬ OwnPoints (series ("BTCUSDT", frame)
        (Run.final step (begin_ openValidator [.m1])
          [.trade (tradeAt 100 59900000), .trade (tradeAt 101 61000000), .trade (tradeAt 102 59950000)]).tape) :=
  ⟨⟨.m1, by decide⟩, by decide, by decide +kernel⟩

end QuantEngine.CandleBuckets
