import Mathlib.Algebra.Order.BigOperators.Group.List
import QuantEngine.Market.CandleBuckets

set_option autoImplicit false

namespace QuantEngine.CandleMerge

open QuantEngine.Calendar QuantEngine.Buckets QuantEngine.Timeframes QuantEngine.Candles QuantEngine.CandleTape
  QuantEngine.CandleBars QuantEngine.CandleBuckets QuantEngine.Merging
open Run (Each Always)

def tapeStep (tape : Tape) : FeedAction → Tape
  | .trade trade => tape.add (tradePoint trade)
  | .flush now => tape.flush now

-- The candles of a series against the points that went in.
structure Conserved (candles : List MarketCandle) (points : List Point) : Prop where
  volume : (candles.map MarketCandle.volume).sum = (points.map Point.size).sum
  buyVolume : (candles.map MarketCandle.buyVolume).sum = (points.map (Point.sided .buy)).sum
  sellVolume : (candles.map MarketCandle.sellVolume).sum = (points.map (Point.sided .sell)).sum
  trades : (candles.map MarketCandle.trades).sum = points.length
  bounded : ∀ candle ∈ candles, (candle.low ≤ candle.open_ ∧ candle.open_ ≤ candle.high) ∧
    (candle.low ≤ candle.close ∧ candle.close ≤ candle.high)

def NotionalKept (candles : List MarketCandle) (points : List Point) : Prop :=
  (candles.map (fun candle => candle.vwap * candle.volume)).sum = (points.map Point.value).sum

def Fair (point : Point) : Prop := 0 ≤ point.size ∧ Point.value point = point.price * point.size

theorem built_sum (building : Building) (built : Built building) (f : Bar → Rat)
    (additive : ∀ a b, f (Bar.merge a b) = f a + f b) :
    f (Building.bar building) = (building.folded.map (fun point => f (Point.bar point))).sum := by
  have total := combine_sum Bar.merge f additive _ _ built
  rw [List.map_map] at total
  exact total

theorem built_trades (building : Building) (built : Built building) : building.trades = building.folded.length := by
  have total := combine_sum Bar.merge Bar.trades (fun _ _ => rfl) _ _ built
  rw [List.map_map] at total
  calc building.trades = (building.folded.map (fun _ => 1)).sum := total
    _ = building.folded.length := by simp

def Ordered (bar : Bar) : Prop := (bar.low ≤ bar.open_ ∧ bar.open_ ≤ bar.high) ∧ (bar.low ≤ bar.close ∧ bar.close ≤ bar.high)

theorem merge_ordered (a b : Bar) (first : Ordered a) (second : Ordered b) : Ordered (Bar.merge a b) :=
  ⟨⟨le_trans (min_le_left _ _) first.1.1, le_trans first.1.2 (le_max_left _ _)⟩,
    ⟨le_trans (min_le_right _ _) second.2.1, le_trans second.2.2 (le_max_right _ _)⟩⟩

theorem built_ordered (building : Building) (built : Built building) : Ordered (Building.bar building) := by
  refine combine_holds Bar.merge Ordered merge_ordered _ _ built (fun bar member => ?_)
  obtain ⟨point, _, rfl⟩ := List.mem_map.mp member
  exact ⟨⟨le_refl _, le_refl _⟩, ⟨le_refl _, le_refl _⟩⟩

theorem fair_notional (building : Building) (built : Built building) (fair : ∀ point ∈ building.folded, Fair point) :
    (if 0 < building.volume then building.notional / building.volume else building.close) * building.volume =
      building.notional := by
  by_cases positive : 0 < building.volume
  · rw [if_pos positive]
    exact div_mul_cancel₀ _ positive.ne'
  · rw [if_neg positive]
    have volume : building.volume = (building.folded.map Point.size).sum := built_sum building built Bar.volume (fun _ _ => rfl)
    have notional : building.notional = (building.folded.map Point.value).sum :=
      built_sum building built Bar.notional (fun _ _ => rfl)
    have sizes : ∀ size ∈ building.folded.map Point.size, 0 ≤ size := fun size member => by
      obtain ⟨point, folded, rfl⟩ := List.mem_map.mp member
      exact (fair point folded).1
    have empty : (building.folded.map Point.size).sum = 0 :=
      le_antisymm (volume ▸ not_lt.mp positive) (List.sum_nonneg sizes)
    have none : ∀ point ∈ building.folded, point.size = 0 := fun point folded =>
      List.all_zero_of_le_zero_le_of_sum_eq_zero sizes empty (List.mem_map_of_mem folded)
    have worthless : building.folded.map Point.value = building.folded.map (fun _ => 0) :=
      List.map_congr_left (fun point folded => by rw [(fair point folded).2, none point folded, mul_zero])
    rw [notional, volume, empty, worthless]
    simp

theorem fair_bar (candle : MarketCandle) (sound : Sound candle) (fair : ∀ point ∈ candle.folded, Fair point) :
    combine Bar.merge (candle.folded.map Point.bar) = some (MarketCandle.bar candle) := by
  obtain ⟨building, closed, rfl, built⟩ := sound
  have same : MarketCandle.bar (building.freeze closed) = Building.bar building := by
    have notional := fair_notional building built fair
    simp only [MarketCandle.bar, Building.freeze, Building.bar, notional]
  rw [same]
  exact built

theorem candles_sound (x : Series) (told : Series.Told x) : ∀ candle ∈ x.candles, Sound candle := by
  intro candle member
  cases List.mem_append.mp member with
  | inl old => exact told.closed candle old
  | inr new =>
      obtain ⟨building, found, rfl⟩ := List.mem_map.mp new
      exact ⟨building, false, rfl, told.building building (Option.mem_toList.mp found)⟩

theorem candles_points (x : Series) (told : Series.Told x) : x.candles.flatMap MarketCandle.folded = x.points := by
  rw [Series.candles, List.flatMap_append, List.flatMap_map, ← told.points]
  rfl

theorem measure_sum {M : Type} [AddCommMonoid M] (candles : List MarketCandle) (points : List Point)
    (told : (candles.flatMap MarketCandle.folded).Perm points) (f : MarketCandle → M) (g : Point → M)
    (own : ∀ candle ∈ candles, f candle = (candle.folded.map g).sum) : (candles.map f).sum = (points.map g).sum := by
  rw [← (told.map g).sum_eq]
  clear told
  induction candles with
  | nil => rfl
  | cons candle rest ih =>
      rw [List.map_cons, List.sum_cons, List.flatMap_cons, List.map_append, List.sum_append,
        own candle List.mem_cons_self, ih (fun other member => own other (List.mem_cons_of_mem candle member))]

theorem sound_conserved (candles : List MarketCandle) (points : List Point) (sound : ∀ candle ∈ candles, Sound candle)
    (told : (candles.flatMap MarketCandle.folded).Perm points) : Conserved candles points := by
  refine ⟨?_, ?_, ?_, ?_, fun candle member => ?_⟩
  · refine measure_sum candles points told _ _ (fun candle member => ?_)
    obtain ⟨building, closed, rfl, built⟩ := sound candle member
    exact built_sum building built Bar.volume (fun _ _ => rfl)
  · refine measure_sum candles points told _ _ (fun candle member => ?_)
    obtain ⟨building, closed, rfl, built⟩ := sound candle member
    exact built_sum building built Bar.buyVolume (fun _ _ => rfl)
  · refine measure_sum candles points told _ _ (fun candle member => ?_)
    obtain ⟨building, closed, rfl, built⟩ := sound candle member
    exact built_sum building built Bar.sellVolume (fun _ _ => rfl)
  · rw [measure_sum candles points told MarketCandle.trades (fun _ => 1) (fun candle member => ?_)]
    · simp
    · obtain ⟨building, closed, rfl, built⟩ := sound candle member
      calc building.trades = building.folded.length := built_trades building built
        _ = (building.folded.map (fun _ => 1)).sum := by simp
  · obtain ⟨building, closed, rfl, built⟩ := sound candle member
    exact built_ordered building built

theorem sound_notional (candles : List MarketCandle) (points : List Point) (sound : ∀ candle ∈ candles, Sound candle)
    (told : (candles.flatMap MarketCandle.folded).Perm points) (fair : ∀ point ∈ points, Fair point) :
    NotionalKept candles points := by
  refine measure_sum candles points told _ _ (fun candle member => ?_)
  have own : ∀ point ∈ candle.folded, Fair point :=
    fun point folded => fair point (told.mem_iff.mp (List.mem_flatMap.mpr ⟨candle, member, folded⟩))
  have bar := fair_bar candle (sound candle member) own
  have total := combine_sum Bar.merge Bar.notional (fun _ _ => rfl) _ _ bar
  rw [List.map_map] at total
  exact total

theorem folded_points (x : Series) (told : Series.Told x) (candle : MarketCandle) (member : candle ∈ x.candles) (point : Point)
    (folded : point ∈ candle.folded) : point ∈ x.points := by
  rw [← candles_points x told]
  exact List.mem_flatMap.mpr ⟨candle, member, folded⟩

def covers (coarse fine : MarketCandle) : Bool := decide (coarse.start ≤ fine.start ∧ fine.end_ ≤ coarse.end_)

theorem filter_folded (candles : List MarketCandle) (q : Point → Bool) (r : MarketCandle → Bool)
    (aligned : ∀ candle ∈ candles, ∀ point ∈ candle.folded, q point = r candle) :
    (candles.flatMap MarketCandle.folded).filter q = (candles.filter r).flatMap MarketCandle.folded := by
  induction candles with
  | nil => rfl
  | cons candle rest ih =>
      have later := ih (fun other member => aligned other (List.mem_cons_of_mem candle member))
      have here := aligned candle List.mem_cons_self
      rw [List.flatMap_cons, List.filter_append, later]
      by_cases kept : r candle = true
      · have all : candle.folded.filter q = candle.folded :=
          List.filter_eq_self.mpr (fun point folded => (here point folded).trans kept)
        rw [all, List.filter_cons_of_pos kept, List.flatMap_cons]
      · have none : candle.folded.filter q = [] :=
          List.filter_eq_nil_iff.mpr (fun point folded yes => kept ((here point folded).symm.trans yes))
        rw [none, List.filter_cons_of_neg kept, List.nil_append]

theorem covers_iff_inside (fineGrid coarseGrid : Grid) (refines : Refines fineGrid coarseGrid) (fine coarse : MarketCandle)
    (small : fineGrid.IsBucket fine.start fine.end_) (big : coarseGrid.IsBucket coarse.start coarse.end_) (point : Point)
    (within : inBucket fine point = true) : inBucket coarse point = covers coarse fine := by
  have nonempty := fineGrid.bucket_nonempty _ _ small
  have inFine : fine.start ≤ point.exchangeTs ∧ point.exchangeTs < fine.end_ := of_decide_eq_true within
  rw [inBucket, covers]
  refine decide_eq_decide.mpr ?_
  rw [Inside]
  cases refined_bucket fineGrid coarseGrid refines _ _ _ _ small big with
  | inl inside =>
      exact ⟨fun _ => inside, fun _ => ⟨le_trans inside.1 inFine.1, lt_of_lt_of_le inFine.2 inside.2⟩⟩
  | inr apart =>
      cases apart with
      | inl before =>
          refine ⟨fun both => absurd (lt_of_lt_of_le inFine.2 (le_trans before both.1)) (lt_irrefl _), fun both => ?_⟩
          exact absurd (lt_of_lt_of_le nonempty (le_trans before both.1)) (lt_irrefl _)
      | inr after =>
          refine ⟨fun both => absurd (lt_of_lt_of_le both.2 (le_trans after inFine.1)) (lt_irrefl _), fun both => ?_⟩
          exact absurd (lt_of_lt_of_le nonempty (le_trans both.2 after)) (lt_irrefl _)

-- Every candle of the coarse series is the merge of the fine ones it covers.
def Merged (fine coarse : Series) : Prop :=
  ∀ candle ∈ coarse.candles,
    combine Bar.merge ((fine.candles.filter (covers candle)).map MarketCandle.bar) = some (MarketCandle.bar candle)

theorem candle_bucket (x : Series) (frame : Frame) (bucketed : Bucketed x frame) (candle : MarketCandle)
    (member : candle ∈ x.candles) : (grid frame).IsBucket candle.start candle.end_ :=
  candles_bucketed x frame bucketed (stretchOf candle) (List.mem_map_of_mem member)

theorem merged_of_parts (fine coarse : Series) (fineFrame coarseFrame : Frame)
    (refines : Refines (grid fineFrame) (grid coarseFrame)) (same : fine.points = coarse.points)
    (fair : ∀ point ∈ fine.points, Fair point) (fineTold : Series.Told fine) (coarseTold : Series.Told coarse)
    (fineBuckets : Bucketed fine fineFrame) (coarseBuckets : Bucketed coarse coarseFrame)
    (fineOwn : ∀ candle ∈ fine.candles, ∀ point ∈ candle.folded, inBucket candle point = true)
    (coarseEach : OneEach coarse) : Merged fine coarse := by
  intro candle member
  have aligned : ∀ small ∈ fine.candles, ∀ point ∈ small.folded, inBucket candle point = covers candle small :=
    fun small inFine point folded => covers_iff_inside (grid fineFrame) (grid coarseFrame) refines small candle
      (candle_bucket fine fineFrame fineBuckets small inFine) (candle_bucket coarse coarseFrame coarseBuckets candle member)
      point (fineOwn small inFine point folded)
  have folded : candle.folded = (fine.candles.filter (covers candle)).flatMap MarketCandle.folded := by
    rw [coarseEach.own candle member, ← same, ← candles_points fine fineTold]
    exact filter_folded fine.candles (inBucket candle) (covers candle) aligned
  have whole := fair_bar candle (candles_sound coarse coarseTold candle member)
    (fun point inFolded => fair point (same ▸ folded_points coarse coarseTold candle member point inFolded))
  have groups := combine_groups Bar.merge merge_assoc
    ((fine.candles.filter (covers candle)).map (fun small => (small.folded.map Point.bar, MarketCandle.bar small)))
    (fun group inGroups => by
      obtain ⟨small, covered, rfl⟩ := List.mem_map.mp inGroups
      have inFine := (List.mem_filter.mp covered).1
      exact fair_bar small (candles_sound fine fineTold small inFine)
        (fun point inFolded => fair point (folded_points fine fineTold small inFine point inFolded)))
  rw [List.flatMap_map, List.map_map] at groups
  calc combine Bar.merge ((fine.candles.filter (covers candle)).map MarketCandle.bar)
      = combine Bar.merge ((fine.candles.filter (covers candle)).flatMap (fun small => small.folded.map Point.bar)) :=
        groups.symm
    _ = combine Bar.merge (candle.folded.map Point.bar) := by rw [folded, List.map_flatMap]
    _ = some (MarketCandle.bar candle) := whole

def Own (x : Series) : Prop := ∀ candle ∈ x.candles, ∀ point ∈ candle.folded, inBucket candle point = true

theorem building_candle (x : Series) (building : Building) (found : x.building = some building) :
    building.freeze false ∈ x.candles := by
  rw [Series.candles, found]
  exact List.mem_append_right _ List.mem_cons_self

theorem own_building (x : Series) (own : Own x) (building : Building) (found : x.building = some building) :
    ∀ point ∈ building.folded, inBucket (building.freeze false) point = true :=
  own (building.freeze false) (building_candle x building found)

theorem building_started (x : Series) (told : Series.Told x) (own : Own x) (moment : Moment)
    (last : ∀ point ∈ x.points, point.exchangeTs ≤ moment) (building : Building) (found : x.building = some building) :
    building.start ≤ moment := by
  obtain ⟨point, folded⟩ := List.exists_mem_of_ne_nil _ (built_nonempty building (told.building building found))
  have within : Inside building.start building.end_ point.exchangeTs :=
    of_decide_eq_true (own_building x own building found point folded)
  exact le_trans within.1 (last point (folded_points x told _ (building_candle x building found) point folded))

theorem own_add (x : Series) (frame : Frame) (told : Series.Told x) (own : Own x) (point : Point)
    (last : ∀ old ∈ x.points, old.exchangeTs ≤ point.exchangeTs)
    (placed : frame.start point.exchangeTs ≤ point.exchangeTs) : Own (x.add frame point) := by
  intro candle member
  cases List.mem_append.mp member with
  | inl closed =>
      exact add_closed x (fun candle => ∀ point ∈ candle.folded, inBucket candle point = true)
        (fun candle old => own candle (List.mem_append_left _ old)) (own_building x own) frame point candle closed
  | inr new =>
      obtain ⟨building, left, frozen⟩ := List.mem_map.mp new
      rw [← frozen]
      refine add_building x frame point (fun building => ∀ point ∈ building.folded, inBucket (building.freeze false) point = true)
        (fun building found ahead old folded => ?_) (fun old folded => ?_) building (Option.mem_toList.mp left)
      · cases List.mem_append.mp folded with
        | inl before => exact own_building x own building found old before
        | inr here =>
            rw [List.mem_singleton.mp here]
            exact decide_eq_true ⟨building_started x told own point.exchangeTs last building found, ahead⟩
      · rw [List.mem_singleton.mp folded]
        exact decide_eq_true ⟨placed, (start_bucket frame point.exchangeTs).2⟩

theorem own_flush (x : Series) (own : Own x) (now : Moment) : Own (x.flush now) := by
  intro candle member
  cases List.mem_append.mp member with
  | inl closed =>
      exact flush_closed x (fun candle => ∀ point ∈ candle.folded, inBucket candle point = true)
        (fun candle old => own candle (List.mem_append_left _ old)) (own_building x own) now candle closed
  | inr new =>
      obtain ⟨building, left, frozen⟩ := List.mem_map.mp new
      rw [← frozen]
      exact own_building x own building (flush_building x now building (Option.mem_toList.mp left))

theorem last_in_order (x : Series) (frame : Frame) (inv : Inv x frame) (moment : Moment)
    (last : ∀ point ∈ x.points, point.exchangeTs ≤ moment) (placed : frame.start moment ≤ moment)
    (fresh : x.building = none → ∀ candle ∈ x.closed, candle.start < frame.start moment) : InOrder x frame moment := by
  have own : Own x := (one_each_own_points x inv.each).2
  refine ⟨fun building found _ => building_started x inv.told own moment last building found, fun past => ⟨placed, ?_⟩⟩
  cases found : x.building with
  | none => exact fresh found
  | some building =>
      intro candle member
      have bucket := start_bucket frame moment
      have later := (grid frame).bucket_after _ _ _ _ moment (inv.bucketed.building building found) bucket.1
        (past building found) bucket.2
      have order := inv.each.increasing
      rw [Series.candles, found, List.map_append, List.pairwise_append] at order
      exact lt_trans (order.2.2 candle.start (List.mem_map_of_mem member) building.start List.mem_cons_self) later

def Coarser (fine coarse : Frame) : Prop :=
  fine ≠ coarse ∧ ∃ short ∈ seconds fine.1, ∃ long ∈ seconds coarse.1, short ∣ long

instance (fine coarse : Frame) : Decidable (Coarser fine coarse) := inferInstanceAs (Decidable (_ ∧ _))

structure Sequential (tape : Tape) (trade : Trade) : Prop where
  size : 0 ≤ trade.size
  last : ∀ point ∈ tape.points, point.symbol = trade.symbol → point.exchangeTs ≤ trade.exchangeTs
  placed : ∀ fine ∈ tape.aggregator.timeframes, ∀ coarse ∈ tape.aggregator.timeframes, Coarser fine coarse →
    fine.start trade.exchangeTs ≤ trade.exchangeTs ∧ coarse.start trade.exchangeTs ≤ trade.exchangeTs ∧
      ((series (trade.symbol, coarse) tape).building = none →
        ∀ candle ∈ (series (trade.symbol, coarse) tape).closed, candle.start < coarse.start trade.exchangeTs)

def InSequence (tape : Tape) : FeedAction → Prop
  | .trade trade => Sequential tape trade
  | .flush _ => True

instance (tape : Tape) : ∀ action, Decidable (InSequence tape action)
  | .trade trade =>
      decidable_of_iff
        (0 ≤ trade.size ∧ (∀ point ∈ tape.points, point.symbol = trade.symbol → point.exchangeTs ≤ trade.exchangeTs) ∧
          ∀ fine ∈ tape.aggregator.timeframes, ∀ coarse ∈ tape.aggregator.timeframes, Coarser fine coarse →
            fine.start trade.exchangeTs ≤ trade.exchangeTs ∧ coarse.start trade.exchangeTs ≤ trade.exchangeTs ∧
              ((series (trade.symbol, coarse) tape).building.isNone = true →
                ∀ candle ∈ (series (trade.symbol, coarse) tape).closed, candle.start < coarse.start trade.exchangeTs))
        (by
          simp only [Option.isNone_iff_eq_none]
          exact ⟨fun all => ⟨all.1, all.2.1, all.2.2⟩, fun met => ⟨met.size, met.last, met.placed⟩⟩)
  | .flush _ => inferInstanceAs (Decidable True)

def Sized : FeedAction → Prop
  | .trade trade => 0 ≤ trade.size
  | .flush _ => True

structure TapeInv (tape : Tape) : Prop where
  wired : Wired tape
  told : ∀ symbol, ∀ frame ∈ tape.aggregator.timeframes, Series.Told (series (symbol, frame) tape)
  bucketed : ∀ symbol, ∀ frame ∈ tape.aggregator.timeframes, Bucketed (series (symbol, frame) tape) frame

theorem tape_start (timeframes : List Timeframe) (once : timeframes.Nodup) : TapeInv (start timeframes) := by
  have begins := feed_inv_start ⟨0, 0, 0, 0, 0, 0, Dict.empty⟩ timeframes once
  exact ⟨begins.wired, fun symbol frame member => (begins.each symbol frame member).told,
    fun symbol frame member => (begins.each symbol frame member).bucketed⟩

theorem tape_step_inv (tape : Tape) (action : FeedAction) (inv : TapeInv tape) : TapeInv (tapeStep tape action) := by
  cases action with
  | trade trade =>
      have frames := add_timeframes tape (tradePoint trade)
      have parts (symbol : String) (frame : Frame) (member : frame ∈ (tape.add (tradePoint trade)).aggregator.timeframes) :=
        tape_add_inv tape inv.wired (tradePoint trade) (symbol, frame) (frames ▸ member)
          (inv.told symbol frame (frames ▸ member)) (inv.bucketed symbol frame (frames ▸ member))
      exact ⟨add_wired tape inv.wired _, fun symbol frame member => (parts symbol frame member).1,
        fun symbol frame member => (parts symbol frame member).2⟩
  | flush now =>
      refine ⟨flush_wired tape inv.wired now, fun symbol frame member => ?_, fun symbol frame member => ?_⟩
      · rw [tapeStep, series_flush tape inv.wired now]
        exact told_flush _ (inv.told symbol frame member) now
      · rw [tapeStep, series_flush tape inv.wired now]
        exact bucketed_flush _ frame (inv.bucketed symbol frame member) now

-- Every symbol's candles of one timeframe, emitted and building.
def candlesOf (frame : Frame) (tape : Tape) : List MarketCandle :=
  tape.emitted.filter (fun candle => decide (candle.timeframe = frame.1)) ++
    (tape.aggregator.building.entries.filter (fun entry => decide (entry.1.2 = frame))).map
      (fun entry => entry.2.freeze false)

theorem candles_of_symbol (frame : Frame) (tape : Tape) (keyed : Keyed tape.aggregator.building) (symbol : String) :
    (candlesOf frame tape).filter (fun candle => decide (candle.symbol = symbol)) =
      (series (symbol, frame) tape).candles := by
  have matched : ∀ entry ∈ tape.aggregator.building.entries, (entry.2.freeze false).symbol = entry.1.1 :=
    fun entry member => (keyed entry.1 entry.2 (Dict.lookup_of_mem _ entry.1 entry.2 member)).1
  rw [candlesOf, List.filter_append, Series.candles]
  congr 1
  · rw [List.filter_filter]
    rfl
  · calc ((tape.aggregator.building.entries.filter (fun entry => decide (entry.1.2 = frame))).map
          (fun entry => entry.2.freeze false)).filter (fun candle => decide (candle.symbol = symbol))
        = ((tape.aggregator.building.entries.filter (fun entry => decide (entry.1.2 = frame))).filter
            (fun entry => decide ((entry.2.freeze false).symbol = symbol))).map (fun entry => entry.2.freeze false) := by
          rw [List.filter_map]
          rfl
      _ = (tape.aggregator.building.entries.filter (fun entry => decide (entry.1 = (symbol, frame)))).map
            (fun entry => entry.2.freeze false) := by
          congr 1
          rw [List.filter_filter]
          refine List.filter_congr (fun entry member => ?_)
          rw [matched entry member, ← Bool.decide_and]
          exact decide_eq_decide.mpr ⟨fun both => Prod.ext both.1 both.2,
            fun same => ⟨congrArg Prod.fst same, congrArg Prod.snd same⟩⟩
      _ = (series (symbol, frame) tape).building.toList.map (fun building => building.freeze false) := by
          rw [Dict.entries_of_key, List.map_map]
          rfl

structure AllTold (tape : Tape) (frame : Frame) : Prop where
  sound : ∀ candle ∈ candlesOf frame tape, Sound candle
  told : ((candlesOf frame tape).flatMap MarketCandle.folded).Perm tape.points

theorem all_told (tape : Tape) (inv : TapeInv tape) (frame : Frame) (configured : frame ∈ tape.aggregator.timeframes) :
    AllTold tape frame := by
  have mine (candle : MarketCandle) (member : candle ∈ candlesOf frame tape) :
      candle ∈ (series (candle.symbol, frame) tape).candles := by
    rw [← candles_of_symbol frame tape inv.wired.keyed candle.symbol]
    exact List.mem_filter.mpr ⟨member, decide_eq_true rfl⟩
  have symbolOf : ∀ candle ∈ candlesOf frame tape, ∀ point ∈ candle.folded, point.symbol = candle.symbol := by
    intro candle member point folded
    have inSeries := folded_points _ (inv.told candle.symbol frame configured) candle (mine candle member) point folded
    exact of_decide_eq_true (List.mem_filter.mp inSeries).2
  refine ⟨fun candle member => candles_sound _ (inv.told candle.symbol frame configured) candle (mine candle member), ?_⟩
  refine List.perm_iff_count.mpr (fun point => ?_)
  have same := filter_folded (candlesOf frame tape) (fun other => decide (other.symbol = point.symbol))
    (fun candle => decide (candle.symbol = point.symbol))
    (fun candle member other folded => by rw [symbolOf candle member other folded])
  have counted (points : List Point) :
      (points.filter (fun other => decide (other.symbol = point.symbol))).count point = points.count point := by
    rw [List.count_filter]
    exact decide_eq_true rfl
  rw [candles_of_symbol frame tape inv.wired.keyed, candles_points _ (inv.told point.symbol frame configured)] at same
  calc ((candlesOf frame tape).flatMap MarketCandle.folded).count point
      = (((candlesOf frame tape).flatMap MarketCandle.folded).filter
          (fun other => decide (other.symbol = point.symbol))).count point :=
        (counted _).symm
    _ = (tape.points.filter (fun other => decide (other.symbol = point.symbol))).count point := by
        rw [same]
        rfl
    _ = tape.points.count point := counted _

def AllConserved (tape : Tape) : Prop :=
  ∀ frame ∈ tape.aggregator.timeframes, Conserved (candlesOf frame tape) tape.points

def AllNotional (tape : Tape) : Prop :=
  ∀ frame ∈ tape.aggregator.timeframes, NotionalKept (candlesOf frame tape) tape.points

def AllMerged (tape : Tape) : Prop :=
  ∀ symbol, ∀ fine ∈ tape.aggregator.timeframes, ∀ coarse ∈ tape.aggregator.timeframes, Coarser fine coarse →
    Merged (series (symbol, fine) tape) (series (symbol, coarse) tape)

def AllFair (tape : Tape) : Prop := ∀ point ∈ tape.points, Fair point

theorem fair_step (tape : Tape) (action : FeedAction) (fair : AllFair tape) (sized : Sized action) :
    AllFair (tapeStep tape action) := by
  cases action with
  | trade trade =>
      intro point member
      cases List.mem_append.mp member with
      | inl old => exact fair point old
      | inr new =>
          rw [List.mem_singleton.mp new]
          exact ⟨sized, rfl⟩
  | flush now => exact fair

structure MergeInv (tape : Tape) : Prop where
  base : TapeInv tape
  fair : AllFair tape
  own : ∀ symbol, ∀ fine ∈ tape.aggregator.timeframes, ∀ coarse ∈ tape.aggregator.timeframes, Coarser fine coarse →
    Own (series (symbol, fine) tape) ∧ OneEach (series (symbol, coarse) tape)

theorem merge_inv_start (timeframes : List Timeframe) (once : timeframes.Nodup) : MergeInv (start timeframes) := by
  refine ⟨tape_start timeframes once, fun point member => ?_, fun symbol fine _ coarse _ _ => ⟨?_, ?_⟩⟩
  · exact absurd member List.not_mem_nil
  · exact fun candle member => absurd member List.not_mem_nil
  · exact ⟨List.Pairwise.nil, fun candle member => absurd member List.not_mem_nil⟩

theorem merge_inv_step (tape : Tape) (action : FeedAction) (inv : MergeInv tape) (inSequence : InSequence tape action) :
    MergeInv (tapeStep tape action) := by
  cases action with
  | trade trade =>
      refine ⟨tape_step_inv tape (.trade trade) inv.base, fair_step tape (.trade trade) inv.fair inSequence.size, ?_⟩
      intro symbol fine inFine coarse inCoarse coarser
      have frames : (tapeStep tape (.trade trade)).aggregator.timeframes = tape.aggregator.timeframes :=
        add_timeframes tape (tradePoint trade)
      rw [frames] at inFine inCoarse
      have before := inv.own symbol fine inFine coarse inCoarse coarser
      rw [tapeStep, series_add tape inv.base.wired (tradePoint trade) (symbol, fine) inFine,
        series_add tape inv.base.wired (tradePoint trade) (symbol, coarse) inCoarse]
      by_cases mine : symbol = trade.symbol
      · have hit (frame : Frame) : (symbol, frame).1 = (tradePoint trade).symbol := mine
        rw [if_pos (hit fine), if_pos (hit coarse)]
        have placed := inSequence.placed fine inFine coarse inCoarse coarser
        rw [← mine] at placed
        have last (frame : Frame) : ∀ point ∈ (series (symbol, frame) tape).points, point.exchangeTs ≤ trade.exchangeTs := by
          intro point member
          obtain ⟨inTape, named⟩ := List.mem_filter.mp member
          exact inSequence.last point inTape ((of_decide_eq_true named).trans mine)
        have coarseInv : Inv (series (symbol, coarse) tape) coarse :=
          ⟨inv.base.told symbol coarse inCoarse, inv.base.bucketed symbol coarse inCoarse, before.2⟩
        exact ⟨own_add _ fine (inv.base.told symbol fine inFine) before.1 (tradePoint trade) (last fine) placed.1,
          (add_one_each_iff _ coarse coarseInv (tradePoint trade)).mpr
            (last_in_order _ coarse coarseInv trade.exchangeTs (last coarse) placed.2.1 placed.2.2)⟩
      · have miss (frame : Frame) : ¬ (symbol, frame).1 = (tradePoint trade).symbol := mine
        rw [if_neg (miss fine), if_neg (miss coarse)]
        exact before
  | flush now =>
      refine ⟨tape_step_inv tape (.flush now) inv.base, fair_step tape (.flush now) inv.fair trivial, ?_⟩
      intro symbol fine inFine coarse inCoarse coarser
      have before := inv.own symbol fine inFine coarse inCoarse coarser
      rw [tapeStep, series_flush tape inv.base.wired now, series_flush tape inv.base.wired now]
      exact ⟨own_flush _ before.1 now, flush_one_each _ before.2 now⟩

theorem merge_inv_merged (tape : Tape) (inv : MergeInv tape) : AllMerged tape := by
  intro symbol fine inFine coarse inCoarse coarser
  have parts := inv.own symbol fine inFine coarse inCoarse coarser
  obtain ⟨_, short, fineStep, long, coarseStep, divides⟩ := coarser
  refine merged_of_parts _ _ fine coarse (steps_refine fine coarse short long fineStep coarseStep divides) rfl
    (fun point member => inv.fair point (List.mem_filter.mp member).1) (inv.base.told symbol fine inFine)
    (inv.base.told symbol coarse inCoarse) (inv.base.bucketed symbol fine inFine)
    (inv.base.bucketed symbol coarse inCoarse) parts.1 parts.2

-- With no timeframe configured twice: volumes and counts are conserved and
-- candles are well formed in every run; the notional while no size is
-- negative; and coarse candles are merges of fine ones while the trades of a
-- symbol come in order of time, each in its own bucket, and none in a bucket of
-- a coarser timeframe that the clock has closed.
theorem candles_conserve_tape (timeframes : List Timeframe) (once : timeframes.Nodup) (actions : List FeedAction) :
    Always tapeStep AllConserved (start timeframes) actions ∧
    (Each tapeStep (fun _ action => Sized action) (start timeframes) actions →
      Always tapeStep AllNotional (start timeframes) actions) ∧
    (Each tapeStep InSequence (start timeframes) actions → Always tapeStep AllMerged (start timeframes) actions) := by
  refine ⟨?_, ?_, ?_⟩
  · refine Run.always_of_invariant tapeStep (fun _ _ => True) TapeInv AllConserved
      (fun tape action inv _ => tape_step_inv tape action inv) (fun tape inv frame configured => ?_) (start timeframes)
      actions (tape_start timeframes once) (Run.each_of_all _ _ (fun _ _ => trivial) _ _)
    have told := all_told tape inv frame configured
    exact sound_conserved _ _ told.sound told.told
  · refine Run.always_of_invariant tapeStep _ (fun tape => TapeInv tape ∧ AllFair tape) AllNotional
      (fun tape action inv sized => ⟨tape_step_inv tape action inv.1, fair_step tape action inv.2 sized⟩)
      (fun tape inv frame configured => ?_) (start timeframes) actions
      ⟨tape_start timeframes once, fun point member => absurd member List.not_mem_nil⟩
    have told := all_told tape inv.1 frame configured
    exact sound_notional _ _ told.sound told.told inv.2
  · exact Run.always_of_invariant tapeStep InSequence MergeInv AllMerged
      (fun tape action inv inSequence => merge_inv_step tape action inv inSequence) merge_inv_merged (start timeframes)
      actions (merge_inv_start timeframes once)

theorem m1_m5_once : [Timeframe.m1, Timeframe.m5].Nodup := by decide

theorem candles_merge_five_minutes :
    Always tapeStep AllMerged (start [.m1, .m5])
      [.trade (tradeAt 100 30000000), .trade (tradeAt 102 299900000), .flush 300000000, .trade (tradeAt 101 300100000)] :=
  (candles_conserve_tape [.m1, .m5] m1_m5_once
    [.trade (tradeAt 100 30000000), .trade (tradeAt 102 299900000), .flush 300000000,
      .trade (tradeAt 101 300100000)]).2.2 (by decide +kernel)

instance (fine coarse : Series) : Decidable (Merged fine coarse) := inferInstanceAs (Decidable (∀ _ ∈ _, _ = _))

-- The clock closes the five minutes between two of their trades: two candles
-- of one bucket, and neither is the merge of its minutes.
theorem flush_between_trades :
    ∃ fine coarse : Frame, fine.1 = .m1 ∧ coarse.1 = .m5 ∧ Coarser fine coarse ∧
      let tape := Run.final tapeStep (start [.m1, .m5])
        [.trade (tradeAt 100 299900000), .flush 300050000, .trade (tradeAt 101 299950000)]
      ¬ Merged (series ("BTCUSDT", fine) tape) (series ("BTCUSDT", coarse) tape) :=
  ⟨⟨.m1, by decide⟩, ⟨.m5, by decide⟩, rfl, rfl, by decide, by decide +kernel⟩

end QuantEngine.CandleMerge
