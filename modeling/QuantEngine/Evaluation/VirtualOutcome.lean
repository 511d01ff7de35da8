import QuantEngine.Evaluation.DecidedInWindow

set_option autoImplicit false

namespace QuantEngine.Evaluation.VirtualOutcome

open QuantEngine.Calendar QuantEngine.Buckets QuantEngine.Timeframes QuantEngine.Candles QuantEngine.CandleBars
open QuantEngine.CandleBuckets (inBucket)
open QuantEngine.MarketState (Increasing)
open QuantEngine.Evaluation.PerformanceTracker

variable {frame : Frame}

-- The candle of a bucket with the given points.
def buildingOf (frame : Frame) (start stop : Moment) (first : Point) (rest : List Point) : Building :=
  rest.foldl Building.addPoint ({ openBuilding frame first with start := start, end_ := stop }.addPoint first)

theorem add_points (building : Building) (built : Built building) (points : List Point) :
    Built (points.foldl Building.addPoint building) ∧
      (points.foldl Building.addPoint building).folded = building.folded ++ points ∧
      (points.foldl Building.addPoint building).start = building.start ∧
      (points.foldl Building.addPoint building).end_ = building.end_ := by
  induction points generalizing building with
  | nil => exact ⟨built, (List.append_nil _).symm, rfl, rfl⟩
  | cons point rest ih =>
      obtain ⟨next, folded, starts, ends⟩ := ih (building.addPoint point) (built_add building built point)
      refine ⟨next, ?_, starts, ends⟩
      rw [List.foldl_cons, folded, Building.addPoint, List.append_assoc]
      rfl

def candleOf (frame : Frame) (start stop : Moment) (first : Point) (rest : List Point) : MarketCandle :=
  (buildingOf frame start stop first rest).freeze true

theorem candle_of_spec (frame : Frame) (start stop : Moment) (first : Point) (rest : List Point) :
    Sound (candleOf frame start stop first rest) ∧ (candleOf frame start stop first rest).folded = first :: rest ∧
      (candleOf frame start stop first rest).start = start ∧ (candleOf frame start stop first rest).end_ = stop := by
  obtain ⟨built, folded, starts, ends⟩ :=
    add_points ({ openBuilding frame first with start := start, end_ := stop }.addPoint first) (built_open frame first) rest
  exact ⟨⟨_, true, rfl, built⟩, folded, starts, ends⟩

-- A quote at the very moment of the opening.
def quoteAt (trade : VirtualTrade) (price : ℚ) : Point := ⟨trade.symbol, "", trade.openedAt, price, 1, none, none⟩

-- The prices of the window that the candles begun by the opening hold.
def openingPrices (trade : VirtualTrade) (history : CandleHistory frame) : List Point :=
  ((history.candles.filter (fun candle => decide (candle.start ≤ trade.openedAt))).flatMap MarketCandle.folded).filter
    (inWindow trade)

def laterCandles (trade : VirtualTrade) (history : CandleHistory frame) : List MarketCandle :=
  history.candles.filter (fun candle => decide (trade.openedAt < candle.start))

section

variable (trade : VirtualTrade) (history : CandleHistory frame) (start stop : Moment)
  (bucket : (grid frame).IsBucket start stop) (inside : Inside start stop trade.openedAt)

include bucket inside in
theorem opening_price (point : Point) (listed : point ∈ openingPrices trade history) :
    Inside start stop point.exchangeTs ∧ trade.openedAt < point.exchangeTs ∧
      ∃ candle ∈ history.candles, candle.start = start ∧ candle.end_ = stop ∧ point ∈ candle.folded := by
  rw [openingPrices, List.mem_filter, List.mem_flatMap] at listed
  obtain ⟨⟨candle, kept, folded⟩, window⟩ := listed
  obtain ⟨member, begun⟩ := List.mem_filter.mp kept
  have within := of_decide_eq_true window
  have own := own_inside history candle member point folded
  have same := (grid frame).same_bucket _ _ _ _ _ (history.bucketed candle member) bucket
    ⟨of_decide_eq_true begun, lt_trans within.1 own.2⟩ inside
  rw [same.1, same.2] at own
  exact ⟨own, within.1, candle, member, same.1, same.2, folded⟩

-- The same prices in the window, and in the candle of the opening one more
-- price before it and no other.
def reopened (price : ℚ) : CandleHistory frame where
  candles := candleOf frame start stop (quoteAt trade price) (openingPrices trade history) :: laterCandles trade history
  sound := by
    intro candle member
    cases List.mem_cons.mp member with
    | inl here => exact here ▸ (candle_of_spec frame start stop _ _).1
    | inr later => exact history.sound candle (List.mem_filter.mp later).1
  bucketed := by
    intro candle member
    cases List.mem_cons.mp member with
    | inl here =>
        rw [here, (candle_of_spec frame start stop _ _).2.2.1, (candle_of_spec frame start stop _ _).2.2.2]
        exact bucket
    | inr later => exact history.bucketed candle (List.mem_filter.mp later).1
  own := by
    intro candle member point folded
    cases List.mem_cons.mp member with
    | inr later => exact history.own candle (List.mem_filter.mp later).1 point folded
    | inl here =>
        obtain ⟨_, points, starts, ends⟩ := candle_of_spec frame start stop (quoteAt trade price) (openingPrices trade history)
        rw [here, points] at folded
        rw [here, inBucket, starts, ends]
        cases List.mem_cons.mp folded with
        | inl quote => exact decide_eq_true (quote ▸ inside)
        | inr listed => exact decide_eq_true (opening_price trade history start stop bucket inside point listed).1
  increasing := by
    rw [Increasing, List.map_cons, List.pairwise_cons, (candle_of_spec frame start stop _ _).2.2.1]
    refine ⟨fun moment listed => ?_, history.increasing.sublist (List.filter_sublist.map _)⟩
    obtain ⟨candle, later, rfl⟩ := List.mem_map.mp listed
    exact lt_of_le_of_lt inside.1 (of_decide_eq_true (List.mem_filter.mp later).2)

theorem split_at_opening (items : List MarketCandle) (sorted : Increasing items) :
    items.filter (fun candle => decide (candle.start ≤ trade.openedAt)) ++
      items.filter (fun candle => decide (trade.openedAt < candle.start)) = items := by
  induction items with
  | nil => rfl
  | cons candle rest ih =>
      rw [Increasing, List.map_cons, List.pairwise_cons] at sorted
      have tail := ih sorted.2
      by_cases begun : candle.start ≤ trade.openedAt
      · rw [List.filter_cons_of_pos (by simpa using begun), List.filter_cons_of_neg (by simpa using begun), List.cons_append,
          tail]
      · have none_ : rest.filter (fun candle => decide (candle.start ≤ trade.openedAt)) = [] := by
          rw [List.filter_eq_nil_iff]
          intro other member early
          have order := sorted.1 other.start (List.mem_map_of_mem member)
          exact begun (le_trans (le_of_lt order) (of_decide_eq_true early))
        rw [List.filter_cons_of_neg (by simpa using begun), List.filter_cons_of_pos (by simpa using begun), none_]
        rw [none_] at tail
        exact congrArg (List.cons candle) tail

theorem reopened_window (price : ℚ) :
    windowPrices trade (reopened trade history start stop bucket inside price) = windowPrices trade history := by
  have before : inWindow trade (quoteAt trade price) = false := decide_eq_false (fun both => lt_irrefl _ both.1)
  have split := split_at_opening trade history.candles history.increasing
  have points : (openingPrices trade history).filter (inWindow trade) = openingPrices trade history := by
    rw [openingPrices, List.filter_filter]
    simp only [Bool.and_self]
  rw [windowPrices, windowPrices]
  congr 1
  calc ((reopened trade history start stop bucket inside price).candles.flatMap MarketCandle.folded).filter (inWindow trade)
      = (quoteAt trade price :: openingPrices trade history).filter (inWindow trade) ++
          ((laterCandles trade history).flatMap MarketCandle.folded).filter (inWindow trade) := by
        rw [reopened, List.flatMap_cons, (candle_of_spec frame start stop _ _).2.1, List.filter_append]
    _ = openingPrices trade history ++ ((laterCandles trade history).flatMap MarketCandle.folded).filter (inWindow trade) := by
        rw [List.filter_cons_of_neg (by rw [before]; decide), points]
    _ = (history.candles.flatMap MarketCandle.folded).filter (inWindow trade) := by
        rw [openingPrices, laterCandles, ← List.filter_append, ← List.flatMap_append, split]

def openingCandle (price : ℚ) : MarketCandle := candleOf frame start stop (quoteAt trade price) (openingPrices trade history)

theorem opening_spec (price : ℚ) : Sound (openingCandle trade history start stop price) ∧
    (openingCandle trade history start stop price).folded = quoteAt trade price :: openingPrices trade history :=
  ⟨(candle_of_spec frame start stop _ _).1, (candle_of_spec frame start stop _ _).2.1⟩

def laterVisible (moment : Moment) : List MarketCandle :=
  ((laterCandles trade history).filter (fun candle => decide (candle.end_ ≤ moment))).filter
    (fun candle => decide (trade.openedAt < candle.end_))

theorem mem_later_visible (moment : Moment) (candle : MarketCandle) : candle ∈ laterVisible trade history moment ↔
    candle ∈ history.candles ∧ trade.openedAt < candle.start ∧ candle.end_ ≤ moment ∧ trade.openedAt < candle.end_ := by
  simp only [laterVisible, laterCandles, List.mem_filter, decide_eq_true_eq, and_assoc]

theorem between_le (moment : Moment) (rest after : List MarketCandle) (candle : MarketCandle)
    (split : laterVisible trade history moment = rest ++ candle :: after) :
    (between trade history candle).length ≤ rest.length := by
  have sorted : Increasing (laterVisible trade history moment) :=
    history.increasing.sublist (((List.filter_sublist.trans List.filter_sublist).trans List.filter_sublist).map _)
  rw [split] at sorted
  have around := increasing_around rest after candle sorted
  have last : candle ∈ laterVisible trade history moment := by
    rw [split]
    exact List.mem_append_right _ List.mem_cons_self
  have known := (mem_later_visible trade history moment candle).mp last
  have part : between trade history candle ⊆ rest := by
    intro earlier listed
    obtain ⟨member, order⟩ := List.mem_filter.mp listed
    obtain ⟨after, before⟩ := of_decide_eq_true order
    have apart := candles_apart history history earlier candle member known.1 before
    have size := candle_size history earlier member
    have sizeLast := candle_size history candle known.1
    have seen := (mem_later_visible trade history moment earlier).mpr
      ⟨member, after, le_trans apart (le_trans (le_of_lt sizeLast) known.2.2.1), lt_trans after size⟩
    rw [split] at seen
    cases List.mem_append.mp seen with
    | inl mine => exact mine
    | inr late =>
        cases List.mem_cons.mp late with
        | inl same => exact absurd (same ▸ before) (lt_irrefl _)
        | inr later => exact absurd (lt_trans before (around.2 earlier later)) (lt_irrefl _)
  have once : (between trade history candle).Nodup :=
    List.Nodup.sublist List.filter_sublist (List.Nodup.of_map _ (history.increasing.imp ne_of_lt))
  exact (List.subperm_of_subset once part).length_le

theorem reopened_visible (price : ℚ) (moment : Moment) (past : stop ≤ moment) :
    visible trade (reopened trade history start stop bucket inside price) moment =
      openingCandle trade history start stop price :: laterVisible trade history moment := by
  have ends : (openingCandle trade history start stop price).end_ = stop := (candle_of_spec frame start stop _ _).2.2.2
  have here : (reopened trade history start stop bucket inside price).candles =
    openingCandle trade history start stop price :: laterCandles trade history := rfl
  rw [visible, CandleHistory.closedBy, here, List.filter_cons_of_pos (by rw [ends]; exact decide_eq_true past),
    List.filter_cons_of_pos (by rw [ends]; exact decide_eq_true inside.2), laterVisible]

theorem opening_touched (settings : QuantEvaluationSettings) (price : ℚ) (moment : Moment) (past : stop ≤ moment)
    (closing : Closing)
    (touches : touched settings trade 0 (openingCandle trade history start stop price) = some closing) :
    closingBy settings trade (reopened trade history start stop bucket inside price) moment = some closing := by
  have seen := reopened_visible trade history start stop bucket inside price moment past
  rw [visible] at seen
  rw [closingBy, evaluateTrade, seen, scan, touches]
  rfl

include bucket inside in
-- A stop that the opening candle reaches though the added price does not is
-- reached in the window.
theorem opening_hit (price : ℚ) (clear : ¬ reachesStop trade price)
    (hit : hitStop trade (openingCandle trade history start stop price) = true) :
    ∃ candle ∈ history.candles, candle.start = start ∧ candle.end_ = stop ∧
      ∃ point ∈ candle.folded, trade.openedAt < point.exchangeTs ∧ reachesStop trade point.price := by
  obtain ⟨sound, points⟩ := opening_spec trade history start stop price
  obtain ⟨point, folded, reaches⟩ := (hit_stop_iff trade _ sound).mp hit
  rw [points] at folded
  cases List.mem_cons.mp folded with
  | inl quote =>
      rw [quote] at reaches
      exact absurd reaches clear
  | inr listed =>
      obtain ⟨_, after, candle, member, starts, ends, mine⟩ := opening_price trade history start stop bucket inside point listed
      exact ⟨candle, member, starts, ends, point, mine, after, reaches⟩

include bucket inside in
theorem opening_first (candle : MarketCandle) (member : candle ∈ history.candles) (alive : trade.openedAt < candle.end_) :
    stop ≤ candle.end_ := by
  have size := candle_size history candle member
  cases lt_trichotomy candle.start start with
  | inl before =>
      have apart := (grid frame).buckets_apart _ _ _ _ (history.bucketed candle member) bucket before
      exact absurd (lt_of_lt_of_le alive (le_trans apart inside.1)) (lt_irrefl _)
  | inr rest =>
      cases rest with
      | inl same => exact le_of_eq ((grid frame).bucket_stop start stop candle.end_ bucket (same ▸ history.bucketed candle member))
      | inr after =>
          have apart := (grid frame).buckets_apart _ _ _ _ bucket (history.bucketed candle member) after
          exact le_trans apart (le_of_lt size)

end

theorem hit_target_iff (trade : VirtualTrade) (target : ℚ) (candle : MarketCandle) (sound : Sound candle) :
    hitTarget trade target candle = true ↔ ∃ point ∈ candle.folded,
      if trade.direction = .long then target ≤ point.price else point.price ≤ target := by
  rw [hitTarget]
  by_cases long : trade.direction = .long
  · simp only [if_pos long, decide_eq_true_eq]
    exact sound_high candle sound target
  · simp only [if_neg long, decide_eq_true_eq]
    exact sound_low candle sound target

-- A price at the target and away from the stop.
theorem target_price (trade : VirtualTrade) (target : ℚ) : ∃ price, ¬ reachesStop trade price ∧
    if trade.direction = .long then target ≤ price else price ≤ target := by
  simp only [reachesStop]
  by_cases long : trade.direction = .long
  · simp only [if_pos long, not_le]
    exact ⟨max target (trade.stop + 1), lt_of_lt_of_le (lt_add_one _) (le_max_right _ _), le_max_left _ _⟩
  · simp only [if_neg long, not_le]
    exact ⟨min target (trade.stop - 1), lt_of_le_of_lt (min_le_right _ _) (sub_one_lt _), min_le_left _ _⟩

def passAt (history : CandleHistory frame) (moment : Moment) : Action := .pass (fun _ _ _ => history.closedBy moment) moment

section

variable (tracker : PerformanceTracker) (trade : VirtualTrade) (history : CandleHistory tracker.settings.timeframe)
  (keyed : Keyed tracker) (tracked : tracker.opened.lookup trade.signalId = some trade)

theorem pass_watches (moment : Moment) : ∀ action ∈ [passAt history moment], Watches tracker.settings trade history action := by
  intro action member
  rw [List.mem_singleton.mp member]
  rfl

theorem watches_leaves (actions : List Action) (watches : ∀ action ∈ actions, Watches tracker.settings trade history action) :
    ∀ action ∈ actions, Leaves trade.signalId action := by
  intro action member
  have here := watches action member
  cases action with
  | record record => exact here
  | pass market moment => trivial

include keyed tracked

theorem pass_records (moment : Moment) (closing : Closing)
    (closes : closingBy tracker.settings trade history moment = some closing) :
    Records tracker [passAt history moment] trade.signalId closing.1 := by
  rw [records_iff tracker keyed _ trade tracked (watches_leaves tracker trade history _ (pass_watches tracker trade history moment))]
  have here : closingAt tracker.settings trade (passAt history moment) = some closing := closes
  rw [List.findSome?_cons, here]
  rfl

-- What a schedule records is what one of its passes closes the trade with.
theorem schedule_closes (actions : List Action) (watches : ∀ action ∈ actions, Watches tracker.settings trade history action)
    (outcome : Outcome) (recorded : Records tracker actions trade.signalId outcome) :
    ∃ moment closing, closingBy tracker.settings trade history moment = some closing ∧ closing.1 = outcome := by
  rw [records_iff tracker keyed _ trade tracked (watches_leaves tracker trade history actions watches)] at recorded
  obtain ⟨closing, found, same⟩ := Option.map_eq_some_iff.mp recorded
  obtain ⟨action, member, closes⟩ := List.exists_of_findSome?_eq_some found
  have sees := watches action member
  cases action with
  | record record => cases closes
  | pass market moment =>
      rw [closingAt, closingOf, sees] at closes
      exact ⟨moment, closing, closes, same⟩

theorem fixed_of_decided (decided : Decided tracker.settings trade history) : OutcomeFixed tracker.settings tracker trade history := by
  intro other same first second sees seesOther a b left right
  obtain ⟨_, _, closes, rfl⟩ := schedule_closes tracker trade history keyed tracked first sees a left
  obtain ⟨_, _, closesOther, rfl⟩ := schedule_closes tracker trade other keyed tracked second seesOther b right
  rw [decided_outcome tracker.settings trade history history decided rfl _ _ closes,
    decided_outcome tracker.settings trade history other decided same _ _ closesOther]

variable (fixed : OutcomeFixed tracker.settings tracker trade history)

include fixed

-- A price at the stop just before the opening makes the opening candle the
-- loss, so every pass over every history with this window records that.
theorem fixed_outcome (other : CandleHistory tracker.settings.timeframe)
    (same : windowPrices trade other = windowPrices trade history) (moment : Moment) (closing : Closing)
    (closes : closingBy tracker.settings trade other moment = some closing) : closing.1 = stoppedAtOnce tracker.settings := by
  obtain ⟨start, stop, bucket, inside⟩ := (grid tracker.settings.timeframe).exists_bucket trade.openedAt
  obtain ⟨base, closesBase⟩ := closes_after tracker.settings trade history trade.deadline (le_refl _)
  have recordsBase := pass_records tracker trade history keyed tracked _ base closesBase
  have agree (third : CandleHistory tracker.settings.timeframe)
      (sameThird : windowPrices trade third = windowPrices trade history) (later : Moment) (last : Closing)
      (closesLast : closingBy tracker.settings trade third later = some last) : base.1 = last.1 :=
    fixed third sameThird _ _ (pass_watches tracker trade history _) (pass_watches tracker trade third later) _ _ recordsBase
      (pass_records tracker trade third keyed tracked later last closesLast)
  have hit : hitStop trade (openingCandle trade history start stop trade.stop) = true := by
    obtain ⟨sound, points⟩ := opening_spec trade history start stop trade.stop
    refine (hit_stop_iff trade _ sound).mpr ⟨quoteAt trade trade.stop, ?_, ?_⟩
    · rw [points]
      exact List.mem_cons_self
    · rw [reachesStop, quoteAt, ite_self]
  have touches : touched tracker.settings trade 0 (openingCandle trade history start stop trade.stop) =
      some (stoppedAtOnce tracker.settings, (openingCandle trade history start stop trade.stop).end_) := by
    rw [touched, if_pos hit]
    rfl
  have adverse := agree _ (reopened_window trade history start stop bucket inside trade.stop) stop _
    (opening_touched trade history start stop bucket inside tracker.settings trade.stop stop (le_refl _) _ touches)
  exact (agree other same moment closing closes).symm.trans adverse

theorem fixed_in_time (start stop : Moment) (bucket : (grid tracker.settings.timeframe).IsBucket start stop)
    (inside : Inside start stop trade.openedAt) : stop ≤ trade.deadline := by
  obtain ⟨closing, closes⟩ := closes_after tracker.settings trade history trade.deadline (le_refl _)
  have outcome := fixed_outcome tracker trade history keyed tracked fixed history rfl _ closing closes
  cases closing_cases tracker.settings trade history _ closing closes with
  | inr late =>
      rw [outcome] at late
      cases late.2.1
  | inl found =>
      obtain ⟨before, candle, after, split, _⟩ := found
      have seen : candle ∈ visible trade history trade.deadline := by
        rw [split]
        exact List.mem_append_right _ List.mem_cons_self
      have known := (mem_visible trade history _ candle).mp seen
      exact le_trans (opening_first trade history start stop bucket inside candle known.1 known.2.2) known.2.1

theorem decided_of_fixed : Decided tracker.settings trade history := by
  obtain ⟨start, stop, bucket, inside⟩ := (grid tracker.settings.timeframe).exists_bucket trade.openedAt
  have inTime := fixed_in_time tracker trade history keyed tracked fixed start stop bucket inside
  have agree (price : ℚ) := fixed_outcome tracker trade history keyed tracked fixed _
    (reopened_window trade history start stop bucket inside price)
  have atOpening (price : ℚ) (clear : ¬ reachesStop trade price)
      (hit : hitStop trade (openingCandle trade history start stop price) = true) : Decided tracker.settings trade history := by
    obtain ⟨candle, member, starts, ends, reached⟩ := opening_hit trade history start stop bucket inside price clear hit
    exact ⟨candle, member, ends ▸ inTime, reached, Or.inl (starts ▸ inside.1)⟩
  cases aimed : trade.target with
  | some target =>
      obtain ⟨price, clear, reaches⟩ := target_price trade target
      obtain ⟨sound, points⟩ := opening_spec trade history start stop price
      refine atOpening price clear ?_
      by_contra missed
      have hits := (hit_target_iff trade target _ sound).mpr ⟨quoteAt trade price, by rw [points]; exact List.mem_cons_self, reaches⟩
      have touches : touched tracker.settings trade 0 (openingCandle trade history start stop price) =
          some (⟨.win, |target - trade.entry| / trade.risk, false⟩, (openingCandle trade history start stop price).end_) := by
        rw [touched, if_neg missed, aimed, Option.filter_some, if_pos hits]
        rfl
      cases agree price _ _ (opening_touched trade history start stop bucket inside tracker.settings price stop (le_refl _) _ touches)
  | none =>
      obtain ⟨price, clear, _⟩ := target_price trade trade.stop
      obtain ⟨closing, closes⟩ := closes_after tracker.settings trade
        (reopened trade history start stop bucket inside price) trade.deadline (le_refl _)
      have outcome := agree price _ _ closes
      have seen := reopened_visible trade history start stop bucket inside price trade.deadline inTime
      cases closing_cases tracker.settings trade _ _ closing closes with
      | inr late =>
          rw [outcome] at late
          cases late.2.1
      | inl found =>
          obtain ⟨before, candle, later, split, touches, _⟩ := found
          have hit := touched_no_target tracker.settings trade aimed _ candle closing touches
          rw [touched_stop tracker.settings trade _ candle closing touches hit] at outcome
          rw [seen] at split
          cases before with
          | nil =>
              rw [List.nil_append, List.cons.injEq] at split
              exact atOpening price clear (split.1 ▸ hit)
          | cons opening rest =>
              rw [List.cons_append, List.cons.injEq] at split
              have last : candle ∈ laterVisible trade history trade.deadline := by
                rw [split.2]
                exact List.mem_append_right _ List.mem_cons_self
              obtain ⟨member, after, closed, _⟩ := (mem_later_visible trade history _ candle).mp last
              obtain ⟨point, folded, reaches⟩ := (hit_stop_iff trade candle (history.sound candle member)).mp hit
              have own := own_inside history candle member point folded
              have fewer := between_le trade history trade.deadline rest later candle split.2
              have early := decide_eq_decide.mp (congrArg Outcome.falseSignal outcome)
              rw [List.length_cons] at early
              refine ⟨candle, member, closed, ⟨point, folded, lt_of_lt_of_le after own.1, reaches⟩, Or.inr ⟨aimed, ?_⟩⟩
              omega

end

theorem final_settings (tracker : PerformanceTracker) (actions : List Action) :
    (Run.final step tracker actions).settings = tracker.settings :=
  Run.final_preserved step (fun later => later.settings = tracker.settings)
    (fun later action same => (step_settings later action).trans same) tracker actions rfl

-- Of a tracked signal: its outcome is fixed by the prices of the window exactly
-- when the stop is reached there as `Decided` says.
theorem virtual_outcome_iff (settings : QuantEvaluationSettings) (actions : List Action) (trade : VirtualTrade)
    (tracked : (Run.final step (new settings) actions).opened.lookup trade.signalId = some trade)
    (history : CandleHistory settings.timeframe) :
    OutcomeFixed settings (Run.final step (new settings) actions) trade history ↔ Decided settings trade history := by
  have keyed := Run.final_preserved step Keyed (fun tracker action => step_keyed tracker action) (new settings) actions
    (new_keyed settings)
  have same : (Run.final step (new settings) actions).settings = settings := final_settings (new settings) actions
  generalize Run.final step (new settings) actions = tracker at tracked keyed same
  subst same
  exact ⟨fun fixed => decided_of_fixed tracker trade history keyed tracked fixed,
    fun decided => fixed_of_decided tracker trade history keyed tracked decided⟩

-- A long signal at 100 with its stop at 99, half a minute into the first minute.
def longSignal : SignalRecord where
  signal := {
    signalId := "s1"
    strategyName := "trend"
    symbol := "BTCUSDT"
    timestamp := 30000000
    direction := .long
    confidence := 1
    score := 80
    entryZone := some ⟨100, 100⟩
    stopLoss := some 99 }
  status := .accepted
  recordedAt := 30000000

def longTrade : VirtualTrade where
  signalId := "s1"
  strategy := "trend"
  symbol := "BTCUSDT"
  direction := .long
  entry := 100
  stop := 99
  target := none
  risk := 1
  openedAt := 30000000
  deadline := 14430000000

theorem m1_ne_tick : Timeframe.m1 ≠ .tick := by decide

-- One price, at the start of the given minute.
def minuteCandle (index : Int) (price : ℚ) : MarketCandle :=
  candleOf ⟨.m1, m1_ne_tick⟩ (index * 60 * second) ((index + 1) * 60 * second)
    ⟨"BTCUSDT", "binance", index * 60 * second, price, 1, none, none⟩ []

theorem minute_sound (index : Int) (price : ℚ) : ∀ candle ∈ [minuteCandle index price], Sound candle := by
  intro candle member
  rw [List.mem_singleton.mp member]
  exact (candle_of_spec _ _ _ _ _).1

theorem minute_bucketed (index : Int) (price : ℚ) :
    ∀ candle ∈ [minuteCandle index price], (grid ⟨.m1, m1_ne_tick⟩).IsBucket candle.start candle.end_ := by
  intro candle member
  rw [List.mem_singleton.mp member]
  exact ⟨index, rfl, rfl⟩

theorem minute_own (index : Int) (price : ℚ) :
    ∀ candle ∈ [minuteCandle index price], ∀ point ∈ candle.folded, inBucket candle point = true := by
  intro candle member point folded
  rw [List.mem_singleton.mp member] at folded ⊢
  rw [List.mem_singleton.mp folded]
  have size : index * 60 * second < (index + 1) * 60 * second := by
    rw [second]
    omega
  exact decide_eq_true ⟨le_refl _, size⟩

def minuteAt (index : Int) (price : ℚ) : CandleHistory ⟨.m1, m1_ne_tick⟩ where
  candles := [minuteCandle index price]
  sound := minute_sound index price
  bucketed := minute_bucketed index price
  own := minute_own index price
  increasing := List.pairwise_singleton _ _

theorem virtual_outcome_early_stop :
    OutcomeFixed {} (Run.final step (new {}) [.record longSignal]) longTrade (minuteAt 1 98) :=
  (virtual_outcome_iff {} [.record longSignal] longTrade (by decide +kernel) (minuteAt 1 98)).mpr
    ⟨_, List.mem_singleton_self _, by decide +kernel, by decide +kernel, by decide +kernel⟩

-- The first price is at the stop in the minute after the deadline's: a pass at
-- the deadline records a timeout, a first pass two minutes later a loss.
theorem virtual_outcome_of_late_pass :
    ¬ OutcomeFixed {} (Run.final step (new {}) [.record longSignal]) longTrade (minuteAt 241 98) := by
  intro fixed
  have differ := fixed (minuteAt 241 98) rfl [passAt (minuteAt 241 98) 14430000000] [passAt (minuteAt 241 98) 14580000000]
    (by
      intro action member
      rw [List.mem_singleton.mp member]
      rfl)
    (by
      intro action member
      rw [List.mem_singleton.mp member]
      rfl)
    ⟨.timeout, 0, false⟩ ⟨.loss, -1, true⟩ (by rw [Records]; decide +kernel) (by rw [Records]; decide +kernel)
  cases differ

end QuantEngine.Evaluation.VirtualOutcome
