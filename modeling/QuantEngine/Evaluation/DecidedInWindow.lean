import QuantEngine.Evaluation.Tracker
import QuantEngine.Market.CandleBuckets
import QuantEngine.Market.MarketState

set_option autoImplicit false

namespace QuantEngine.Evaluation.VirtualOutcome

open QuantEngine.Calendar QuantEngine.Buckets QuantEngine.Timeframes QuantEngine.Candles QuantEngine.CandleBars
open QuantEngine.CandleBuckets (inBucket)
open QuantEngine.MarketState (Increasing)
open QuantEngine.Evaluation.PerformanceTracker

-- The candles of a symbol: each the summary of the prices of its own bucket,
-- in order, with nothing lost.
structure CandleHistory (frame : Frame) where
  candles : List MarketCandle
  sound : ∀ candle ∈ candles, Sound candle
  bucketed : ∀ candle ∈ candles, (grid frame).IsBucket candle.start candle.end_
  own : ∀ candle ∈ candles, ∀ point ∈ candle.folded, inBucket candle point = true
  increasing : Increasing candles

variable {frame : Frame}

def CandleHistory.closedBy (history : CandleHistory frame) (moment : Moment) : List MarketCandle :=
  history.candles.filter (fun candle => decide (candle.end_ ≤ moment))

def inWindow (trade : VirtualTrade) (point : Point) : Bool :=
  decide (trade.openedAt < point.exchangeTs ∧ point.exchangeTs ≤ trade.deadline)

-- The prices traded after the opening and up to the deadline, with their times.
def windowPrices (trade : VirtualTrade) (history : CandleHistory frame) : List (Moment × ℚ) :=
  ((history.candles.flatMap MarketCandle.folded).filter (inWindow trade)).map (fun point => (point.exchangeTs, point.price))

-- A pass sees the candles of the symbol closed up to its time; other signals
-- come and go.
def Watches (settings : QuantEvaluationSettings) (trade : VirtualTrade) (history : CandleHistory settings.timeframe) :
    Action → Prop
  | .record record => record.signal.signalId ≠ trade.signalId
  | .pass market moment => market trade.symbol settings.timeframe.1 500 = history.closedBy moment

-- Two schedules that both resolve the signal, over histories with the same
-- prices in the window, record the same outcome.
def OutcomeFixed (settings : QuantEvaluationSettings) (tracker : PerformanceTracker) (trade : VirtualTrade)
    (history : CandleHistory settings.timeframe) : Prop :=
  ∀ other : CandleHistory settings.timeframe, windowPrices trade other = windowPrices trade history →
    ∀ first second, (∀ action ∈ first, Watches settings trade history action) →
      (∀ action ∈ second, Watches settings trade other action) →
      ∀ a b, Records tracker first trade.signalId a → Records tracker second trade.signalId b → a = b

def reachesStop (trade : VirtualTrade) (price : ℚ) : Prop :=
  if trade.direction = .long then price ≤ trade.stop else trade.stop ≤ price

instance (trade : VirtualTrade) (price : ℚ) : Decidable (reachesStop trade price) :=
  inferInstanceAs (Decidable (if trade.direction = .long then price ≤ trade.stop else trade.stop ≤ price))

-- The candles that begin after the opening and before a given one.
def between (trade : VirtualTrade) (history : CandleHistory frame) (last : MarketCandle) : List MarketCandle :=
  history.candles.filter (fun candle => decide (trade.openedAt < candle.start ∧ candle.start < last.start))

-- A candle that closes by the deadline has a price after the opening at or
-- beyond the stop; and it is the one the signal was given in, or there is no
-- target and the candle counts as early, or none does, whether or not the
-- opening candle is counted before it.
def Decided (settings : QuantEvaluationSettings) (trade : VirtualTrade) (history : CandleHistory frame) : Prop :=
  ∃ candle ∈ history.candles, candle.end_ ≤ trade.deadline ∧
    (∃ point ∈ candle.folded, trade.openedAt < point.exchangeTs ∧ reachesStop trade point.price) ∧
    (candle.start ≤ trade.openedAt ∨ trade.target = none ∧
      (settings.falseSignalBars ≤ 0 ∨ ((between trade history candle).length : Int) + 1 < settings.falseSignalBars))

theorem hit_stop_iff (trade : VirtualTrade) (candle : MarketCandle) (sound : Sound candle) :
    hitStop trade candle = true ↔ ∃ point ∈ candle.folded, reachesStop trade point.price := by
  rw [hitStop]
  by_cases long : trade.direction = .long
  · simp only [if_pos long, reachesStop, decide_eq_true_eq]
    exact sound_low candle sound trade.stop
  · simp only [if_neg long, reachesStop, decide_eq_true_eq]
    exact sound_high candle sound trade.stop

theorem own_inside (history : CandleHistory frame) (candle : MarketCandle) (member : candle ∈ history.candles) (point : Point)
    (folded : point ∈ candle.folded) : Inside candle.start candle.end_ point.exchangeTs :=
  of_decide_eq_true (history.own candle member point folded)

theorem candle_size (history : CandleHistory frame) (candle : MarketCandle) (member : candle ∈ history.candles) :
    candle.start < candle.end_ :=
  (grid frame).bucket_nonempty candle.start candle.end_ (history.bucketed candle member)

-- An earlier candle ends before a later one starts.
theorem candles_apart (history other : CandleHistory frame) (a b : MarketCandle) (left : a ∈ history.candles)
    (right : b ∈ other.candles) (before : a.start < b.start) : a.end_ ≤ b.start :=
  (grid frame).buckets_apart a.start a.end_ b.start b.end_ (history.bucketed a left) (other.bucketed b right) before

theorem mem_window (trade : VirtualTrade) (history : CandleHistory frame) (entry : Moment × ℚ) :
    entry ∈ windowPrices trade history ↔ ∃ candle ∈ history.candles, ∃ point ∈ candle.folded,
      inWindow trade point = true ∧ (point.exchangeTs, point.price) = entry := by
  simp only [windowPrices, List.mem_map, List.mem_filter, List.mem_flatMap]
  constructor
  · rintro ⟨point, ⟨⟨candle, member, folded⟩, inside⟩, rfl⟩
    exact ⟨candle, member, point, folded, inside, rfl⟩
  · rintro ⟨candle, member, point, folded, inside, rfl⟩
    exact ⟨point, ⟨⟨candle, member, folded⟩, inside⟩, rfl⟩

-- A price of the window is in a candle of the same bucket of every history with
-- the same window.
theorem window_candle (trade : VirtualTrade) (history other : CandleHistory frame)
    (same : windowPrices trade other = windowPrices trade history) (candle : MarketCandle) (member : candle ∈ history.candles)
    (point : Point) (folded : point ∈ candle.folded) (inside : inWindow trade point = true) :
    ∃ twin ∈ other.candles, twin.start = candle.start ∧ twin.end_ = candle.end_ ∧
      ∃ copy ∈ twin.folded, copy.exchangeTs = point.exchangeTs ∧ copy.price = point.price := by
  have listed := (mem_window trade history _).mpr ⟨candle, member, point, folded, inside, rfl⟩
  rw [← same] at listed
  obtain ⟨twin, twinMember, copy, copyFolded, _, equal⟩ := (mem_window trade other _).mp listed
  have ts := congrArg Prod.fst equal
  have here := own_inside history candle member point folded
  have there := own_inside other twin twinMember copy copyFolded
  dsimp only at ts
  rw [ts] at there
  have bucket := (grid frame).same_bucket _ _ _ _ _ (other.bucketed twin twinMember) (history.bucketed candle member) there here
  exact ⟨twin, twinMember, bucket.1, bucket.2, copy, copyFolded, ts, congrArg Prod.snd equal⟩

theorem scan_some (settings : QuantEvaluationSettings) (trade : VirtualTrade) (index : Nat) (candles : List MarketCandle)
    (closing : Closing) (found : scan settings trade index candles = some closing) :
    ∃ before candle after, candles = before ++ candle :: after ∧
      touched settings trade (index + before.length) candle = some closing ∧
      ∀ earlier ∈ before, hitStop trade earlier = false := by
  induction candles generalizing index with
  | nil => cases found
  | cons candle rest ih =>
      rw [scan] at found
      cases here : touched settings trade index candle with
      | some first =>
          rw [here] at found
          exact ⟨[], candle, rest, rfl, here.trans found, fun _ member => absurd member List.not_mem_nil⟩
      | none =>
          rw [here] at found
          obtain ⟨before, last, after, split, closes, clean⟩ := ih (index + 1) found
          have missed : hitStop trade candle = false := by
            rw [touched] at here
            by_contra hit
            rw [Bool.not_eq_false] at hit
            rw [if_pos hit] at here
            cases here
          refine ⟨candle :: before, last, after, congrArg (List.cons candle) split, ?_, fun earlier member => ?_⟩
          · rw [List.length_cons, Nat.add_comm before.length 1, ← Nat.add_assoc]
            exact closes
          · cases List.mem_cons.mp member with
            | inl same => exact same ▸ missed
            | inr later => exact clean earlier later

theorem scan_none (settings : QuantEvaluationSettings) (trade : VirtualTrade) (index : Nat) (candles : List MarketCandle)
    (missed : scan settings trade index candles = none) : ∀ candle ∈ candles, hitStop trade candle = false := by
  induction candles generalizing index with
  | nil => exact fun _ member => absurd member List.not_mem_nil
  | cons candle rest ih =>
      rw [scan, Option.or_eq_none_iff] at missed
      intro other member
      cases List.mem_cons.mp member with
      | inr later => exact ih (index + 1) missed.2 other later
      | inl same =>
          have here := missed.1
          rw [touched] at here
          by_contra hit
          rw [Bool.not_eq_false, same] at hit
          rw [if_pos hit] at here
          cases here

-- What a pass at a moment scans.
def visible (trade : VirtualTrade) (history : CandleHistory frame) (moment : Moment) : List MarketCandle :=
  (history.closedBy moment).filter (fun candle => decide (trade.openedAt < candle.end_))

def closingBy (settings : QuantEvaluationSettings) (trade : VirtualTrade) (history : CandleHistory frame) (moment : Moment) :
    Option Closing :=
  evaluateTrade settings trade (history.closedBy moment) moment

theorem mem_visible (trade : VirtualTrade) (history : CandleHistory frame) (moment : Moment) (candle : MarketCandle) :
    candle ∈ visible trade history moment ↔
      candle ∈ history.candles ∧ candle.end_ ≤ moment ∧ trade.openedAt < candle.end_ := by
  simp only [visible, CandleHistory.closedBy, List.mem_filter, decide_eq_true_eq, and_assoc]

theorem visible_increasing (trade : VirtualTrade) (history : CandleHistory frame) (moment : Moment) :
    Increasing (visible trade history moment) :=
  history.increasing.sublist ((List.filter_sublist.trans List.filter_sublist).map _)

theorem increasing_around (before after : List MarketCandle) (candle : MarketCandle)
    (sorted : Increasing (before ++ candle :: after)) :
    (∀ earlier ∈ before, earlier.start < candle.start) ∧ ∀ later ∈ after, candle.start < later.start := by
  rw [Increasing, List.map_append, List.map_cons, List.pairwise_append, List.pairwise_cons] at sorted
  exact ⟨fun earlier member => sorted.2.2 _ (List.mem_map_of_mem member) _ List.mem_cons_self,
    fun later member => sorted.2.1.1 _ (List.mem_map_of_mem member)⟩

theorem same_start (history : CandleHistory frame) (a b : MarketCandle) (left : a ∈ history.candles)
    (right : b ∈ history.candles) (same : a.start = b.start) : a = b :=
  List.inj_on_of_nodup_map (history.increasing.imp ne_of_lt) left right same

theorem closing_cases (settings : QuantEvaluationSettings) (trade : VirtualTrade) (history : CandleHistory frame)
    (moment : Moment) (closing : Closing) (closes : closingBy settings trade history moment = some closing) :
    (∃ before candle after, visible trade history moment = before ++ candle :: after ∧
      touched settings trade before.length candle = some closing ∧ ∀ earlier ∈ before, hitStop trade earlier = false) ∨
    (trade.deadline ≤ moment ∧ closing.1.result = .timeout ∧
      ∀ candle ∈ visible trade history moment, hitStop trade candle = false) := by
  rw [closingBy, evaluateTrade] at closes
  cases scanned : scan settings trade 0 (visible trade history moment) with
  | some first =>
      obtain ⟨before, candle, after, split, touches, clean⟩ := scan_some settings trade 0 _ first scanned
      rw [visible] at scanned
      rw [scanned] at closes
      rw [Nat.zero_add] at touches
      exact Or.inl ⟨before, candle, after, split, touches.trans closes, clean⟩
  | none =>
      have clean := scan_none settings trade 0 _ scanned
      rw [visible] at scanned
      rw [scanned] at closes
      dsimp only at closes
      by_cases past : trade.deadline ≤ moment
      · rw [if_pos past] at closes
        refine Or.inr ⟨past, ?_, clean⟩
        rw [← Option.some.inj closes]
        rfl
      · rw [if_neg past] at closes
        cases closes

-- Every pass from the deadline on closes the trade.
theorem closes_after (settings : QuantEvaluationSettings) (trade : VirtualTrade) (history : CandleHistory frame)
    (moment : Moment) (past : trade.deadline ≤ moment) : ∃ closing, closingBy settings trade history moment = some closing := by
  rw [closingBy, evaluateTrade]
  cases scan settings trade 0 ((history.closedBy moment).filter (fun candle => decide (trade.openedAt < candle.end_))) with
  | some closing => exact ⟨closing, rfl⟩
  | none =>
      dsimp only
      rw [if_pos past]
      exact ⟨_, rfl⟩

theorem touched_stop (settings : QuantEvaluationSettings) (trade : VirtualTrade) (index : Nat) (candle : MarketCandle)
    (closing : Closing) (touches : touched settings trade index candle = some closing) (hit : hitStop trade candle = true) :
    closing.1 = ⟨.loss, -1, decide ((index : Int) < settings.falseSignalBars)⟩ := by
  rw [touched, if_pos hit] at touches
  rw [← Option.some.inj touches]

theorem touched_no_target (settings : QuantEvaluationSettings) (trade : VirtualTrade) (open_ : trade.target = none)
    (index : Nat) (candle : MarketCandle) (closing : Closing)
    (touches : touched settings trade index candle = some closing) : hitStop trade candle = true := by
  by_contra missed
  rw [touched, if_neg missed, open_] at touches
  cases touches

-- The outcome that the opening candle would give by itself.
def stoppedAtOnce (settings : QuantEvaluationSettings) : Outcome := ⟨.loss, -1, decide (0 < settings.falseSignalBars)⟩

-- With a candle at the stop that closes by the deadline, the candle that closes
-- the trade starts no later.
theorem first_touch (settings : QuantEvaluationSettings) (trade : VirtualTrade) (history : CandleHistory frame)
    (stopped : MarketCandle) (member : stopped ∈ history.candles) (within : trade.openedAt < stopped.end_)
    (inTime : stopped.end_ ≤ trade.deadline) (hit : hitStop trade stopped = true) (moment : Moment) (closing : Closing)
    (closes : closingBy settings trade history moment = some closing) :
    ∃ before candle after, visible trade history moment = before ++ candle :: after ∧
      touched settings trade before.length candle = some closing ∧ candle.start ≤ stopped.start ∧
      ∀ earlier ∈ before, earlier.start < stopped.start := by
  cases closing_cases settings trade history moment closing closes with
  | inr late =>
      have seen := (mem_visible trade history moment stopped).mpr ⟨member, le_trans inTime late.1, within⟩
      exact absurd (late.2.2 stopped seen) (by rw [hit]; decide)
  | inl found =>
      obtain ⟨before, candle, after, split, touches, clean⟩ := found
      have sorted := visible_increasing trade history moment
      rw [split] at sorted
      have around := increasing_around before after candle sorted
      have seen : candle ∈ visible trade history moment := by
        rw [split]
        exact List.mem_append_right _ List.mem_cons_self
      have known := (mem_visible trade history moment candle).mp seen
      have first : candle.start ≤ stopped.start := by
        by_contra later
        rw [not_le] at later
        have ended := candles_apart history history stopped candle member known.1 later
        have size := candle_size history candle known.1
        have stoppedSeen := (mem_visible trade history moment stopped).mpr
          ⟨member, le_trans ended (le_trans (le_of_lt size) known.2.1), within⟩
        rw [split] at stoppedSeen
        cases List.mem_append.mp stoppedSeen with
        | inl early => exact absurd (clean stopped early) (by rw [hit]; decide)
        | inr rest =>
            cases List.mem_cons.mp rest with
            | inl same => exact absurd (same ▸ later) (lt_irrefl _)
            | inr late => exact absurd (lt_trans later (around.2 stopped late)) (lt_irrefl _)
      exact ⟨before, candle, after, split, touches, first, fun earlier early => lt_of_lt_of_le (around.1 earlier early) first⟩

-- The candles of another history that a pass counts before one of the window.
theorem count_before (trade : VirtualTrade) (history other : CandleHistory frame)
    (same : windowPrices trade other = windowPrices trade history) (candle twin : MarketCandle)
    (member : twin ∈ other.candles) (starts : twin.start = candle.start) (inTime : twin.end_ ≤ trade.deadline)
    (before : List MarketCandle) (sorted : Increasing before)
    (early : ∀ earlier ∈ before, earlier ∈ other.candles ∧ trade.openedAt < earlier.end_ ∧ earlier.start < twin.start) :
    before.length ≤ (between trade history candle).length + 1 := by
  obtain ⟨start, stop, bucket, inside⟩ := (grid frame).exists_bucket trade.openedAt
  have part : before.map MarketCandle.start ⊆ start :: (between trade history candle).map MarketCandle.start := by
    intro moment listed
    obtain ⟨earlier, mine, rfl⟩ := List.mem_map.mp listed
    obtain ⟨known, alive, first⟩ := early earlier mine
    by_cases after : trade.openedAt < earlier.start
    · have ended := candles_apart other other earlier twin known member first
      have size := candle_size other twin member
      obtain ⟨point, folded⟩ := List.exists_mem_of_ne_nil _ (sound_nonempty earlier (other.sound earlier known))
      have bucketed := own_inside other earlier known point folded
      have window : inWindow trade point = true :=
        decide_eq_true ⟨lt_of_lt_of_le after bucketed.1,
          le_of_lt (lt_of_lt_of_le bucketed.2 (le_trans ended (le_trans (le_of_lt size) inTime)))⟩
      obtain ⟨copy, copied, sameStart, _⟩ := window_candle trade other history same.symm earlier known point folded window
      refine List.mem_cons_of_mem _ (List.mem_map.mpr ⟨copy, ?_, sameStart⟩)
      rw [between, List.mem_filter, sameStart, ← starts]
      exact ⟨copied, decide_eq_true ⟨after, first⟩⟩
    · have sameBucket := (grid frame).same_bucket _ _ _ _ _ (other.bucketed earlier known) bucket
        ⟨le_of_not_gt after, alive⟩ inside
      rw [sameBucket.1]
      exact List.mem_cons_self
  have count := (List.subperm_of_subset (sorted.imp ne_of_lt) part).length_le
  simpa using count

theorem decided_outcome (settings : QuantEvaluationSettings) (trade : VirtualTrade) (history other : CandleHistory frame)
    (decided : Decided settings trade history) (same : windowPrices trade other = windowPrices trade history)
    (moment : Moment) (closing : Closing) (closes : closingBy settings trade other moment = some closing) :
    closing.1 = stoppedAtOnce settings := by
  obtain ⟨candle, member, inTime, ⟨point, folded, after, reaches⟩, either⟩ := decided
  have inside := own_inside history candle member point folded
  have window : inWindow trade point = true := decide_eq_true ⟨after, le_of_lt (lt_of_lt_of_le inside.2 inTime)⟩
  obtain ⟨twin, known, starts, ends, copy, copied, _, price⟩ :=
    window_candle trade history other same candle member point folded window
  have hit : hitStop trade twin = true := (hit_stop_iff trade twin (other.sound twin known)).mpr ⟨copy, copied, price ▸ reaches⟩
  have within : trade.openedAt < twin.end_ := by
    rw [ends]
    exact lt_trans after inside.2
  rw [← ends] at inTime
  obtain ⟨before, first, later, split, touches, firstStart, early⟩ :=
    first_touch settings trade other twin known within inTime hit moment closing closes
  have seen (some_ : MarketCandle) (mine : some_ ∈ before ++ first :: later) :
      some_ ∈ other.candles ∧ some_.end_ ≤ moment ∧ trade.openedAt < some_.end_ := by
    rw [← split] at mine
    exact (mem_visible trade other moment some_).mp mine
  have firstSeen := seen first (List.mem_append_right _ List.mem_cons_self)
  cases either with
  | inl opening =>
      rw [← starts] at opening
      have none_ (earlier : MarketCandle) (mine : earlier ∈ before ++ first :: later) : ¬ earlier.start < twin.start := by
        intro less
        have known' := seen earlier mine
        have apart := candles_apart other other earlier twin known'.1 known less
        exact absurd (lt_of_lt_of_le known'.2.2 (le_trans apart opening)) (lt_irrefl _)
      have empty : before = [] := List.eq_nil_iff_forall_not_mem.mpr
        (fun earlier mine => none_ earlier (List.mem_append_left _ mine) (early earlier mine))
      have isTwin : first = twin := same_start other first twin firstSeen.1 known
        (le_antisymm firstStart (not_lt.mp (none_ first (List.mem_append_right _ List.mem_cons_self))))
      rw [isTwin, empty] at touches
      exact touched_stop settings trade 0 twin closing touches hit
  | inr untargeted =>
      have stops := touched_no_target settings trade untargeted.1 before.length first closing touches
      rw [touched_stop settings trade before.length first closing touches stops, stoppedAtOnce, Outcome.mk.injEq]
      refine ⟨rfl, rfl, decide_eq_decide.mpr ?_⟩
      have sorted := visible_increasing trade other moment
      rw [split, Increasing, List.map_append] at sorted
      have count := count_before trade history other same candle twin known starts inTime before
        (List.pairwise_append.mp sorted).1
        (fun earlier mine => ⟨(seen earlier (List.mem_append_left _ mine)).1,
          (seen earlier (List.mem_append_left _ mine)).2.2, early earlier mine⟩)
      have bars := untargeted.2
      omega

end QuantEngine.Evaluation.VirtualOutcome
