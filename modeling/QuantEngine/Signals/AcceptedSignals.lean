import QuantEngine.Signals.QuantStrategies

set_option autoImplicit false

namespace QuantEngine.Strategies

open Analytics (Bias BreakDirection FairValueGap OrderBlockZone StructureBreak)
open Calendar (Moment)
open Candles (MarketCandle)
open Decimal (roundTo roundHalfEven)
open Timeframes (Timeframe)

-- What a trade in a direction needs of two prices: that the second one is
-- better than the first.
def Beyond : Direction → ℚ → ℚ → Prop
  | .long, worse, better => worse < better
  | .short, worse, better => better < worse
  | .neutral, _, _ => True

-- A proposal that makes sense: the stop where the trade loses, the target where
-- it gains, and a ratio between the two.
@[mk_iff]
structure Coherent (signal : StrategySignal) : Prop where
  ordered : ∀ zone, signal.entryZone = some zone → zone.low ≤ zone.high
  stop : ∀ zone stop, signal.entryZone = some zone → signal.stopLoss = some stop → Beyond signal.direction stop (middle zone)
  target : ∀ zone target, signal.entryZone = some zone → signal.takeProfit = some target →
    Beyond signal.direction (middle zone) target
  ratio : ∀ ratio, signal.riskReward = some ratio → 0 < ratio

-- What is left to a signal whose stop is in its place.
@[mk_iff]
structure Gains (signal : StrategySignal) : Prop where
  target : ∀ zone target, signal.entryZone = some zone → signal.takeProfit = some target →
    Beyond signal.direction (middle zone) target
  ratio : ∀ ratio, signal.riskReward = some ratio → 0 < ratio

theorem coherent_gains_iff (signal : StrategySignal) (zone : EntryZone) (stop : ℚ) (zoned : signal.entryZone = some zone)
    (stopped : signal.stopLoss = some stop) :
    Coherent signal ↔ zone.low ≤ zone.high ∧ Beyond signal.direction stop (middle zone) ∧ Gains signal := by
  simp [coherent_iff, gains_iff, zoned, stopped]

theorem problem_nil_iff (holds : Bool) (text : String) : SignalValidator.problem holds text = [] ↔ holds = false := by
  cases holds <;> simp [SignalValidator.problem]

theorem level_checks_iff (signal : StrategySignal) (sided : signal.direction ≠ .neutral) :
    SignalValidator.levelChecks signal = [] ↔ Coherent signal := by
  rw [coherent_iff]
  cases direction : signal.direction with
  | neutral => exact absurd direction sided
  | long =>
      cases zoned : signal.entryZone <;> cases stopped : signal.stopLoss <;> cases aimed : signal.takeProfit <;>
        cases rated : signal.riskReward <;>
        simp [SignalValidator.levelChecks, SignalValidator.sideChecks, SignalValidator.zoneReference, problem_nil_iff,
          direction, zoned, stopped, aimed, rated, Beyond, middle]
  | short =>
      cases zoned : signal.entryZone <;> cases stopped : signal.stopLoss <;> cases aimed : signal.takeProfit <;>
        cases rated : signal.riskReward <;>
        simp [SignalValidator.levelChecks, SignalValidator.sideChecks, SignalValidator.zoneReference, problem_nil_iff,
          direction, zoned, stopped, aimed, rated, Beyond, middle]

theorem validate_nil_iff (signal : StrategySignal) (now : Moment) :
    SignalValidator.validate signal now = [] ↔
      signal.symbol ≠ "" ∧ (signal.strategyName ≠ "" ∧ signal.strategyName ≠ "unnamed") ∧
        (0 ≤ signal.confidence ∧ signal.confidence ≤ 1) ∧ (0 ≤ signal.score ∧ signal.score ≤ 100) ∧ signal.reasons ≠ [] ∧
        (∀ deadline, signal.expiration = some deadline → now < deadline) ∧ SignalValidator.levelChecks signal = [] := by
  cases expiration : signal.expiration <;>
    simp [SignalValidator.validate, problem_nil_iff, expiration, and_assoc, decide_eq_false_iff_not]

theorem submit_iff (registry : SignalEngine) (signal : StrategySignal) (now : Moment) :
    (registry.submit signal now).1 = true ↔ SignalValidator.validate signal now = [] := by
  rw [SignalEngine.submit]
  by_cases clean : SignalValidator.validate signal now = []
  · simp [clean]
  · simp [clean]

namespace QuantStrategy

-- What has gone before an emitted signal.
structure Emits (strategy : QuantStrategy) (signalId : String) (ctx : AnalysisContext) (emitted : Emitted)
    (assessment : Assessment) : Prop where
  found : strategy.evaluate ctx (ctx.getCandles strategy.timeframe strategy.parameters.lookback) = .ok (some assessment)
  sided : assessment.direction ≠ .neutral
  built : ∃ score confidence, strategy.score assessment = .ok score ∧ strategy.parameters.minSignalScore ≤ score ∧
    strategy.confidence ctx (strategy.confirmations ctx assessment) = .ok confidence ∧
    emitted = strategy.signal signalId ctx assessment score confidence

theorem conclude_built (strategy : QuantStrategy) (signalId : String) (ctx : AnalysisContext) (emitted : Emitted)
    (assessment : Assessment) (ran : strategy.conclude signalId ctx assessment = .ok (.emitted emitted)) :
    ∃ score confidence, strategy.score assessment = .ok score ∧ strategy.parameters.minSignalScore ≤ score ∧
      strategy.confidence ctx (strategy.confirmations ctx assessment) = .ok confidence ∧
      emitted = strategy.signal signalId ctx assessment score confidence := by
  rw [conclude] at ran
  cases scored : strategy.score assessment with
  | error raised => simp [scored, Except.bind] at ran
  | ok score =>
      by_cases weak : score < strategy.parameters.minSignalScore
      · simp [scored, Except.bind, weak, note] at ran
      · cases trusted : strategy.confidence ctx (strategy.confirmations ctx assessment) with
        | error raised => simp [scored, Except.bind, Except.map, weak, trusted] at ran
        | ok confidence =>
            simp only [scored, Except.bind, Except.map, weak, trusted, if_false, Except.ok.injEq, Analysis.emitted.injEq] at ran
            exact ⟨score, confidence, rfl, not_lt.mp weak, rfl, ran.symm⟩

theorem analyze_emits (strategy : QuantStrategy) (signalId : String) (ctx : AnalysisContext) (emitted : Emitted)
    (ran : strategy.analyze signalId ctx = .ok (.emitted emitted)) :
    ∃ assessment, Emits strategy signalId ctx emitted assessment := by
  rw [analyze] at ran
  cases blocked : precheck ctx (ctx.getCandles strategy.timeframe strategy.parameters.lookback) strategy.parameters.minCandles
      strategy.parameters.minDataQuality strategy.parameters.maxSpreadBps with
  | some reason => simp [blocked, note] at ran
  | none =>
      cases evaluated : strategy.evaluate ctx (ctx.getCandles strategy.timeframe strategy.parameters.lookback) with
      | error raised => simp [blocked, evaluated] at ran
      | ok result =>
          cases result with
          | none => simp [blocked, evaluated, note] at ran
          | some assessment =>
              by_cases sided : assessment.direction = .neutral
              · simp [blocked, evaluated, sided, note] at ran
              · simp only [blocked, evaluated, sided, if_false] at ran
                exact ⟨assessment, evaluated, sided, strategy.conclude_built signalId ctx emitted assessment ran⟩

-- When a signal of the strategy that fired now runs out.
def deadline (strategy : QuantStrategy) (ctx : AnalysisContext) : Moment :=
  ctx.firedAt + roundHalfEven (strategy.parameters.signalTtlSeconds * 1000000)

def Named (strategy : QuantStrategy) : Prop := strategy.name ≠ "" ∧ strategy.name ≠ "unnamed"

-- Whatever the strategy and its configured weights put into the score and the
-- confidence, the registry never refuses a signal for them.
theorem emitted_accepted_iff (strategy : QuantStrategy) (signalId : String) (ctx : AnalysisContext) (emitted : Emitted)
    (registry : SignalEngine) (now : Moment) (nonneg : ∀ entry ∈ strategy.parameters.scoreWeights.entries, 0 ≤ entry.2)
    (ran : strategy.analyze signalId ctx = .ok (.emitted emitted)) :
    (registry.submit emitted.signal now).1 = true ↔
      ctx.symbol ≠ "" ∧ strategy.Named ∧ emitted.signal.reasons ≠ [] ∧ now < strategy.deadline ctx ∧ Coherent emitted.signal := by
  obtain ⟨assessment, emits⟩ := analyze_emits strategy signalId ctx emitted ran
  obtain ⟨score, confidence, scored, -, trusted, rfl⟩ := emits.built
  have scoreRange := strategy.score_inside nonneg assessment score scored
  have confidenceRange := strategy.confidence_inside ctx _ confidence trusted
  rw [submit_iff, validate_nil_iff, level_checks_iff _ emits.sided]
  constructor
  · rintro ⟨symbol, named, -, -, explained, alive, coherent⟩
    exact ⟨symbol, named, explained, alive _ rfl, coherent⟩
  · rintro ⟨symbol, named, explained, alive, coherent⟩
    refine ⟨symbol, named, confidenceRange, scoreRange, explained, ?_, coherent⟩
    intro deadline same
    cases same
    exact alive

end QuantStrategy

-- The same of three levels that are all there.
structure Sound (direction : Direction) (levels : Levels) : Prop where
  ordered : levels.entry.low ≤ levels.entry.high
  stop : Beyond direction levels.stop (middle levels.entry)
  target : Beyond direction (middle levels.entry) levels.target
  ratio : |middle levels.entry - levels.stop| < 200 * |levels.target - middle levels.entry|

structure Proposes (assessment : Assessment) (levels : Levels) : Prop where
  reasons : assessment.reasons ≠ []
  entry : assessment.entry = some levels.entry
  stop : assessment.stopLoss = some levels.stop
  target : assessment.takeProfit = some levels.target

theorem beyond_apart (direction : Direction) (sided : direction ≠ .neutral) (a b : ℚ) (beyond : Beyond direction a b) :
    0 < |b - a| := by
  rw [abs_pos, sub_ne_zero]
  cases direction with
  | long => exact ne_of_gt beyond
  | short => exact ne_of_lt beyond
  | neutral => exact absurd rfl sided

-- The ratio is announced with two decimals, and a gain of less than a
-- two-hundredth of the risk is announced as none.
theorem ratio_pos_iff (risk gain : ℚ) (positive : 0 < risk) : 0 < roundTo 2 (gain / risk) ↔ risk < 200 * gain := by
  rw [Decimal.round_to_pos_iff, Decimal.scale, div_mul_eq_mul_div, div_lt_div_iff₀ two_pos positive]
  norm_num
  constructor
  · intro less
    linarith
  · intro less
    linarith

theorem proposed_coherent_iff (strategy : QuantStrategy) (signalId : String) (ctx : AnalysisContext) (assessment : Assessment)
    (score confidence : ℚ) (levels : Levels) (sided : assessment.direction ≠ .neutral) (proposes : Proposes assessment levels) :
    Coherent (strategy.signal signalId ctx assessment score confidence).signal ↔ Sound assessment.direction levels := by
  have announced : QuantStrategy.riskReward assessment = if |middle levels.entry - levels.stop| ≤ 0 then none
      else some (roundTo 2 (|levels.target - middle levels.entry| / |middle levels.entry - levels.stop|)) := by
    rw [QuantStrategy.riskReward, proposes.entry, proposes.stop, proposes.target]
  rw [coherent_gains_iff _ levels.entry levels.stop proposes.entry proposes.stop]
  constructor
  · rintro ⟨ordered, stop, gains⟩
    have risk := beyond_apart assessment.direction sided _ _ stop
    have ratio := gains.ratio _ (announced.trans (if_neg (not_le.mpr risk)))
    exact ⟨ordered, stop, gains.target _ _ proposes.entry proposes.target, (ratio_pos_iff _ _ risk).mp ratio⟩
  · intro sound
    have risk := beyond_apart assessment.direction sided _ _ sound.stop
    refine ⟨sound.ordered, sound.stop, ?_, ?_⟩
    · intro zone target zoned aimed
      cases zoned.symm.trans proposes.entry
      cases aimed.symm.trans proposes.target
      exact sound.target
    · intro ratio rated
      cases rated.symm.trans (announced.trans (if_neg (not_le.mpr risk)))
      exact (ratio_pos_iff _ _ risk).mpr sound.ratio

theorem middle_around (price atr widthAtr : ℚ) : middle (entryZoneAround price atr widthAtr) = price := by
  rw [middle, entryZoneAround]
  ring

theorem around_ordered (price atr widthAtr : ℚ) :
    (entryZoneAround price atr widthAtr).low ≤ (entryZoneAround price atr widthAtr).high := by
  have half : 0 ≤ max 0 (atr * widthAtr) := le_max_left 0 _
  rw [entryZoneAround]
  linarith

-- A target by a multiple of the risk lies where the stop does not.
theorem multiple_sound_iff (direction : Direction) (sided : direction ≠ .neutral) (entry : EntryZone) (stop riskReward : ℚ)
    (ordered : entry.low ≤ entry.high) :
    Sound direction ⟨entry, stop, targetFromRr (middle entry) stop riskReward⟩ ↔
      Beyond direction stop (middle entry) ∧ 1 / 200 < riskReward := by
  have gain : targetFromRr (middle entry) stop riskReward - middle entry = (middle entry - stop) * riskReward := by
    rw [targetFromRr]
    ring
  have scaled (beyond : Beyond direction stop (middle entry)) :
      |middle entry - stop| < 200 * |targetFromRr (middle entry) stop riskReward - middle entry| ↔ 1 < 200 * |riskReward| := by
    have risk := beyond_apart direction sided _ _ beyond
    rw [gain, abs_mul, mul_left_comm, lt_mul_iff_one_lt_right risk]
  have side (beyond : Beyond direction stop (middle entry)) :
      Beyond direction (middle entry) (targetFromRr (middle entry) stop riskReward) ↔ 0 < riskReward := by
    cases direction with
    | neutral => exact absurd rfl sided
    | long =>
        have risk : 0 < middle entry - stop := sub_pos.mpr beyond
        rw [Beyond, ← sub_pos, gain, mul_pos_iff_of_pos_left risk]
    | short =>
        have risk : middle entry - stop < 0 := sub_neg.mpr beyond
        rw [Beyond, ← sub_neg, gain, mul_neg_iff]
        constructor
        · intro cases_
          cases cases_ with
          | inl up => exact absurd up.1 (not_lt.mpr risk.le)
          | inr down => exact down.2
        · intro positive
          exact .inr ⟨risk, positive⟩
  constructor
  · intro sound
    have positive := (side sound.stop).mp sound.target
    have ratio := (scaled sound.stop).mp sound.ratio
    rw [abs_of_pos positive] at ratio
    exact ⟨sound.stop, by linarith⟩
  · rintro ⟨beyond, least⟩
    have positive : 0 < riskReward := lt_trans (by norm_num) least
    refine ⟨ordered, beyond, (side beyond).mpr positive, (scaled beyond).mpr ?_⟩
    rw [abs_of_pos positive]
    linarith

theorem atr_levels_sound_iff (direction : Direction) (sided : direction ≠ .neutral) (close atr stopAtr widthAtr riskReward : ℚ)
    (positive : 0 < atr) :
    Sound direction (atrLevels direction close atr stopAtr widthAtr riskReward) ↔ 0 < stopAtr ∧ 1 / 200 < riskReward := by
  rw [atrLevels, multiple_sound_iff direction sided _ _ _ (around_ordered close atr widthAtr), middle_around]
  apply and_congr_left'
  rw [protectiveStop, mul_zero, max_self]
  cases direction with
  | neutral => exact absurd rfl sided
  | long =>
      rw [if_pos rfl, if_pos rfl, Beyond, sub_zero, mul_one, sub_lt_self_iff, mul_pos_iff_of_pos_left positive]
  | short =>
      rw [if_neg (by decide), if_neg (by decide), Beyond, add_zero, mul_neg_one, sub_neg_eq_add, lt_add_iff_pos_right,
        mul_pos_iff_of_pos_left positive]

theorem proposed_accepted_iff (strategy : QuantStrategy) (signalId : String) (ctx : AnalysisContext) (emitted : Emitted)
    (registry : SignalEngine) (now : Moment) (nonneg : ∀ entry ∈ strategy.parameters.scoreWeights.entries, 0 ≤ entry.2)
    (named : strategy.Named) (ran : strategy.analyze signalId ctx = .ok (.emitted emitted)) (assessment : Assessment)
    (emits : strategy.Emits signalId ctx emitted assessment) (levels : Levels) (proposes : Proposes assessment levels) :
    (registry.submit emitted.signal now).1 = true ↔
      ctx.symbol ≠ "" ∧ now < strategy.deadline ctx ∧ Sound assessment.direction levels := by
  rw [strategy.emitted_accepted_iff signalId ctx emitted registry now nonneg ran]
  obtain ⟨score, confidence, -, -, -, rfl⟩ := emits.built
  rw [proposed_coherent_iff strategy signalId ctx assessment score confidence levels emits.sided proposes]
  have explained : (strategy.signal signalId ctx assessment score confidence).signal.reasons ≠ [] :=
    List.append_ne_nil_of_left_ne_nil proposes.reasons _
  constructor
  · rintro ⟨symbol, -, -, alive, sound⟩
    exact ⟨symbol, alive, sound⟩
  · rintro ⟨symbol, alive, sound⟩
    exact ⟨symbol, named, explained, alive, sound⟩

-- The strategies that put the stop some ATRs from the close.
inductive AtrStrategy where
  | atrExpansion (own : AtrExpansion)
  | cvd (own : Cvd)
  | deltaConfirmation (own : DeltaConfirmation)
  | orderBookImbalance (own : OrderBookImbalance)

namespace AtrStrategy

def stopAtr : AtrStrategy → ℚ
  | .atrExpansion own => own.stopAtr
  | .cvd own => own.stopAtr
  | .deltaConfirmation own => own.stopAtr
  | .orderBookImbalance own => own.stopAtr

def riskReward : AtrStrategy → ℚ
  | .atrExpansion own => own.riskReward
  | .cvd own => own.riskReward
  | .deltaConfirmation own => own.riskReward
  | .orderBookImbalance own => own.riskReward

def evaluate : AtrStrategy → Timeframe → Int → Evaluation
  | .atrExpansion own => own.evaluate
  | .cvd own => own.evaluate
  | .deltaConfirmation own => own.evaluate
  | .orderBookImbalance own => own.evaluate

def name : AtrStrategy → String
  | .atrExpansion _ => "atr_expansion"
  | .cvd _ => "cvd"
  | .deltaConfirmation _ => "delta_confirmation"
  | .orderBookImbalance _ => "orderbook_imbalance"

def preferredRegimes : AtrStrategy → List String
  | .atrExpansion _ => ["expansion", "breakout", "trending"]
  | .cvd _ => ["ranging", "compression"]
  | .deltaConfirmation _ => ["trending", "breakout", "expansion"]
  | .orderBookImbalance _ => []

def strategy (member : AtrStrategy) (timeframe : Timeframe) (parameters : Parameters) : QuantStrategy where
  name := member.name
  preferredRegimes := member.preferredRegimes
  timeframe := timeframe
  parameters := parameters
  evaluate := member.evaluate timeframe parameters.atrPeriod

end AtrStrategy

-- An assessment whose levels come from the ATR alone.
structure ByAtr (stopAtr riskReward : ℚ) (assessment : Assessment) where
  close : ℚ
  atr : ℚ
  widthAtr : ℚ
  positive : 0 < atr
  proposes : Proposes assessment (atrLevels assessment.direction close atr stopAtr widthAtr riskReward)

theorem atr_positive (timeframe : Timeframe) (period : Int) (ctx : AnalysisContext) (atr : ℚ)
    (found : atrOrNone timeframe period ctx = some atr) : 0 < atr := by
  rw [atrOrNone, Option.filter_eq_some_iff] at found
  exact of_decide_eq_true found.2

theorem proposes_levels (levels : Levels) (assessment : Assessment) (reasons : assessment.reasons ≠ []) :
    Proposes (assessment.withLevels levels) levels :=
  ⟨reasons, rfl, rfl, rfl⟩

theorem expansion_by_atr (own : AtrExpansion) (timeframe : Timeframe) (period : Int) (ctx : AnalysisContext)
    (candles : List MarketCandle) (assessment : Assessment) (found : own.evaluate timeframe period ctx candles = .ok (some assessment)) :
    Nonempty (ByAtr own.stopAtr own.riskReward assessment) := by
  rw [AtrExpansion.evaluate] at found
  cases widened : ctx.features.get "atr_expansion" (some timeframe) none with
  | none => simp [widened] at found
  | some expansion =>
      cases measured : atrOrNone timeframe period ctx with
      | none => simp [widened, measured] at found
      | some atr =>
          simp only [widened, measured] at found
          split at found
          · cases found
          · obtain ⟨last, -, assessed⟩ := read_last candles _ assessment found
            split at assessed
            · cases assessed
            · cases assessed
              exact ⟨last.close, atr, 3 / 20, atr_positive timeframe period ctx atr measured,
                proposes_levels _ _ (List.cons_ne_nil _ _)⟩

theorem cvd_by_atr (own : Cvd) (timeframe : Timeframe) (period : Int) (ctx : AnalysisContext) (candles : List MarketCandle)
    (assessment : Assessment) (found : own.evaluate timeframe period ctx candles = .ok (some assessment)) :
    Nonempty (ByAtr own.stopAtr own.riskReward assessment) := by
  rw [Cvd.evaluate] at found
  cases flowing : ctx.features.orderflow with
  | none => simp [flowing] at found
  | some flow =>
      cases measured : atrOrNone timeframe period ctx with
      | none => simp [flowing, measured] at found
      | some atr =>
          simp only [flowing, measured] at found
          split at found
          · cases found
          · split at found
            · cases found
            · obtain ⟨last, -, assessed⟩ := read_last candles _ assessment found
              cases assessed
              exact ⟨last.close, atr, 3 / 20, atr_positive timeframe period ctx atr measured,
                proposes_levels _ _ (List.cons_ne_nil _ _)⟩

theorem delta_by_atr (own : DeltaConfirmation) (timeframe : Timeframe) (period : Int) (ctx : AnalysisContext)
    (candles : List MarketCandle) (assessment : Assessment) (found : own.evaluate timeframe period ctx candles = .ok (some assessment)) :
    Nonempty (ByAtr own.stopAtr own.riskReward assessment) := by
  rw [DeltaConfirmation.evaluate] at found
  cases flowing : ctx.features.orderflow with
  | none => simp [flowing] at found
  | some flow =>
      cases measured : atrOrNone timeframe period ctx with
      | none => simp [flowing, measured] at found
      | some atr =>
          simp only [flowing, measured] at found
          obtain ⟨last, -, assessed⟩ := read_last candles _ assessment found
          obtain ⟨direction, -, rfl⟩ := Option.map_eq_some_iff.mp assessed
          exact ⟨last.close, atr, 3 / 20, atr_positive timeframe period ctx atr measured,
            proposes_levels _ _ (List.cons_ne_nil _ _)⟩

theorem imbalance_by_atr (own : OrderBookImbalance) (timeframe : Timeframe) (period : Int) (ctx : AnalysisContext)
    (candles : List MarketCandle) (assessment : Assessment) (found : own.evaluate timeframe period ctx candles = .ok (some assessment)) :
    Nonempty (ByAtr own.stopAtr own.riskReward assessment) := by
  rw [OrderBookImbalance.evaluate] at found
  cases leaning : ctx.features.get "imbalance" none none with
  | none => simp [leaning] at found
  | some imbalance =>
      cases pressed : ctx.features.get "book_pressure" none none with
      | none => simp [leaning, pressed] at found
      | some pressure =>
          cases measured : atrOrNone timeframe period ctx with
          | none => simp [leaning, pressed, measured] at found
          | some atr =>
              simp only [leaning, pressed, measured] at found
              split at found
              · cases found
              · obtain ⟨last, -, assessed⟩ := read_last candles _ assessment found
                cases assessed
                exact ⟨last.close, atr, 1 / 10, atr_positive timeframe period ctx atr measured,
                  proposes_levels _ _ (List.cons_ne_nil _ _)⟩

theorem member_by_atr (member : AtrStrategy) (timeframe : Timeframe) (period : Int) (ctx : AnalysisContext)
    (candles : List MarketCandle) (assessment : Assessment)
    (found : member.evaluate timeframe period ctx candles = .ok (some assessment)) :
    Nonempty (ByAtr member.stopAtr member.riskReward assessment) := by
  cases member with
  | atrExpansion own => exact expansion_by_atr own timeframe period ctx candles assessment found
  | cvd own => exact cvd_by_atr own timeframe period ctx candles assessment found
  | deltaConfirmation own => exact delta_by_atr own timeframe period ctx candles assessment found
  | orderBookImbalance own => exact imbalance_by_atr own timeframe period ctx candles assessment found

theorem member_named (member : AtrStrategy) : member.name ≠ "" ∧ member.name ≠ "unnamed" := by
  cases member <;> simp [AtrStrategy.name]

-- Whether the registry takes the signals of such a strategy is settled by its
-- configuration, whatever the market does.
theorem atr_strategies_accepted (member : AtrStrategy) (timeframe : Timeframe) (parameters : Parameters) (signalId : String)
    (ctx : AnalysisContext) (emitted : Emitted) (registry : SignalEngine) (now : Moment)
    (nonneg : ∀ entry ∈ parameters.scoreWeights.entries, 0 ≤ entry.2)
    (ran : (member.strategy timeframe parameters).analyze signalId ctx = .ok (.emitted emitted)) :
    (registry.submit emitted.signal now).1 = true ↔
      ctx.symbol ≠ "" ∧ now < (member.strategy timeframe parameters).deadline ctx ∧
        0 < member.stopAtr ∧ 1 / 200 < member.riskReward := by
  obtain ⟨assessment, emits⟩ := (member.strategy timeframe parameters).analyze_emits signalId ctx emitted ran
  obtain ⟨byAtr⟩ := member_by_atr member timeframe parameters.atrPeriod ctx _ assessment emits.found
  rw [proposed_accepted_iff (member.strategy timeframe parameters) signalId ctx emitted registry now nonneg (member_named member) ran assessment emits _ byAtr.proposes,
    atr_levels_sound_iff _ emits.sided _ _ _ _ _ byAtr.positive]

def bar (number : Int) (open_ high low close : ℚ) : MarketCandle :=
  ⟨"BTCUSDT", "binance", .m1, number * 60000000, (number + 1) * 60000000, open_, high, low, close, 1, 0, 0, 0, 1, true,
    "provider", []⟩

-- A book that leans to the buyers.
def leaning : AnalysisContext where
  symbol := "BTCUSDT"
  firedAt := 0
  trigger := "candle:1m"
  getCandles := fun _ _ => [bar 0 100 101 99 100]
  features := ⟨fun name _ _ => if name = "atr" then some 2 else some (3 / 10), fun _ => none, none, none⟩
  context := { symbol := "BTCUSDT" }

def oneCandle : Parameters := { minCandles := 1, confirmations := ["delta"] }

def leaningSignal : Emitted where
  signal := {
    signalId := "s-1"
    strategyName := "orderbook_imbalance"
    symbol := "BTCUSDT"
    timestamp := 0
    direction := .long
    confidence := 17 / 20
    score := 1211 / 20
    entryZone := some ⟨499 / 5, 501 / 5⟩
    stopLoss := some (494 / 5)
    takeProfit := some (509 / 5)
    riskReward := some (3 / 2)
    reasons := ["Imbalance del libro +0.30 (compradora).", "Presión ponderada coincidente (+0.30).",
      "Confirmado mediante delta: delta positivo (+0.30)."]
    expiration := some 300000000 }
  warnings := ["Señal de corto plazo: el libro cambia rápido."]

theorem atr_strategies_accepted_book : (({} : SignalEngine).submit leaningSignal.signal 0).1 = true := by
  have ran : ((AtrStrategy.orderBookImbalance {}).strategy .m1 oneCandle).analyze "s-1" leaning = .ok (.emitted leaningSignal) := by
    decide +kernel
  apply (atr_strategies_accepted (.orderBookImbalance {}) .m1 oneCandle "s-1" leaning leaningSignal {} 0 (by decide +kernel) ran).mpr
  exact ⟨by decide, by decide +kernel, by decide +kernel, by decide +kernel⟩

-- A stop beyond a reference that the entry has not passed lies behind the entry.
theorem stop_behind (direction : Direction) (reference atr bufferAtr entry : ℚ) (pad : 0 < atr * bufferAtr)
    (long : direction = .long → reference ≤ entry) (short : direction = .short → entry ≤ reference) :
    Beyond direction (protectiveStop direction reference atr bufferAtr) entry := by
  rw [protectiveStop, max_eq_right pad.le]
  cases direction with
  | neutral => trivial
  | long =>
      have near := long rfl
      rw [if_pos rfl, Beyond]
      linarith
  | short =>
      have near := short rfl
      rw [if_neg (by decide), Beyond]
      linarith

-- An assessment that can only fail by its target.
structure Guarded (assessment : Assessment) (levels : Levels) : Prop extends Proposes assessment levels where
  ordered : levels.entry.low ≤ levels.entry.high
  behind : Beyond assessment.direction levels.stop (middle levels.entry)

-- Prices inside the range of their candle.
def Closing (candle : MarketCandle) : Prop := candle.low ≤ candle.close ∧ candle.close ≤ candle.high

theorem smc_found (timeframe : Timeframe) (ctx : AnalysisContext) (smc : SMCAnalysis) (found : smcOf timeframe ctx = some smc) :
    ctx.features.smc timeframe = some smc := by
  rw [smcOf, Option.filter_eq_some_iff] at found
  exact found.1

theorem bos_proposes (own : BreakOfStructure) (timeframe : Timeframe) (ctx : AnalysisContext) (candles : List MarketCandle)
    (assessment : Assessment) (found : own.evaluate timeframe ctx candles = .ok (some assessment)) :
    ∃ smc event close, ctx.features.smc timeframe = some smc ∧ |close - event.level| ≤ own.retestAtr * smc.atr ∧
      assessment.direction = sideOfBreak event.direction ∧ Proposes assessment (own.levels event close smc.atr) := by
  rw [BreakOfStructure.evaluate] at found
  cases read : smcOf timeframe ctx with
  | none => simp [read] at found
  | some smc =>
      cases broken : recentBreak (fun event => decide (event.kind = .bos)) own.recentBars smc candles with
      | none => simp [read, broken] at found
      | some event =>
          simp only [read, broken] at found
          obtain ⟨last, -, assessed⟩ := read_last candles _ assessment found
          split at assessed
          · cases assessed
          · rename_i near
            cases assessed
            exact ⟨smc, event, last.close, smc_found timeframe ctx smc read, not_lt.mp near, rfl,
              proposes_levels _ _ (List.cons_ne_nil _ _)⟩

theorem bos_guarded (own : BreakOfStructure) (timeframe : Timeframe) (ctx : AnalysisContext) (candles : List MarketCandle)
    (assessment : Assessment) (found : own.evaluate timeframe ctx candles = .ok (some assessment))
    (grounded : ∀ smc, ctx.features.smc timeframe = some smc → Grounded smc) (buffered : own.retestAtr < own.stopBufferAtr) :
    ∃ levels, Guarded assessment levels := by
  obtain ⟨smc, event, close, featured, near, side, proposes⟩ := bos_proposes own timeframe ctx candles assessment found
  have positive := (grounded smc featured).positive
  have wider : own.retestAtr * smc.atr < smc.atr * own.stopBufferAtr := by
    rw [mul_comm]
    exact mul_lt_mul_of_pos_left buffered positive
  have pad : 0 ≤ smc.atr * own.stopBufferAtr := ((abs_nonneg _).trans near).trans wider.le
  obtain ⟨low, high⟩ := abs_le.mp near
  refine ⟨_, proposes, around_ordered _ _ _, ?_⟩
  rw [BreakOfStructure.levels, middle_around, protectiveStop, max_eq_right pad, side]
  cases event.direction with
  | up =>
      rw [sideOfBreak, if_pos rfl, Beyond]
      linarith
  | down =>
      rw [sideOfBreak, if_neg (by decide), Beyond]
      linarith

-- With the defaults the band of the retest reaches to the stop.
example : ¬ Beyond .long (BreakOfStructure.levels {} ⟨0, .bos, .up, 100, 1, false⟩ 97 4).stop 97 := by
  norm_num [BreakOfStructure.levels, protectiveStop, sideOfBreak, Beyond]

theorem origin_window (direction : Direction) (window : List MarketCandle) (origin : ℚ) (found : originOf direction window = .ok origin) :
    window ≠ [] := by
  rintro rfl
  rw [originOf] at found
  split at found <;> cases found

theorem reversal_guarded (own : Reversal) (sort : StructureBreak → Bool) (target : Direction → PremiumDiscount → ℚ)
    (assess : AnalysisContext → StructureBreak → Assessment) (timeframe : Timeframe) (ctx : AnalysisContext)
    (candles : List MarketCandle) (assessment : Assessment)
    (sides : ∀ event, (assess ctx event).direction = sideOfBreak event.direction ∧ (assess ctx event).reasons ≠ [])
    (found : own.evaluate sort target assess timeframe ctx candles = .ok (some assessment))
    (grounded : ∀ smc, ctx.features.smc timeframe = some smc → Grounded smc) (closing : ∀ candle ∈ candles, Closing candle)
    (buffered : 0 < own.stopBufferAtr) : ∃ levels, Guarded assessment levels := by
  rw [Reversal.evaluate] at found
  cases read : smcOf timeframe ctx with
  | none => simp [read] at found
  | some smc =>
      cases broken : recentBreak sort own.recentBars smc candles with
      | none => simp [read, broken] at found
      | some event =>
          cases last : lastCandle candles with
          | error raised => simp [read, broken, last, Except.bind] at found
          | ok candle =>
              cases begun : originOf (sideOfBreak event.direction) (Slices.last own.originWindow candles) with
              | error raised => simp [read, broken, last, begun, Except.bind, Except.map] at found
              | ok origin =>
                  simp only [read, broken, last, begun, Except.bind, Except.map] at found
                  cases found
                  have positive := (grounded smc (smc_found timeframe ctx smc read)).positive
                  have member := last_in_window own.originWindow candles candle last (origin_window _ _ _ begun)
                  obtain ⟨low, high⟩ := closing candle ((Slices.last_sublist _ _).subset member)
                  refine ⟨_, proposes_levels _ _ (sides event).2, around_ordered _ _ _, ?_⟩
                  rw [Reversal.levels, middle_around, Assessment.withLevels, (sides event).1]
                  apply stop_behind
                  · exact mul_pos positive buffered
                  · intro long
                    rw [originOf, if_pos long] at begun
                    exact (lowest_le _ origin begun candle.low (List.mem_map_of_mem member)).trans low
                  · intro short
                    rw [originOf, if_neg (by rw [short]; decide)] at begun
                    exact high.trans (le_highest _ origin begun candle.high (List.mem_map_of_mem member))

theorem zone_guarded (rules : ZoneRules) (direction : Bias) (top bottom : ℚ) (smc : SMCAnalysis) (assessment : Assessment)
    (sides : assessment.direction = sideOfBias direction) (reasons : assessment.reasons ≠ []) (positive : 0 < smc.atr)
    (buffered : 0 < rules.stopBufferAtr) (ordered : bottom ≤ top) :
    Guarded (assessment.withLevels (rules.levels direction top bottom smc)) (rules.levels direction top bottom smc) := by
  have pad : 0 < smc.atr * rules.stopBufferAtr := mul_pos positive buffered
  refine ⟨proposes_levels _ _ reasons, ?_, ?_⟩
  · cases direction with
    | bullish => exact ordered
    | bearish => exact ordered
  · rw [Assessment.withLevels, sides]
    cases direction with
    | bullish =>
        apply stop_behind .long bottom smc.atr rules.stopBufferAtr _ pad
        · intro long
          change bottom ≤ (bottom + top) / 2
          linarith
        · intro short
          cases short
    | bearish =>
        apply stop_behind .short top smc.atr rules.stopBufferAtr _ pad
        · intro long
          cases long
        · intro short
          change (bottom + top) / 2 ≤ top
          linarith

theorem wanted_featured (timeframe : Timeframe) (ctx : AnalysisContext) (smc : SMCAnalysis) (last : Bias × StructureBreak)
    (read : (ctx.features.smc timeframe).bind (fun smc => (wanted smc).map (smc, ·)) = some (smc, last)) :
    ctx.features.smc timeframe = some smc := by
  obtain ⟨analysis, featured, paired⟩ := Option.bind_eq_some_iff.mp read
  obtain ⟨pair, -, same⟩ := Option.map_eq_some_iff.mp paired
  cases same
  exact featured

theorem gap_guarded (own : FairValueGapStrategy) (timeframe : Timeframe) (ctx : AnalysisContext) (candles : List MarketCandle)
    (assessment : Assessment) (found : own.evaluate timeframe ctx candles = .ok (some assessment))
    (grounded : ∀ smc, ctx.features.smc timeframe = some smc → Grounded smc) (buffered : 0 < own.stopBufferAtr) :
    ∃ levels, Guarded assessment levels := by
  rw [FairValueGapStrategy.evaluate] at found
  split at found
  · cases found
  · rename_i smc bias event read
    have featured := wanted_featured timeframe ctx smc _ read
    split at found
    · cases found
    · rename_i gap chosen
      obtain ⟨last, -, assessed⟩ := read_last candles _ assessment found
      split at assessed
      · cases assessed
      · cases assessed
        have sound := grounded smc featured
        have listed := (List.mem_filter.mp (List.mem_of_getLast? chosen)).1
        exact ⟨_, zone_guarded own.toZoneRules gap.direction gap.top gap.bottom smc _ rfl (List.cons_ne_nil _ _) sound.positive
          buffered (sound.gaps gap listed).le⟩

theorem block_guarded (own : OrderBlock) (timeframe : Timeframe) (ctx : AnalysisContext) (candles : List MarketCandle)
    (assessment : Assessment) (found : own.evaluate timeframe ctx candles = .ok (some assessment))
    (grounded : ∀ smc, ctx.features.smc timeframe = some smc → Grounded smc) (buffered : 0 < own.stopBufferAtr) :
    ∃ levels, Guarded assessment levels := by
  rw [OrderBlock.evaluate] at found
  split at found
  · cases found
  · rename_i smc bias event read
    have featured := wanted_featured timeframe ctx smc _ read
    split at found
    · cases found
    · rename_i block chosen
      obtain ⟨last, -, assessed⟩ := read_last candles _ assessment found
      split at assessed
      · cases assessed
      · cases assessed
        have sound := grounded smc featured
        have listed := (List.mem_filter.mp (List.mem_of_getLast? chosen)).1
        exact ⟨_, zone_guarded own.toZoneRules block.direction block.top block.bottom smc _ rfl (List.cons_ne_nil _ _)
          sound.positive buffered (sound.blocks block listed)⟩

-- The strategies on the Smart Money analysis.
inductive SmcStrategy where
  | bos (own : BreakOfStructure)
  | choch (own : Reversal)
  | mss (own : Reversal)
  | fairValueGap (own : FairValueGapStrategy)
  | orderBlock (own : OrderBlock)

namespace SmcStrategy

def evaluate : SmcStrategy → Timeframe → Evaluation
  | .bos own => own.evaluate
  | .choch own => ChangeOfCharacter.evaluate own
  | .mss own => MarketStructureShift.evaluate own
  | .fairValueGap own => own.evaluate
  | .orderBlock own => own.evaluate

def name : SmcStrategy → String
  | .bos _ => "bos"
  | .choch _ => "choch"
  | .mss _ => "mss"
  | .fairValueGap _ => "fair_value_gap"
  | .orderBlock _ => "order_block"

def preferredRegimes : SmcStrategy → List String
  | .bos _ => ["trending", "breakout"]
  | .choch _ => ["reversal", "ranging"]
  | .mss _ => ["reversal", "expansion"]
  | .fairValueGap _ => ["trending", "breakout"]
  | .orderBlock _ => ["trending", "breakout"]

def strategy (member : SmcStrategy) (timeframe : Timeframe) (parameters : Parameters) : QuantStrategy where
  name := member.name
  preferredRegimes := member.preferredRegimes
  timeframe := timeframe
  parameters := parameters
  evaluate := member.evaluate timeframe

-- A buffer that keeps the stop off the entry: BOS enters anywhere in the band of
-- the retest, the others on the near side of what the stop protects.
def Buffered : SmcStrategy → Prop
  | .bos own => own.retestAtr < own.stopBufferAtr
  | .choch own => 0 < own.stopBufferAtr
  | .mss own => 0 < own.stopBufferAtr
  | .fairValueGap own => 0 < own.stopBufferAtr
  | .orderBlock own => 0 < own.stopBufferAtr

end SmcStrategy

theorem member_guarded (member : SmcStrategy) (timeframe : Timeframe) (ctx : AnalysisContext) (candles : List MarketCandle)
    (assessment : Assessment) (found : member.evaluate timeframe ctx candles = .ok (some assessment))
    (grounded : ∀ smc, ctx.features.smc timeframe = some smc → Grounded smc) (closing : ∀ candle ∈ candles, Closing candle)
    (buffered : member.Buffered) : ∃ levels, Guarded assessment levels := by
  cases member with
  | bos own => exact bos_guarded own timeframe ctx candles assessment found grounded buffered
  | choch own =>
      rw [SmcStrategy.evaluate, ChangeOfCharacter.evaluate] at found
      exact reversal_guarded own _ _ ChangeOfCharacter.assess timeframe ctx candles assessment
        (fun _ => ⟨rfl, List.cons_ne_nil _ _⟩) found grounded closing buffered
  | mss own =>
      rw [SmcStrategy.evaluate, MarketStructureShift.evaluate] at found
      exact reversal_guarded own _ _ MarketStructureShift.assess timeframe ctx candles assessment
        (fun _ => ⟨rfl, List.cons_ne_nil _ _⟩) found grounded closing buffered
  | fairValueGap own => exact gap_guarded own timeframe ctx candles assessment found grounded buffered
  | orderBlock own => exact block_guarded own timeframe ctx candles assessment found grounded buffered

theorem smc_named (member : SmcStrategy) : member.name ≠ "" ∧ member.name ≠ "unnamed" := by
  cases member <;> simp [SmcStrategy.name]

-- The stop of these strategies is never on the wrong side of the entry, but the
-- market may put their target there, and then the registry refuses the signal.
theorem smc_strategies_accepted (member : SmcStrategy) (timeframe : Timeframe) (parameters : Parameters) (signalId : String)
    (ctx : AnalysisContext) (emitted : Emitted) (registry : SignalEngine) (now : Moment)
    (nonneg : ∀ entry ∈ parameters.scoreWeights.entries, 0 ≤ entry.2) (buffered : member.Buffered)
    (analyzed : ∀ smc, ctx.features.smc timeframe = some smc →
      ∃ settings candles, analyzeSmc settings candles = .ok (some smc))
    (closing : ∀ candle ∈ ctx.getCandles timeframe parameters.lookback, Closing candle)
    (ran : (member.strategy timeframe parameters).analyze signalId ctx = .ok (.emitted emitted)) :
    (∃ zone stop, emitted.signal.entryZone = some zone ∧ emitted.signal.stopLoss = some stop ∧
        Beyond emitted.signal.direction stop (middle zone)) ∧
      ((registry.submit emitted.signal now).1 = true ↔
        ctx.symbol ≠ "" ∧ now < (member.strategy timeframe parameters).deadline ctx ∧ Gains emitted.signal) := by
  obtain ⟨assessment, emits⟩ := (member.strategy timeframe parameters).analyze_emits signalId ctx emitted ran
  have grounded (smc : SMCAnalysis) (read : ctx.features.smc timeframe = some smc) : Grounded smc := by
    obtain ⟨settings, candles, result⟩ := analyzed smc read
    exact analyze_grounded settings candles smc result
  obtain ⟨levels, guarded⟩ := member_guarded member timeframe ctx _ assessment emits.found grounded closing buffered
  rw [(member.strategy timeframe parameters).emitted_accepted_iff signalId ctx emitted registry now nonneg ran]
  obtain ⟨score, confidence, -, -, -, rfl⟩ := emits.built
  rw [coherent_gains_iff _ levels.entry levels.stop guarded.entry guarded.stop]
  refine ⟨⟨levels.entry, levels.stop, guarded.entry, guarded.stop, guarded.behind⟩, ?_⟩
  constructor
  · rintro ⟨symbol, -, -, alive, -, -, gains⟩
    exact ⟨symbol, alive, gains⟩
  · rintro ⟨symbol, alive, gains⟩
    exact ⟨symbol, smc_named member, List.append_ne_nil_of_left_ne_nil guarded.reasons _, alive, guarded.ordered, guarded.behind, gains⟩

-- A bearish candle after the breakout, and the candle that leaves it behind: the
-- block lies above the only swing high.
def rising : List MarketCandle :=
  [bar 0 8 9 7 8, bar 1 8 10 8 9, bar 2 9 (19 / 2) (17 / 2) 9, bar 3 9 (61 / 5) 9 12, bar 4 13 (66 / 5) (62 / 5) (25 / 2),
    bar 5 (25 / 2) 17 (25 / 2) 17]

def closeSwings : SmcParameters := { swingLeft := 1, swingRight := 1, atrPeriod := 2 }

def breakaway : AnalysisContext where
  symbol := "BTCUSDT"
  firedAt := 0
  trigger := "candle:1m"
  getCandles := fun _ _ => rising
  features := ⟨fun _ _ _ => none, fun _ => (analyzeSmc closeSwings rising).toOption.join, none, none⟩
  context := { symbol := "BTCUSDT" }

def breakawaySignal : Emitted where
  signal := {
    signalId := "s-1"
    strategyName := "order_block"
    symbol := "BTCUSDT"
    timestamp := 0
    direction := .long
    confidence := 11 / 20
    score := 3201 / 50
    entryZone := some ⟨25 / 2, 13⟩
    stopLoss := some (443 / 40)
    takeProfit := some 10
    riskReward := some (41 / 25)
    reasons := ["Order block bullish en [12.5000, 13.0000] (fresco).", "Alineado con la última ruptura estructural (BOS up).",
      "Precio interactuando con la zona."]
    requiredConfirmation := true
    expiration := some 300000000 }
  warnings := ["Falta confirmación de delta: sin trades recientes."]

theorem breakaway_emits :
    ((SmcStrategy.orderBlock {}).strategy .m1 oneCandle).analyze "s-1" breakaway = .ok (.emitted breakawaySignal) := by
  decide +kernel

theorem breakaway_analyzed (smc : SMCAnalysis) (read : breakaway.features.smc .m1 = some smc) :
    analyzeSmc closeSwings rising = .ok (some smc) := by
  change (analyzeSmc closeSwings rising).toOption.join = some smc at read
  cases result : analyzeSmc closeSwings rising with
  | error raised => simp [result, Except.toOption] at read
  | ok found => simpa [result, Except.toOption] using read

theorem rising_closing : ∀ candle ∈ rising, Closing candle := by
  simp only [rising, Closing, bar, List.forall_mem_cons]
  norm_num

theorem smc_strategies_accepted_breakaway : (({} : SignalEngine).submit breakawaySignal.signal 0).1 = false := by
  have settled := (smc_strategies_accepted (.orderBlock {}) .m1 oneCandle "s-1" breakaway breakawaySignal {} 0 (by decide +kernel)
    (by simp [SmcStrategy.Buffered]) (fun smc read => ⟨closeSwings, rising, breakaway_analyzed smc read⟩) rising_closing
    breakaway_emits).2
  rw [← Bool.not_eq_true, settled]
  rintro ⟨-, -, gains⟩
  have target : (51 / 4 : ℚ) < 10 := by
    have beyond := gains.target ⟨25 / 2, 13⟩ 10 rfl rfl
    change ((25 / 2 : ℚ) + 13) / 2 < 10 at beyond
    linarith
  norm_num at target

-- A candle that interacts with a block mitigates it, if it comes late enough.
theorem interacting_mitigates (index : Nat) (direction : Bias) (zone : ℚ × ℚ) (after : List MarketCandle) (last : MarketCandle)
    (closing : Closing last) (member : last ∈ after)
    (touched : OrderBlock.interacting (Analytics.blockAt index direction zone after) last = true) :
    (Analytics.blockAt index direction zone after).mitigated = true := by
  apply List.any_eq_true.mpr
  refine ⟨last, member, decide_eq_true ?_⟩
  cases direction with
  | bullish =>
      have inside := of_decide_eq_true touched
      exact ⟨inside.1, inside.2.trans closing.2⟩
  | bearish =>
      have inside := of_decide_eq_true touched
      exact ⟨closing.1.trans inside.2, inside.1⟩

theorem last_of_split (before : List MarketCandle) (candle nxt : MarketCandle) (rest : List MarketCandle) (last : MarketCandle)
    (found : lastCandle (before ++ candle :: nxt :: rest) = .ok last) (more : rest ≠ []) : last ∈ rest := by
  have ends : (before ++ candle :: nxt :: rest).getLast? = rest.getLast? := by
    rw [List.getLast?_append_of_ne_nil before (List.cons_ne_nil candle (nxt :: rest))]
    cases rest with
    | nil => exact absurd rfl more
    | cons third others => rfl
  rw [lastCandle, ends] at found
  cases final : rest.getLast? with
  | none => simp [final] at found
  | some item =>
      rw [final] at found
      cases found
      exact List.mem_of_getLast? final

-- The strategy waits for the price to come back to a block that nothing has
-- touched, but on the candles of the analysis the candle that comes back counts
-- as the touch: without mitigated blocks it can only fire on the very candle
-- whose displacement makes the block.
theorem fresh_block_fires_at_once (own : OrderBlock) (timeframe : Timeframe) (settings : SmcParameters) (ctx : AnalysisContext)
    (candles : List MarketCandle) (assessment : Assessment) (fresh : own.allowMitigated = false)
    (closing : ∀ candle ∈ candles, Closing candle)
    (analyzed : ∀ smc, ctx.features.smc timeframe = some smc → analyzeSmc settings candles = .ok (some smc))
    (found : own.evaluate timeframe ctx candles = .ok (some assessment)) :
    ∃ before block last atr direction, candles = before ++ [block, last] ∧
      Analytics.atr candles settings.atrPeriod = some atr ∧
      Analytics.blockDirection (settings.obDisplacementAtr * atr) block last = some direction ∧
      assessment.direction = sideOfBias direction ∧
      assessment.entry = some ⟨min block.open_ block.close, max block.open_ block.close⟩ := by
  rw [OrderBlock.evaluate] at found
  split at found
  · cases found
  · rename_i smc bias event read
    have featured := wanted_featured timeframe ctx smc _ read
    split at found
    · cases found
    · rename_i block chosen
      obtain ⟨listed, kept⟩ := List.mem_filter.mp (List.mem_of_getLast? chosen)
      have untouched : block.mitigated = false := by
        rw [fresh, Bool.false_or, Bool.and_eq_true, Bool.not_eq_true'] at kept
        exact kept.2
      obtain ⟨last, final, assessed⟩ := read_last candles _ assessment found
      split at assessed
      · cases assessed
      · rename_i touched
        rw [Bool.not_eq_true, Bool.not_eq_false'] at touched
        cases assessed
        obtain ⟨atr, measured, members⟩ := analyzed_blocks settings candles smc (analyzed smc featured)
        obtain ⟨before, first, second, rest, direction, split, turned, built⟩ := blocks_place _ _ _ _ block (members block listed)
        have none_ : rest = [] := by
          by_contra more
          have member := last_of_split before first second rest last (split ▸ final) more
          have inside : last ∈ candles := by
            rw [split]
            exact List.mem_append_right before (List.mem_cons_of_mem _ (List.mem_cons_of_mem _ member))
          have mitigated := interacting_mitigates _ direction _ rest last (closing last inside) member (built ▸ touched)
          rw [← built, untouched] at mitigated
          cases mitigated
        subst none_
        refine ⟨before, first, second, atr, direction, split, measured, turned, ?_, ?_⟩
        · rw [built]
          rfl
        · rw [built]
          cases direction with
          | bullish => rfl
          | bearish => rfl

theorem fresh_block_fires_at_once_breakaway : ∃ assessment : Assessment,
    OrderBlock.evaluate {} .m1 breakaway rising = .ok (some assessment) ∧
      ∃ before block last, rising = before ++ [block, last] ∧
        assessment.entry = some ⟨min block.open_ block.close, max block.open_ block.close⟩ := by
  obtain ⟨assessment, emits⟩ := QuantStrategy.analyze_emits _ "s-1" breakaway breakawaySignal breakaway_emits
  obtain ⟨before, block, last, -, -, split, -, -, -, entry⟩ := fresh_block_fires_at_once {} .m1 closeSwings breakaway rising
    assessment rfl rising_closing breakaway_analyzed emits.found
  exact ⟨assessment, emits.found, before, block, last, split, entry⟩

end QuantEngine.Strategies
