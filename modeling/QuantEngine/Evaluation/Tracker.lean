import QuantEngine.Library.Decimal
import QuantEngine.Library.Deque
import QuantEngine.Library.Run
import QuantEngine.Market.Candles
import QuantEngine.Signals.SignalEngine

set_option autoImplicit false

namespace QuantEngine.Evaluation

open QuantEngine.Calendar QuantEngine.Timeframes QuantEngine.Candles

-- TICK, which no candle has, is not among the timeframes.
structure QuantEvaluationSettings where
  enabled : Bool := true
  timeframe : Frame := ⟨.m1, by decide⟩
  maxHoldingMinutes : ℚ := 240
  falseSignalBars : Int := 3
  rHistoryLimit : Nat := 500

structure VirtualTrade where
  signalId : String
  strategy : String
  symbol : String
  direction : Direction
  entry : ℚ
  stop : ℚ
  target : Option ℚ
  risk : ℚ
  openedAt : Moment
  deadline : Moment
  deriving DecidableEq

inductive Result where
  | win
  | loss
  | timeout
  deriving DecidableEq

-- What a signal came to.
structure Outcome where
  result : Result
  rValue : ℚ
  falseSignal : Bool
  deriving DecidableEq

structure StrategyPerformance where
  strategy : String
  signals : Nat := 0
  tracked : Nat := 0
  evaluated : Nat := 0
  wins : Nat := 0
  losses : Nat := 0
  timeouts : Nat := 0
  falseSignals : Nat := 0
  grossWinR : ℚ := 0
  grossLossR : ℚ := 0
  holdingSecondsTotal : ℚ := 0
  lastResultR : Option ℚ := none
  rValues : List ℚ := []

-- `recorded` is a ghost: every outcome so far, under its signal.
structure PerformanceTracker where
  settings : QuantEvaluationSettings
  opened : Dict String VirtualTrade
  stats : Dict String StrategyPerformance
  seen : List String
  seenSet : List String
  recorded : List (String × Outcome)

namespace PerformanceTracker

def new (settings : QuantEvaluationSettings) : PerformanceTracker := ⟨settings, Dict.empty, Dict.empty, [], [], []⟩

def seenLimit : Nat := 20000

def perf (tracker : PerformanceTracker) (strategy : String) : StrategyPerformance :=
  (tracker.stats.lookup strategy).getD { strategy := strategy }

def setPerf (tracker : PerformanceTracker) (perf : StrategyPerformance) : PerformanceTracker :=
  { tracker with stats := tracker.stats.insert perf.strategy perf }

def see (tracker : PerformanceTracker) (signalId : String) : PerformanceTracker :=
  let kept := if tracker.seen.length = seenLimit then tracker.seenSet.filter (fun other => decide (some other ≠ tracker.seen.head?))
    else tracker.seenSet
  { tracker with seen := Deque.push seenLimit tracker.seen signalId, seenSet := kept ++ [signalId] }

def holding (settings : QuantEvaluationSettings) : Int := Decimal.roundHalfEven (settings.maxHoldingMinutes * 60000000)

-- The virtual trade of a signal: none without a direction, a stop or an entry
-- away from it.
def virtualTrade (settings : QuantEvaluationSettings) (signal : StrategySignal) : Option VirtualTrade :=
  match signal.stopLoss, signal.entryZone with
  | some stop, some zone =>
      let entry := (zone.low + zone.high) / 2
      let risk := |entry - stop|
      if signal.direction = .neutral ∨ risk ≤ 0 then none
      else some {
        signalId := signal.signalId
        strategy := signal.strategyName
        symbol := signal.symbol
        direction := signal.direction
        entry := entry
        stop := stop
        target := signal.takeProfit
        risk := risk
        openedAt := signal.timestamp
        deadline := signal.timestamp + holding settings }
  | _, _ => none

def track (tracker : PerformanceTracker) (signal : StrategySignal) : PerformanceTracker :=
  let perf := tracker.perf signal.strategyName
  match virtualTrade tracker.settings signal with
  | none => tracker.setPerf { perf with signals := perf.signals + 1 }
  | some trade =>
      { tracker.setPerf { perf with signals := perf.signals + 1, tracked := perf.tracked + 1 } with
        opened := tracker.opened.insert signal.signalId trade }

def onSignalRecord (tracker : PerformanceTracker) (record : SignalRecord) : PerformanceTracker :=
  if tracker.settings.enabled = false ∨ record.signal.signalId ∈ tracker.seenSet then tracker
  else (tracker.see record.signal.signalId).track record.signal

def hitStop (trade : VirtualTrade) (candle : MarketCandle) : Bool :=
  if trade.direction = .long then decide (candle.low ≤ trade.stop) else decide (trade.stop ≤ candle.high)

def hitTarget (trade : VirtualTrade) (target : ℚ) (candle : MarketCandle) : Bool :=
  if trade.direction = .long then decide (target ≤ candle.high) else decide (candle.low ≤ target)

-- An outcome and the time that it is closed at.
abbrev Closing := Outcome × Moment

-- Stop before target in one candle.
def touched (settings : QuantEvaluationSettings) (trade : VirtualTrade) (index : Nat) (candle : MarketCandle) : Option Closing :=
  if hitStop trade candle then some (⟨.loss, -1, decide ((index : Int) < settings.falseSignalBars)⟩, candle.end_)
  else (trade.target.filter (fun target => hitTarget trade target candle)).map
    (fun target => (⟨.win, |target - trade.entry| / trade.risk, false⟩, candle.end_))

def scan (settings : QuantEvaluationSettings) (trade : VirtualTrade) : Nat → List MarketCandle → Option Closing
  | _, [] => none
  | index, candle :: rest => (touched settings trade index candle).or (scan settings trade (index + 1) rest)

def timedOut (trade : VirtualTrade) (candles : List MarketCandle) (moment : Moment) : Closing :=
  let lastPrice := (candles.getLast?.map MarketCandle.close).getD trade.entry
  let signed := if trade.direction = .short then -(lastPrice - trade.entry) else lastPrice - trade.entry
  (⟨.timeout, signed / trade.risk, false⟩, moment)

def evaluateTrade (settings : QuantEvaluationSettings) (trade : VirtualTrade) (seen : List MarketCandle) (moment : Moment) :
    Option Closing :=
  let candles := seen.filter (fun candle => decide (trade.openedAt < candle.end_))
  match scan settings trade 0 candles with
  | some closing => some closing
  | none => if trade.deadline ≤ moment then some (timedOut trade candles moment) else none

def StrategyPerformance.add (limit : Nat) (trade : VirtualTrade) (perf : StrategyPerformance) (closing : Closing) :
    StrategyPerformance :=
  let outcome := closing.1
  { perf with
    evaluated := perf.evaluated + 1
    wins := if outcome.result = .win then perf.wins + 1 else perf.wins
    losses := if outcome.result = .loss then perf.losses + 1 else perf.losses
    timeouts := if outcome.result = .timeout then perf.timeouts + 1 else perf.timeouts
    falseSignals := if outcome.falseSignal then perf.falseSignals + 1 else perf.falseSignals
    grossWinR := if 0 ≤ outcome.rValue then perf.grossWinR + outcome.rValue else perf.grossWinR
    grossLossR := if 0 ≤ outcome.rValue then perf.grossLossR else perf.grossLossR + -outcome.rValue
    rValues := Deque.push limit perf.rValues outcome.rValue
    lastResultR := some (Decimal.roundTo 4 outcome.rValue)
    holdingSecondsTotal := perf.holdingSecondsTotal + max 0 (SignalEngine.secondsBetween trade.openedAt closing.2) }

def resolve (tracker : PerformanceTracker) (trade : VirtualTrade) (closing : Closing) : PerformanceTracker :=
  { tracker.setPerf (StrategyPerformance.add tracker.settings.rHistoryLimit trade (tracker.perf trade.strategy) closing) with
    opened := tracker.opened.erase trade.signalId
    recorded := tracker.recorded ++ [(trade.signalId, closing.1)] }

-- The market's answer to a query for the last candles of a symbol.
abbrev Market := String → Timeframe → Int → List MarketCandle

def closingOf (settings : QuantEvaluationSettings) (market : Market) (moment : Moment) (trade : VirtualTrade) : Option Closing :=
  evaluateTrade settings trade (market trade.symbol settings.timeframe.1 500) moment

def evaluateOne (market : Market) (moment : Moment) (turn : PerformanceTracker × Nat) (trade : VirtualTrade) :
    PerformanceTracker × Nat :=
  match closingOf turn.1.settings market moment trade with
  | none => turn
  | some closing => (turn.1.resolve trade closing, turn.2 + 1)

def evaluateOpen (tracker : PerformanceTracker) (market : Market) (moment : Moment) : PerformanceTracker × Nat :=
  tracker.opened.values.foldl (evaluateOne market moment) (tracker, 0)

-- The outcomes of one pass over some trades.
def outcomes (settings : QuantEvaluationSettings) (market : Market) (moment : Moment) (trades : List VirtualTrade) :
    List (String × Outcome) :=
  trades.filterMap (fun trade => (closingOf settings market moment trade).map (fun closing => (trade.signalId, closing.1)))

def Keyed (tracker : PerformanceTracker) : Prop :=
  ∀ signalId trade, tracker.opened.lookup signalId = some trade → trade.signalId = signalId

theorem new_keyed (settings : QuantEvaluationSettings) : Keyed (new settings) := by
  intro signalId trade found
  cases found

theorem virtual_trade_id (settings : QuantEvaluationSettings) (signal : StrategySignal) (trade : VirtualTrade)
    (made : virtualTrade settings signal = some trade) : trade.signalId = signal.signalId := by
  rw [virtualTrade] at made
  split at made
  · dsimp only at made
    split at made
    · cases made
    · cases made
      rfl
  · cases made

theorem see_kept (tracker : PerformanceTracker) (signalId : String) :
    (tracker.see signalId).settings = tracker.settings ∧ (tracker.see signalId).recorded = tracker.recorded ∧
      (tracker.see signalId).opened = tracker.opened := by
  cases tracker
  exact ⟨rfl, rfl, rfl⟩

theorem track_cases (tracker : PerformanceTracker) (signal : StrategySignal) :
    (tracker.track signal).settings = tracker.settings ∧ (tracker.track signal).recorded = tracker.recorded ∧
      ((tracker.track signal).opened = tracker.opened ∨
        ∃ trade, trade.signalId = signal.signalId ∧
          (tracker.track signal).opened = tracker.opened.insert signal.signalId trade) := by
  rw [track]
  cases made : virtualTrade tracker.settings signal with
  | none => exact ⟨rfl, rfl, Or.inl rfl⟩
  | some trade => exact ⟨rfl, rfl, Or.inr ⟨trade, virtual_trade_id _ _ _ made, rfl⟩⟩

theorem track_keyed (tracker : PerformanceTracker) (signal : StrategySignal) (keyed : Keyed tracker) :
    Keyed (tracker.track signal) := by
  intro signalId trade found
  cases (track_cases tracker signal).2.2 with
  | inl unchanged =>
      rw [unchanged] at found
      exact keyed signalId trade found
  | inr opens =>
      obtain ⟨made, id, after⟩ := opens
      rw [after, Dict.lookup_insert] at found
      split at found
      · rename_i here
        cases found
        exact id.trans here.symm
      · exact keyed signalId trade found

theorem record_cases (tracker : PerformanceTracker) (record : SignalRecord) :
    (tracker.onSignalRecord record).settings = tracker.settings ∧
      (tracker.onSignalRecord record).recorded = tracker.recorded ∧
      ((tracker.onSignalRecord record).opened = tracker.opened ∨
        ∃ trade, trade.signalId = record.signal.signalId ∧
          (tracker.onSignalRecord record).opened = tracker.opened.insert record.signal.signalId trade) := by
  rw [onSignalRecord]
  split
  · exact ⟨rfl, rfl, Or.inl rfl⟩
  · obtain ⟨settings, recorded, opened⟩ := see_kept tracker record.signal.signalId
    rw [← settings, ← recorded, ← opened]
    exact track_cases (tracker.see record.signal.signalId) record.signal

theorem outcomes_cons (settings : QuantEvaluationSettings) (market : Market) (moment : Moment) (trade : VirtualTrade)
    (rest : List VirtualTrade) :
    outcomes settings market moment (trade :: rest) =
      ((closingOf settings market moment trade).map (fun closing => (trade.signalId, closing.1))).toList ++
        outcomes settings market moment rest := by
  rw [outcomes, List.filterMap_cons]
  cases (closingOf settings market moment trade).map (fun closing => (trade.signalId, closing.1)) with
  | none => rfl
  | some entry => rfl

theorem evaluate_one (market : Market) (moment : Moment) (turn : PerformanceTracker × Nat) (trade : VirtualTrade) :
    (evaluateOne market moment turn trade).1.settings = turn.1.settings ∧
      (evaluateOne market moment turn trade).1.recorded =
        turn.1.recorded ++ outcomes turn.1.settings market moment [trade] ∧
      ∀ signalId, (evaluateOne market moment turn trade).1.opened.lookup signalId =
        if signalId ∈ (outcomes turn.1.settings market moment [trade]).map Prod.fst then none
        else turn.1.opened.lookup signalId := by
  rw [evaluateOne, outcomes_cons]
  cases closingOf turn.1.settings market moment trade with
  | none => simp [outcomes]
  | some closing =>
      simp [outcomes, resolve, setPerf, Dict.lookup_erase]

theorem evaluate_each (market : Market) (moment : Moment) (trades : List VirtualTrade) (turn : PerformanceTracker × Nat) :
    (trades.foldl (evaluateOne market moment) turn).1.settings = turn.1.settings ∧
      (trades.foldl (evaluateOne market moment) turn).1.recorded =
        turn.1.recorded ++ outcomes turn.1.settings market moment trades ∧
      ∀ signalId, (trades.foldl (evaluateOne market moment) turn).1.opened.lookup signalId =
        if signalId ∈ (outcomes turn.1.settings market moment trades).map Prod.fst then none
        else turn.1.opened.lookup signalId := by
  induction trades generalizing turn with
  | nil => simp [outcomes]
  | cons trade rest ih =>
      have first := evaluate_one market moment turn trade
      have later := ih (evaluateOne market moment turn trade)
      have split : outcomes turn.1.settings market moment (trade :: rest) =
          outcomes turn.1.settings market moment [trade] ++ outcomes turn.1.settings market moment rest := by
        rw [outcomes_cons, outcomes_cons turn.1.settings market moment trade []]
        simp [outcomes]
      rw [first.1, first.2.1] at later
      rw [List.foldl_cons, split]
      refine ⟨later.1, later.2.1.trans (List.append_assoc _ _ _), fun signalId => ?_⟩
      rw [later.2.2 signalId, first.2.2 signalId, List.map_append]
      by_cases here : signalId ∈ (outcomes turn.1.settings market moment [trade]).map Prod.fst
      · rw [if_pos here, ite_self, if_pos (List.mem_append_left _ here)]
      · rw [if_neg here]
        simp only [List.mem_append, here, false_or]

theorem pass_cases (tracker : PerformanceTracker) (market : Market) (moment : Moment) :
    (tracker.evaluateOpen market moment).1.settings = tracker.settings ∧
      (tracker.evaluateOpen market moment).1.recorded =
        tracker.recorded ++ outcomes tracker.settings market moment tracker.opened.values ∧
      ∀ signalId, (tracker.evaluateOpen market moment).1.opened.lookup signalId =
        if signalId ∈ (outcomes tracker.settings market moment tracker.opened.values).map Prod.fst then none
        else tracker.opened.lookup signalId :=
  evaluate_each market moment tracker.opened.values (tracker, 0)

-- A pass records an outcome of a signal only for the trade open under it.
theorem mem_outcomes (tracker : PerformanceTracker) (keyed : Keyed tracker) (market : Market) (moment : Moment)
    (signalId : String) (outcome : Outcome) :
    (signalId, outcome) ∈ outcomes tracker.settings market moment tracker.opened.values ↔
      ∃ trade, tracker.opened.lookup signalId = some trade ∧
        (closingOf tracker.settings market moment trade).map Prod.fst = some outcome := by
  rw [outcomes, List.mem_filterMap]
  constructor
  · rintro ⟨trade, member, closes⟩
    obtain ⟨⟨key, same⟩, entry, rfl⟩ := List.mem_map.mp member
    obtain ⟨closing, found, pair⟩ := Option.map_eq_some_iff.mp closes
    have looked := Dict.lookup_of_mem tracker.opened key same entry
    have id : key = signalId := (keyed key same looked).symm.trans (congrArg Prod.fst pair)
    rw [id] at looked
    refine ⟨same, looked, ?_⟩
    rw [found]
    exact congrArg some (congrArg Prod.snd pair)
  · rintro ⟨trade, looked, closes⟩
    obtain ⟨closing, found, rfl⟩ := Option.map_eq_some_iff.mp closes
    refine ⟨trade, List.mem_map.mpr ⟨_, Dict.lookup_mem _ _ _ looked, rfl⟩, ?_⟩
    rw [found, Option.map_some, keyed signalId trade looked]

end PerformanceTracker

inductive Action where
  | record (record : SignalRecord)
  | pass (market : PerformanceTracker.Market) (moment : Moment)

def step (tracker : PerformanceTracker) : Action → PerformanceTracker
  | .record record => tracker.onSignalRecord record
  | .pass market moment => (tracker.evaluateOpen market moment).1

open PerformanceTracker

theorem step_settings (tracker : PerformanceTracker) (action : Action) : (step tracker action).settings = tracker.settings := by
  cases action with
  | record record => exact (record_cases tracker record).1
  | pass market moment => exact (pass_cases tracker market moment).1

theorem step_keyed (tracker : PerformanceTracker) (action : Action) (keyed : Keyed tracker) : Keyed (step tracker action) := by
  cases action with
  | record record =>
      rw [step, onSignalRecord]
      split
      · exact keyed
      · apply track_keyed
        intro signalId trade found
        rw [(see_kept tracker record.signal.signalId).2.2] at found
        exact keyed signalId trade found
  | pass market moment =>
      intro signalId trade found
      rw [step, (pass_cases tracker market moment).2.2] at found
      split at found
      · cases found
      · exact keyed signalId trade found

-- No signal of this identifier is reported again.
def Leaves (signalId : String) : Action → Prop
  | .record record => record.signal.signalId ≠ signalId
  | .pass _ _ => True

def closingAt (settings : QuantEvaluationSettings) (trade : VirtualTrade) : Action → Option Closing
  | .record _ => none
  | .pass market moment => closingOf settings market moment trade

-- What is recorded of a signal over a run, beyond what the state records.
def Records (tracker : PerformanceTracker) (actions : List Action) (signalId : String) (outcome : Outcome) : Prop :=
  (signalId, outcome) ∈ (Run.final step tracker actions).recorded.drop tracker.recorded.length

def stepOutcome (tracker : PerformanceTracker) (action : Action) (signalId : String) : Option Outcome :=
  (tracker.opened.lookup signalId).bind (fun trade => (closingAt tracker.settings trade action).map Prod.fst)

theorem step_records (tracker : PerformanceTracker) (keyed : Keyed tracker) (action : Action) (signalId : String)
    (leaves : Leaves signalId action) :
    ∃ fresh, (step tracker action).recorded = tracker.recorded ++ fresh ∧
      (∀ outcome, (signalId, outcome) ∈ fresh ↔ stepOutcome tracker action signalId = some outcome) ∧
      (step tracker action).opened.lookup signalId =
        if (stepOutcome tracker action signalId).isSome then none else tracker.opened.lookup signalId := by
  cases action with
  | record record =>
      have effects := record_cases tracker record
      have silent : stepOutcome tracker (.record record) signalId = none := by simp [stepOutcome, closingAt]
      refine ⟨[], effects.2.1.trans (List.append_nil _).symm, fun outcome => ?_, ?_⟩
      · simp [silent]
      · rw [silent, step]
        cases effects.2.2 with
        | inl unchanged =>
            rw [unchanged]
            rfl
        | inr opens =>
            obtain ⟨trade, _, after⟩ := opens
            rw [after, Dict.lookup_insert, if_neg (Ne.symm leaves)]
            rfl
  | pass market moment =>
      have effects := pass_cases tracker market moment
      have reported : ∀ outcome, (signalId, outcome) ∈ outcomes tracker.settings market moment tracker.opened.values ↔
          stepOutcome tracker (.pass market moment) signalId = some outcome := by
        intro outcome
        rw [mem_outcomes tracker keyed market moment signalId outcome, stepOutcome, Option.bind_eq_some_iff]
        rfl
      refine ⟨_, effects.2.1, reported, ?_⟩
      rw [step, effects.2.2 signalId]
      congr 1
      rw [Option.isSome_iff_exists, List.mem_map]
      refine propext ⟨?_, ?_⟩
      · rintro ⟨⟨_, outcome⟩, member, rfl⟩
        exact ⟨outcome, (reported outcome).mp member⟩
      · rintro ⟨outcome, same⟩
        exact ⟨(signalId, outcome), (reported outcome).mpr same, rfl⟩

-- A signal that is not reported again has the outcome of its trade in the first
-- pass that closes it, and no other.
theorem run_records (tracker : PerformanceTracker) (keyed : Keyed tracker) (actions : List Action) (signalId : String)
    (leaves : ∀ action ∈ actions, Leaves signalId action) :
    ∃ fresh, (Run.final step tracker actions).recorded = tracker.recorded ++ fresh ∧
      ∀ outcome, (signalId, outcome) ∈ fresh ↔ ∃ trade, tracker.opened.lookup signalId = some trade ∧
        (actions.findSome? (closingAt tracker.settings trade)).map Prod.fst = some outcome := by
  induction actions generalizing tracker with
  | nil => exact ⟨[], (List.append_nil _).symm, fun outcome => by simp⟩
  | cons action rest ih =>
      obtain ⟨first, grown, now, left⟩ := step_records tracker keyed action signalId (leaves action List.mem_cons_self)
      obtain ⟨last, after, later⟩ := ih (step tracker action) (step_keyed tracker action keyed)
        (fun other member => leaves other (List.mem_cons_of_mem _ member))
      refine ⟨first ++ last, ?_, fun outcome => ?_⟩
      · rw [← List.append_assoc, ← grown]
        exact after
      · rw [List.mem_append, now outcome, later outcome, left, step_settings, stepOutcome]
        cases found : tracker.opened.lookup signalId with
        | none => simp
        | some trade =>
            cases closes : closingAt tracker.settings trade action with
            | none => simp [closes]
            | some closing => simp [closes]

theorem records_iff (tracker : PerformanceTracker) (keyed : Keyed tracker) (actions : List Action) (trade : VirtualTrade)
    (tracked : tracker.opened.lookup trade.signalId = some trade)
    (leaves : ∀ action ∈ actions, Leaves trade.signalId action) (outcome : Outcome) :
    Records tracker actions trade.signalId outcome ↔
      (actions.findSome? (closingAt tracker.settings trade)).map Prod.fst = some outcome := by
  obtain ⟨fresh, grown, each⟩ := run_records tracker keyed actions trade.signalId leaves
  rw [Records, grown, List.drop_left, each outcome, tracked]
  simp

end QuantEngine.Evaluation
