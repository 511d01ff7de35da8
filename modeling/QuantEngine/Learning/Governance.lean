import QuantEngine.Learning.MetaStrategy
import QuantEngine.Library.Slices

set_option autoImplicit false

namespace QuantEngine.Learning.MetaStrategyManager

open Calendar (Moment)
open Decimal (OnGrid)
open Streaks (streak LastHold)

-- One call of `evaluate`.
structure Call where
  clock : String → Moment
  labeledTrades : List (String × TradeRecord)

variable (settings : MetaStrategySettings) (lookback : Int)

def evaluateAll (manager : MetaStrategyManager) : List Call → List MetaReport × MetaStrategyManager
  | [] => ([], manager)
  | call :: calls =>
      let (report, later) := evaluate settings lookback call.clock manager call.labeledTrades
      let (reports, last) := evaluateAll later calls
      (report :: reports, last)

-- Every score given, in order.
def scores (calls : List Call) : List StrategyScore :=
  calls.flatMap (fun call => StrategyIntelligence.rank lookback call.labeledTrades)

def scoresOf (name : String) (history : List StrategyScore) : List StrategyScore :=
  history.filter (fun score => decide (score.name = name))

def weightOf (manager : MetaStrategyManager) (name : String) : ℚ := (manager.weights.lookup name).getD 1

abbrev Disabled (manager : MetaStrategyManager) (name : String) : Prop := manager.active.lookup name = some false

def notable (decision : GovernanceDecision) : Bool := decide (decision.action ≠ .keep)

-- The three dictionaries and the log, as the scores and decisions so far have them.
structure Governed (history : List StrategyScore) (decisions : List GovernanceDecision) (manager : MetaStrategyManager) : Prop where
  fails : ∀ name, (manager.failCounts.lookup name).getD 0 = streak (isDegraded settings) (scoresOf name history)
  active : ∀ name, Disabled manager name ↔
    settings.disableAfterPeriods ≤ (streak (isDegraded settings) (scoresOf name history) : Int)
  weights : ∀ name, settings.minWeight ≤ weightOf manager name ∧ weightOf manager name ≤ settings.maxWeight
  floor : ∀ name, Disabled manager name → weightOf manager name = settings.minWeight
  audit : manager.audit.map GovernanceEntry.decision = decisions.filter notable

theorem scores_of_concat (name : String) (history : List StrategyScore) (score : StrategyScore) :
    scoresOf name (history ++ [score]) = if score.name = name then scoresOf name history ++ [score] else scoresOf name history := by
  rw [scoresOf, List.filter_append, ← scoresOf, List.filter_singleton]
  by_cases own : score.name = name
  · simp [own]
  · simp [own]

variable (bounds : settings.minWeight ≤ 1 ∧ 1 ≤ settings.maxWeight)
  (grid : OnGrid 4 settings.minWeight ∧ OnGrid 4 settings.maxWeight)

include bounds grid in
theorem smoothed_bounds (previousWeight scoreValue : ℚ) :
    settings.minWeight ≤ smoothed settings previousWeight scoreValue ∧
      smoothed settings previousWeight scoreValue ≤ settings.maxWeight := by
  obtain ⟨low, high⟩ := Numeric.clamp_bounds (previousWeight + settings.weightSmoothing *
    (targetWeight settings scoreValue - previousWeight)) settings.minWeight settings.maxWeight (le_trans bounds.1 bounds.2)
  constructor
  · have rounded := Decimal.round_to_mono 4 _ _ low
    rwa [Decimal.round_to_grid 4 _ grid.1] at rounded
  · have rounded := Decimal.round_to_mono 4 _ _ high
    rwa [Decimal.round_to_grid 4 _ grid.2] at rounded

include bounds grid in
theorem govern_governed (now : Moment) (manager : MetaStrategyManager) (score : StrategyScore)
    (history : List StrategyScore) (decisions : List GovernanceDecision) (governed : Governed settings history decisions manager) :
    Governed settings (history ++ [score]) (decisions ++ [(govern settings now manager score).1])
      (govern settings now manager score).2 := by
  have fails : failsAfter settings manager score = streak (isDegraded settings) (scoresOf score.name (history ++ [score])) := by
    rw [scores_of_concat, if_pos rfl, Streaks.streak_concat, ← governed.fails score.name, failsAfter]
  have other (name : String) (apart : ¬ name = score.name) : scoresOf name (history ++ [score]) = scoresOf name history := by
    rw [scores_of_concat, if_neg (Ne.symm apart)]
  refine ⟨fun name => ?_, fun name => ?_, fun name => ?_, fun name => ?_, ?_⟩
  · simp only [govern, Dict.lookup_insert]
    by_cases own : name = score.name
    · rw [if_pos own, own, ← fails, Option.getD_some]
    · rw [if_neg own, other name own]
      exact governed.fails name
  · simp only [govern, Disabled, Dict.lookup_insert]
    by_cases own : name = score.name
    · rw [if_pos own, own, ← fails, Option.some_inj, Bool.not_eq_false', disables, decide_eq_true_iff]
    · rw [if_neg own, other name own]
      exact governed.active name
  · simp only [govern, weightOf, Dict.lookup_insert]
    by_cases own : name = score.name
    · rw [if_pos own, Option.getD_some, weightAfter]
      split
      · exact ⟨le_refl _, le_trans bounds.1 bounds.2⟩
      · exact smoothed_bounds settings bounds grid _ _
    · rw [if_neg own]
      exact governed.weights name
  · simp only [govern, Disabled, weightOf, Dict.lookup_insert]
    by_cases own : name = score.name
    · rw [if_pos own, if_pos own, Option.getD_some, Option.some_inj, Bool.not_eq_false', weightAfter]
      exact fun disabled => if_pos disabled
    · rw [if_neg own, if_neg own]
      exact governed.floor name
  · rw [List.filter_append, ← governed.audit, List.filter_singleton, notable]
    by_cases kept : (decision settings manager score).action = .keep
    · simp [govern, kept]
    · simp [govern, kept]

include bounds grid in
theorem govern_all_governed (clock : String → Moment) (manager : MetaStrategyManager) (given : List StrategyScore)
    (history : List StrategyScore) (decisions : List GovernanceDecision) (governed : Governed settings history decisions manager) :
    Governed settings (history ++ given) (decisions ++ (governAll settings clock manager given).1)
      (governAll settings clock manager given).2 := by
  induction given generalizing manager history decisions with
  | nil => simpa [governAll] using governed
  | cons score given ih =>
      have one := govern_governed settings bounds grid (clock score.name) manager score history decisions governed
      have rest := ih _ _ _ one
      rwa [List.append_assoc, List.append_assoc] at rest

include bounds grid in
theorem evaluate_all_governed (manager : MetaStrategyManager) (calls : List Call)
    (history : List StrategyScore) (decisions : List GovernanceDecision) (governed : Governed settings history decisions manager) :
    Governed settings (history ++ scores lookback calls)
      (decisions ++ (evaluateAll settings lookback manager calls).1.flatMap MetaReport.decisions)
      (evaluateAll settings lookback manager calls).2 := by
  induction calls generalizing manager history decisions with
  | nil => simpa [evaluateAll, scores] using governed
  | cons call calls ih =>
      have one := govern_all_governed settings bounds grid call.clock manager
        (StrategyIntelligence.rank lookback call.labeledTrades) history decisions governed
      -- Counting the call changes nothing that is governed.
      have counted : Governed settings _ _ (evaluate settings lookback call.clock manager call.labeledTrades).2 :=
        ⟨one.fails, one.active, one.weights, one.floor, one.audit⟩
      have rest := ih _ _ _ counted
      rwa [List.append_assoc, List.append_assoc] at rest

theorem fresh_enabled (name : String) : ¬ Disabled {} name :=
  fun disabled => nomatch (show (none : Option Bool) = some false from disabled)

include bounds in
theorem fresh_governed (periods : 1 ≤ settings.disableAfterPeriods) : Governed settings [] [] {} where
  fails := fun _ => rfl
  active := fun name => iff_of_false (fresh_enabled name) (by
    have none : scoresOf name [] = [] := rfl
    rw [none, Streaks.streak_nil]
    omega)
  weights := fun _ => bounds
  floor := fun name disabled => (fresh_enabled name disabled).elim
  audit := rfl

-- After any calls: the weights are within bounds, a strategy is disabled just after
-- so many degraded evaluations in a row, and the log has the decisions that change something.
include bounds grid in
theorem follows_evidence (periods : 1 ≤ settings.disableAfterPeriods) (calls : List Call) :
    let reports := (evaluateAll settings lookback {} calls).1
    let manager := (evaluateAll settings lookback {} calls).2
    (∀ name, settings.minWeight ≤ weightOf manager name ∧ weightOf manager name ≤ settings.maxWeight) ∧
      (∀ name, Disabled manager name ↔ LastHold (isDegraded settings) settings.disableAfterPeriods.toNat
        (scoresOf name (scores lookback calls))) ∧
      (∀ name, Disabled manager name → weightOf manager name = settings.minWeight) ∧
      manager.audit.map GovernanceEntry.decision = (reports.flatMap MetaReport.decisions).filter notable := by
  intro reports manager
  have governed := evaluate_all_governed settings lookback bounds grid {} calls [] [] (fresh_governed settings bounds periods)
  rw [List.nil_append, List.nil_append] at governed
  refine ⟨governed.weights, fun name => ?_, governed.floor, governed.audit⟩
  rw [governed.active name, ← Streaks.le_streak_iff]
  omega

def stopped : TradeRecord where
  tradeId := 1
  positionId := 1
  symbol := "BTCUSDT"
  side := .long
  quantity := 1
  entryTime := 0
  exitTime := 60000000
  entryPrice := 100
  exitPrice := 99
  stopLoss := some 99
  takeProfit := some 102
  commission := 0
  slippageBps := 0
  spreadBps := 0
  pnl := -1
  pnlGross := -1
  rMultiple := -1
  returnPct := -1
  atr := none
  volatility := "normal"
  regime := "trending"
  score := 80
  confidence := 7 / 10
  exitReason := .stopLoss
  entryReasons := []
  exitReasons := []
  decisionId := none
  contextSnapshot := ⟨"trending", "trending", 0, false, false, 60⟩
  recordedAt := 60000000

def losing : Call := ⟨fun _ => 0, [("breakout", stopped)]⟩

def strict : MetaStrategySettings := { minTrades := 1, disableAfterPeriods := 2 }

theorem twice_losing : Disabled (evaluateAll strict 60 {} [losing, losing]).2 "breakout" := by decide +kernel

theorem follows_evidence_losing : weightOf (evaluateAll strict 60 {} [losing, losing]).2 "breakout" = 1 / 10 :=
  (follows_evidence strict 60 (by norm_num [strict]) ⟨⟨1000, by norm_num [Decimal.scale, strict]⟩,
    ⟨20000, by norm_num [Decimal.scale, strict]⟩⟩ (by decide) [losing, losing]).2.2.1 "breakout" twice_losing

end QuantEngine.Learning.MetaStrategyManager
