import Mathlib.Algebra.Order.Field.Rat
import Mathlib.Data.List.Sort
import QuantEngine.Execution.Models
import QuantEngine.Learning.Drift
import QuantEngine.Library.Dict
import QuantEngine.Library.Slices

set_option autoImplicit false

namespace QuantEngine.Learning

open Numeric (clamp)

structure TradeStats where
  trades : Nat
  wins : Nat
  winRate : ℚ
  profitFactor : ℚ
  expectancyR : ℚ
  avgPnl : ℚ
  totalPnl : ℚ
  stopRate : ℚ
  avgDurationSeconds : ℚ
deriving DecidableEq

def TradeStats.fromTrades (trades : List TradeRecord) : TradeStats :=
  let n := trades.length
  if n = 0 then ⟨0, 0, 0, 0, 0, 0, 0, 0, 0⟩
  else
    let wins := trades.countP TradeRecord.isWin
    let grossProfit := ((trades.filter (fun t => decide (t.pnl > 0))).map TradeRecord.pnl).sum
    let grossLoss := -((trades.filter (fun t => decide (t.pnl < 0))).map TradeRecord.pnl).sum
    let totalPnl := (trades.map TradeRecord.pnl).sum
    let stops := trades.countP (fun t => decide (t.exitReason = .stopLoss))
    let duration := (trades.map (fun t => ((t.exitTime - t.entryTime : Int) : ℚ) / 1000000)).sum
    { trades := n
      wins := wins
      winRate := wins / n
      profitFactor := if grossLoss > 0 then grossProfit / grossLoss else if grossProfit > 0 then 1 else 0
      expectancyR := (trades.map TradeRecord.rMultiple).sum / n
      avgPnl := totalPnl / n
      totalPnl := totalPnl
      stopRate := stops / n
      avgDurationSeconds := duration / n }

structure StrategyScore where
  name : String
  score : ℚ
  historical : TradeStats
  recent : TradeStats
deriving DecidableEq

def StrategyScore.trades (score : StrategyScore) : Nat := score.historical.trades

def compositeScore (historical recent : TradeStats) : ℚ :=
  if historical.trades = 0 then 50
  else
    let expectancy := 6 / 10 * recent.expectancyR + 4 / 10 * historical.expectancyR
    let profitFactor := 6 / 10 * recent.profitFactor + 4 / 10 * historical.profitFactor
    let raw := 50 + 30 * clamp expectancy (-1) 1 + 12 * clamp (profitFactor - 1) (-1) (3 / 2) +
      16 * (historical.winRate - 1 / 2)
    clamp raw 0 100

namespace StrategyIntelligence

def scoreStrategy (lookback : Int) (name : String) (trades : List TradeRecord) : StrategyScore :=
  let ordered := trades.insertionSort (fun a b => a.exitTime ≤ b.exitTime)
  let historical := TradeStats.fromTrades ordered
  let recent := TradeStats.fromTrades (Slices.last lookback ordered)
  ⟨name, compositeScore historical recent, historical, recent⟩

def byStrategy (labeledTrades : List (String × TradeRecord)) : Dict String (List TradeRecord) :=
  labeledTrades.foldl (fun groups entry => groups.insert entry.1 ((groups.lookup entry.1).getD [] ++ [entry.2])) .empty

-- Best first; equals keep their order.
def rank (lookback : Int) (labeledTrades : List (String × TradeRecord)) : List StrategyScore :=
  ((byStrategy labeledTrades).entries.map (fun entry => scoreStrategy lookback entry.1 entry.2)).insertionSort
    (fun a b => b.score ≤ a.score)

end StrategyIntelligence

theorem composite_score_bounds (historical recent : TradeStats) :
    0 ≤ compositeScore historical recent ∧ compositeScore historical recent ≤ 100 := by
  rw [compositeScore]
  split
  · constructor <;> norm_num
  · exact Numeric.clamp_bounds _ 0 100 (by norm_num)

end QuantEngine.Learning

namespace QuantEngine.Learning

open Calendar (Moment)
open Decimal (roundTo fixed)
open Numeric (clamp)

structure MetaStrategySettings where
  minTrades : Int := 20
  disableExpectancyR : ℚ := -1 / 20
  disableProfitFactor : ℚ := 9 / 10
  disableAfterPeriods : Int := 3
  minWeight : ℚ := 1 / 10
  maxWeight : ℚ := 2
  weightSmoothing : ℚ := 1 / 2
deriving DecidableEq

inductive GovernanceAction where
  | disable
  | enable
  | boost
  | reduce
  | keep
deriving DecidableEq

structure DecisionMetrics where
  score : ℚ
  trades : Nat
  expectancyR : ℚ
  profitFactor : ℚ
deriving DecidableEq

structure GovernanceDecision where
  strategy : String
  action : GovernanceAction
  weight : ℚ
  previousWeight : ℚ
  active : Bool
  detail : String
  metrics : DecisionMetrics
deriving DecidableEq

structure GovernanceEntry where
  evaluation : Nat
  at_ : Moment
  decision : GovernanceDecision
deriving DecidableEq

structure MetaReport where
  weights : Dict String ℚ
  decisions : List GovernanceDecision
  active : List String
  disabled : List String
  ranking : List StrategyScore

structure MetaStrategyManager where
  weights : Dict String ℚ := .empty
  active : Dict String Bool := .empty
  failCounts : Dict String Nat := .empty
  audit : List GovernanceEntry := []
  evaluations : Nat := 0

namespace MetaStrategyManager

variable (settings : MetaStrategySettings)

def isDegraded (score : StrategyScore) : Bool :=
  if (score.trades : Int) < settings.minTrades ∨ score.recent.trades = 0 then false
  else decide (score.recent.expectancyR < settings.disableExpectancyR ∨ score.recent.profitFactor < settings.disableProfitFactor)

def targetWeight (scoreValue : ℚ) : ℚ :=
  let span := settings.maxWeight - settings.minWeight
  settings.minWeight + span * (scoreValue / 100)

def classify (wasActive : Bool) (previous new : ℚ) : GovernanceAction :=
  if !wasActive then .enable
  else if previous + 1 / 20 < new then .boost
  else if new < previous - 1 / 20 then .reduce
  else .keep

def detail (action : GovernanceAction) (score : StrategyScore) : String :=
  let text := match action with
    | .boost => "Rendimiento consistente: se aumenta el peso."
    | .reduce => "Rendimiento a la baja: se reduce el peso."
    | .enable => "Recuperada: se reactiva."
    | .keep => "Sin cambios relevantes."
    | .disable => ""
  text ++ " (score " ++ fixed 0 score.score ++ ")"

def smoothed (previousWeight scoreValue : ℚ) : ℚ :=
  let newWeight := previousWeight + settings.weightSmoothing * (targetWeight settings scoreValue - previousWeight)
  roundTo 4 (clamp newWeight settings.minWeight settings.maxWeight)

def failsAfter (manager : MetaStrategyManager) (score : StrategyScore) : Nat :=
  if isDegraded settings score then (manager.failCounts.lookup score.name).getD 0 + 1 else 0

def disables (manager : MetaStrategyManager) (score : StrategyScore) : Bool :=
  decide (settings.disableAfterPeriods ≤ (failsAfter settings manager score : Int))

def weightAfter (manager : MetaStrategyManager) (score : StrategyScore) : ℚ :=
  if disables settings manager score then settings.minWeight
  else smoothed settings ((manager.weights.lookup score.name).getD 1) score.score

def decision (manager : MetaStrategyManager) (score : StrategyScore) : GovernanceDecision :=
  let previousWeight := (manager.weights.lookup score.name).getD 1
  let wasActive := (manager.active.lookup score.name).getD true
  let weight := weightAfter settings manager score
  let action := if disables settings manager score then .disable else classify wasActive previousWeight weight
  { strategy := score.name
    action := action
    weight := weight
    previousWeight := roundTo 4 previousWeight
    active := !disables settings manager score
    detail :=
      if disables settings manager score then
        "Degradada " ++ toString (failsAfter settings manager score) ++ " evaluaciones seguidas; se desactiva."
      else detail action score
    metrics := {
      score := roundTo 2 score.score
      trades := score.trades
      expectancyR := roundTo 4 score.recent.expectancyR
      profitFactor := roundTo 4 score.recent.profitFactor } }

-- `now` is what the clock shows where the decision is written down.
def govern (now : Moment) (manager : MetaStrategyManager) (score : StrategyScore) : GovernanceDecision × MetaStrategyManager :=
  let decision := decision settings manager score
  (decision, { manager with
    weights := manager.weights.insert score.name (weightAfter settings manager score)
    active := manager.active.insert score.name (!disables settings manager score)
    failCounts := manager.failCounts.insert score.name (failsAfter settings manager score)
    audit := if decision.action = .keep then manager.audit else manager.audit ++ [⟨manager.evaluations, now, decision⟩] })

def governAll (clock : String → Moment) (manager : MetaStrategyManager) :
    List StrategyScore → List GovernanceDecision × MetaStrategyManager
  | [] => ([], manager)
  | score :: scores =>
      let (decision, later) := govern settings (clock score.name) manager score
      let (decisions, last) := governAll clock later scores
      (decision :: decisions, last)

def evaluate (lookback : Int) (clock : String → Moment) (manager : MetaStrategyManager)
    (labeledTrades : List (String × TradeRecord)) : MetaReport × MetaStrategyManager :=
  let scores := StrategyIntelligence.rank lookback labeledTrades
  let (decisions, governed) := governAll settings clock manager scores
  let last := { governed with evaluations := governed.evaluations + 1 }
  let named (on : Bool) := (last.active.entries.filter (fun entry => entry.2 == on)).map Prod.fst
  ({ weights := last.weights
     decisions := decisions
     active := (named true).insertionSort (· ≤ ·)
     disabled := (named false).insertionSort (· ≤ ·)
     ranking := scores }, last)

end MetaStrategyManager

end QuantEngine.Learning
