import QuantEngine.Backtesting.BacktestEngine
import QuantEngine.Backtesting.Optimizer

set_option autoImplicit false

namespace QuantEngine.WalkForward

open Backtesting BacktestEngine
open Candles (MarketCandle)

structure Window where
  index : Nat
  trainStart : Int
  trainEnd : Int
  testStart : Int
  testEnd : Int
deriving DecidableEq

def windowAt (rolling : Bool) (trainSize validationSize : Int) (fold : Nat) (trainEnd : Int) : Window :=
  ⟨fold, if rolling then trainEnd - trainSize else 0, trainEnd, trainEnd, trainEnd + validationSize⟩

-- The loop of `generate_windows`; that the step is positive was checked before.
def windowsFrom (rolling : Bool) (total trainSize validationSize step : Int) (positive : 0 < step) (fold : Nat) (trainEnd : Int) :
    List Window :=
  if trainEnd + validationSize ≤ total then
    windowAt rolling trainSize validationSize fold trainEnd ::
      windowsFrom rolling total trainSize validationSize step positive (fold + 1) (trainEnd + step)
  else []
termination_by (total - validationSize - trainEnd + 1).toNat
decreasing_by omega

def generateWindows (total : Int) (scheme : String) (trainSize validationSize step : Int) : Except PyError (List Window) :=
  if positive : 0 < trainSize ∧ 0 < validationSize ∧ 0 < step then
    let normalized := if scheme = "anchored" then "expanding" else scheme
    if normalized = "rolling" ∨ normalized = "expanding" then
      .ok (windowsFrom (decide (normalized = "rolling")) total trainSize validationSize step positive.2.2 0 trainSize)
    else .error .value
  else .error .value

-- `QuantStatistics.to_dict`.
abbrev Statistics := List (String × Json Extended)

-- `objective_value`: what is no number counts as the worst.
def objectiveValue (stats : Statistics) (name : String) : Extended :=
  match Json.member stats name with
  | some (.int value) => .finite value
  | some (.float value) => value
  | _ => .infinite true

structure WalkForwardFold (V : Type) where
  window : Window
  bestParams : Params V
  inSampleScore : Extended
  outOfSampleReturnPct : ℚ
  outOfSampleStats : Statistics

structure WalkForwardReport (V : Type) where
  scheme : String
  objective : String
  folds : List (WalkForwardFold V)
  totalOutOfSampleReturnPct : ℚ
  averageOutOfSampleReturnPct : ℚ
  positiveFoldRatio : ℚ
  stability : ℚ
  efficiency : ℚ

-- The parts of an analysis. A source comes with the state it starts in, and
-- `statistics` stands for the statistics engine.
structure WalkForwardAnalysis (V σ δ : Type) where
  execution : ExecutionSettings
  optimizer : Search V (OptimizationResult V)
  dice : Dice δ
  seed : δ
  sourceFactory : Params V → DecisionSource σ × σ
  objective : String
  statistics : ℚ → List TradeRecord → List EquityPoint → Statistics

namespace WalkForwardAnalysis

variable {V σ δ : Type} (analysis : WalkForwardAnalysis V σ δ)

-- `self._engine.run`, with the broker whose generators are drawn from in that run.
def engineRun (candles : List MarketCandle) (params : Params V) (config : BacktestConfig) (paper : PaperBroker) :
    Except PyError BacktestResult :=
  let source := analysis.sourceFactory params
  match (Backtest.mk analysis.execution paper source.1 config).runAsync candles source.2 with
  | none => .error .value
  | some result => .ok result

def statisticsOf (config : BacktestConfig) (result : BacktestResult) : Statistics :=
  analysis.statistics config.initialBalance result.trades result.equityCurve

def returnPct (config : BacktestConfig) (result : BacktestResult) : ℚ :=
  if config.initialBalance = 0 then 0 else (result.finalBalance - config.initialBalance) / config.initialBalance * 100

-- `candles[start:end]` between two places of the series.
def slice (candles : List MarketCandle) (start stop : Int) : List MarketCandle :=
  (candles.take stop.toNat).drop start.toNat

-- The evaluator of a fold, after `used` runs of the engine. An empty series, which
-- would raise, is no training range.
def evaluate (train : List MarketCandle) (config : BacktestConfig) (brokers : Nat → PaperBroker) (used : Nat) (params : Params V) :
    Extended × Nat :=
  match analysis.engineRun train params config (brokers used) with
  | .ok result => (objectiveValue (analysis.statisticsOf config result) analysis.objective, used + 1)
  | .error _ => (.nan, used + 1)

-- `_run_fold`; every run of the engine has a broker of its own.
def runFold (candles : List MarketCandle) (config : BacktestConfig) (brokers : Nat → PaperBroker) (used : Nat) (window : Window) :
    Except PyError (WalkForwardFold V × Nat) := do
  let train := slice candles window.trainStart window.trainEnd
  let test := slice candles window.testStart window.testEnd
  let outcome := analysis.optimizer.run analysis.dice (analysis.evaluate train config brokers) analysis.seed used
  let optimization ← outcome.result
  let oos ← analysis.engineRun test optimization.bestParams config (brokers outcome.oracle)
  pure (⟨window, optimization.bestParams, optimization.bestScore, returnPct config oos, analysis.statisticsOf config oos⟩,
    outcome.oracle + 1)

def runFolds (candles : List MarketCandle) (config : BacktestConfig) (brokers : Nat → PaperBroker) :
    Nat → List Window → Except PyError (List (WalkForwardFold V))
  | _, [] => pure []
  | used, window :: rest => do
      let fold ← analysis.runFold candles config brokers used window
      let others ← runFolds candles config brokers fold.2 rest
      pure (fold.1 :: others)

variable (sqrt : ℚ → ℚ)

-- `_stability`.
def stability (returns : List ℚ) (mean : ℚ) : ℚ :=
  if returns.length < 2 then 1
  else
    let variance : ℚ := (returns.map (fun r => (r - mean) ^ 2)).sum / returns.length
    if |mean| < 1 / 10 ^ 9 then 0 else max (-1) (min 1 (1 - sqrt variance / |mean|))

def finiteScores (folds : List (WalkForwardFold V)) : List ℚ :=
  folds.filterMap (fun fold => match fold.inSampleScore with
    | .finite score => some score
    | _ => none)

-- `_efficiency`.
def efficiency (folds : List (WalkForwardFold V)) : ℚ :=
  let scores := finiteScores folds
  let returns := folds.map WalkForwardFold.outOfSampleReturnPct
  if scores.isEmpty ∨ returns.isEmpty then 0
  else
    let meanIs : ℚ := scores.sum / scores.length
    let meanOos : ℚ := returns.sum / returns.length
    if |meanIs| < 1 / 10 ^ 9 then 0 else meanOos / meanIs

-- `_aggregate`.
def aggregate (scheme : String) (folds : List (WalkForwardFold V)) : WalkForwardReport V :=
  if folds.isEmpty then ⟨scheme, analysis.objective, [], 0, 0, 0, 0, 0⟩
  else
    let returns := folds.map WalkForwardFold.outOfSampleReturnPct
    let total : ℚ := returns.sum
    let average : ℚ := total / returns.length
    { scheme := scheme
      objective := analysis.objective
      folds := folds
      totalOutOfSampleReturnPct := total
      averageOutOfSampleReturnPct := average
      positiveFoldRatio := (returns.countP (fun r => decide (0 < r)) : ℚ) / returns.length
      stability := stability sqrt returns average
      efficiency := efficiency folds }

def run (brokers : Nat → PaperBroker) (candles : List MarketCandle) (config : BacktestConfig) (scheme : String)
    (trainSize validationSize step : Int) : Except PyError (WalkForwardReport V) := do
  let windows ← generateWindows candles.length scheme trainSize validationSize step
  let folds ← analysis.runFolds candles config brokers 0 windows
  pure (analysis.aggregate sqrt scheme folds)

end WalkForwardAnalysis

end QuantEngine.WalkForward
