import Mathlib.Data.List.Sort
import QuantEngine.Learning.Features
import QuantEngine.Learning.Metrics
import QuantEngine.Library.Json

set_option autoImplicit false

namespace QuantEngine.Learning

-- The metadata of a dataset is left out: nothing here reads it.
structure Dataset where
  featureNames : List String
  x : List (List ℚ)
  y : List Int
  labelled : y.length = x.length

-- `FeatureEngineer.label`.
def FeatureEngineer.label (trade : TradeRecord) (kind : String) : Int :=
  if kind = "rr_positive" then if 0 ≤ trade.rMultiple then 1 else 0
  else if kind = "not_stopped" then if trade.exitReason.value ≠ "stop_loss" then 1 else 0
  else if trade.isWin then 1 else 0

namespace DatasetBuilder

def ordered (trades : List TradeRecord) : List TradeRecord := trades.insertionSort (fun a b => a.exitTime ≤ b.exitTime)

def build (trades : List TradeRecord) (label : String) : Dataset where
  featureNames := FeatureEngineer.featureNames
  x := (ordered trades).map FeatureEngineer.fromTrade
  y := (ordered trades).map (fun trade => FeatureEngineer.label trade label)
  labelled := by rw [List.length_map, List.length_map]

end DatasetBuilder

namespace Dataset

-- The folds still to come, of which the last one takes all that is left.
def foldsFrom (n size : Nat) : Nat → Nat → List (List Nat)
  | 0, _ => []
  | left + 1, start =>
      let stop := if left = 0 then n else start + size
      List.range' start (stop - start) :: foldsFrom n size left stop

def folds (dataset : Dataset) (k : Int) : List (List Nat) :=
  let n := dataset.x.length
  if k ≤ 1 ∨ (n : Int) < k then if n = 0 then [] else [List.range n]
  else foldsFrom n (n / k.toNat) k.toNat 0

def rows (dataset : Dataset) (indices : List Nat) : List (List ℚ) := indices.map (fun i => dataset.x.getD i [])

def labels (dataset : Dataset) (indices : List Nat) : List Int := indices.map (fun i => dataset.y.getD i 0)

end Dataset

-- A model that is made, fitted and asked; each may raise.
structure ModelFactory (M : Type) where
  fit : List (List ℚ) → List Int → Except PyError M
  predictProba : M → List (List ℚ) → Except PyError (List ℚ)

structure CrossValidationResult where
  folds : Nat
  meanAuc : ℚ
  meanAccuracy : ℚ
  meanF1 : ℚ
  perFold : List (Nat × ClassificationMetrics)

namespace CrossValidation

def bothClasses (dataset : Dataset) (indices : List Nat) : Bool := decide (2 ≤ (dataset.labels indices).dedup.length)

-- A fold that is evaluated, and the rows that are trained on before.
structure Round where
  fold : Nat
  train : List Nat
  test : List Nat
deriving DecidableEq

-- The loop of `cross_validate`, which grows the rows to train on fold by fold.
def roundsFrom (dataset : Dataset) : Nat → List Nat → List (List Nat) → List Round
  | _, _, [] => []
  | i, train, test :: rest =>
      let later := roundsFrom dataset (i + 1) (train ++ test) rest
      if bothClasses dataset train = true ∧ test ≠ [] then ⟨i, train, test⟩ :: later else later

def rounds (dataset : Dataset) (folds : Int) : List Round :=
  match dataset.folds folds with
  | [] => []
  | first :: rest => roundsFrom dataset 1 first rest

def mean (values : List ℚ) : ℚ := if values = [] then 0 else values.sum / values.length

section

variable {M : Type} (log : ℚ → ℚ) (factory : ModelFactory M) (dataset : Dataset)

def evaluateRound (round : Round) : Except PyError (Nat × ClassificationMetrics) := do
  let model ← factory.fit (dataset.rows round.train) (dataset.labels round.train)
  let proba ← factory.predictProba model (dataset.rows round.test)
  pure (round.fold, Metrics.evaluate log (dataset.labels round.test) proba (1 / 2))

def crossValidate (folds : Int) : Except PyError CrossValidationResult := do
  let results ← (rounds dataset folds).mapM (evaluateRound log factory dataset)
  if results = [] then pure ⟨0, 1 / 2, 0, 0, []⟩
  else
    pure
      { folds := results.length
        meanAuc := mean (results.map (fun entry => entry.2.auc))
        meanAccuracy := mean (results.map (fun entry => entry.2.accuracy))
        meanF1 := mean (results.map (fun entry => entry.2.f1))
        perFold := results.map (fun entry => (entry.1, entry.2.toDict)) }

end

end CrossValidation

end QuantEngine.Learning
