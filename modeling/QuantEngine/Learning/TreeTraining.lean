import Mathlib.Data.List.Sort
import QuantEngine.Learning.Drift
import QuantEngine.Learning.Models
import QuantEngine.Library.Decimal
import QuantEngine.Library.Oracles

set_option autoImplicit false

-- The training of a decision tree and its predictions, in exact arithmetic.
namespace QuantEngine.Learning

open Program

variable {Q A : Type}

namespace TreeNode

-- The way of a row down to its leaf, and the value there.
def route (row : List ℚ) : TreeNode ℚ → Except PyError (List Bool × ℚ)
  | .leaf value => .ok ([], value)
  | .split _ feature threshold left right => do
      let value ← indexed row feature
      if value ≤ threshold then
        let found ← left.route row
        pure (true :: found.1, found.2)
      else
        let found ← right.route row
        pure (false :: found.1, found.2)

-- The value there is what the prediction with floats gives, where these compare as numbers do.
theorem predict_route [Floats ℚ] (exact_ : ∀ a b : ℚ, Floats.le a b = decide (a ≤ b)) (row : List ℚ) (tree : TreeNode ℚ) :
    tree.predictRow row = (tree.route row).map Prod.snd := by
  induction tree with
  | leaf value => rfl
  | split value feature threshold left right leftIh rightIh =>
      rw [predictRow, route]
      cases indexed row feature with
      | error error => rfl
      | ok value =>
          change (if Floats.le value threshold = true then left.predictRow row else right.predictRow row) =
            Except.map Prod.snd (if value ≤ threshold then _ else _)
          rw [exact_, leftIh, rightIh]
          by_cases below : value ≤ threshold
          · rw [if_pos (decide_eq_true below), if_pos below]
            cases left.route row <;> rfl
          · rw [if_neg (by simpa using below), if_neg below]
            cases right.route row <;> rfl

def depth : TreeNode ℚ → Nat
  | .leaf _ => 0
  | .split _ _ _ left right => max left.depth right.depth + 1

def isLeaf : TreeNode ℚ → Bool
  | .leaf _ => true
  | .split .. => false

end TreeNode

def itemAt {α : Type} (items : List α) (place : Nat) : Except PyError α :=
  match items[place]? with
  | some item => .ok item
  | none => .error indexError

-- What `fit` holds on to while it trains: `_x` and `_y`.
structure TrainingSet where
  x : List (List ℚ)
  y : List Int

structure Split where
  feature : Nat
  threshold : ℚ
  left : List Nat
  right : List Nat
  gain : ℚ

namespace DecisionTreeModel

variable (model : DecisionTreeModel ℚ) (data : TrainingSet)

-- `[self._x[i][feature] for i in indices]`.
def column (feature : Nat) (indices : List Nat) : Except PyError (List ℚ) :=
  indices.mapM (fun i => do itemAt (← itemAt data.x i) feature)

-- `sum(self._y[i] for i in indices)`.
def positivesOf (indices : List Nat) : Except PyError Int := do
  let labels ← indices.mapM (itemAt data.y)
  pure labels.sum

def impurityOf (indices : List Nat) : Except PyError ℚ := do
  let positives ← positivesOf data indices
  pure (Numeric.giniImpurity (positives : ℚ) indices.length)

-- `_weighted_impurity`.
def weightedImpurity (left right : List Nat) (total : Nat) : Except PyError ℚ := do
  let gl ← impurityOf data left
  let gr ← impurityOf data right
  pure ((left.length : ℚ) / total * gl + (right.length : ℚ) / total * gr)

-- `_candidate_features`.
def candidateFeatures : Program Q A (List Nat) :=
  let n := model.nFeatures.toNat
  if 1 ≤ model.maxFeatures then pure (List.range n)
  else Random.sample (List.range n) (max 1 (Decimal.roundHalfEven (model.maxFeatures * n))).toNat

-- `_thresholds`.
def thresholds (values : List ℚ) : Program Q A (List ℚ) :=
  let unique := values.dedup.insertionSort (· ≤ ·)
  if unique.length < 2 then pure []
  else if model.splitter = "random" then do
    let threshold ← Random.uniform (unique.headD 0) (unique.getLastD 0)
    pure [threshold]
  else pure (List.zipWith (fun a b => (a + b) / 2) unique unique.tail)

-- `best_score`: the gain of the best split, 0 as long as there is none.
def bestScore : Option Split → ℚ
  | none => 0
  | some split => split.gain

-- One candidate threshold of a feature whose column is `values`.
def consider (indices : List Nat) (impurity : ℚ) (feature : Nat) (values : List ℚ) (best : Option Split) (threshold : ℚ) :
    Except PyError (Option Split) := do
  let left := ((indices.zip values).filter (fun entry => decide (entry.2 ≤ threshold))).map Prod.fst
  let right := ((indices.zip values).filter (fun entry => decide (threshold < entry.2))).map Prod.fst
  if left = [] ∨ right = [] then pure best
  else
    let child ← weightedImpurity data left right indices.length
    let gain := impurity - child
    if bestScore best + 1 / 10 ^ 12 < gain then pure (some ⟨feature, threshold, left, right, gain⟩) else pure best

def searchFeatures (indices : List Nat) (impurity : ℚ) : List Nat → Option Split → Program Q A (Option Split)
  | [], best => pure best
  | feature :: rest, best => do
      let values ← ofExcept (column data feature indices)
      let candidates ← thresholds model values
      let next ← ofExcept (candidates.foldlM (consider data indices impurity feature values) best)
      searchFeatures indices impurity rest next

-- `_best_split`.
def bestSplit (indices : List Nat) (impurity : ℚ) : Program Q A (Option Split) := do
  let features ← candidateFeatures model
  searchFeatures model data indices impurity features none

-- `_build`, with the importances it adds to.
def build (importances : List ℚ) (indices : List Nat) (depth : Int) : Program Q A (TreeNode ℚ × List ℚ) := do
  let total := indices.length
  let positives ← ofExcept (positivesOf data indices)
  let value : ℚ := if total = 0 then 0 else (positives : ℚ) / total
  let impurity := Numeric.giniImpurity (positives : ℚ) total
  if _ : model.maxDepth ≤ depth ∨ (total : Int) < model.minSamplesSplit ∨ impurity ≤ 1 / 10 ^ 12 then pure (.leaf value, importances)
  else do
    let found ← bestSplit model data indices impurity
    match found with
    | none => pure (.leaf value, importances)
    | some split => do
        let importances := importances.modify split.feature (fun held => held + total * split.gain)
        let left ← build importances split.left (depth + 1)
        let right ← build left.2 split.right (depth + 1)
        pure (.split value split.feature split.threshold left.1 right.1, right.2)
termination_by (model.maxDepth - depth).toNat
decreasing_by all_goals omega

def fit (x : List (List ℚ)) (y : List Int) : Program Q A (DecisionTreeModel ℚ) := do
  let nFeatures := (x.head?.map List.length).getD 0
  let model := { model with nFeatures := nFeatures, importances := List.replicate nFeatures 0 }
  if x = [] then pure { model with root := some (.leaf 0), fitted := true }
  else do
    let grown ← build model ⟨x, y⟩ model.importances (List.range x.length) 0
    pure { model with root := some grown.1, importances := Numeric.normalize grown.2, fitted := true }

-- `_ensure_fitted`.
def ensureFitted : Except PyError (TreeNode ℚ) :=
  match model.root with
  | some root => if model.fitted then .ok root else .error mlError
  | none => .error mlError

def predictProba (x : List (List ℚ)) : Except PyError (List ℚ) := do
  let root ← ensureFitted model
  x.mapM (fun row => do
    let found ← root.route row
    pure found.2)

def featureImportances : Except PyError (List ℚ) := do
  let _ ← ensureFitted model
  if model.importances ≠ [] then pure model.importances
  else pure (List.replicate model.nFeatures.toNat (1 / (model.nFeatures : ℚ)))

end DecisionTreeModel

end QuantEngine.Learning
