import QuantEngine.Learning.Registry
import QuantEngine.Library.Extended

set_option autoImplicit false

namespace QuantEngine.Learning

variable {F : Type}

-- `MLError` and its kin are none of the built-in kinds.
def mlError : PyError := .other "MLError"

def indexError : PyError := .other "IndexError"

structure StandardScaler (F : Type) where
  means : List F
  stds : List F
  fitted : Bool

structure LogisticRegressionModel (F : Type) where
  learningRate : F
  epochs : Int
  l2 : F
  weights : List F
  bias : F
  scaler : StandardScaler F
  nFeatures : Int
  fitted : Bool

inductive TreeNode (F : Type) where
  | leaf (value : F)
  | split (value : F) (feature : Int) (threshold : F) (left right : TreeNode F)

-- The dataset and the generator of the training are left out.
structure DecisionTreeModel (F : Type) where
  maxDepth : Int
  minSamplesSplit : Int
  maxFeatures : F
  splitter : String
  seed : Int
  root : Option (TreeNode F)
  importances : List F
  nFeatures : Int
  fitted : Bool

inductive ForestKind where
  | randomForest
  | extraTrees
deriving DecidableEq

def ForestKind.modelType : ForestKind → String
  | .randomForest => "random_forest"
  | .extraTrees => "extra_trees"

def ForestKind.bootstrap : ForestKind → Bool
  | .randomForest => true
  | .extraTrees => false

def ForestKind.splitter : ForestKind → String
  | .randomForest => "best"
  | .extraTrees => "random"

structure ForestModel (F : Type) where
  kind : ForestKind
  nEstimators : Int
  maxDepth : Int
  minSamplesSplit : Int
  maxFeatures : F
  seed : Int
  trees : List (DecisionTreeModel F)
  nFeatures : Int
  fitted : Bool

-- The models that can be written to a file.
inductive NativeModel (F : Type) where
  | logistic (model : LogisticRegressionModel F)
  | tree (model : DecisionTreeModel F)
  | forest (model : ForestModel F)

inductive VotingMode where
  | soft
  | hard
  | weighted
  | dynamic
deriving DecidableEq

def VotingMode.value : VotingMode → String
  | .soft => "soft"
  | .hard => "hard"
  | .weighted => "weighted"
  | .dynamic => "dynamic"

structure VotingEnsemble (F : Type) where
  models : List (NativeModel F)
  mode : VotingMode
  weights : List F
  fitted : Bool

inductive Model (F : Type) where
  | native (model : NativeModel F)
  | voting (ensemble : VotingEnsemble F)

section

variable [Floats F]

def sigmoid (z : F) : Except PyError F :=
  if Floats.le (Floats.ofRat 0) z then do
    let power ← Floats.exp (Floats.neg z)
    Floats.div (Floats.ofRat 1) (Floats.add (Floats.ofRat 1) power)
  else do
    let power ← Floats.exp z
    Floats.div power (Floats.add (Floats.ofRat 1) power)

def dot (a b : List F) : Except PyError F := Floats.fsum (List.zipWith Floats.mul a b)

def mean (values : List F) : Except PyError F :=
  if values.isEmpty then .ok (Floats.ofRat 0)
  else do
    let total ← Floats.fsum values
    Floats.div total (Floats.ofRat values.length)

def normalize (values : List F) : Except PyError (List F) := do
  let total ← Floats.fsum values
  if Floats.le total (Floats.ofRat 0) then
    if values.isEmpty then .ok [] else do
      let share ← Floats.div (Floats.ofRat 1) (Floats.ofRat values.length)
      .ok (values.map (fun _ => share))
  else values.mapM (fun value => Floats.div value total)

namespace StandardScaler

def transformRow (scaler : StandardScaler F) (row : List F) : Except PyError (List F) :=
  (row.zip (scaler.means.zip scaler.stds)).mapM (fun entry => Floats.div (Floats.sub entry.1 entry.2.1) entry.2.2)

end StandardScaler

def LogisticRegressionModel.predictOne (model : LogisticRegressionModel F) (row : List F) : Except PyError F :=
  if !model.fitted then .error mlError
  else do
    let scaled ← model.scaler.transformRow row
    let product ← dot model.weights scaled
    sigmoid (Floats.add product model.bias)

-- An index counts from the end where it is negative.
def indexed (row : List F) (index : Int) : Except PyError F :=
  match row[(if index < 0 then index + row.length else index).toNat]? with
  | some value => if index < -row.length then .error indexError else .ok value
  | none => .error indexError

def TreeNode.predictRow (row : List F) : TreeNode F → Except PyError F
  | .leaf value => .ok value
  | .split _ feature threshold left right => do
      let value ← indexed row feature
      if Floats.le value threshold then left.predictRow row else right.predictRow row

def DecisionTreeModel.predictOne (model : DecisionTreeModel F) (row : List F) : Except PyError F :=
  match model.root with
  | some root => if model.fitted then root.predictRow row else .error mlError
  | none => .error mlError

def ForestModel.predictOne (model : ForestModel F) (row : List F) : Except PyError F :=
  if !model.fitted then .error mlError
  else do
    let predictions ← model.trees.mapM (fun tree => tree.predictOne row)
    mean predictions

def NativeModel.predictOne (row : List F) : NativeModel F → Except PyError F
  | .logistic model => model.predictOne row
  | .tree model => model.predictOne row
  | .forest model => model.predictOne row

def VotingEnsemble.predictOne (ensemble : VotingEnsemble F) (row : List F) : Except PyError F :=
  if !ensemble.fitted then .error mlError
  else do
    let column ← ensemble.models.mapM (NativeModel.predictOne row)
    match ensemble.mode with
    | .hard =>
        let votes := column.map (fun p => if Floats.le (Floats.ofRat (1 / 2)) p then Floats.ofRat 1 else Floats.ofRat 0)
        Floats.div (Floats.sum votes) (Floats.ofRat votes.length)
    | .soft => Floats.div (Floats.sum column) (Floats.ofRat column.length)
    | _ => do
        let weights ← normalize ensemble.weights
        .ok (Floats.sum (List.zipWith Floats.mul weights column))

def Model.predictOne (row : List F) : Model F → Except PyError F
  | .native model => model.predictOne row
  | .voting ensemble => ensemble.predictOne row

end

namespace StandardScaler

def toDict (scaler : StandardScaler F) : Json F :=
  .obj [("means", .arr (scaler.means.map .float)), ("stds", .arr (scaler.stds.map .float)), ("fitted", .bool scaler.fitted)]

def fromDict [PyFloat F] (data : Json F) : Except PyError (StandardScaler F) := do
  let means ← Json.mapAll Json.toFloat (← Json.iterate (← data.get "means" (.arr [])))
  let stds ← Json.mapAll Json.toFloat (← Json.iterate (← data.get "stds" (.arr [])))
  let fitted ← data.get "fitted" (.bool false)
  .ok ⟨means, stds, fitted.toBool⟩

end StandardScaler

namespace LogisticRegressionModel

def params (model : LogisticRegressionModel F) : List (String × Json F) :=
  [("learning_rate", .float model.learningRate), ("epochs", .int model.epochs), ("l2", .float model.l2)]

def toDict (model : LogisticRegressionModel F) : Json F :=
  .obj [("type", .str "logistic_regression"), ("params", .obj model.params), ("weights", .arr (model.weights.map .float)),
    ("bias", .float model.bias), ("scaler", model.scaler.toDict), ("n_features", .int model.nFeatures)]

def fromDict [Floats F] (data : Json F) : Except PyError (LogisticRegressionModel F) := do
  let params ← data.get "params" (.obj [])
  let learningRate ← Json.toFloat (← params.get "learning_rate" (.float (Floats.ofRat (1 / 10))))
  let epochs ← Json.toInt (← params.get "epochs" (.int 400))
  let l2 ← Json.toFloat (← params.get "l2" (.float (Floats.ofRat (1 / 1000))))
  let weights ← Json.mapAll Json.toFloat (← Json.iterate (← data.get "weights" (.arr [])))
  let bias ← Json.toFloat (← data.get "bias" (.float (Floats.ofRat 0)))
  let scaler ← StandardScaler.fromDict (← data.get "scaler" (.obj []))
  let nFeatures ← Json.toInt (← data.get "n_features" (.int weights.length))
  .ok ⟨learningRate, epochs, l2, weights, bias, scaler, nFeatures, true⟩

end LogisticRegressionModel

namespace TreeNode

def toDict : TreeNode F → Json F
  | .leaf value => .obj [("v", .float value)]
  | .split value feature threshold left right =>
      .obj [("v", .float value), ("f", .int feature), ("t", .float threshold), ("l", left.toDict), ("r", right.toDict)]

-- Anything but an object is a TypeError: it cannot be asked for a member, or not
-- be indexed by a text.
mutual

def fromDict [PyFloat F] : Json F → Except PyError (TreeNode F)
  | .obj members => do
      let data : Json F := .obj members
      let hasLeft ← data.contains "l"
      let hasRight ← data.contains "r"
      if !hasLeft || !hasRight then do
        let value ← Json.toFloat (← data.item "v")
        .ok (.leaf value)
      else do
        let value ← Json.toFloat (← data.item "v")
        let feature ← Json.toInt (← data.item "f")
        let threshold ← Json.toFloat (← data.item "t")
        let left ← memberFromDict "l" members
        let right ← memberFromDict "r" members
        .ok (.split value feature threshold left right)
  | _ => .error .type

def memberFromDict [PyFloat F] (name : String) : List (String × Json F) → Except PyError (TreeNode F)
  | [] => .error .key
  | (other, data) :: rest => if other = name then fromDict data else memberFromDict name rest

end

end TreeNode

namespace DecisionTreeModel

def params (model : DecisionTreeModel F) : List (String × Json F) :=
  [("max_depth", .int model.maxDepth), ("min_samples_split", .int model.minSamplesSplit),
    ("max_features", .float model.maxFeatures), ("splitter", .str model.splitter), ("seed", .int model.seed)]

def toDict (model : DecisionTreeModel F) : Json F :=
  .obj [("type", .str "decision_tree"), ("params", .obj model.params),
    ("root", match model.root with
      | some root => root.toDict
      | none => .null),
    ("importances", .arr (model.importances.map .float)), ("n_features", .int model.nFeatures)]

def fromDict [Floats F] (data : Json F) : Except PyError (DecisionTreeModel F) := do
  let params ← data.get "params" (.obj [])
  let maxDepth ← Json.toInt (← params.get "max_depth" (.int 6))
  let minSamplesSplit ← Json.toInt (← params.get "min_samples_split" (.int 6))
  let maxFeatures ← Json.toFloat (← params.get "max_features" (.float (Floats.ofRat 1)))
  let splitter ← params.get "splitter" (.str "best")
  let seed ← Json.toInt (← params.get "seed" (.int 7))
  let root ← match ← data.get "root" .null with
    | .null => .ok none
    | root => do
        let node ← TreeNode.fromDict root
        .ok (some node)
  let importances ← Json.mapAll Json.toFloat (← Json.iterate (← data.get "importances" (.arr [])))
  let nFeatures ← Json.toInt (← data.get "n_features" (.int importances.length))
  .ok ⟨maxDepth, minSamplesSplit, maxFeatures, splitter.toText, seed, root, importances, nFeatures, true⟩

end DecisionTreeModel

namespace ForestModel

def params (model : ForestModel F) : List (String × Json F) :=
  [("n_estimators", .int model.nEstimators), ("max_depth", .int model.maxDepth),
    ("min_samples_split", .int model.minSamplesSplit), ("max_features", .float model.maxFeatures),
    ("bootstrap", .bool model.kind.bootstrap), ("splitter", .str model.kind.splitter), ("seed", .int model.seed)]

def toDict (model : ForestModel F) : Json F :=
  .obj [("type", .str model.kind.modelType), ("params", .obj model.params),
    ("trees", .arr (model.trees.map DecisionTreeModel.toDict)), ("n_features", .int model.nFeatures)]

def fromDict [Floats F] (kind : ForestKind) (data : Json F) : Except PyError (ForestModel F) := do
  let params ← data.get "params" (.obj [])
  let nEstimators ← Json.toInt (← params.get "n_estimators" (.int 60))
  let maxDepth ← Json.toInt (← params.get "max_depth" (.int 6))
  let minSamplesSplit ← Json.toInt (← params.get "min_samples_split" (.int 6))
  let maxFeatures ← Json.toFloat (← params.get "max_features" (.float (Floats.ofRat (7 / 10))))
  let seed ← Json.toInt (← params.get "seed" (.int 7))
  let trees ← Json.mapAll DecisionTreeModel.fromDict (← Json.iterate (← data.get "trees" (.arr [])))
  let nFeatures ← Json.toInt (← data.get "n_features" (.int 0))
  .ok ⟨kind, nEstimators, maxDepth, minSamplesSplit, maxFeatures, seed, trees, nFeatures, true⟩

end ForestModel

namespace NativeModel

def modelType : NativeModel F → String
  | .logistic _ => "logistic_regression"
  | .tree _ => "decision_tree"
  | .forest model => model.kind.modelType

def params : NativeModel F → List (String × Json F)
  | .logistic model => model.params
  | .tree model => model.params
  | .forest model => model.params

def toDict : NativeModel F → Json F
  | .logistic model => model.toDict
  | .tree model => model.toDict
  | .forest model => model.toDict

def fitted : NativeModel F → Bool
  | .logistic model => model.fitted
  | .tree model => model.fitted
  | .forest model => model.fitted

end NativeModel

namespace Model

def modelType : Model F → String
  | .native model => model.modelType
  | .voting _ => "voting"

def params : Model F → List (String × Json F)
  | .native model => model.params
  | .voting ensemble =>
      [("mode", .str ensemble.mode.value), ("weights", .arr (ensemble.weights.map .float)),
        ("members", .arr (ensemble.models.map (fun model => .str model.modelType)))]

-- A voting ensemble has no `to_dict`.
def toDict : Model F → Option (Json F)
  | .native model => some model.toDict
  | .voting _ => none

def fitted : Model F → Bool
  | .native model => model.fitted
  | .voting ensemble => ensemble.fitted

end Model

instance : ModelKind F (Model F) := ⟨Model.modelType, Model.params⟩

-- The tree types of the enumeration that cannot be rebuilt, and any unknown
-- one, raise an `MLError`.
def modelFromDict [Floats F] (data : Json F) : Except PyError (NativeModel F) := do
  let raw := (← data.get "type" (.str "")).toText
  if raw = "logistic_regression" then do
    let model ← LogisticRegressionModel.fromDict data
    .ok (.logistic model)
  else if raw = "decision_tree" then do
    let model ← DecisionTreeModel.fromDict data
    .ok (.tree model)
  else if raw = "random_forest" then do
    let model ← ForestModel.fromDict .randomForest data
    .ok (.forest model)
  else if raw = "extra_trees" then do
    let model ← ForestModel.fromDict .extraTrees data
    .ok (.forest model)
  else .error mlError

end QuantEngine.Learning
