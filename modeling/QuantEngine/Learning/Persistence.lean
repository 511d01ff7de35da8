import QuantEngine.Learning.Models

set_option autoImplicit false

namespace QuantEngine.Learning

variable {F : Type}

-- What `json.loads(path.read_text())` makes of a file.
abbrev Content (F : Type) := Except PyError (Json F)

-- The directory of the registry. The audit file is only ever appended to, and
-- is not read back.
structure RegistryDir (F : Type) where
  writable : Bool := true
  records : Option (Content F) := none
  history : List (AuditEntry F) := []
  models : Dict String (Content F) := .empty

namespace ModelRecord

def toDict (record : ModelRecord F) : Json F :=
  .obj [("id", .str record.id), ("version", .str record.version), ("model_type", .str record.modelType),
    ("created_at", .str record.createdAt), ("dataset", .obj record.dataset), ("params", .obj record.params),
    ("metrics", .obj (record.metrics.map (fun entry => (entry.1, .float entry.2)))), ("state", .str record.state.value),
    ("author", .str record.author), ("result", .str record.result), ("active", .bool record.active),
    ("feature_names", .arr (record.featureNames.map .str))]

-- `dict(data)` of an object; nothing else is ever written.
def members : Json F → Except PyError (List (String × Json F))
  | .obj members => .ok members
  | _ => .error .type

def stateOf (text : String) : Except PyError ModelState :=
  match ModelState.all.find? (fun state => decide (state.value = text)) with
  | some state => .ok state
  | none => .error .value

def fromDict [PyFloat F] (now : String) (data : Json F) : Except PyError (ModelRecord F) := do
  let id ← data.item "id"
  let version ← data.get "version" (.str "1.0")
  let modelType ← data.get "model_type" (.str "unknown")
  let dataset ← members (← data.get "dataset" (.obj []))
  let params ← members (← data.get "params" (.obj []))
  let metrics ← Json.floatItems (← members (← data.get "metrics" (.obj [])))
  let state ← stateOf (← data.get "state" (.str "evaluated")).toText
  let author ← data.get "author" (.str "system")
  let result ← data.get "result" (.str "")
  let active ← data.get "active" (.bool false)
  let featureNames ← Json.iterate (← data.get "feature_names" (.arr []))
  let createdAt ← data.get "created_at" (.str now)
  .ok ⟨id.toText, version.toText, modelType.toText, dataset, params, metrics, state, author.toText, result.toText,
    active.toBool, featureNames.map Json.toText, createdAt.toText⟩

end ModelRecord

namespace ModelRegistry

def snapshot (registry : ModelRegistry F (Model F)) : Json F :=
  .obj [("records", .arr (registry.order.filterMap registry.records.lookup |>.map ModelRecord.toDict)),
    ("active_id", optionText registry.activeId), ("activation_stack", .arr (registry.activationStack.map .str))]

-- A file that exists is never written again.
def persistModel (files : Dict String (Content F)) (entry : String × Model F) : Dict String (Content F) :=
  if entry.1 ∈ files.keys then files
  else match entry.2.toDict with
    | some data => files.insert entry.1 (.ok data)
    | none => files

def persistModels (registry : ModelRegistry F (Model F)) (files : Dict String (Content F)) : Dict String (Content F) :=
  registry.models.entries.foldl persistModel files

-- A disk that cannot be written to is only logged.
def persist (registry : ModelRegistry F (Model F)) (directory : RegistryDir F) : RegistryDir F :=
  if directory.writable then
    { directory with
      records := some (.ok registry.snapshot)
      history := directory.history ++ registry.audit.getLast?.toList
      models := registry.persistModels directory.models }
  else directory

-- The kinds that `_rehydrate_models` catches; a `JSONDecodeError` is a `ValueError`.
def caught (error : PyError) : Bool := decide (error ∈ [.os, .value, .key])

def decodeModel [Floats F] (content : Content F) : Except PyError (NativeModel F) := content.bind modelFromDict

def rehydrateModels [Floats F] (files : Dict String (Content F)) :
    List String → Dict String (Model F) → Except PyError (Dict String (Model F))
  | [], models => .ok models
  | id :: rest, models =>
      match files.lookup id with
      | none => rehydrateModels files rest models
      | some content => match decodeModel content with
        | .ok model => rehydrateModels files rest (models.insert id (.native model))
        | .error error => if caught error then rehydrateModels files rest models else .error error

def addRecord (registry : ModelRegistry F (Model F)) (record : ModelRecord F) : ModelRegistry F (Model F) :=
  { registry with records := registry.records.insert record.id record, order := registry.order ++ [record.id] }

def loadRecords [PyFloat F] (now : String) :
    List (Json F) → ModelRegistry F (Model F) → Except PyError (ModelRegistry F (Model F))
  | [], registry => .ok registry
  | data :: rest, registry => do
      let record ← ModelRecord.fromDict now data
      loadRecords now rest (registry.addRecord record)

def textOf : Json F → Option String
  | .str text => some text
  | _ => none

-- `ModelRegistry(directory)`. A `records.json` that is no JSON leaves it empty.
def load [Floats F] (directory : RegistryDir F) (drawn : Nat) (now : String) : Except PyError (ModelRegistry F (Model F)) :=
  match directory.records with
  | none => .ok { drawn := drawn }
  | some (.error error) => if error = .os ∨ error = .value then .ok { drawn := drawn } else .error error
  | some (.ok data) => do
      let records ← Json.iterate (← data.get "records" (.arr []))
      let registry ← loadRecords now records { drawn := drawn }
      let activeId ← data.get "active_id" .null
      let stack ← Json.iterate (← data.get "activation_stack" (.arr []))
      let models ← rehydrateModels directory.models registry.order .empty
      .ok { registry with
        activeId := textOf activeId
        activationStack := Deque.newest stackLimit (stack.map Json.toText)
        models := models }

end ModelRegistry

-- A registry and its directory.
structure SavedRegistry (F : Type) where
  registry : ModelRegistry F (Model F) := {}
  directory : RegistryDir F := {}

namespace SavedRegistry

-- An operation that succeeds ends by writing the registry.
def answered (saved : SavedRegistry F) (answer : Option (ModelRecord F) × ModelRegistry F (Model F)) : SavedRegistry F :=
  match answer.1 with
  | some _ => ⟨answer.2, answer.2.persist saved.directory⟩
  | none => ⟨answer.2, saved.directory⟩

def step (ids : IdSource) (saved : SavedRegistry F) : RegistryCall F (Model F) → SavedRegistry F
  | .register model given now =>
      let registered := saved.registry.register ids model given now
      saved.answered (some registered.1, registered.2)
  | .approve id reasons now => saved.answered (saved.registry.approve id reasons now)
  | .reject id reasons now => saved.answered (saved.registry.reject id reasons now)
  | .activate id now => saved.answered (saved.registry.activate id now)
  | .rollback now => saved.answered (saved.registry.rollback now)

end SavedRegistry

end QuantEngine.Learning

namespace QuantEngine.Learning

variable {F : Type}

-- A forest is fitted by fitting its trees.
def NativeModel.Trained : NativeModel F → Prop
  | .logistic model => model.fitted = true
  | .tree model => model.fitted = true
  | .forest model => model.fitted = true ∧ ∀ tree ∈ model.trees, tree.fitted = true

def Model.Trained : Model F → Prop
  | .native model => model.Trained
  | .voting ensemble => ensemble.fitted = true ∧ ∀ member ∈ ensemble.models, member.Trained

theorem floats_read [PyFloat F] (values : List F) : Json.mapAll Json.toFloat (values.map .float) = .ok values :=
  Json.map_all_inverse .float Json.toFloat values (fun _ _ => rfl)

namespace StandardScaler

theorem round_trip [PyFloat F] (scaler : StandardScaler F) : fromDict scaler.toDict = .ok scaler := by
  have means := floats_read scaler.means
  have stds := floats_read scaler.stds
  simp only [fromDict, toDict, Json.get, Json.iterate, Json.member_here, Json.member_later, Option.getD_some,
    ne_eq, String.reduceEq, not_false_eq_true, Json.ok_bind, means, stds, Json.toBool]

end StandardScaler

namespace LogisticRegressionModel

theorem round_trip [Floats F] (model : LogisticRegressionModel F) (trained : model.fitted = true) :
    fromDict model.toDict = .ok model := by
  obtain ⟨learningRate, epochs, l2, weights, bias, scaler, nFeatures, fitted⟩ := model
  cases trained
  have read := floats_read weights
  have scaled := StandardScaler.round_trip scaler
  simp only [fromDict, toDict, params, Json.get, Json.iterate, Json.member_here, Json.member_later, Option.getD_some,
    ne_eq, String.reduceEq, not_false_eq_true, Json.ok_bind, read, scaled, Json.toFloat, Json.toInt]

end LogisticRegressionModel

namespace TreeNode

-- Both children are members of their node, and read back by the hypotheses.
theorem round_trip [PyFloat F] (node : TreeNode F) : fromDict node.toDict = .ok node := by
  induction node with
  | leaf value =>
      rw [toDict, fromDict]
      simp only [Json.contains, Json.item, Json.member_here, Json.member_later, ne_eq, String.reduceEq,
        not_false_eq_true, Json.ok_bind, Json.toFloat]
      rfl
  | split value feature threshold left right ofLeft ofRight =>
      rw [toDict, fromDict]
      simp only [memberFromDict, Json.contains, Json.item, Json.member_here, Json.member_later, ne_eq, String.reduceEq,
        not_false_eq_true, Json.ok_bind, Json.toFloat, Json.toInt, ofLeft, ofRight, reduceIte]
      rfl

theorem to_dict_object (node : TreeNode F) : ∃ members, node.toDict = .obj members := by
  cases node with
  | leaf value => exact ⟨_, rfl⟩
  | split value feature threshold left right => exact ⟨_, rfl⟩

end TreeNode

namespace DecisionTreeModel

theorem round_trip [Floats F] (model : DecisionTreeModel F) (trained : model.fitted = true) :
    fromDict model.toDict = .ok model := by
  obtain ⟨maxDepth, minSamplesSplit, maxFeatures, splitter, seed, root, importances, nFeatures, fitted⟩ := model
  cases trained
  have read := floats_read importances
  cases root with
  | none =>
      simp only [fromDict, toDict, params, Json.get, Json.iterate, Json.member_here, Json.member_later, Option.getD_some,
        ne_eq, String.reduceEq, not_false_eq_true, Json.ok_bind, read, Json.toFloat, Json.toInt, Json.toText]
  | some root =>
      have node := TreeNode.round_trip root
      obtain ⟨members, object⟩ := root.to_dict_object
      rw [object] at node
      simp only [fromDict, toDict, params, Json.get, Json.iterate, Json.member_here, Json.member_later, Option.getD_some,
        ne_eq, String.reduceEq, not_false_eq_true, Json.ok_bind, read, Json.toFloat, Json.toInt, Json.toText,
        object, node]

end DecisionTreeModel

namespace ForestModel

theorem round_trip [Floats F] (model : ForestModel F) (trained : model.fitted = true)
    (grown : ∀ tree ∈ model.trees, tree.fitted = true) : fromDict model.kind model.toDict = .ok model := by
  obtain ⟨kind, nEstimators, maxDepth, minSamplesSplit, maxFeatures, seed, trees, nFeatures, fitted⟩ := model
  cases trained
  have read := Json.map_all_inverse DecisionTreeModel.toDict DecisionTreeModel.fromDict trees
    (fun tree member => tree.round_trip (grown tree member))
  simp only [fromDict, toDict, params, Json.get, Json.iterate, Json.member_here, Json.member_later, Option.getD_some,
    ne_eq, String.reduceEq, not_false_eq_true, Json.ok_bind, read, Json.toFloat, Json.toInt]

end ForestModel

theorem model_round_trip [Floats F] (model : NativeModel F) (trained : model.Trained) :
    modelFromDict model.toDict = .ok model := by
  cases model with
  | logistic model =>
      have type : model.toDict.get "type" (.str "") = .ok (.str "logistic_regression") := rfl
      have read := model.round_trip trained
      simp only [modelFromDict, NativeModel.toDict, type, read, Json.ok_bind, Json.toText, reduceIte]
  | tree model =>
      have type : model.toDict.get "type" (.str "") = .ok (.str "decision_tree") := rfl
      have read := model.round_trip trained
      simp only [modelFromDict, NativeModel.toDict, type, read, Json.ok_bind, Json.toText, reduceIte, String.reduceEq]
  | forest model =>
      have type : model.toDict.get "type" (.str "") = .ok (.str model.kind.modelType) := rfl
      have read := model.round_trip trained.1 trained.2
      cases kind : model.kind with
      | randomForest =>
          rw [kind] at type read
          simp only [modelFromDict, NativeModel.toDict, type, read, Json.ok_bind, Json.toText, ForestKind.modelType,
            reduceIte, String.reduceEq]
      | extraTrees =>
          rw [kind] at type read
          simp only [modelFromDict, NativeModel.toDict, type, read, Json.ok_bind, Json.toText, ForestKind.modelType,
            reduceIte, String.reduceEq]

namespace ModelRecord

theorem state_read (state : ModelState) : stateOf state.value = .ok state := by
  cases state <;> decide

theorem round_trip [PyFloat F] (now : String) (record : ModelRecord F) : fromDict now record.toDict = .ok record := by
  have metrics := Json.float_items_read record.metrics
  have state := state_read record.state
  have names : record.featureNames.map (Json.toText ∘ Json.str (F := F)) = record.featureNames :=
    (List.map_congr_left (fun _ _ => rfl)).trans (List.map_id _)
  simp only [fromDict, toDict, Json.get, Json.item, Json.iterate, members, Json.member_here, Json.member_later,
    Option.getD_some, ne_eq, String.reduceEq, not_false_eq_true, Json.ok_bind, metrics, state, Json.toText, Json.toBool,
    List.map_map, names]

end ModelRecord

end QuantEngine.Learning
