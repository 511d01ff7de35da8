import QuantEngine.Library.Deque
import QuantEngine.Library.Dict
import QuantEngine.Library.Json

set_option autoImplicit false

namespace QuantEngine.Learning

inductive ModelState where
  | training
  | evaluated
  | approved
  | active
  | archived
  | rejected
deriving DecidableEq

def ModelState.value : ModelState → String
  | .training => "training"
  | .evaluated => "evaluated"
  | .approved => "approved"
  | .active => "active"
  | .archived => "archived"
  | .rejected => "rejected"

def ModelState.all : List ModelState := [.training, .evaluated, .approved, .active, .archived, .rejected]

structure ModelRecord (F : Type) where
  id : String
  version : String
  modelType : String
  dataset : List (String × Json F)
  params : List (String × Json F)
  metrics : List (String × F)
  state : ModelState := .evaluated
  author : String := "system"
  result : String := ""
  active : Bool := false
  featureNames : List String := []
  createdAt : String

inductive AuditAction where
  | register
  | approve
  | reject
  | activate
  | rollback
deriving DecidableEq

structure AuditEntry (F : Type) where
  action : AuditAction
  modelId : String
  at_ : String
  detail : List (String × Json F)

-- Where ids are drawn from: no two draws coincide.
structure IdSource where
  draw : Nat → String
  distinct : Function.Injective draw

-- What the registry asks a model for.
class ModelKind (F M : Type) where
  modelType : M → String
  params : M → List (String × Json F)

structure ModelRegistry (F M : Type) where
  records : Dict String (ModelRecord F) := .empty
  order : List String := []
  models : Dict String M := .empty
  activeId : Option String := none
  activationStack : List String := []
  audit : List (AuditEntry F) := []
  drawn : Nat := 0

-- The arguments of `register`, but for the model.
structure Registration (F : Type) where
  metrics : List (String × F)
  dataset : List (String × Json F)
  featureNames : List String
  params : Option (List (String × Json F)) := none
  author : String := "system"
  result : String := ""
  state : ModelState := .evaluated

namespace ModelRegistry

variable {F M : Type}

def stackLimit : Nat := 50

def versionText (number : Nat) : String := toString number ++ ".0"

def nextVersion (registry : ModelRegistry F M) (modelType : String) : String :=
  versionText ((registry.records.values.filter (fun record => decide (record.modelType = modelType))).length + 1)

def logAudit (registry : ModelRegistry F M) (action : AuditAction) (modelId now : String) (detail : List (String × Json F)) :
    ModelRegistry F M :=
  { registry with audit := registry.audit ++ [⟨action, modelId, now, detail⟩] }

def optionText (text : Option String) : Json F :=
  match text with
  | some text => .str text
  | none => .null

def register [ModelKind F M] (ids : IdSource) (registry : ModelRegistry F M) (model : M) (given : Registration F)
    (now : String) : ModelRecord F × ModelRegistry F M :=
  let id := ids.draw registry.drawn
  let record : ModelRecord F :=
    { id := id
      version := registry.nextVersion (ModelKind.modelType F model)
      modelType := ModelKind.modelType F model
      dataset := given.dataset
      params := given.params.getD (ModelKind.params model)
      metrics := given.metrics
      state := given.state
      author := given.author
      result := given.result
      featureNames := given.featureNames
      createdAt := now }
  let registered := { registry with
    records := registry.records.insert id record
    order := registry.order ++ [id]
    models := registry.models.insert id model
    drawn := registry.drawn + 1 }
  (record, registered.logAudit .register id now [("version", .str record.version)])

-- A record is one object, changed in place.
def change (registry : ModelRegistry F M) (id : String) (f : ModelRecord F → ModelRecord F) : ModelRegistry F M :=
  { registry with records := registry.records.modify id f }

-- `none` where the id is unknown, which raises.
def approve (registry : ModelRegistry F M) (id reasons now : String) : Option (ModelRecord F) × ModelRegistry F M :=
  match registry.records.lookup id with
  | none => (none, registry)
  | some _ =>
      let approved := registry.change id (fun record =>
        { record with state := .approved, result := if reasons = "" then record.result else reasons })
      (approved.records.lookup id, approved.logAudit .approve id now [("reasons", .str reasons)])

def reject (registry : ModelRegistry F M) (id reasons now : String) : Option (ModelRecord F) × ModelRegistry F M :=
  match registry.records.lookup id with
  | none => (none, registry)
  | some _ =>
      let rejected := registry.change id (fun record => { record with state := .rejected, result := reasons })
      (rejected.records.lookup id, rejected.logAudit .reject id now [("reasons", .str reasons)])

def archived (record : ModelRecord F) : ModelRecord F := { record with active := false, state := .archived }

def activated (record : ModelRecord F) : ModelRecord F := { record with active := true, state := .active }

def activate (registry : ModelRegistry F M) (id now : String) : Option (ModelRecord F) × ModelRegistry F M :=
  match registry.records.lookup id with
  | none => (none, registry)
  | some _ =>
      let left := match registry.activeId with
        | some previous =>
            if previous ∈ registry.records.keys ∧ previous ≠ id then
              { registry.change previous archived with
                activationStack := Deque.push stackLimit registry.activationStack previous }
            else registry
        | none => registry
      let chosen := { left.change id activated with activeId := some id }
      (chosen.records.lookup id, chosen.logAudit .activate id now [("previous", optionText registry.activeId)])

-- `pop` takes the newest. `none` where there is nothing to go back to.
def rollback (registry : ModelRegistry F M) (now : String) : Option (ModelRecord F) × ModelRegistry F M :=
  match registry.activationStack.getLast? with
  | none => (none, registry)
  | some restore =>
      let popped := { registry with activationStack := registry.activationStack.dropLast }
      match registry.records.lookup restore with
      | none => (none, popped)
      | some _ =>
          let left := match registry.activeId with
            | some current => popped.change current archived
            | none => popped
          let restored := { left.change restore activated with activeId := some restore }
          (restored.records.lookup restore, restored.logAudit .rollback restore now [("from", optionText registry.activeId)])

def activeRecord (registry : ModelRegistry F M) : Option (ModelRecord F) := registry.activeId.bind registry.records.lookup

def activeModel (registry : ModelRegistry F M) : Option M := registry.activeId.bind registry.models.lookup

end ModelRegistry

inductive RegistryCall (F M : Type) where
  | register (model : M) (given : Registration F) (now : String)
  | approve (id reasons now : String)
  | reject (id reasons now : String)
  | activate (id now : String)
  | rollback (now : String)

variable {F M : Type}

def RegistryCall.apply [ModelKind F M] (ids : IdSource) (registry : ModelRegistry F M) : RegistryCall F M → ModelRegistry F M
  | .register model given now => (registry.register ids model given now).2
  | .approve id reasons now => (registry.approve id reasons now).2
  | .reject id reasons now => (registry.reject id reasons now).2
  | .activate id now => (registry.activate id now).2
  | .rollback now => (registry.rollback now).2

end QuantEngine.Learning
