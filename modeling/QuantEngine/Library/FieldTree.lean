import Mathlib.Data.List.Basic

set_option autoImplicit false

namespace QuantEngine

-- An object whose fields are values or objects again.
inductive FieldTree (V : Type) where
  | value (v : V)
  | object (fields : List (String × FieldTree V))

namespace FieldTree

variable {V : Type}

-- `getattr(node, name, None)`.
def field (node : FieldTree V) (name : String) : Option (FieldTree V) :=
  match node with
  | .value _ => none
  | .object fields => (fields.find? (fun entry => decide (entry.1 = name))).map Prod.snd

def replaced (name : String) (new : FieldTree V) (entry : String × FieldTree V) : String × FieldTree V :=
  if entry.1 = name then (name, new) else entry

-- `setattr(node, name, new)`, of a field that the node has.
def setField (node : FieldTree V) (name : String) (new : FieldTree V) : Option (FieldTree V) :=
  match node with
  | .value _ => none
  | .object fields =>
      if fields.any (fun entry => decide (entry.1 = name)) then some (.object (fields.map (replaced name new))) else none

def get : FieldTree V → List String → Option (FieldTree V)
  | node, [] => some node
  | node, part :: rest => (node.field part).bind (fun child => child.get rest)

-- Writes a value at the end of a path.
def set : FieldTree V → List String → V → Option (FieldTree V)
  | _, [], _ => none
  | node, [part], v => node.setField part (.value v)
  | node, part :: next :: rest, v =>
      (node.field part).bind (fun child => (child.set (next :: rest) v).bind (fun written => node.setField part written))

def valueAt (node : FieldTree V) (path : List String) : Option V :=
  match node.get path with
  | some (.value v) => some v
  | _ => none

theorem find_replaced (name other : String) (new : FieldTree V) (fields : List (String × FieldTree V)) :
    (fields.map (replaced name new)).find? (fun entry => decide (entry.1 = other)) =
      if other = name then (fields.find? (fun entry => decide (entry.1 = name))).map (fun _ => (name, new))
      else fields.find? (fun entry => decide (entry.1 = other)) := by
  induction fields with
  | nil => simp
  | cons entry rest ih =>
      rw [List.map_cons, List.find?_cons, ih]
      by_cases here : entry.1 = name
      · by_cases same : other = name
        · simp [replaced, here, same]
        · have apart : name ≠ other := fun equal => same equal.symm
          simp [replaced, here, same, apart]
      · by_cases same : other = name
        · simp [replaced, here, same]
        · by_cases found : entry.1 = other <;> simp [replaced, here, same, found]

theorem set_field_cases (node : FieldTree V) (name : String) (new written : FieldTree V)
    (done : node.setField name new = some written) :
    ∃ fields, node = .object fields ∧ fields.any (fun entry => decide (entry.1 = name)) = true ∧
      written = .object (fields.map (replaced name new)) := by
  cases node with
  | value v => cases done
  | object fields =>
      rw [setField] at done
      split at done
      · exact ⟨fields, rfl, by assumption, (Option.some.inj done).symm⟩
      · cases done

theorem field_set_here (node : FieldTree V) (name : String) (new written : FieldTree V)
    (done : node.setField name new = some written) : written.field name = some new := by
  obtain ⟨fields, rfl, present, rfl⟩ := set_field_cases node name new written done
  obtain ⟨entry, found⟩ := Option.isSome_iff_exists.mp (List.find?_isSome.mpr (List.any_eq_true.mp present))
  rw [field, find_replaced, if_pos rfl, found]
  rfl

theorem field_set_other (node : FieldTree V) (name other : String) (new written : FieldTree V) (apart : other ≠ name)
    (done : node.setField name new = some written) : written.field other = node.field other := by
  obtain ⟨fields, rfl, -, rfl⟩ := set_field_cases node name new written done
  rw [field, find_replaced, if_neg apart]
  rfl

theorem set_field_of_field (node : FieldTree V) (name : String) (new child : FieldTree V)
    (present : node.field name = some child) : ∃ written, node.setField name new = some written := by
  cases node with
  | value v => cases present
  | object fields =>
      obtain ⟨entry, found, -⟩ := Option.map_eq_some_iff.mp present
      have any : fields.any (fun entry => decide (entry.1 = name)) = true :=
        List.any_eq_true.mpr (List.find?_isSome.mp (Option.isSome_of_mem found))
      exact ⟨_, by rw [setField, if_pos any]⟩

-- What is there is written over.
theorem set_of_get (path : List String) (node below : FieldTree V) (v : V) (nonempty : path ≠ [])
    (present : node.get path = some below) : ∃ written, node.set path v = some written ∧ written.get path = some (.value v) := by
  induction path generalizing node with
  | nil => exact absurd rfl nonempty
  | cons part rest ih =>
      obtain ⟨child, here, later⟩ := Option.bind_eq_some_iff.mp present
      cases rest with
      | nil =>
          obtain ⟨written, done⟩ := set_field_of_field node part (.value v) child here
          exact ⟨written, done, by rw [get, field_set_here node part _ written done]; rfl⟩
      | cons next rest =>
          obtain ⟨inner, within, read⟩ := ih child (List.cons_ne_nil next rest) later
          obtain ⟨written, done⟩ := set_field_of_field node part inner child here
          refine ⟨written, ?_, ?_⟩
          · simp [set, here, within, done]
          · rw [get, field_set_here node part inner written done]
            exact read

def Apart (first second : List String) : Prop := ¬ first <+: second ∧ ¬ second <+: first

-- A path of objects to a setting, where no setting has the name of an object.
def Setting (objects : List String) (path : List String) : Prop :=
  (∃ last ∈ path.getLast?, last ∉ objects) ∧ ∀ part ∈ path.dropLast, part ∈ objects

instance (objects path : List String) : Decidable (Setting objects path) := inferInstanceAs (Decidable (_ ∧ _))

theorem setting_not_below (objects first second : List String) (here : Setting objects first) (there : Setting objects second)
    (within : first <+: second) : first = second := by
  obtain ⟨⟨last, final, own⟩, -⟩ := here
  obtain ⟨-, inner⟩ := there
  obtain ⟨rest, rfl⟩ := within
  cases rest with
  | nil => rw [List.append_nil]
  | cons part others =>
      have early : last ∈ (first ++ part :: others).dropLast := by
        rw [List.dropLast_append_of_ne_nil (List.cons_ne_nil part others)]
        exact List.mem_append_left _ (List.mem_of_getLast? final)
      exact absurd (inner last early) own

theorem settings_apart (objects first second : List String) (here : Setting objects first) (there : Setting objects second)
    (different : first ≠ second) : Apart first second :=
  ⟨fun within => different (setting_not_below objects first second here there within),
    fun within => different (setting_not_below objects second first there here within).symm⟩

theorem get_set_apart (path other : List String) (node written : FieldTree V) (v : V) (apart : Apart path other)
    (done : node.set path v = some written) : written.get other = node.get other := by
  induction path generalizing node written other with
  | nil => exact absurd List.nil_prefix apart.1
  | cons part rest ih =>
      cases other with
      | nil => exact absurd List.nil_prefix apart.2
      | cons first others =>
          by_cases same : first = part
          · subst same
            have below : Apart rest others :=
              ⟨fun within => apart.1 (List.cons_prefix_cons.mpr ⟨rfl, within⟩),
                fun within => apart.2 (List.cons_prefix_cons.mpr ⟨rfl, within⟩)⟩
            cases rest with
            | nil => exact absurd List.nil_prefix below.1
            | cons next rest =>
                obtain ⟨child, here, done⟩ := Option.bind_eq_some_iff.mp done
                obtain ⟨inner, within, done⟩ := Option.bind_eq_some_iff.mp done
                rw [get, get, field_set_here node first inner written done, here]
                exact ih others child inner below within
          · cases rest with
            | nil => rw [get, get, field_set_other node part first _ written same done]
            | cons next rest =>
                obtain ⟨child, here, done⟩ := Option.bind_eq_some_iff.mp done
                obtain ⟨inner, within, done⟩ := Option.bind_eq_some_iff.mp done
                rw [get, get, field_set_other node part first inner written same done]

def fields : FieldTree V → List (String × FieldTree V)
  | .value _ => []
  | .object fields => fields

-- Writes a value at the end of a path, through objects that are made where there are none.
def put : FieldTree V → List String → V → FieldTree V
  | _, [], v => .value v
  | node, part :: rest, v => .object ((part, ((node.field part).getD (.object [])).put rest v) :: node.fields)

theorem get_put_here (path : List String) (node : FieldTree V) (v : V) : (node.put path v).get path = some (.value v) := by
  induction path generalizing node with
  | nil => rfl
  | cons part rest ih => simp [put, get, field, ih]

theorem get_put_apart (path other : List String) (node : FieldTree V) (v : V) (apart : Apart path other) :
    (node.put path v).get other = node.get other := by
  induction path generalizing node other with
  | nil => exact absurd List.nil_prefix apart.1
  | cons part rest ih =>
      cases other with
      | nil => exact absurd List.nil_prefix apart.2
      | cons first others =>
          by_cases same : part = first
          · subst same
            have below : Apart rest others :=
              ⟨fun within => apart.1 (List.cons_prefix_cons.mpr ⟨rfl, within⟩),
                fun within => apart.2 (List.cons_prefix_cons.mpr ⟨rfl, within⟩)⟩
            have here : (node.put (part :: rest) v).field part = some (((node.field part).getD (.object [])).put rest v) := by
              simp [put, field]
            rw [get, get, here, Option.bind_some, ih others _ below]
            cases node.field part with
            | some tree => rfl
            | none =>
                cases others with
                | nil => exact absurd List.nil_prefix below.2
                | cons next others => rfl
          · have fields : (node.put (part :: rest) v).field first = node.field first := by
              cases node <;> simp [put, field, FieldTree.fields, same]
            rw [get, get, fields]

theorem value_put_here (path : List String) (node : FieldTree V) (v : V) : (node.put path v).valueAt path = some v := by
  rw [valueAt, get_put_here]

theorem value_put_apart (path other : List String) (node : FieldTree V) (v : V) (apart : Apart path other) :
    (node.put path v).valueAt other = node.valueAt other := by
  rw [valueAt, valueAt, get_put_apart path other node v apart]

theorem value_set_here (path : List String) (node : FieldTree V) (v : V) (nonempty : path ≠ [])
    (present : (node.valueAt path).isSome = true) :
    ∃ written, node.set path v = some written ∧ written.valueAt path = some v := by
  rw [valueAt] at present
  cases below : node.get path with
  | none => simp [below] at present
  | some tree =>
      obtain ⟨written, done, read⟩ := set_of_get path node tree v nonempty below
      exact ⟨written, done, by rw [valueAt, read]⟩

theorem value_set_apart (path other : List String) (node written : FieldTree V) (v : V) (apart : Apart path other)
    (done : node.set path v = some written) : written.valueAt other = node.valueAt other := by
  rw [valueAt, valueAt, get_set_apart path other node written v apart done]

end FieldTree

end QuantEngine
