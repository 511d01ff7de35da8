import QuantEngine.Library.Text

set_option autoImplicit false

namespace QuantEngine

-- A parsed document. Integers and floats are apart, as in Python.
inductive Json (F : Type) where
  | null
  | bool (value : Bool)
  | int (value : Int)
  | float (value : F)
  | str (text : String)
  | arr (items : List (Json F))
  | obj (members : List (String × Json F))

-- The kinds of exceptions; JSON text that does not parse is a `ValueError`.
inductive PyError where
  | os
  | value
  | key
  | type
  | attribute
  | overflow
  | recursion
  | other (name : String)
deriving DecidableEq

-- What the conversions need to know of floats: `ofInt` raises where the integer
-- is too large, `truncate` on an infinity or NaN, and `render` is `str()` of all
-- that is no text.
class PyFloat (F : Type) where
  ofInt : Int → Except PyError F
  ofText : String → Option F
  truncate : F → Except PyError Int
  isZero : F → Bool
  render : Json F → String

namespace Json

variable {F : Type}

def keys : List (String × Json F) → List String := List.map Prod.fst

def member (members : List (String × Json F)) (name : String) : Option (Json F) :=
  (members.find? (fun entry => decide (entry.1 = name))).map Prod.snd

-- `data.get(name, default)`.
def get (data : Json F) (name : String) (default : Json F) : Except PyError (Json F) :=
  match data with
  | .obj members => .ok ((member members name).getD default)
  | _ => .error .attribute

-- `data[name]`.
def item (data : Json F) (name : String) : Except PyError (Json F) :=
  match data with
  | .obj members => match member members name with
    | some value => .ok value
    | none => .error .key
  | _ => .error .type

-- `data.items()`.
def items (data : Json F) : Except PyError (List (String × Json F)) :=
  match data with
  | .obj members => .ok members
  | _ => .error .attribute

-- `name in data`.
def contains (data : Json F) (name : String) : Except PyError Bool :=
  match data with
  | .obj members => .ok (member members name).isSome
  | .arr items => .ok (items.any (fun item => match item with
      | .str text => decide (text = name)
      | _ => false))
  | .str text => .ok (Text.occurs name.toList text.toList)
  | _ => .error .type

-- `for item in data`.
def iterate (data : Json F) : Except PyError (List (Json F)) :=
  match data with
  | .arr items => .ok items
  | .obj members => .ok (members.map (fun entry => .str entry.1))
  | .str text => .ok (text.toList.map (fun c => .str (String.singleton c)))
  | _ => .error .type

section

variable [PyFloat F]

-- `float(data)`.
def toFloat (data : Json F) : Except PyError F :=
  match data with
  | .float value => .ok value
  | .int value => PyFloat.ofInt value
  | .bool value => PyFloat.ofInt (if value then 1 else 0)
  | .str text => match PyFloat.ofText text with
    | some value => .ok value
    | none => .error .value
  | _ => .error .type

-- `int(data)`.
def toInt (data : Json F) : Except PyError Int :=
  match data with
  | .int value => .ok value
  | .float value => PyFloat.truncate value
  | .bool value => .ok (if value then 1 else 0)
  | .str text => match Text.parseInt text with
    | some value => .ok value
    | none => .error .value
  | _ => .error .type

-- `[(name, float(value)) for name, value in items]`.
def floatItems : List (String × Json F) → Except PyError (List (String × F))
  | [] => .ok []
  | (name, data) :: rest => do
      let value ← toFloat data
      let others ← floatItems rest
      .ok ((name, value) :: others)

-- `str(data)`.
def toText (data : Json F) : String :=
  match data with
  | .str text => text
  | other => PyFloat.render other

-- `bool(data)`.
def toBool (data : Json F) : Bool :=
  match data with
  | .null => false
  | .bool value => value
  | .int value => decide (value ≠ 0)
  | .float value => !PyFloat.isZero value
  | .str text => decide (text ≠ "")
  | .arr items => !items.isEmpty
  | .obj members => !members.isEmpty

end

-- A step that succeeds. It is no rewrite by definition, so that the kernel does
-- not evaluate the whole document to follow it.
theorem ok_bind {α β : Type} (a : α) (f : α → Except PyError β) : (Except.ok a >>= f) = f a := (rfl)

-- `try: return result`, where the `except` returns `None` on what it handles.
def attempt {α : Type} (handled : PyError → Bool) (result : Except PyError α) : Except PyError (Option α) :=
  match result with
  | .ok value => .ok (some value)
  | .error raised => if handled raised then .ok none else .error raised

@[simp] theorem attempt_ok {α : Type} (handled : PyError → Bool) (value : α) :
    attempt handled (.ok value) = .ok (some value) := rfl

theorem attempt_handled {α : Type} (handled : PyError → Bool) (raised : PyError) (known : handled raised = true) :
    attempt handled (.error raised : Except PyError α) = .ok none := if_pos known

theorem attempt_raised {α : Type} (handled : PyError → Bool) (raised : PyError) (unknown : handled raised = false) :
    attempt handled (.error raised : Except PyError α) = .error raised := by
  rw [attempt, unknown]
  rfl

-- `[f(item) for item in data]`, up to the first that raises.
def mapAll {α : Type} (f : Json F → Except PyError α) : List (Json F) → Except PyError (List α)
  | [] => .ok []
  | item :: rest => do
      let first ← f item
      let others ← mapAll f rest
      .ok (first :: others)

@[simp] theorem member_here (name : String) (value : Json F) (rest : List (String × Json F)) :
    member ((name, value) :: rest) name = some value := by
  simp [member]

@[simp] theorem member_later (name other : String) (value : Json F) (rest : List (String × Json F)) (apart : other ≠ name) :
    member ((other, value) :: rest) name = member rest name := by
  simp [member, apart]

-- What an encoder makes of a list is read back by any inverse of it.
theorem map_all_inverse {α : Type} (encode : α → Json F) (decode : Json F → Except PyError α) (items : List α)
    (inverse : ∀ item ∈ items, decode (encode item) = .ok item) : mapAll decode (items.map encode) = .ok items := by
  induction items with
  | nil => rfl
  | cons item rest ih =>
      rw [List.map_cons, mapAll, inverse item List.mem_cons_self,
        ih (fun other later => inverse other (List.mem_cons_of_mem _ later))]
      rfl

theorem float_items_read [PyFloat F] (items : List (String × F)) :
    floatItems (items.map (fun entry => (entry.1, Json.float entry.2))) = .ok items := by
  induction items with
  | nil => rfl
  | cons entry rest ih => simp only [List.map_cons, floatItems, toFloat, ih, bind, Except.bind]

end Json

end QuantEngine
