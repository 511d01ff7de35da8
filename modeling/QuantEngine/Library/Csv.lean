import QuantEngine.Library.Fallible
import QuantEngine.Library.Json

set_option autoImplicit false

-- Python's `csv` with the dialect `excel`.
namespace QuantEngine.Csv

inductive State where
  | startRecord
  | startField
  | inField
  | inQuotedField
  | quoteInQuotedField
  | eatNewline
deriving DecidableEq

structure Reader where
  state : State := .startRecord
  field : List Char := []
  fields : List String := []

def fieldLimit : Nat := 131072

def Reader.save (reader : Reader) (state : State) : Reader :=
  { state := state, fields := reader.fields ++ [String.ofList reader.field] }

-- `_csv.Error`.
def csvError : PyError := .other "Error"

-- A field may be too large.
def Reader.add (reader : Reader) (c : Char) (state : State) : Except PyError Reader :=
  if fieldLimit ≤ reader.field.length then .error csvError
  else .ok { reader with field := reader.field ++ [c], state := state }

-- What ends a field that is not in quotes: the end of the line is `none`.
def Reader.close (reader : Reader) (c : Option Char) : Option Reader :=
  match c with
  | none => some (reader.save .startRecord)
  | some c => if c = '\n' ∨ c = '\r' then some (reader.save .eatNewline) else if c = ',' then some (reader.save .startField) else none

def Reader.enter (reader : Reader) (c : Option Char) : Except PyError Reader :=
  match reader.close c, c with
  | some closed, _ => .ok closed
  | none, some '"' => .ok { reader with state := .inQuotedField }
  | none, some c => reader.add c .inField
  | none, none => .ok reader

def Reader.step (reader : Reader) (c : Option Char) : Except PyError Reader :=
  match reader.state with
  | .startRecord => match c with
    | none => .ok reader
    | some c => if c = '\n' ∨ c = '\r' then .ok { reader with state := .eatNewline } else reader.enter (some c)
  | .startField => reader.enter c
  | .inField => match reader.close c, c with
    | some closed, _ => .ok closed
    | none, some c => reader.add c .inField
    | none, none => .ok reader
  | .inQuotedField => match c with
    | none => .ok reader
    | some '"' => .ok { reader with state := .quoteInQuotedField }
    | some c => reader.add c .inQuotedField
  | .quoteInQuotedField => match c with
    | some '"' => reader.add '"' .inQuotedField
    | c => match reader.close c, c with
      | some closed, _ => .ok closed
      | none, some c => reader.add c .inField
      | none, none => .ok reader
  | .eatNewline => match c with
    | none => .ok { reader with state := .startRecord }
    | some c => if c = '\n' ∨ c = '\r' then .ok reader else .error csvError

-- The lines of a file opened with `newline=""`, each with its end.
def linesFrom : List Char → List Char → List (List Char)
  | line, [] => if line = [] then [] else [line]
  | line, '\r' :: '\n' :: rest => (line ++ ['\r', '\n']) :: linesFrom [] rest
  | line, c :: rest => if c = '\n' ∨ c = '\r' then (line ++ [c]) :: linesFrom [] rest else linesFrom (line ++ [c]) rest

def fileLines (chars : List Char) : List (List Char) := linesFrom [] chars

-- `csv.reader`; a record in quotes goes on over the end of a line, and over the
-- end of the file.
def recordsFrom : Reader → List (List Char) → Except PyError (List (List String))
  | reader, [] => .ok (if reader.field ≠ [] ∨ reader.state = .inQuotedField then [(reader.save .startRecord).fields] else [])
  | reader, line :: rest => do
      let next ← (line.map some ++ [none]).foldlM Reader.step reader
      if next.state = .startRecord then do
        let later ← recordsFrom {} rest
        pure (next.fields :: later)
      else recordsFrom next rest

def records (chars : List Char) : Except PyError (List (List String)) := recordsFrom {} (fileLines chars)

-- A row of `csv.DictReader`: what a record has too little of is `None`, and what
-- it has too much of is a list under the key `None`.
structure DictRow where
  named : List (String × String)
  missing : List String
  surplus : Option (List String)

def dictRow (header record : List String) : DictRow where
  named := header.zip record
  missing := header.drop record.length
  surplus := if header.length < record.length then some (record.drop header.length) else none

-- Records without a field are skipped.
def dictRows (chars : List Char) : Except PyError (List DictRow) := do
  let all ← records chars
  match all with
  | [] => pure []
  | header :: rest => pure ((rest.filter (fun record => !record.isEmpty)).map (dictRow header))

theorem add_raises (reader : Reader) (c : Char) (state : State) (error : PyError) (failed : reader.add c state = .error error) :
    error = csvError := by
  rw [Reader.add] at failed
  split at failed
  · exact (Except.error.inj failed).symm
  · exact nomatch failed

theorem enter_raises (reader : Reader) (c : Option Char) (error : PyError) (failed : reader.enter c = .error error) :
    error = csvError := by
  unfold Reader.enter at failed
  split at failed
  · exact nomatch failed
  · exact nomatch failed
  · exact add_raises _ _ _ error failed
  · exact nomatch failed

theorem step_raises (reader : Reader) (c : Option Char) (error : PyError) (failed : reader.step c = .error error) :
    error = csvError := by
  unfold Reader.step at failed
  split at failed
  · split at failed
    · exact nomatch failed
    · split at failed
      · exact nomatch failed
      · exact enter_raises _ _ error failed
  · exact enter_raises _ _ error failed
  · split at failed
    · exact nomatch failed
    · exact add_raises _ _ _ error failed
    · exact nomatch failed
  · split at failed
    · exact nomatch failed
    · exact nomatch failed
    · exact add_raises _ _ _ error failed
  · split at failed
    · exact add_raises _ _ _ error failed
    · split at failed
      · exact nomatch failed
      · exact add_raises _ _ _ error failed
      · exact nomatch failed
  · split at failed
    · exact nomatch failed
    · split at failed
      · exact nomatch failed
      · exact (Except.error.inj failed).symm

theorem records_raises (reader : Reader) (lines : List (List Char)) (error : PyError) (failed : recordsFrom reader lines = .error error) :
    error = csvError := by
  induction lines generalizing reader with
  | nil => exact nomatch failed
  | cons line rest ih =>
      rw [recordsFrom] at failed
      rcases (Fallible.then_error_iff _ _ _).mp failed with first | ⟨next, -, later⟩
      · exact Fallible.fold_raises Reader.step (fun error => error = csvError) step_raises _ reader error first
      · split at later
        · rcases (Fallible.then_error_iff _ _ _).mp later with inside | ⟨others, -, made⟩
          · exact ih _ inside
          · exact nomatch made
        · exact ih next later

theorem rows_raises (chars : List Char) (error : PyError) (failed : dictRows chars = .error error) : error = csvError := by
  rcases (Fallible.then_error_iff _ _ _).mp failed with first | ⟨all, -, made⟩
  · exact records_raises {} (fileLines chars) error first
  · split at made
    · exact nomatch made
    · exact nomatch made

example : (records "a,b\r\n1,\"x \"\"y\"\"\nz\"\n\n2".toList).toOption =
    some [["a", "b"], ["1", "x \"y\"\nz"], [], ["2"]] := by decide

end QuantEngine.Csv
