import Mathlib.Data.List.Basic
import QuantEngine.Library.Json

set_option autoImplicit false

namespace QuantEngine.Quoted

-- `text.replace(old, new)` for one character.
def replace (old : Char) (new chars : List Char) : List Char := chars.flatMap (fun c => if c = old then new else [c])

def escapeChar (c : Char) : List Char :=
  if c = '\\' then ['\\', '\\'] else if c = '"' then ['\\', '"'] else if c = '\n' then ['\\', 'n'] else [c]

def unescapeChar (c : Char) : Char := if c = 'n' then '\n' else c

-- Up to the closing quote, and what comes after it.
def readQuoted : List Char → Option (List Char × List Char)
  | [] => none
  | ['\\'] => none
  | '"' :: rest => some ([], rest)
  | '\\' :: c :: rest => (readQuoted rest).map (fun read => (unescapeChar c :: read.1, read.2))
  | c :: rest => (readQuoted rest).map (fun read => (c :: read.1, read.2))

-- Backslashes first, so that none of those written for the others is doubled.
theorem replace_thrice (chars : List Char) :
    replace '\n' ['\\', 'n'] (replace '"' ['\\', '"'] (replace '\\' ['\\', '\\'] chars)) = chars.flatMap escapeChar := by
  rw [replace, replace, replace, List.flatMap_assoc, List.flatMap_assoc]
  refine List.flatMap_congr (fun c _ => ?_)
  rw [escapeChar]
  by_cases slash : c = '\\'
  · rw [if_pos slash, if_pos slash]
    rfl
  · rw [if_neg slash, if_neg slash]
    by_cases quote : c = '"'
    · rw [if_pos quote, quote]
      rfl
    · rw [if_neg quote, List.flatMap_singleton, if_neg quote, List.flatMap_singleton]

theorem read_quoted (value rest : List Char) : readQuoted (value.flatMap escapeChar ++ '"' :: rest) = some (value, rest) := by
  induction value with
  | nil => rfl
  | cons c value ih =>
      rw [List.flatMap_cons, List.append_assoc, escapeChar]
      by_cases slash : c = '\\'
      · rw [if_pos slash, slash]
        simp [readQuoted, ih, unescapeChar]
      · rw [if_neg slash]
        by_cases quote : c = '"'
        · rw [if_pos quote, quote]
          simp [readQuoted, ih, unescapeChar]
        · rw [if_neg quote]
          by_cases line : c = '\n'
          · rw [if_pos line, line]
            simp [readQuoted, ih, unescapeChar]
          · rw [if_neg line]
            simp [readQuoted, slash, ih]

theorem escaped_on_one_line (value : List Char) : '\n' ∉ value.flatMap escapeChar := by
  intro broken
  obtain ⟨c, -, inside⟩ := List.mem_flatMap.mp broken
  rw [escapeChar] at inside
  split at inside
  · simp at inside
  · split at inside
    · simp at inside
    · split at inside
      · simp at inside
      · rename_i plain
        exact plain (List.mem_singleton.mp inside).symm

end QuantEngine.Quoted

namespace QuantEngine.JsonText

-- How floats are written: as decimals, none of which is the text of an integer.
structure FloatText (F : Type) where
  text : F → List Char
  injective : ∀ a b, text a = text b → a = b
  plain : ∀ value, ∀ c ∈ text value, c.isDigit = true ∨ c ∈ ['-', '+', '.', 'e']
  leading : ∀ value, ∃ c rest, text value = c :: rest ∧ (c.isDigit = true ∨ c = '-')
  fractional : ∀ value, '.' ∈ text value ∨ 'e' ∈ text value

def hexDigit (n : Nat) : Char := if n < 10 then Char.ofNat (48 + n) else Char.ofNat (87 + n)

def hexValue (c : Char) : Nat := if c.toNat < 58 then c.toNat - 48 else c.toNat - 87

def escape (c : Char) : List Char :=
  if c = '"' then ['\\', '"']
  else if c = '\\' then ['\\', '\\']
  else if c = '\n' then ['\\', 'n']
  else if c = '\r' then ['\\', 'r']
  else if c = '\t' then ['\\', 't']
  else if c = '\x0c' then ['\\', 'f']
  else if c = '\x08' then ['\\', 'b']
  else if c.toNat < 32 then ['\\', 'u', '0', '0', hexDigit (c.toNat / 16), hexDigit (c.toNat % 16)]
  else [c]

def writeText (text : String) : List Char := '"' :: (text.toList.flatMap escape ++ ['"'])

section

variable {F : Type} (floats : FloatText F)

mutual
def write : Json F → List Char
  | .null => ['n', 'u', 'l', 'l']
  | .bool true => ['t', 'r', 'u', 'e']
  | .bool false => ['f', 'a', 'l', 's', 'e']
  | .int value => (toString value).toList
  | .float value => floats.text value
  | .str text => writeText text
  | .arr items => '[' :: writeItems [] items
  | .obj members => '\x7b' :: writeMembers [] members

-- What stands before an item: nothing for the first, a comma for the others.
def writeItems (before : List Char) : List (Json F) → List Char
  | [] => [']']
  | item :: rest => before ++ (write item ++ writeItems [',', ' '] rest)

def writeMembers (before : List Char) : List (String × Json F) → List Char
  | [] => ['\x7d']
  | (name, value) :: rest =>
      before ++ (writeText name ++ (':' :: ' ' :: (write value ++ writeMembers [',', ' '] rest)))
end

-- `json.dumps` without escapes for what is not ASCII.
def dumps (data : Json F) : String := String.ofList (write floats data)

end

-- One character of a text, and what comes after it.
def readChar : List Char → Option (Char × List Char)
  | '\\' :: 'u' :: _ :: _ :: high :: low :: rest => some (Char.ofNat (16 * hexValue high + hexValue low), rest)
  | '\\' :: 'n' :: rest => some ('\n', rest)
  | '\\' :: 'r' :: rest => some ('\r', rest)
  | '\\' :: 't' :: rest => some ('\t', rest)
  | '\\' :: 'f' :: rest => some ('\x0c', rest)
  | '\\' :: 'b' :: rest => some ('\x08', rest)
  | '\\' :: c :: rest => some (c, rest)
  | c :: rest => some (c, rest)
  | [] => none

theorem hex_value_digit (n : Nat) (small : n < 16) : hexValue (hexDigit n) = n := by
  have every : ∀ m : Fin 16, hexValue (hexDigit m) = m := by decide
  exact every ⟨n, small⟩

theorem read_escape (c : Char) (rest : List Char) : readChar (escape c ++ rest) = some (c, rest) := by
  rw [escape]
  by_cases quote : c = '"'
  · rw [if_pos quote, quote]
    rfl
  rw [if_neg quote]
  by_cases slash : c = '\\'
  · rw [if_pos slash, slash]
    rfl
  rw [if_neg slash]
  by_cases line : c = '\n'
  · rw [if_pos line, line]
    rfl
  rw [if_neg line]
  by_cases return_ : c = '\r'
  · rw [if_pos return_, return_]
    rfl
  rw [if_neg return_]
  by_cases tab : c = '\t'
  · rw [if_pos tab, tab]
    rfl
  rw [if_neg tab]
  by_cases feed : c = '\x0c'
  · rw [if_pos feed, feed]
    rfl
  rw [if_neg feed]
  by_cases back : c = '\x08'
  · rw [if_pos back, back]
    rfl
  rw [if_neg back]
  by_cases control : c.toNat < 32
  · have high := hex_value_digit (c.toNat / 16) (by omega)
    have low := hex_value_digit (c.toNat % 16) (by omega)
    have same : 16 * (c.toNat / 16) + c.toNat % 16 = c.toNat := by omega
    rw [if_pos control]
    change some (Char.ofNat (16 * hexValue _ + hexValue _), rest) = _
    rw [high, low, same, Char.ofNat_toNat]
  · rw [if_neg control, List.singleton_append, readChar.eq_def]
    split <;> simp_all

theorem escape_open (c : Char) : ∃ first others, escape c = first :: others ∧ first ≠ '"' := by
  by_cases quote : c = '"'
  · exact ⟨'\\', ['"'], by rw [escape, if_pos quote], by decide⟩
  · rw [escape, if_neg quote]
    split_ifs
    all_goals first | exact ⟨_, _, rfl, quote⟩ | exact ⟨_, _, rfl, by decide⟩

-- The closing quote is the first that is not escaped.
theorem text_unique (a b rest other : List Char)
    (same : a.flatMap escape ++ '"' :: rest = b.flatMap escape ++ '"' :: other) : a = b ∧ rest = other := by
  induction a generalizing b with
  | nil =>
      cases b with
      | nil => exact ⟨rfl, List.tail_eq_of_cons_eq same⟩
      | cons c b =>
          obtain ⟨first, others, open_, plain⟩ := escape_open c
          rw [List.flatMap_cons, open_] at same
          exact absurd (List.head_eq_of_cons_eq same).symm plain
  | cons d a ih =>
      cases b with
      | nil =>
          obtain ⟨first, others, open_, plain⟩ := escape_open d
          rw [List.flatMap_cons, open_] at same
          exact absurd (List.head_eq_of_cons_eq same) plain
      | cons c b =>
          rw [List.flatMap_cons, List.flatMap_cons, List.append_assoc, List.append_assoc] at same
          have read := congrArg readChar same
          rw [read_escape, read_escape] at read
          obtain ⟨rfl, further⟩ := Prod.mk.inj (Option.some.inj read)
          obtain ⟨rfl, after⟩ := ih b further
          exact ⟨rfl, after⟩

theorem write_text_unique (a b : String) (rest other : List Char) (same : writeText a ++ rest = writeText b ++ other) :
    a = b ∧ rest = other := by
  rw [writeText, writeText, List.cons_append, List.cons_append, List.append_assoc, List.append_assoc] at same
  obtain ⟨chars, after⟩ := text_unique _ _ rest other (List.tail_eq_of_cons_eq same)
  exact ⟨String.toList_inj.mp chars, after⟩

def numeric (c : Char) : Bool := c.isDigit || ['-', '+', '.', 'e'].contains c

-- What may follow a value.
def Stops (rest : List Char) : Prop := ∀ c ∈ rest.head?, numeric c = false

theorem number_unique (a b rest other : List Char) (first : ∀ c ∈ a, numeric c = true) (second : ∀ c ∈ b, numeric c = true)
    (stop : Stops rest) (stop' : Stops other) (same : a ++ rest = b ++ other) : a = b ∧ rest = other := by
  have taken (number rest : List Char) (plain : ∀ c ∈ number, numeric c = true) (stop : Stops rest) :
      (number ++ rest).takeWhile numeric = number := by
    rw [List.takeWhile_append_of_pos plain]
    cases rest with
    | nil => simp
    | cons c rest => simp [stop c rfl]
  have numbers : a = b := by rw [← taken a rest first stop, same, taken b other second stop']
  subst numbers
  exact ⟨rfl, List.append_cancel_left same⟩

theorem int_text (value : Int) :
    (toString value).toList = (if value < 0 then ['-'] else []) ++ Nat.toDigits 10 value.natAbs := by
  cases value with
  | ofNat n => simp [toString, Int.repr, Nat.repr]
  | negSucc n => simp [toString, Int.repr, Nat.repr]

theorem digits_chars (n : Nat) (c : Char) (member : c ∈ Nat.toDigits 10 n) : c.isDigit = true :=
  Nat.isDigit_of_mem_toDigits (by decide) (by decide) member

theorem digits_unique (a b : Nat) (same : Nat.toDigits 10 a = Nat.toDigits 10 b) : a = b := by
  rw [← Nat.ofDigitChars_ten_toDigits (n := a), same, Nat.ofDigitChars_ten_toDigits]

theorem digits_unsigned (n : Nat) (rest : List Char) : '-' :: rest ≠ Nat.toDigits 10 n := fun same =>
  absurd (digits_chars n '-' (same ▸ List.mem_cons_self)) (by decide)

theorem int_chars (value : Int) (c : Char) (member : c ∈ (toString value).toList) : c.isDigit = true ∨ c = '-' := by
  rw [int_text, List.mem_append] at member
  rcases member with sign | digit
  · split at sign
    · exact .inr (List.mem_singleton.mp sign)
    · cases sign
  · exact .inl (digits_chars _ c digit)

theorem int_some (value : Int) : (toString value).toList ≠ [] := by
  rw [int_text]
  exact List.append_ne_nil_of_right_ne_nil _ Nat.toDigits_ne_nil

theorem int_unique (a b : Int) (same : (toString a).toList = (toString b).toList) : a = b := by
  rw [int_text, int_text] at same
  by_cases first : a < 0
  · rw [if_pos first] at same
    by_cases second : b < 0
    · rw [if_pos second] at same
      have sizes := digits_unique _ _ (List.tail_eq_of_cons_eq same)
      omega
    · rw [if_neg second] at same
      exact absurd same (digits_unsigned _ _)
  · rw [if_neg first] at same
    by_cases second : b < 0
    · rw [if_pos second] at same
      exact absurd same.symm (digits_unsigned _ _)
    · rw [if_neg second] at same
      have sizes := digits_unique _ _ same
      omega

section Values

variable {F : Type} (floats : FloatText F)

theorem int_numeric (value : Int) (c : Char) (member : c ∈ (toString value).toList) : numeric c = true := by
  rcases int_chars value c member with digit | minus
  · simp [numeric, digit]
  · simp [numeric, minus]

theorem float_numeric (value : F) (c : Char) (member : c ∈ floats.text value) : numeric c = true := by
  rcases floats.plain value c member with digit | sign
  · simp [numeric, digit]
  · rw [numeric, List.contains_iff_mem.mpr sign, Bool.or_true]

theorem int_not_float (value : Int) (number : F) : (toString value).toList ≠ floats.text number := by
  intro same
  rcases floats.fractional number with point | exponent
  · rw [← same] at point
    rcases int_chars value _ point with digit | minus
    · exact absurd digit (by decide)
    · exact absurd minus (by decide)
  · rw [← same] at exponent
    rcases int_chars value _ exponent with digit | minus
    · exact absurd digit (by decide)
    · exact absurd minus (by decide)

-- The first character tells the kinds of values apart, but for the two kinds of
-- numbers.
def kindOf (c : Char) : Nat :=
  if c = 'n' then 0 else if c = 't' then 1 else if c = 'f' then 2 else if c = '"' then 3 else if c = '[' then 4
  else if c = '\x7b' then 5 else if c = ']' then 6 else if c = ',' then 7 else 8

def kind : Json F → Nat
  | .null => 0
  | .bool true => 1
  | .bool false => 2
  | .str _ => 3
  | .arr _ => 4
  | .obj _ => 5
  | .int _ => 8
  | .float _ => 8

theorem number_kind (c : Char) (number : c.isDigit = true ∨ c = '-') : kindOf c = 8 := by
  rcases number with digit | rfl
  · have apart (other : Char) (no : other.isDigit = false) : c ≠ other := by
      rintro rfl
      rw [no] at digit
      cases digit
    simp [kindOf, apart 'n' (by decide), apart 't' (by decide), apart 'f' (by decide), apart '"' (by decide),
      apart '[' (by decide), apart '\x7b' (by decide), apart ']' (by decide), apart ',' (by decide)]
  · decide

theorem write_opens (data : Json F) : ∃ c rest, write floats data = c :: rest ∧ kindOf c = kind data := by
  cases data with
  | null => exact ⟨_, _, rfl, rfl⟩
  | bool value =>
      cases value with
      | true => exact ⟨_, _, rfl, rfl⟩
      | false => exact ⟨_, _, rfl, rfl⟩
  | int value =>
      cases digits : (toString value).toList with
      | nil => exact absurd digits (int_some value)
      | cons c rest => exact ⟨c, rest, digits, number_kind c (int_chars value c (digits ▸ List.mem_cons_self))⟩
  | float value =>
      obtain ⟨c, rest, open_, number⟩ := floats.leading value
      exact ⟨c, rest, open_, number_kind c number⟩
  | str text => exact ⟨_, _, rfl, rfl⟩
  | arr items => exact ⟨_, _, rfl, rfl⟩
  | obj members => exact ⟨_, _, rfl, rfl⟩

theorem kind_of_same (a b : Json F) (rest other : List Char) (same : write floats a ++ rest = write floats b ++ other) :
    kind a = kind b := by
  obtain ⟨c, after, first, own⟩ := write_opens floats a
  obtain ⟨d, after', second, own'⟩ := write_opens floats b
  rw [first, second] at same
  rw [← own, ← own', List.head_eq_of_cons_eq same]

theorem stops_at (c : Char) (rest : List Char) (plain : numeric c = false) : Stops (c :: rest) := fun d head => by
  cases head
  exact plain

theorem items_stop (items : List (Json F)) (rest : List Char) : Stops (writeItems floats [',', ' '] items ++ rest) := by
  cases items with
  | nil => exact stops_at ']' _ (by decide)
  | cons item items => exact stops_at ',' _ (by decide)

theorem members_stop (members : List (String × Json F)) (rest : List Char) :
    Stops (writeMembers floats [',', ' '] members ++ rest) := by
  cases members with
  | nil => exact stops_at '\x7d' _ (by decide)
  | cons member members => exact stops_at ',' _ (by decide)

theorem kind_opening (data : Json F) : kind data ≠ 6 ∧ kind data ≠ 7 := by
  cases data with
  | bool value => cases value <;> simp [kind]
  | _ => simp [kind]

-- A value begins neither like a closing bracket nor like a comma.
theorem item_not_closing (item : Json F) (rest other : List Char) : write floats item ++ rest ≠ ']' :: other := by
  obtain ⟨c, after, open_, own⟩ := write_opens floats item
  intro same
  rw [open_] at same
  exact (kind_opening item).1 (by rw [← own, List.head_eq_of_cons_eq same]; decide)

theorem bool_unique (a b : Bool) (rest other : List Char)
    (same : write floats (.bool a) ++ rest = write floats (.bool b) ++ other) : a = b ∧ rest = other := by
  have kinds := kind_of_same floats _ _ rest other same
  cases a with
  | true =>
      cases b with
      | true => exact ⟨rfl, List.append_cancel_left same⟩
      | false => exact absurd kinds (by simp [kind])
  | false =>
      cases b with
      | true => exact absurd kinds (by simp [kind])
      | false => exact ⟨rfl, List.append_cancel_left same⟩

-- Numbers are told apart by their whole text, for none is cut short.
theorem write_number_unique (a b : Json F) (rest other : List Char) (stop : Stops rest) (stop' : Stops other)
    (first : kind a = 8) (second : kind b = 8) (same : write floats a ++ rest = write floats b ++ other) :
    a = b ∧ rest = other := by
  have plain (data : Json F) (number : kind data = 8) : ∀ c ∈ write floats data, numeric c = true := by
    cases data with
    | int value => exact int_numeric value
    | float value => exact float_numeric floats value
    | bool value => cases value <;> simp [kind] at number
    | _ => simp [kind] at number
  obtain ⟨texts, after⟩ := number_unique _ _ rest other (plain a first) (plain b second) stop stop' same
  refine ⟨?_, after⟩
  cases a with
  | int value =>
      cases b with
      | int number => rw [int_unique value number texts]
      | float number => exact absurd texts (int_not_float floats value number)
      | bool flag => cases flag <;> simp [kind] at second
      | _ => simp [kind] at second
  | float value =>
      cases b with
      | int number => exact absurd texts.symm (int_not_float floats number value)
      | float number => rw [floats.injective value number texts]
      | bool flag => cases flag <;> simp [kind] at second
      | _ => simp [kind] at second
  | bool value => cases value <;> simp [kind] at first
  | _ => simp [kind] at first

-- A list that is empty is told apart from one that is not.
theorem items_closed (item : Json F) (items : List (Json F)) (before rest other : List Char)
    (comma : before = [] ∨ before = [',', ' ']) :
    writeItems floats before [] ++ rest ≠ writeItems floats before (item :: items) ++ other := by
  intro same
  rw [writeItems, writeItems, List.append_assoc, List.append_assoc] at same
  rcases comma with rfl | rfl
  · exact item_not_closing floats item _ rest same.symm
  · exact absurd (List.head_eq_of_cons_eq same) (by decide)

theorem members_closed (name : String) (value : Json F) (members : List (String × Json F)) (before rest other : List Char)
    (comma : before = [] ∨ before = [',', ' ']) :
    writeMembers floats before [] ++ rest ≠ writeMembers floats before ((name, value) :: members) ++ other := by
  intro same
  rw [writeMembers, writeMembers] at same
  rcases comma with rfl | rfl
  · exact absurd (List.head_eq_of_cons_eq same) (by decide)
  · exact absurd (List.head_eq_of_cons_eq same) (by decide)

mutual
-- What is written of a value and what comes after it can be told apart.
theorem write_unique (a b : Json F) (rest other : List Char) (stop : Stops rest) (stop' : Stops other)
    (same : write floats a ++ rest = write floats b ++ other) : a = b ∧ rest = other := by
  have kinds := kind_of_same floats a b rest other same
  cases a with
  | null =>
      cases b with
      | null => exact ⟨rfl, List.append_cancel_left same⟩
      | bool flag => cases flag <;> simp [kind] at kinds
      | _ => simp [kind] at kinds
  | bool value =>
      cases b with
      | bool flag =>
          obtain ⟨rfl, after⟩ := bool_unique floats value flag rest other same
          exact ⟨rfl, after⟩
      | _ => cases value <;> simp [kind] at kinds
  | int value => exact write_number_unique floats _ b rest other stop stop' rfl (kinds.symm.trans rfl) same
  | float value => exact write_number_unique floats _ b rest other stop stop' rfl (kinds.symm.trans rfl) same
  | str text =>
      cases b with
      | str text' =>
          obtain ⟨rfl, after⟩ := write_text_unique text text' rest other same
          exact ⟨rfl, after⟩
      | bool flag => cases flag <;> simp [kind] at kinds
      | _ => simp [kind] at kinds
  | arr items =>
      cases b with
      | arr items' =>
          obtain ⟨rfl, after⟩ := items_unique items items' [] rest other (.inl rfl) (List.tail_eq_of_cons_eq same)
          exact ⟨rfl, after⟩
      | bool flag => cases flag <;> simp [kind] at kinds
      | _ => simp [kind] at kinds
  | obj members =>
      cases b with
      | obj members' =>
          obtain ⟨rfl, after⟩ := members_unique members members' [] rest other (.inl rfl) (List.tail_eq_of_cons_eq same)
          exact ⟨rfl, after⟩
      | bool flag => cases flag <;> simp [kind] at kinds
      | _ => simp [kind] at kinds

theorem items_unique (first second : List (Json F)) (before rest other : List Char)
    (comma : before = [] ∨ before = [',', ' '])
    (same : writeItems floats before first ++ rest = writeItems floats before second ++ other) :
    first = second ∧ rest = other := by
  cases first with
  | nil =>
      cases second with
      | nil => exact ⟨rfl, List.tail_eq_of_cons_eq same⟩
      | cons item items => exact absurd same (items_closed floats item items before rest other comma)
  | cons item items =>
      cases second with
      | nil => exact absurd same.symm (items_closed floats item items before other rest comma)
      | cons item' items' =>
          rw [writeItems, writeItems, List.append_assoc, List.append_assoc, List.append_assoc, List.append_assoc] at same
          obtain ⟨rfl, further⟩ := write_unique item item' _ _ (items_stop floats items rest) (items_stop floats items' other)
            (List.append_cancel_left same)
          obtain ⟨rfl, after⟩ := items_unique items items' [',', ' '] rest other (.inr rfl) further
          exact ⟨rfl, after⟩

theorem members_unique (first second : List (String × Json F)) (before rest other : List Char)
    (comma : before = [] ∨ before = [',', ' '])
    (same : writeMembers floats before first ++ rest = writeMembers floats before second ++ other) :
    first = second ∧ rest = other := by
  match first, second with
  | [], [] => exact ⟨rfl, List.tail_eq_of_cons_eq same⟩
  | [], (name, value) :: members => exact absurd same (members_closed floats name value members before rest other comma)
  | (name, value) :: members, [] =>
      exact absurd same.symm (members_closed floats name value members before other rest comma)
  | (name, value) :: members, (name', value') :: members' =>
      rw [writeMembers, writeMembers] at same
      simp only [List.append_assoc, List.cons_append] at same
      obtain ⟨rfl, valued⟩ := write_text_unique name name' _ _ (List.append_cancel_left same)
      obtain ⟨rfl, further⟩ := write_unique value value' _ _ (members_stop floats members rest)
        (members_stop floats members' other) (List.tail_eq_of_cons_eq (List.tail_eq_of_cons_eq valued))
      obtain ⟨rfl, after⟩ := members_unique members members' [',', ' '] rest other (.inr rfl) further
      exact ⟨rfl, after⟩
end

theorem dumps_injective (a b : Json F) (same : dumps floats a = dumps floats b) : a = b := by
  have texts := String.ofList_inj.mp same
  have nothing : Stops [] := fun c head => nomatch head
  exact (write_unique floats a b [] [] nothing nothing (congrArg (· ++ []) texts)).1

end Values

end QuantEngine.JsonText
