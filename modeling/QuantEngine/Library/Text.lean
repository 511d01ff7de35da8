set_option autoImplicit false

namespace QuantEngine.Text

def isSpace (c : Char) : Bool :=
  let code := c.toNat
  decide (9 ≤ code ∧ code ≤ 13) || decide (28 ≤ code ∧ code ≤ 32) || decide (8192 ≤ code ∧ code ≤ 8202) ||
    [133, 160, 5760, 8232, 8233, 8239, 8287, 12288].contains code

def stripList (chars : List Char) : List Char :=
  ((chars.dropWhile isSpace).reverse.dropWhile isSpace).reverse

def strip (text : String) : String := String.ofList (stripList text.toList)

-- `text.strip()` is empty.
def blank (text : String) : Bool := text.toList.all isSpace

-- `part in whole`.
def occurs (part : List Char) : List Char → Bool
  | [] => part.isEmpty
  | c :: rest => part.isPrefixOf (c :: rest) || occurs part rest

def splitFirst (separator : Char) (text : String) : Option (String × String) :=
  let before := text.toList.takeWhile (fun c => c != separator)
  match text.toList.dropWhile (fun c => c != separator) with
  | [] => none
  | _ :: after => some (String.ofList before, String.ofList after)

-- `text.split(separator)`.
def splitChars (separator : Char) : List Char → List (List Char)
  | [] => [[]]
  | c :: rest =>
      if c = separator then [] :: splitChars separator rest
      else match splitChars separator rest with
        | [] => [[c]]
        | part :: parts => (c :: part) :: parts

def split (separator : Char) (text : String) : List String := (splitChars separator text.toList).map String.ofList

def joinChars (separator : Char) : List (List Char) → List Char
  | [] => []
  | [part] => part
  | part :: next :: parts => part ++ separator :: joinChars separator (next :: parts)

theorem split_chars_nonempty (separator : Char) (chars : List Char) : splitChars separator chars ≠ [] := by
  cases chars with
  | nil => simp [splitChars]
  | cons c rest =>
      rw [splitChars]
      split
      · simp
      · split <;> simp

theorem join_split (separator : Char) (chars : List Char) : joinChars separator (splitChars separator chars) = chars := by
  induction chars with
  | nil => rfl
  | cons c rest ih =>
      rw [splitChars]
      cases parts : splitChars separator rest with
      | nil => exact absurd parts (split_chars_nonempty separator rest)
      | cons part others =>
          rw [parts] at ih
          by_cases here : c = separator
          · simp [here, joinChars, ih]
          · cases others with
            | nil => simpa [here, joinChars] using ih
            | cons next others => simpa [here, joinChars] using ih

theorem split_chars_plain (separator : Char) (part rest : List Char) (plain : separator ∉ part) :
    splitChars separator part = [part] ∧
      splitChars separator (part ++ separator :: rest) = part :: splitChars separator rest := by
  induction part with
  | nil => simp [splitChars]
  | cons c part ih =>
      have apart : c ≠ separator := fun same => plain (same ▸ List.mem_cons_self)
      obtain ⟨whole, first⟩ := ih (fun member => plain (List.mem_cons_of_mem _ member))
      exact ⟨by rw [splitChars, if_neg apart, whole], by rw [List.cons_append, splitChars, if_neg apart, first]⟩

-- Two texts of the same parts are the same.
theorem split_injective (separator : Char) (first second : String) (same : split separator first = split separator second) :
    first = second := by
  have chars := (List.map_inj_right (fun _ _ => String.ofList_inj.mp)).mp same
  rw [← String.toList_inj, ← join_split separator first.toList, chars, join_split]

-- Decimal digits with single underscores between them.
def readDigits : Nat → Bool → List Char → Option Nat
  | value, afterDigit, [] => if afterDigit then some value else none
  | value, afterDigit, c :: rest =>
      if c.isDigit then readDigits (value * 10 + (c.toNat - 48)) true rest
      else if c = '_' && afterDigit then readDigits value false rest
      else none

-- `int(text)`, or none where it raises.
def parseInt (text : String) : Option Int :=
  match stripList text.toList with
  | '-' :: digits => (readDigits 0 false digits).map (fun value => -(value : Int))
  | '+' :: digits => (readDigits 0 false digits).map (fun value => (value : Int))
  | digits => (readDigits 0 false digits).map (fun value => (value : Int))

theorem read_digits (value : Nat) (afterDigit : Bool) (chars : List Char) (digits : ∀ c ∈ chars, c.isDigit = true)
    (some_ : afterDigit = true ∨ chars ≠ []) : readDigits value afterDigit chars = some (Nat.ofDigitChars 10 chars value) := by
  induction chars generalizing value afterDigit with
  | nil =>
      rw [readDigits, if_pos (some_.resolve_right (fun none => none rfl)), Nat.ofDigitChars_nil]
  | cons c rest ih =>
      rw [readDigits, if_pos (digits c List.mem_cons_self), Nat.ofDigitChars_cons, Nat.mul_comm]
      exact ih _ true (fun d member => digits d (List.mem_cons_of_mem c member)) (Or.inl rfl)

theorem digit_not_space (c : Char) (digit : c.isDigit = true) : isSpace c = false := by
  have code : 48 ≤ c.toNat ∧ c.toNat ≤ 57 := by
    simpa [Char.isDigit, UInt32.le_iff_toNat_le] using digit
  simp [isSpace]
  omega

theorem drop_nothing (chars : List Char) (first : ∀ c ∈ chars.head?, isSpace c = false) : chars.dropWhile isSpace = chars := by
  cases chars with
  | nil => rfl
  | cons c rest => rw [List.dropWhile_cons_of_neg (by rw [first c rfl]; exact Bool.false_ne_true)]

-- A text with no space at its ends is stripped of nothing.
theorem strip_ends (chars : List Char) (first : ∀ c ∈ chars.head?, isSpace c = false)
    (last : ∀ c ∈ chars.getLast?, isSpace c = false) : stripList chars = chars := by
  rw [stripList, drop_nothing chars first, drop_nothing chars.reverse (by rwa [List.head?_reverse]), List.reverse_reverse]

theorem strip_digits (chars : List Char) (digits : ∀ c ∈ chars, c.isDigit = true) : stripList chars = chars := by
  refine strip_ends chars (fun c head => ?_) (fun c last => ?_)
  · exact digit_not_space c (digits c (List.mem_of_mem_head? head))
  · exact digit_not_space c (digits c (List.mem_of_mem_getLast? last))

-- The decimal digits of a number read back as the number.
theorem parse_digits (n : Nat) : parseInt (String.ofList (Nat.toDigits 10 n)) = some (n : Int) := by
  have digits : ∀ c ∈ Nat.toDigits 10 n, c.isDigit = true := fun c member =>
    Nat.isDigit_of_mem_toDigits (by decide) (by decide) member
  have value := read_digits 0 false (Nat.toDigits 10 n) digits (Or.inr Nat.toDigits_ne_nil)
  rw [Nat.ofDigitChars_ten_toDigits] at value
  rw [parseInt, String.toList_ofList, strip_digits _ digits]
  split
  · rename_i rest same
    exact absurd (digits '-' (by rw [same]; exact List.mem_cons_self)) (by decide)
  · rename_i rest same
    exact absurd (digits '+' (by rw [same]; exact List.mem_cons_self)) (by decide)
  · rw [value]
    rfl

example : parseInt " 07" = some 7 ∧ parseInt "1_0" = some 10 ∧ parseInt "1__0" = none ∧ parseInt "" = none := by
  decide

example : split '.' "a.b.c" = ["a", "b", "c"] ∧ split '.' "" = [""] := by decide

end QuantEngine.Text
