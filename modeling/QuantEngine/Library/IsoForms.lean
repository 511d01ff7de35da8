import Mathlib.Data.List.TakeWhile
import QuantEngine.Library.IsoTime

set_option autoImplicit false

-- The forms that `datetime.fromisoformat` reads: dates of the calendar or of a
-- week, with dashes or without, and a clock with colons or without.
namespace QuantEngine.IsoForms

open Calendar
open IsoTime (field skip numberOf)

-- Days from the epoch.
def civilDays (year month day : Nat) : Option Int :=
  let index : Int := 12 * year + (month - 1)
  if 1 ≤ year ∧ year ≤ 9999 ∧ 1 ≤ month ∧ month ≤ 12 ∧ 1 ≤ day ∧ (day : Int) ≤ Months.firstDay (index + 1) - Months.firstDay index then
    some (Months.firstDay index + (day - 1))
  else none

def newYear (year : Int) : Int := Months.firstDay (12 * year)

-- Monday is 0.
def weekdayOf (days : Int) : Int := (days + 3) % 7

def weekOne (year : Int) : Int :=
  newYear year - weekdayOf (newYear year) + (if 3 < weekdayOf (newYear year) then 7 else 0)

-- A year has 53 weeks when it starts on a Thursday, or on a Wednesday in a leap year.
def longYear (year : Int) : Prop :=
  weekdayOf (newYear year) = 3 ∨ weekdayOf (newYear year) = 2 ∧ newYear (year + 1) - newYear year = 366

instance (year : Int) : Decidable (longYear year) := inferInstanceAs (Decidable (_ ∨ _))

def weekDays (year week weekday : Nat) : Option Int :=
  if 1 ≤ year ∧ year ≤ 9999 ∧ (1 ≤ week ∧ week ≤ 52 ∨ week = 53 ∧ longYear year) ∧ 1 ≤ weekday ∧ weekday ≤ 7 then
    some (weekOne year + (week - 1) * 7 + (weekday - 1))
  else none

-- `-` where the year was followed by one.
def dash (dashed : Bool) (chars : List Char) : Option (List Char) := if dashed then skip '-' chars else some chars

def readWeek (year : Nat) (dashed : Bool) (chars : List Char) : Option Int := do
  let (week, rest) ← field 2 chars
  if rest = [] then weekDays year week 1
  else
    let (weekday, rest) ← field 1 (← dash dashed rest)
    if rest = [] then weekDays year week weekday else none

def readCivil (year : Nat) (dashed : Bool) (chars : List Char) : Option Int := do
  let (month, rest) ← field 2 chars
  let (day, rest) ← field 2 (← dash dashed rest)
  if rest = [] then civilDays year month day else none

def readDate (chars : List Char) : Option Int := do
  let (year, rest) ← field 4 chars
  let dashed := decide (rest.head? = some '-')
  let rest := if dashed then rest.tail else rest
  if rest.head? = some 'W' then readWeek year dashed rest.tail else readCivil year dashed rest

structure Clock where
  hour : Nat := 0
  minute : Nat := 0
  second : Nat := 0
  micro : Nat := 0
deriving DecidableEq

def Clock.micros (clock : Clock) : Int :=
  clock.hour * Calendar.hour + clock.minute * Calendar.minute + clock.second * Calendar.second + clock.micro

-- Of the fraction the first six digits count.
def readMicros : List Char → Option Nat
  | [] => some 0
  | mark :: rest =>
      if (mark = '.' ∨ mark = ',') ∧ rest ≠ [] ∧ rest.all Char.isDigit = true then
        (numberOf 0 (rest.take 6)).map (fun number => number * 10 ^ (6 - min 6 rest.length))
      else none

def colon (colons : Bool) (chars : List Char) : Option (List Char) := if colons then skip ':' chars else some chars

-- `HH[:MM[:SS[.ffffff]]]`, with all colons or without any.
def readClock (chars : List Char) : Option Clock := do
  let (hour, rest) ← field 2 chars
  if rest = [] then some { hour := hour }
  else
    let colons := decide (rest.head? = some ':')
    let (minute, rest) ← field 2 (← colon colons rest)
    if rest = [] then some { hour := hour, minute := minute }
    else
      let (second, rest) ← field 2 (← colon colons rest)
      let micro ← readMicros rest
      some ⟨hour, minute, second, micro⟩

def zoneMark (c : Char) : Bool := c == '+' || c == '-' || c == 'Z'

-- The offset from UTC is less than a day.
def readZone : List Char → Option (Option Int)
  | [] => some none
  | mark :: rest =>
      if mark = 'Z' then if rest = [] then some (some 0) else none
      else do
        let clock ← readClock rest
        if clock.micros < day then some (some (if mark = '-' then -clock.micros else clock.micros)) else none

def readTime (chars : List Char) : Option (Clock × Option Int) := do
  let clock ← readClock (chars.takeWhile (fun c => !zoneMark c))
  let zone ← readZone (chars.dropWhile (fun c => !zoneMark c))
  some (clock, zone)

def digitAt (chars : List Char) (place : Nat) : Bool := chars[place]?.any Char.isDigit

-- Where the date ends. Without dashes a week leaves it open whether a digit that
-- follows is the weekday.
def separator (chars : List Char) : Nat :=
  if chars.length = 7 then 7
  else if chars[4]? = some '-' then
    if chars[5]? = some 'W' then
      if chars[8]? = some '-' then if digitAt chars 10 then 8 else 10 else 8
    else 10
  else if chars[4]? = some 'W' then
    let stop := 7 + ((chars.drop 7).takeWhile Char.isDigit).length
    if stop < 9 then stop else if stop % 2 = 0 then 7 else 8
  else 8

def assemble (days : Int) (clock : Clock) (zone : Option Int) : Option Timestamp :=
  let wall := days * day + clock.micros
  if clock.hour < 24 ∧ clock.minute < 60 ∧ clock.second < 60 then
    if inRange : Timestamps.InRange wall then some ⟨wall, zone, inRange⟩ else none
  else none

-- One character of any kind stands between the date and the time.
def read (chars : List Char) : Option Timestamp :=
  if chars.length < 7 then none
  else do
    let days ← readDate (chars.take (separator chars))
    if chars.length ≤ separator chars then assemble days {} none
    else do
      let (clock, zone) ← readTime (chars.drop (separator chars + 1))
      assemble days clock zone

def fromisoformat (text : String) : Except PyError Timestamp :=
  match read text.toList with
  | some time => .ok time
  | none => .error .value

-- What a digit counts.
def worth (c : Char) : Nat := c.toNat - 48

theorem field_one (chars rest : List Char) (n : Nat) (found : field 1 chars = some (n, rest)) :
    ∃ a, chars = a :: rest ∧ a.isDigit = true ∧ n = worth a := by
  cases chars with
  | nil => exact nomatch found
  | cons a others =>
      by_cases digit : a.isDigit = true
      · simp only [field, numberOf, digit, List.take, List.drop, List.length_cons, if_true] at found
        simp_all [worth]
      · simp [field, numberOf, digit] at found

theorem field_two (chars rest : List Char) (n : Nat) (found : field 2 chars = some (n, rest)) :
    ∃ a b, chars = a :: b :: rest ∧ a.isDigit = true ∧ b.isDigit = true ∧ n = worth a * 10 + worth b := by
  match chars, found with
  | [], found => exact nomatch found
  | [_], found => exact nomatch found
  | a :: b :: others, found =>
      by_cases first : a.isDigit = true
      · by_cases second : b.isDigit = true
        · simp only [field, numberOf, first, second, List.take, List.drop, List.length_cons, if_true] at found
          simp_all [worth]
        · simp [field, numberOf, second] at found
      · simp [field, numberOf, first] at found

theorem field_four (chars rest : List Char) (n : Nat) (found : field 4 chars = some (n, rest)) :
    ∃ a b c d, chars = a :: b :: c :: d :: rest ∧ (a.isDigit = true ∧ b.isDigit = true ∧ c.isDigit = true ∧ d.isDigit = true) ∧
      n = ((worth a * 10 + worth b) * 10 + worth c) * 10 + worth d := by
  match chars, found with
  | [], found => exact nomatch found
  | [_], found => exact nomatch found
  | [_, _], found => exact nomatch found
  | [_, _, _], found => exact nomatch found
  | a :: b :: c :: d :: others, found =>
      by_cases digits : a.isDigit = true ∧ b.isDigit = true ∧ c.isDigit = true ∧ d.isDigit = true
      · obtain ⟨first, second, third, fourth⟩ := digits
        simp only [field, numberOf, first, second, third, fourth, List.take, List.drop, List.length_cons, if_true] at found
        simp_all [worth]
      · simp [field, numberOf] at found
        simp_all

def Digits (chars : List Char) : Prop := ∀ c ∈ chars, c.isDigit = true

-- The six forms of a date.
inductive Form : List Char → Prop where
  | civil (a b c d e f g h : Char) (digits : Digits [a, b, c, d, e, f, g, h]) : Form [a, b, c, d, '-', e, f, '-', g, h]
  | compact (a b c d e f g h : Char) (digits : Digits [a, b, c, d, e, f, g, h]) : Form [a, b, c, d, e, f, g, h]
  | week (a b c d e f : Char) (digits : Digits [a, b, c, d, e, f]) : Form [a, b, c, d, '-', 'W', e, f]
  | weekday (a b c d e f g : Char) (digits : Digits [a, b, c, d, e, f, g]) : Form [a, b, c, d, '-', 'W', e, f, '-', g]
  | bareWeek (a b c d e f : Char) (digits : Digits [a, b, c, d, e, f]) : Form [a, b, c, d, 'W', e, f]
  | bareWeekday (a b c d e f g : Char) (digits : Digits [a, b, c, d, e, f, g]) : Form [a, b, c, d, 'W', e, f, g]

theorem skip_some (mark : Char) (chars rest : List Char) (found : skip mark chars = some rest) : chars = mark :: rest := by
  cases chars with
  | nil => cases found
  | cons c others =>
      rw [skip] at found
      split at found
      · rename_i same
        rw [same, Option.some.inj found]
      · cases found

theorem dash_some (dashed : Bool) (chars rest : List Char) (found : dash dashed chars = some rest) :
    chars = if dashed then '-' :: rest else rest := by
  cases dashed with
  | false => simpa [dash] using found
  | true => exact skip_some '-' chars rest found

theorem read_week_form (year : Nat) (dashed : Bool) (chars : List Char) (days : Int) (found : readWeek year dashed chars = some days) :
    (∃ e f, chars = [e, f] ∧ Digits [e, f]) ∨ ∃ e f g, chars = e :: f :: (if dashed then ['-', g] else [g]) ∧ Digits [e, f, g] := by
  obtain ⟨⟨week, rest⟩, two, later⟩ := Option.bind_eq_some_iff.mp found
  obtain ⟨e, f, rfl, first, second, -⟩ := field_two _ _ _ two
  by_cases short : rest = []
  · exact .inl ⟨e, f, by rw [short], by simp [Digits, first, second]⟩
  · dsimp only at later
    rw [if_neg short] at later
    obtain ⟨after, dashes, dated⟩ := Option.bind_eq_some_iff.mp later
    obtain ⟨⟨weekday, last⟩, one, finished⟩ := Option.bind_eq_some_iff.mp dated
    obtain ⟨g, rfl, third, -⟩ := field_one _ _ _ one
    have end_ : last = [] := by
      by_contra more
      simp [more] at finished
    refine .inr ⟨e, f, g, ?_, by simp [Digits, first, second, third]⟩
    rw [dash_some dashed rest (g :: last) dashes, end_]

theorem read_civil_form (year : Nat) (dashed : Bool) (chars : List Char) (days : Int)
    (found : readCivil year dashed chars = some days) : ∃ e f g h,
      chars = e :: f :: (if dashed then ['-', g, h] else [g, h]) ∧ Digits [e, f, g, h] ∧
      civilDays year (worth e * 10 + worth f) (worth g * 10 + worth h) = some days := by
  obtain ⟨⟨month, rest⟩, two, later⟩ := Option.bind_eq_some_iff.mp found
  obtain ⟨e, f, rfl, first, second, rfl⟩ := field_two _ _ _ two
  obtain ⟨after, dashes, dated⟩ := Option.bind_eq_some_iff.mp later
  obtain ⟨⟨day, last⟩, two', finished⟩ := Option.bind_eq_some_iff.mp dated
  obtain ⟨g, h, rfl, third, fourth, rfl⟩ := field_two _ _ _ two'
  dsimp only at finished
  have end_ : last = [] := by
    by_contra more
    simp [more] at finished
  rw [if_pos end_] at finished
  refine ⟨e, f, g, h, ?_, by simp [Digits, first, second, third, fourth], finished⟩
  rw [dash_some dashed rest (g :: h :: last) dashes, end_]

theorem read_date_form (chars : List Char) (days : Int) (found : readDate chars = some days) : Form chars := by
  obtain ⟨⟨year, rest⟩, four, later⟩ := Option.bind_eq_some_iff.mp found
  obtain ⟨a, b, c, d, rfl, ⟨first, second, third, fourth⟩, -⟩ := field_four _ _ _ four
  by_cases dashed : rest.head? = some '-'
  · obtain ⟨rest, rfl⟩ : ∃ others, rest = '-' :: others := List.head?_eq_some_iff.mp dashed
    by_cases weekly : rest.head? = some 'W'
    · obtain ⟨rest, rfl⟩ : ∃ others, rest = 'W' :: others := List.head?_eq_some_iff.mp weekly
      rcases read_week_form year true rest days later with ⟨e, f, rfl, digits⟩ | ⟨e, f, g, rfl, digits⟩
      · exact .week a b c d e f (by simp_all [Digits])
      · exact .weekday a b c d e f g (by simp_all [Digits])
    · simp only [List.head?_cons, List.tail_cons, decide_true, if_true, if_neg weekly] at later
      obtain ⟨e, f, g, h, rfl, digits, -⟩ := read_civil_form year true rest days later
      exact .civil a b c d e f g h (by simp_all [Digits])
  · simp only [dashed, decide_false] at later
    by_cases weekly : rest.head? = some 'W'
    · obtain ⟨rest, rfl⟩ : ∃ others, rest = 'W' :: others := List.head?_eq_some_iff.mp weekly
      rcases read_week_form year false rest days later with ⟨e, f, rfl, digits⟩ | ⟨e, f, g, rfl, digits⟩
      · exact .bareWeek a b c d e f (by simp_all [Digits])
      · exact .bareWeekday a b c d e f g (by simp_all [Digits])
    · simp only [Bool.false_eq_true, if_false, if_neg weekly] at later
      obtain ⟨e, f, g, h, rfl, digits, -⟩ := read_civil_form year false rest days later
      exact .compact a b c d e f g h (by simp_all [Digits])

theorem form_chars (date : List Char) (form : Form date) (c : Char) (member : c ∈ date) : c.isDigit = true ∨ c = '-' ∨ c = 'W' := by
  cases form with
  | civil a b c d e f g h digits => simp only [Digits, List.mem_cons] at digits member; grind
  | compact a b c d e f g h digits => simp only [Digits, List.mem_cons] at digits member; grind
  | week a b c d e f digits => simp only [Digits, List.mem_cons] at digits member; grind
  | weekday a b c d e f g digits => simp only [Digits, List.mem_cons] at digits member; grind
  | bareWeek a b c d e f digits => simp only [Digits, List.mem_cons] at digits member; grind
  | bareWeekday a b c d e f g digits => simp only [Digits, List.mem_cons] at digits member; grind

theorem form_length (date : List Char) (form : Form date) : 7 ≤ date.length ∧ date.length ≤ 10 := by
  cases form with
  | civil | compact | week | weekday | bareWeek | bareWeekday => simp

theorem digit_not_dash (c : Char) (digit : c.isDigit = true) : c ≠ '-' := by
  rintro rfl
  exact nomatch digit

theorem digit_not_week (c : Char) (digit : c.isDigit = true) : c ≠ 'W' := by
  rintro rfl
  exact nomatch digit

-- What follows the date does not run on in digits.
def Stops (rest : List Char) : Prop := ∀ c ∈ rest.head?, c.isDigit = false ∧ c ≠ '-'

theorem stops_digits (rest : List Char) (stops : Stops rest) : rest.takeWhile Char.isDigit = [] := by
  cases rest with
  | nil => rfl
  | cons c others => rw [List.takeWhile_cons_of_neg (by rw [(stops c rfl).1]; exact Bool.false_ne_true)]

theorem form_separator (date rest : List Char) (form : Form date) (stops : Stops rest) : separator (date ++ rest) = date.length := by
  cases form with
  | civil a b c d e f g h digits =>
      have fifth : e ≠ 'W' := digit_not_week e (digits e (by simp))
      simp [separator, fifth]
  | compact a b c d e f g h digits =>
      have fourth := digits e (by simp)
      have dash := digit_not_dash e fourth
      have week := digit_not_week e fourth
      simp [separator, dash, week]
  | week a b c d e f digits =>
      have eighth : rest.head? ≠ some '-' := fun same => (stops '-' same).2 rfl
      cases rest with
      | nil => simp [separator]
      | cons c others => simp_all [separator]
  | weekday a b c d e f g digits =>
      cases rest with
      | nil => simp [separator, digitAt]
      | cons c others =>
          have tenth := (stops c rfl).1
          simp [separator, digitAt, tenth]
  | bareWeek a b c d e f digits =>
      have none := stops_digits rest stops
      simp [separator, none]
  | bareWeekday a b c d e f g digits =>
      have none := stops_digits rest stops
      have last := digits g (by simp)
      simp [separator, none, last]

-- The date ends before the tenth character, or what comes there is no digit.
theorem separator_swap (chars rest rest' : List Char) (c c' : Char) (long : 10 ≤ chars.length) (plain : c.isDigit = false)
    (plain' : c'.isDigit = false) : separator (chars ++ c :: rest) = separator (chars ++ c' :: rest') := by
  have at_ (place : Nat) (early : place < 10) : (chars ++ c :: rest)[place]? = (chars ++ c' :: rest')[place]? := by
    rw [List.getElem?_append_left (by omega), List.getElem?_append_left (by omega)]
  have tenth : digitAt (chars ++ c :: rest) 10 = digitAt (chars ++ c' :: rest') 10 := by
    rw [digitAt, digitAt]
    by_cases longer : 10 < chars.length
    · rw [List.getElem?_append_left longer, List.getElem?_append_left longer]
    · have exact_ : chars.length = 10 := by omega
      rw [List.getElem?_append_right (by omega), List.getElem?_append_right (by omega), exact_]
      simp [plain, plain']
  have run : ((chars ++ c :: rest).drop 7).takeWhile Char.isDigit = ((chars ++ c' :: rest').drop 7).takeWhile Char.isDigit := by
    rw [List.drop_append_of_le_length (by omega), List.drop_append_of_le_length (by omega), List.takeWhile_append,
      List.takeWhile_append, List.takeWhile_cons_of_neg (by simp [plain]), List.takeWhile_cons_of_neg (by simp [plain'])]
  have longer : (chars ++ c :: rest).length ≠ 7 ∧ (chars ++ c' :: rest').length ≠ 7 := by
    constructor
    · rw [List.length_append]
      omega
    · rw [List.length_append]
      omega
  rw [separator, separator, if_neg longer.1, if_neg longer.2, at_ 4 (by omega), at_ 5 (by omega), at_ 8 (by omega), tenth, run]

theorem colon_some (colons : Bool) (chars rest : List Char) (found : colon colons chars = some rest) :
    chars = if colons then ':' :: rest else rest := by
  cases colons with
  | false => simpa [colon] using found
  | true => exact skip_some ':' chars rest found

def clockChar (c : Char) : Bool := c.isDigit || [':', '.', ','].contains c

theorem micros_chars (chars : List Char) (micro : Nat) (found : readMicros chars = some micro) :
    ∀ c ∈ chars, clockChar c = true := by
  cases chars with
  | nil => exact fun c member => nomatch member
  | cons mark rest =>
      rw [readMicros] at found
      split at found
      · rename_i fraction
        obtain ⟨marks, -, digits⟩ := fraction
        refine List.forall_mem_cons.mpr ⟨by rcases marks with rfl | rfl <;> rfl, fun c member => ?_⟩
        rw [clockChar, List.all_eq_true.mp digits c member, Bool.true_or]
      · exact nomatch found

-- A clock starts with its hour, and has only digits and its marks.
theorem clock_chars (chars : List Char) (clock : Clock) (found : readClock chars = some clock) :
    (∃ a b rest, chars = a :: b :: rest ∧ a.isDigit = true ∧ b.isDigit = true) ∧ ∀ c ∈ chars, clockChar c = true := by
  obtain ⟨⟨hour, rest⟩, two, later⟩ := Option.bind_eq_some_iff.mp found
  obtain ⟨a, b, rfl, first, second, -⟩ := field_two _ _ _ two
  refine ⟨⟨a, b, rest, rfl, first, second⟩, List.forall_mem_cons.mpr ⟨by simp [clockChar, first],
    List.forall_mem_cons.mpr ⟨by simp [clockChar, second], ?_⟩⟩⟩
  dsimp only at later
  by_cases short : rest = []
  · rw [short]
    exact fun c member => nomatch member
  · rw [if_neg short] at later
    obtain ⟨after, marks, dated⟩ := Option.bind_eq_some_iff.mp later
    obtain ⟨⟨minute, rest'⟩, two', later'⟩ := Option.bind_eq_some_iff.mp dated
    obtain ⟨e, f, rfl, third, fourth, -⟩ := field_two _ _ _ two'
    have begun : ∀ c ∈ rest', clockChar c = true := by
      dsimp only at later'
      by_cases short' : rest' = []
      · rw [short']
        exact fun c member => nomatch member
      · rw [if_neg short'] at later'
        obtain ⟨after', marks', dated'⟩ := Option.bind_eq_some_iff.mp later'
        obtain ⟨⟨second', rest''⟩, two'', later''⟩ := Option.bind_eq_some_iff.mp dated'
        obtain ⟨g, h, rfl, fifth, sixth, -⟩ := field_two _ _ _ two''
        obtain ⟨micro, fraction, -⟩ := Option.bind_eq_some_iff.mp later''
        have rest_ := micros_chars rest'' micro fraction
        rw [colon_some _ _ _ marks']
        split
        · simp_all [clockChar]
        · simp_all [clockChar]
    rw [colon_some _ _ _ marks]
    split
    · simp_all [clockChar]
    · simp_all [clockChar]

theorem read_cases (chars : List Char) (time : Timestamp) (found : read chars = some time) :
    ∃ date days, Form date ∧ readDate date = some days ∧ separator chars = date.length ∧
      ((chars = date ∧ assemble days {} none = some time) ∨ ∃ c rest clock zone, chars = date ++ c :: rest ∧
        readTime rest = some (clock, zone) ∧ assemble days clock zone = some time) := by
  rw [read] at found
  split at found
  · exact nomatch found
  · obtain ⟨days, dated, later⟩ := Option.bind_eq_some_iff.mp found
    have form := read_date_form _ days dated
    split at later
    · rename_i whole
      have all : chars.take (separator chars) = chars := List.take_of_length_le whole
      rw [all] at dated form
      have ends : separator chars = chars.length := by simpa using form_separator chars [] form (fun c none => nomatch none)
      exact ⟨chars, days, form, dated, ends, .inl ⟨rfl, later⟩⟩
    · rename_i more
      have inside : separator chars < chars.length := not_le.mp more
      obtain ⟨⟨clock, zone⟩, timed, made⟩ := Option.bind_eq_some_iff.mp later
      refine ⟨_, days, form, dated, (List.length_take_of_le inside.le).symm, .inr ⟨chars[separator chars], _, clock, zone, ?_, timed,
        made⟩⟩
      rw [← List.drop_eq_getElem_cons inside, List.take_append_drop]

theorem read_with_time (date rest : List Char) (c : Char) (days : Int) (form : Form date) (dated : readDate date = some days)
    (ends : separator (date ++ c :: rest) = date.length) :
    read (date ++ c :: rest) = (readTime rest).bind (fun parts => assemble days parts.1 parts.2) := by
  have long := (form_length date form).1
  have total : (date ++ c :: rest).length = date.length + (rest.length + 1) := by simp
  rw [read, if_neg (by omega), ends, List.take_left, dated, Option.bind_eq_bind, Option.bind_some, if_neg (by omega),
    ← List.drop_drop, List.drop_left, List.drop_one, List.tail_cons]
  rfl

theorem clock_unmarked (c : Char) (char : clockChar c = true) : zoneMark c = false := by
  by_contra marked
  simp only [zoneMark, Bool.not_eq_false, Bool.or_eq_true, beq_iff_eq] at marked
  rcases marked with (rfl | rfl) | rfl
  · exact nomatch char
  · exact nomatch char
  · exact nomatch char

-- A time begins with its hour.
theorem time_opens (rest : List Char) (parts : Clock × Option Int) (timed : readTime rest = some parts) :
    ∃ a b others, rest = a :: b :: others ∧ a.isDigit = true ∧ b.isDigit = true := by
  obtain ⟨clock, clocked, -⟩ := Option.bind_eq_some_iff.mp timed
  obtain ⟨⟨a, b, others, taken, first, second⟩, -⟩ := clock_chars _ clock clocked
  have split_ : rest.takeWhile (fun c => !zoneMark c) ++ rest.dropWhile (fun c => !zoneMark c) = rest :=
    List.takeWhile_append_dropWhile
  rw [taken] at split_
  exact ⟨a, b, _, split_.symm, first, second⟩

theorem zone_cases (chars : List Char) (zone : Option Int) (found : readZone chars = some zone) :
    chars = [] ∨ chars = ['Z'] ∨ ∃ mark rest clock, chars = mark :: rest ∧ mark ≠ 'Z' ∧ readClock rest = some clock := by
  cases chars with
  | nil => exact .inl rfl
  | cons mark rest =>
      rw [readZone] at found
      split at found
      · rename_i zulu
        split at found
        · rename_i last
          exact .inr (.inl (by rw [zulu, last]))
        · exact nomatch found
      · rename_i other
        obtain ⟨clock, clocked, -⟩ := Option.bind_eq_some_iff.mp found
        exact .inr (.inr ⟨mark, rest, clock, rfl, other, clocked⟩)

theorem clock_not_zulu (chars : List Char) (clock : Clock) (found : readClock chars = some clock) : 'Z' ∉ chars :=
  fun member => nomatch (clock_chars chars clock found).2 'Z' member

theorem plain_not_zulu (chars : List Char) : 'Z' ∉ chars.takeWhile (fun c => !zoneMark c) := fun member =>
  nomatch List.all_eq_true.mp List.all_takeWhile 'Z' member

-- In a time, Z comes last.
theorem time_zulu_last (rest : List Char) (parts : Clock × Option Int) (timed : readTime rest = some parts) : 'Z' ∉ rest.dropLast := by
  obtain ⟨clock, clocked, later⟩ := Option.bind_eq_some_iff.mp timed
  obtain ⟨zone, zoned, -⟩ := Option.bind_eq_some_iff.mp later
  have split_ : rest.takeWhile (fun c => !zoneMark c) ++ rest.dropWhile (fun c => !zoneMark c) = rest :=
    List.takeWhile_append_dropWhile
  intro member
  rcases zone_cases _ zone zoned with none | zulu | ⟨mark, others, zone, signed, other, clocked'⟩
  · rw [none, List.append_nil] at split_
    rw [← split_] at member
    exact plain_not_zulu rest (List.dropLast_subset _ member)
  · rw [zulu] at split_
    rw [← split_, List.dropLast_concat] at member
    exact plain_not_zulu rest member
  · rw [signed] at split_
    rw [← split_] at member
    rcases List.mem_append.mp (List.dropLast_subset _ member) with before | after
    · exact plain_not_zulu rest before
    · rcases List.mem_cons.mp after with same | later
      · exact other same.symm
      · exact clock_not_zulu others zone clocked' later

theorem form_not_zulu (date : List Char) (form : Form date) : 'Z' ∉ date := fun member => by
  rcases form_chars date form 'Z' member with digit | dash | week
  · exact nomatch digit
  · exact nomatch dash
  · exact nomatch week

-- A final Z is the offset `+00:00`.
theorem time_zulu (chars : List Char) (parts : Clock × Option Int)
    (timed : readTime (chars ++ ['Z']) = some parts) : readTime (chars ++ IsoTime.offset) = some parts := by
  obtain ⟨clock, clocked, later⟩ := Option.bind_eq_some_iff.mp timed
  obtain ⟨zone, zoned, made⟩ := Option.bind_eq_some_iff.mp later
  have unmarked : chars.dropWhile (fun c => !zoneMark c) = [] := by
    by_contra marked
    obtain ⟨mark, others, after⟩ := List.exists_cons_of_ne_nil marked
    rw [List.dropWhile_append, after] at zoned
    have inside : mark ∈ chars := by
      have member : mark ∈ chars.dropWhile (fun c => !zoneMark c) := after ▸ List.mem_cons_self
      exact (List.dropWhile_sublist _).subset member
    rcases zone_cases _ zone zoned with none | zulu | ⟨mark', others', zone', same, other, clocked'⟩
    · exact nomatch none
    · simp at zulu
    · obtain ⟨-, rest⟩ := List.cons.inj same
      exact clock_not_zulu others' zone' clocked' (rest ▸ by simp)
  have all : ∀ c ∈ chars, (!zoneMark c) = true := List.dropWhile_eq_nil_iff.mp unmarked
  rw [List.takeWhile_append_of_pos all] at clocked
  rw [List.dropWhile_append_of_pos all] at zoned
  rw [readTime, List.takeWhile_append_of_pos all, List.dropWhile_append_of_pos all]
  obtain rfl : some 0 = zone := Option.some.inj zoned
  obtain rfl := Option.some.inj made
  have same : chars ++ IsoTime.offset.takeWhile (fun c => !zoneMark c) = chars ++ ['Z'].takeWhile (fun c => !zoneMark c) := rfl
  have offset : readZone (IsoTime.offset.dropWhile (fun c => !zoneMark c)) = some (some 0) := by decide
  rw [same, clocked, Option.bind_eq_bind, Option.bind_some, offset]
  rfl

theorem hour_before_zulu (chars : List Char) (parts : Clock × Option Int) (timed : readTime (chars ++ ['Z']) = some parts) :
    2 ≤ chars.length := by
  obtain ⟨a, b, others, opened, first, second⟩ := time_opens _ parts timed
  match chars, opened with
  | [], opened =>
      obtain ⟨rfl, -⟩ := List.cons.inj opened
      exact nomatch first
  | [_], opened =>
      obtain ⟨-, later⟩ := List.cons.inj opened
      obtain ⟨rfl, -⟩ := List.cons.inj later
      exact nomatch second
  | _ :: _ :: _, _ => simp

theorem read_zulu (chars : List Char) (time : Timestamp) (found : read (chars ++ ['Z']) = some time) :
    read (chars ++ IsoTime.offset) = some time := by
  obtain ⟨date, days, form, dated, ends, ⟨whole, -⟩ | ⟨c, rest, clock, zone, parts, timed, made⟩⟩ := read_cases _ time found
  · exact absurd (whole ▸ List.mem_append_right chars List.mem_cons_self) (form_not_zulu date form)
  · obtain ⟨a, b, others, opened, -, -⟩ := time_opens rest (clock, zone) timed
    have some_ : rest ≠ [] := by
      rw [opened]
      exact List.cons_ne_nil _ _
    have split_ : chars ++ ['Z'] = (date ++ c :: rest.dropLast) ++ [rest.getLast some_] := by
      rw [parts, List.append_assoc, List.cons_append, List.dropLast_concat_getLast]
    obtain ⟨body, last⟩ := List.append_inj' split_ rfl
    have zulu : rest = rest.dropLast ++ ['Z'] := by
      rw [List.singleton_inj.mp last, List.dropLast_concat_getLast]
    rw [zulu] at timed
    have timed' := time_zulu rest.dropLast (clock, zone) timed
    have long : 10 ≤ chars.length := by
      have dates := (form_length date form).1
      have clocks := hour_before_zulu rest.dropLast _ timed
      rw [body, List.length_append, List.length_cons]
      omega
    have swapped := separator_swap chars [] ['0', '0', ':', '0', '0'] 'Z' '+' long rfl rfl
    have ends' : separator (date ++ c :: (rest.dropLast ++ IsoTime.offset)) = date.length := by
      rw [← ends, swapped, body, List.append_assoc]
      rfl
    rw [body, List.append_assoc, List.cons_append, read_with_time date _ c days form dated ends', timed', Option.bind_some]
    exact made

-- `text.replace("Z", "+00:00")`.
def zuluReplaced (chars : List Char) : List Char := chars.flatMap (fun c => if c = 'Z' then IsoTime.offset else [c])

theorem replaced_plain (chars : List Char) (plain : 'Z' ∉ chars) : zuluReplaced chars = chars := by
  induction chars with
  | nil => rfl
  | cons c rest ih =>
      obtain ⟨other, later⟩ := not_or.mp (List.mem_cons.not.mp plain)
      rw [zuluReplaced, List.flatMap_cons, if_neg (fun same => other same.symm), ← zuluReplaced, ih later]
      rfl

theorem replaced_append (first second : List Char) : zuluReplaced (first ++ second) = zuluReplaced first ++ zuluReplaced second :=
  List.flatMap_append

-- Two digits after the offset are no time.
theorem crowded_time (a : Char) (rest : List Char) (digit : a.isDigit = true) :
    readTime (['0', '0', ':', '0', '0'] ++ a :: rest) = none := by
  have plain : zoneMark a = false := clock_unmarked a (by simp [clockChar, digit])
  have taken : (['0', '0', ':', '0', '0'] ++ a :: rest).takeWhile (fun c => !zoneMark c) =
      ['0', '0', ':', '0', '0'] ++ a :: rest.takeWhile (fun c => !zoneMark c) := by
    rw [List.takeWhile_append_of_pos (by simp [zoneMark]), List.takeWhile_cons_of_pos (by simp [plain])]
  have separator_ : a ≠ ':' := by
    rintro rfl
    exact nomatch digit
  rw [readTime, taken]
  simp [readClock, field, numberOf, colon, skip, separator_]

-- A Z between the date and the time is not the offset.
theorem read_inner_zulu (chars : List Char) (time : Timestamp) (found : read chars = some time) (inner : 'Z' ∈ chars.dropLast) :
    read (zuluReplaced chars) = none := by
  obtain ⟨date, days, form, dated, ends, ⟨rfl, -⟩ | ⟨c, rest, clock, zone, rfl, timed, made⟩⟩ := read_cases _ time found
  · exact absurd (List.dropLast_subset _ inner) (form_not_zulu chars form)
  · obtain ⟨a, b, others, rfl, digit, -⟩ := time_opens rest (clock, zone) timed
    have last := time_zulu_last _ _ timed
    rw [List.dropLast_append_of_ne_nil (List.cons_ne_nil _ _), List.dropLast_cons_of_ne_nil (List.cons_ne_nil _ _)] at inner
    have zulu : c = 'Z' := by
      rcases List.mem_append.mp inner with early | later
      · exact absurd early (form_not_zulu date form)
      · rcases List.mem_cons.mp later with same | inside
        · exact same.symm
        · exact absurd inside last
    have kept : a ≠ 'Z' := by
      rintro rfl
      exact nomatch digit
    have replaced : zuluReplaced (date ++ c :: a :: b :: others) =
        date ++ '+' :: (['0', '0', ':', '0', '0'] ++ a :: zuluReplaced (b :: others)) := by
      rw [replaced_append, replaced_plain date (form_not_zulu date form), zulu]
      simp [zuluReplaced, kept, IsoTime.offset]
    have stops : Stops ('+' :: (['0', '0', ':', '0', '0'] ++ a :: zuluReplaced (b :: others))) := by
      intro d head
      obtain rfl := Option.some.inj head
      exact ⟨rfl, by decide⟩
    rw [replaced, read_with_time date _ '+' days form dated (form_separator date _ form stops), crowded_time a _ digit]
    rfl

theorem time_chars (rest : List Char) (parts : Clock × Option Int) (timed : readTime rest = some parts) (c : Char) (member : c ∈ rest) :
    clockChar c = true ∨ zoneMark c = true := by
  obtain ⟨clock, clocked, later⟩ := Option.bind_eq_some_iff.mp timed
  obtain ⟨zone, zoned, -⟩ := Option.bind_eq_some_iff.mp later
  have split_ : rest.takeWhile (fun c => !zoneMark c) ++ rest.dropWhile (fun c => !zoneMark c) = rest :=
    List.takeWhile_append_dropWhile
  have marked (mark : Char) (others : List Char) (after : rest.dropWhile (fun c => !zoneMark c) = mark :: others) :
      zoneMark mark = true := by
    have some_ : rest.dropWhile (fun c => !zoneMark c) ≠ [] := by
      rw [after]
      exact List.cons_ne_nil _ _
    have stopped := List.head_dropWhile_not (fun c => !zoneMark c) some_
    simpa [after] using stopped
  rw [← split_] at member
  rcases List.mem_append.mp member with early | later
  · exact .inl ((clock_chars _ clock clocked).2 c early)
  · rcases zone_cases _ zone zoned with none | zulu | ⟨mark, others, zone', signed, -, clocked'⟩
    · rw [none] at later
      exact nomatch later
    · rw [zulu] at later
      rw [List.mem_singleton.mp later]
      exact .inr rfl
    · rw [signed] at later
      rcases List.mem_cons.mp later with rfl | inside
      · exact .inr (marked c others signed)
      · exact .inl ((clock_chars others zone' clocked').2 c inside)

theorem mark_not_space (c : Char) (char : clockChar c = true ∨ zoneMark c = true) : Text.isSpace c = false := by
  rcases char with clock | zone
  · simp only [clockChar, Bool.or_eq_true, List.contains_eq_mem, decide_eq_true_iff, List.mem_cons, List.not_mem_nil, or_false] at clock
    rcases clock with digit | rfl | rfl | rfl
    · exact Text.digit_not_space c digit
    · rfl
    · rfl
    · rfl
  · simp only [zoneMark, Bool.or_eq_true, beq_iff_eq] at zone
    rcases zone with (rfl | rfl) | rfl
    · rfl
    · rfl
    · rfl

theorem date_not_space (date : List Char) (form : Form date) (c : Char) (member : c ∈ date) : Text.isSpace c = false := by
  rcases form_chars date form c member with digit | rfl | rfl
  · exact Text.digit_not_space c digit
  · rfl
  · rfl

-- What is read has no space at its ends.
theorem read_stripped (chars : List Char) (time : Timestamp) (found : read chars = some time) : Text.stripList chars = chars := by
  obtain ⟨date, days, form, dated, ends, ⟨rfl, -⟩ | ⟨c, rest, clock, zone, rfl, timed, made⟩⟩ := read_cases _ time found
  · exact Text.strip_ends _ (fun c head => date_not_space _ form c (List.mem_of_mem_head? head))
      (fun c last => date_not_space _ form c (List.mem_of_mem_getLast? last))
  · obtain ⟨a, b, others, rfl, -, -⟩ := time_opens rest (clock, zone) timed
    refine Text.strip_ends _ (fun d head => ?_) (fun d last => ?_)
    · have some_ : date ≠ [] := fun none => absurd (form_length date form).1 (by rw [none]; decide)
      obtain ⟨e, more, same⟩ := List.exists_cons_of_ne_nil some_
      refine date_not_space _ form d ?_
      rw [same] at head ⊢
      rw [← Option.some.inj head]
      exact List.mem_cons_self
    · rw [List.getLast?_append, List.getLast?_cons_cons] at last
      have inside : d ∈ a :: b :: others := by
        rw [List.getLast?_cons_cons] at last
        refine List.mem_cons_of_mem _ (List.mem_of_mem_getLast? (a := d) ?_)
        cases others with
        | nil => simpa using last
        | cons e more => simpa [List.getLast?_cons_cons] using last
      exact mark_not_space d (time_chars _ _ timed d inside)

end QuantEngine.IsoForms
