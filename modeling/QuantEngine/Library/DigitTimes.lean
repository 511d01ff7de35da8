import QuantEngine.Library.IsoForms

set_option autoImplicit false

-- What `datetime.fromisoformat` reads of a text that has no other ASCII
-- characters than digits.
namespace QuantEngine.IsoForms

open Calendar
open IsoTime (field)

def amount (digits : List Nat) : Nat := digits.foldl (fun value digit => value * 10 + digit) 0

def number (chars : List Char) : Nat := amount (chars.map worth)

theorem amount_from (digits : List Nat) (value : Nat) :
    digits.foldl (fun value digit => value * 10 + digit) value = value * 10 ^ digits.length + amount digits := by
  induction digits generalizing value with
  | nil => simp [amount]
  | cons digit rest ih =>
      rw [amount, List.foldl_cons, List.foldl_cons, ih, ih, List.length_cons, Nat.pow_succ]
      ring

theorem amount_append (first second : List Nat) : amount (first ++ second) = amount first * 10 ^ second.length + amount second := by
  rw [amount, List.foldl_append, amount_from]
  rfl

theorem number_of_digits (n : Nat) : number (Nat.toDigits 10 n) = n := by
  have from_ (chars : List Char) (value : Nat) :
      (chars.map worth).foldl (fun value digit => value * 10 + digit) value = Nat.ofDigitChars 10 chars value := by
    induction chars generalizing value with
    | nil => rfl
    | cons c rest ih =>
        rw [List.map_cons, List.foldl_cons, ih, Nat.ofDigitChars_cons, Nat.mul_comm]
        rfl
  rw [number, amount, from_, Nat.ofDigitChars_ten_toDigits]

def Digital (chars : List Char) : Prop := ∀ c ∈ chars, c.toNat < 128 → c.isDigit = true

theorem digital_plain (chars : List Char) (digital : Digital chars) (c : Char) (ascii : c.toNat < 128) (other : c.isDigit = false) :
    c ∉ chars := fun member => by
  rw [digital c member ascii] at other
  exact nomatch other

theorem worth_lt (c : Char) (digit : c.isDigit = true) : worth c < 10 := by
  have code : 48 ≤ c.toNat ∧ c.toNat ≤ 57 := by
    simpa [Char.isDigit, UInt32.le_iff_toNat_le] using digit
  rw [worth]
  omega

-- The digits of a clock: its hour, its minutes too, or its seconds too.
inductive ClockDigits : List Char → Clock → Prop where
  | hour (a b : Char) (digits : Digits [a, b]) : ClockDigits [a, b] { hour := worth a * 10 + worth b }
  | minute (a b c d : Char) (digits : Digits [a, b, c, d]) :
      ClockDigits [a, b, c, d] { hour := worth a * 10 + worth b, minute := worth c * 10 + worth d }
  | second (a b c d e f : Char) (digits : Digits [a, b, c, d, e, f]) :
      ClockDigits [a, b, c, d, e, f]
        { hour := worth a * 10 + worth b, minute := worth c * 10 + worth d, second := worth e * 10 + worth f }

theorem clock_amount (chars : List Char) (clock : Clock) (clocked : ClockDigits chars clock) : clock.micro = 0 ∧
    (chars.length = 2 ∧ number chars = clock.hour ∧ clock.minute = 0 ∧ clock.second = 0 ∨
      chars.length = 4 ∧ number chars = 100 * clock.hour + clock.minute ∧ clock.second = 0 ∨
      chars.length = 6 ∧ number chars = 10000 * clock.hour + 100 * clock.minute + clock.second) := by
  cases clocked with
  | hour a b digits => simp [number, amount]
  | minute a b c d digits =>
      simp [number, amount]
      omega
  | second a b c d e f digits =>
      simp [number, amount]
      omega

theorem clock_digits (chars : List Char) (clock : Clock) (clocked : ClockDigits chars clock) : Digits chars := by
  cases clocked with
  | hour a b digits => exact digits
  | minute a b c d digits => exact digits
  | second a b c d e f digits => exact digits

theorem read_clock_digits (chars : List Char) (clock : Clock) (digital : Digital chars) (found : readClock chars = some clock) :
    ClockDigits chars clock := by
  obtain ⟨⟨hour, rest⟩, hours, later⟩ := Option.bind_eq_some_iff.mp found
  obtain ⟨a, b, rfl, first, second, rfl⟩ := field_two _ _ _ hours
  dsimp only at later
  by_cases short : rest = []
  · rw [if_pos short] at later
    obtain rfl := Option.some.inj later
    rw [short]
    exact .hour a b (by simp [Digits, first, second])
  · have bare : ¬ rest.head? = some ':' := fun same =>
      digital_plain _ digital ':' (by decide) rfl (by simp [List.mem_of_mem_head? same])
    simp only [if_neg short, bare, decide_false, colon, Bool.false_eq_true, if_false] at later
    obtain ⟨_, same, later⟩ := Option.bind_eq_some_iff.mp later
    obtain rfl := Option.some.inj same
    obtain ⟨⟨minute, rest'⟩, minutes, later⟩ := Option.bind_eq_some_iff.mp later
    obtain ⟨c, d, rfl, third, fourth, rfl⟩ := field_two _ _ _ minutes
    dsimp only at later
    by_cases short' : rest' = []
    · rw [if_pos short'] at later
      obtain rfl := Option.some.inj later
      rw [short']
      exact .minute a b c d (by simp [Digits, first, second, third, fourth])
    · rw [if_neg short'] at later
      obtain ⟨_, same, later⟩ := Option.bind_eq_some_iff.mp later
      obtain rfl := Option.some.inj same
      obtain ⟨⟨second', rest''⟩, seconds, later⟩ := Option.bind_eq_some_iff.mp later
      obtain ⟨e, f, rfl, fifth, sixth, rfl⟩ := field_two _ _ _ seconds
      obtain ⟨micro, micros, made⟩ := Option.bind_eq_some_iff.mp later
      have end_ : rest'' = [] := by
        cases rest'' with
        | nil => rfl
        | cons mark others =>
            rw [readMicros] at micros
            split at micros
            · rename_i fraction
              rcases fraction.1 with rfl | rfl
              · exact absurd (by simp) (digital_plain _ digital '.' (by decide) rfl)
              · exact absurd (by simp) (digital_plain _ digital ',' (by decide) rfl)
            · cases micros
      rw [end_] at micros
      obtain rfl := Option.some.inj micros
      obtain rfl := Option.some.inj made
      rw [end_]
      exact .second a b c d e f (by simp [Digits, first, second, third, fourth, fifth, sixth])

theorem digital_unmarked (chars : List Char) (digital : Digital chars) : ∀ c ∈ chars, (!zoneMark c) = true := fun c member => by
  by_contra marked
  simp only [zoneMark, Bool.not_not_eq, Bool.or_eq_true, beq_iff_eq] at marked
  rcases marked with (rfl | rfl) | rfl
  · exact digital_plain chars digital '+' (by decide) rfl member
  · exact digital_plain chars digital '-' (by decide) rfl member
  · exact digital_plain chars digital 'Z' (by decide) rfl member

theorem read_time_digits (chars : List Char) (parts : Clock × Option Int) (digital : Digital chars)
    (found : readTime chars = some parts) : ClockDigits chars parts.1 ∧ parts.2 = none := by
  obtain ⟨clock, clocked, later⟩ := Option.bind_eq_some_iff.mp found
  obtain ⟨zone, zoned, made⟩ := Option.bind_eq_some_iff.mp later
  have plain := digital_unmarked chars digital
  rw [List.takeWhile_eq_self_iff.mpr plain] at clocked
  rw [List.dropWhile_eq_nil_iff.mpr plain] at zoned
  obtain rfl := Option.some.inj zoned
  obtain rfl := Option.some.inj made
  exact ⟨read_clock_digits chars clock digital clocked, rfl⟩

theorem read_date_digits (chars : List Char) (days : Int) (digital : Digital chars) (form : Form chars)
    (found : readDate chars = some days) : ∃ a b c d e f g h, chars = [a, b, c, d, e, f, g, h] ∧ Digits chars ∧
      civilDays (number [a, b, c, d]) (number [e, f]) (number [g, h]) = some days := by
  have undashed : '-' ∉ chars := digital_plain chars digital '-' (by decide) rfl
  have unweekly : 'W' ∉ chars := digital_plain chars digital 'W' (by decide) rfl
  cases form with
  | civil a b c d e f g h digits => exact absurd (by simp) undashed
  | week a b c d e f digits => exact absurd (by simp) undashed
  | weekday a b c d e f g digits => exact absurd (by simp) undashed
  | bareWeek a b c d e f digits => exact absurd (by simp) unweekly
  | bareWeekday a b c d e f g digits => exact absurd (by simp) unweekly
  | compact a b c d e f g h digits =>
      refine ⟨a, b, c, d, e, f, g, h, rfl, digits, ?_⟩
      obtain ⟨⟨year, rest⟩, four, later⟩ := Option.bind_eq_some_iff.mp found
      obtain ⟨a', b', c', d', same, -, rfl⟩ := field_four _ _ _ four
      simp only [List.cons.injEq] at same
      obtain ⟨rfl, rfl, rfl, rfl, rfl⟩ := same
      have fifth := digits e (by simp)
      have dash : ¬ e = '-' := digit_not_dash e fifth
      have week : ¬ e = 'W' := digit_not_week e fifth
      simp only [List.head?_cons, Option.some.injEq, dash, week, decide_false, Bool.false_eq_true, if_false] at later
      obtain ⟨e', f', g', h', same, -, civil⟩ := read_civil_form _ _ _ days later
      simp only [Bool.false_eq_true, if_false, List.cons.injEq] at same
      obtain ⟨rfl, rfl, rfl, rfl, -⟩ := same
      simpa [number, amount] using civil

theorem assemble_some (days : Int) (clock : Clock) (zone : Option Int) (time : Timestamp) (made : assemble days clock zone = some time) :
    (clock.hour < 24 ∧ clock.minute < 60 ∧ clock.second < 60) ∧ time.wall = days * day + clock.micros ∧ time.offset = zone := by
  rw [assemble] at made
  split at made
  · rename_i small
    split at made
    · rw [← Option.some.inj made]
      exact ⟨small, rfl, rfl⟩
    · exact nomatch made
  · exact nomatch made

-- A date of eight digits, and its time after one more character.
structure DigitTime (chars : List Char) (time : Timestamp) where
  date : List Char
  year : Nat
  month : Nat
  dayOfMonth : Nat
  days : Int
  digits : Digits date
  eight : date.length = 8
  written : number date = 10000 * year + 100 * month + dayOfMonth
  short : dayOfMonth < 100
  civil : civilDays year month dayOfMonth = some days
  naive : time.offset = none
  timed : chars = date ∧ time.wall = days * day ∨ ∃ c rest clock, chars = date ++ c :: rest ∧ ClockDigits rest clock ∧
    (clock.hour < 24 ∧ clock.minute < 60 ∧ clock.second < 60) ∧ time.wall = days * day + clock.micros

theorem read_digits (chars : List Char) (time : Timestamp) (digital : Digital chars) (found : read chars = some time) :
    Nonempty (DigitTime chars time) := by
  obtain ⟨date, days, form, dated, ends, timed⟩ := read_cases chars time found
  have dateDigital : Digital date := by
    rcases timed with ⟨rfl, -⟩ | ⟨c, rest, clock, zone, rfl, -⟩
    · exact digital
    · exact fun d member => digital d (List.mem_append_left _ member)
  obtain ⟨a, b, c, d, e, f, g, h, rfl, digits, civil⟩ := read_date_digits date days dateDigital form dated
  have written : number [a, b, c, d, e, f, g, h] = 10000 * number [a, b, c, d] + 100 * number [e, f] + number [g, h] := by
    simp only [number, amount, List.map, List.foldl]
    ring
  have short : number [g, h] < 100 := by
    have tens := worth_lt g (digits g (by simp))
    have ones := worth_lt h (digits h (by simp))
    simp only [number, amount, List.map, List.foldl]
    omega
  rcases timed with ⟨rfl, made⟩ | ⟨mark, rest, clock, zone, rfl, timed, made⟩
  · obtain ⟨-, wall, offset⟩ := assemble_some _ _ _ _ made
    refine ⟨⟨_, _, _, _, days, digits, rfl, written, short, civil, offset, .inl ⟨rfl, ?_⟩⟩⟩
    simpa [Clock.micros] using wall
  · have restDigital : Digital rest := fun other member => digital other (List.mem_append_right _ (List.mem_cons_of_mem _ member))
    obtain ⟨clocked, naive⟩ := read_time_digits rest (clock, zone) restDigital timed
    obtain ⟨small, wall, offset⟩ := assemble_some _ _ _ _ made
    exact ⟨⟨_, _, _, _, days, digits, rfl, written, short, civil, offset.trans naive, .inr ⟨mark, rest, clock, rfl, clocked, small, wall⟩⟩⟩

theorem new_year_range (k : Nat) : 365 * (k : Int) ≤ newYear (1970 + k) ∧ newYear (1970 + k) ≤ 366 * (k : Int) := by
  induction k with
  | zero => decide
  | succ k ih =>
      have step := Months.year_start_step ((12 * (1970 + (k : Int)) - 2) / 12)
      simp only [newYear, Months.firstDay] at ih ⊢
      rw [show (12 * (1970 + ((k + 1 : Nat) : Int)) - 2) / 12 = (12 * (1970 + (k : Int)) - 2) / 12 + 1 by omega,
        show (12 * (1970 + ((k + 1 : Nat) : Int)) - 2) % 12 = (12 * (1970 + (k : Int)) - 2) % 12 by omega]
      omega

theorem civil_parts (year month dayOfMonth : Nat) (days : Int) (civil : civilDays year month dayOfMonth = some days) :
    (1 ≤ year ∧ year ≤ 9999 ∧ 1 ≤ month ∧ month ≤ 12 ∧ 1 ≤ dayOfMonth ∧
      (dayOfMonth : Int) ≤ Months.firstDay (12 * year + (month - 1) + 1) - Months.firstDay (12 * year + (month - 1))) ∧
    days = Months.firstDay (12 * year + (month - 1)) + (dayOfMonth - 1) := by
  simp only [civilDays] at civil
  split at civil
  · rename_i valid
    exact ⟨valid, (Option.some.inj civil).symm⟩
  · exact nomatch civil

-- The day lies in its year.
theorem civil_within (year month dayOfMonth : Nat) (days : Int) (civil : civilDays year month dayOfMonth = some days) :
    newYear year ≤ days ∧ days < newYear (year + 1) := by
  obtain ⟨⟨-, -, first, last, from_, upto⟩, same⟩ := civil_parts year month dayOfMonth days civil
  have starts := Months.grid.point_le (12 * year) (12 * year + (month - 1)) (by omega)
  have ends := Months.grid.point_le (12 * year + (month - 1) + 1) (12 * (year + 1)) (by omega)
  simp only [Months.grid] at starts ends
  simp only [newYear]
  omega

theorem civil_before (year month dayOfMonth : Nat) (days : Int) (civil : civilDays year month dayOfMonth = some days)
    (early : year < 1970) : days < 0 := by
  have ends := Months.grid.point_le (12 * (year + 1)) (12 * 1970) (by omega)
  have start : Months.grid.point (12 * 1970) = 0 := by decide
  have within := (civil_within year month dayOfMonth days civil).2
  rw [start] at ends
  exact lt_of_lt_of_le within ends

theorem civil_range (year month dayOfMonth : Nat) (days : Int) (civil : civilDays year month dayOfMonth = some days)
    (late : 1970 ≤ year) : 365 * ((year : Int) - 1970) ≤ days ∧ days < 366 * ((year : Int) - 1969) := by
  have within := civil_within year month dayOfMonth days civil
  have low := (new_year_range (year - 1970)).1
  have high := (new_year_range (year - 1970 + 1)).2
  rw [show (1970 : Int) + ((year - 1970 : Nat) : Int) = year by omega] at low
  rw [show (1970 : Int) + ((year - 1970 + 1 : Nat) : Int) = year + 1 by omega] at high
  omega

end QuantEngine.IsoForms
