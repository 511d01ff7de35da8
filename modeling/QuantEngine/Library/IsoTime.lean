import QuantEngine.Library.Calendar
import QuantEngine.Library.Json
import QuantEngine.Library.Months

set_option autoImplicit false

namespace QuantEngine

namespace Timestamps

open Calendar

-- The years 1 to 9999 in microseconds from the epoch.
def earliest : Moment := -62135596800000000

def latest : Moment := 253402300799999999

def InRange (wall : Moment) : Prop := earliest ≤ wall ∧ wall ≤ latest

instance (wall : Moment) : Decidable (InRange wall) := inferInstanceAs (Decidable (_ ∧ _))

end Timestamps

-- A datetime by its wall clock; one without an offset from UTC is naive.
structure Timestamp where
  wall : Calendar.Moment
  offset : Option Int
  inRange : Timestamps.InRange wall
deriving DecidableEq

namespace Timestamp

open Calendar Timestamps

def aware (time : Timestamp) : Bool := time.offset.isSome

def instant (time : Timestamp) : Moment := time.wall - time.offset.getD 0

-- The sum with a timedelta keeps the zone.
def plus (time : Timestamp) (delta : Int) : Except PyError Timestamp :=
  if fits : InRange (time.wall + delta) then .ok ⟨time.wall + delta, time.offset, fits⟩ else .error .overflow

-- Two datetimes are compared or subtracted where both have a zone or neither has.
def paired {α : Type} (left right : Timestamp) (value : α) : Except PyError α :=
  if left.aware = right.aware then .ok value else .error .type

def minus (left right : Timestamp) : Except PyError Int := paired left right (left.instant - right.instant)

def lt (left right : Timestamp) : Except PyError Bool := paired left right (decide (left.instant < right.instant))

def le (left right : Timestamp) : Except PyError Bool := paired left right (decide (left.instant ≤ right.instant))

theorem plus_fits (time : Timestamp) (delta : Int) (fits : InRange (time.wall + delta)) :
    time.plus delta = .ok ⟨time.wall + delta, time.offset, fits⟩ := dif_pos fits

theorem plus_outside (time : Timestamp) (delta : Int) (outside : ¬ InRange (time.wall + delta)) :
    time.plus delta = .error .overflow := dif_neg outside

theorem paired_same {α : Type} (left right : Timestamp) (value : α) (same : left.aware = right.aware) :
    paired left right value = .ok value := if_pos same

theorem paired_mixed {α : Type} (left right : Timestamp) (value : α) (mixed : left.aware ≠ right.aware) :
    paired left right value = .error .type := if_neg mixed

end Timestamp

end QuantEngine

namespace QuantEngine

-- A UTC datetime: the years are those that have four digits.
structure Datetime where
  moment : Calendar.Moment
  after : 1 ≤ Months.year moment
  before : Months.year moment ≤ 9999

namespace IsoTime

open Calendar

structure Fields where
  year : Nat
  month : Nat
  day : Nat
  hour : Nat
  minute : Nat
  second : Nat
  micro : Nat
deriving DecidableEq

def fieldsOf (moment : Moment) : Fields where
  year := (Months.year moment).toNat
  month := (Months.month moment).toNat
  day := (dayOfMonth moment).toNat
  hour := (hourOf moment).toNat
  minute := (minuteOf moment).toNat
  second := (moment % Calendar.minute / Calendar.second).toNat
  micro := (moment % Calendar.second).toNat

def momentOf (fields : Fields) : Moment :=
  Months.ofCivil fields.year fields.month + ((fields.day : Int) - 1) * day + fields.hour * hour + fields.minute * minute +
    fields.second * second + fields.micro

def padded : Nat → Nat → List Char
  | 0, _ => []
  | width + 1, number => padded width (number / 10) ++ [Nat.digitChar (number % 10)]

def offset : List Char := ['+', '0', '0', ':', '0', '0']

-- The fraction is written just where it is not zero.
def fraction (micro : Nat) : List Char := if micro = 0 then [] else '.' :: padded 6 micro

def write (fields : Fields) : List Char :=
  padded 4 fields.year ++ '-' :: (padded 2 fields.month ++ '-' :: (padded 2 fields.day ++ 'T' :: (padded 2 fields.hour ++
    ':' :: (padded 2 fields.minute ++ ':' :: (padded 2 fields.second ++ (fraction fields.micro ++ offset))))))

def numberOf : Nat → List Char → Option Nat
  | value, [] => some value
  | value, c :: rest => if c.isDigit then numberOf (value * 10 + (c.toNat - 48)) rest else none

def field (width : Nat) (chars : List Char) : Option (Nat × List Char) :=
  if width ≤ chars.length then (numberOf 0 (chars.take width)).map (fun number => (number, chars.drop width)) else none

def skip (mark : Char) : List Char → Option (List Char)
  | [] => none
  | c :: rest => if c = mark then some rest else none

def readFraction (chars : List Char) : Option (Nat × List Char) :=
  match chars with
  | '.' :: rest => field 6 rest
  | rest => some (0, rest)

def read (chars : List Char) : Option Fields := do
  let (year, rest) ← field 4 chars
  let (month, rest) ← field 2 (← skip '-' rest)
  let (day, rest) ← field 2 (← skip '-' rest)
  let (hour, rest) ← field 2 (← skip 'T' rest)
  let (minute, rest) ← field 2 (← skip ':' rest)
  let (second, rest) ← field 2 (← skip ':' rest)
  let (micro, rest) ← readFraction rest
  if rest = offset then some ⟨year, month, day, hour, minute, second, micro⟩ else none

def isoformat (datetime : Datetime) : String := String.ofList (write (fieldsOf datetime.moment))

-- Of the many forms that can be read, the one that `isoformat` writes.
def fromisoformat (text : String) : Except PyError Datetime :=
  match read text.toList with
  | some fields =>
      if valid : 1 ≤ Months.year (momentOf fields) ∧ Months.year (momentOf fields) ≤ 9999 ∧
          fieldsOf (momentOf fields) = fields then .ok ⟨momentOf fields, valid.1, valid.2.1⟩
      else .error .value
  | none => .error .value

theorem padded_length (width number : Nat) : (padded width number).length = width := by
  induction width generalizing number with
  | zero => rfl
  | succ width ih => rw [padded, List.length_append, ih, List.length_singleton]

theorem number_append (value : Nat) (first second : List Char) :
    numberOf value (first ++ second) = (numberOf value first).bind (fun read => numberOf read second) := by
  induction first generalizing value with
  | nil => rfl
  | cons c rest ih =>
      rw [List.cons_append, numberOf, numberOf]
      split
      · exact ih _
      · rfl

theorem number_digit (value digit : Nat) (single : digit < 10) : numberOf value [Nat.digitChar digit] = some (value * 10 + digit) := by
  have read : (Nat.digitChar digit).isDigit = true ∧ (Nat.digitChar digit).toNat - 48 = digit := by
    have each : ∀ digit < 10, (Nat.digitChar digit).isDigit = true ∧ (Nat.digitChar digit).toNat - 48 = digit := by decide
    exact each digit single
  rw [numberOf, if_pos read.1, read.2, numberOf]

theorem number_padded (width number value : Nat) (fits : number < 10 ^ width) :
    numberOf value (padded width number) = some (value * 10 ^ width + number) := by
  induction width generalizing number with
  | zero =>
      have none : number = 0 := by simpa using fits
      simp [padded, numberOf, none]
  | succ width ih =>
      have shorter : number / 10 < 10 ^ width := by
        rw [Nat.pow_succ] at fits
        omega
      rw [padded, number_append, ih (number / 10) shorter, Option.bind_some,
        number_digit _ _ (Nat.mod_lt _ (by decide)), Nat.pow_succ]
      congr 1
      have split := Nat.div_add_mod number 10
      ring_nf
      omega

theorem field_padded (width number : Nat) (rest : List Char) (fits : number < 10 ^ width) :
    field width (padded width number ++ rest) = some (number, rest) := by
  have length := padded_length width number
  rw [field, if_pos (by rw [List.length_append, length]; exact Nat.le_add_right _ _),
    List.take_left' length, List.drop_left' length, number_padded width number 0 fits, Nat.zero_mul, Nat.zero_add]
  rfl

theorem skip_mark (mark : Char) (rest : List Char) : skip mark (mark :: rest) = some rest := if_pos rfl

theorem fraction_read (micro : Nat) (fits : micro < 10 ^ 6) : readFraction (fraction micro ++ offset) = some (micro, offset) := by
  by_cases whole : micro = 0
  · rw [fraction, if_pos whole, whole]
    rfl
  · rw [fraction, if_neg whole]
    exact field_padded 6 micro offset fits

-- The fields fit their widths.
structure Fits (fields : Fields) : Prop where
  year : fields.year < 10 ^ 4
  month : fields.month < 10 ^ 2
  day : fields.day < 10 ^ 2
  hour : fields.hour < 10 ^ 2
  minute : fields.minute < 10 ^ 2
  second : fields.second < 10 ^ 2
  micro : fields.micro < 10 ^ 6

theorem read_write (fields : Fields) (fits : Fits fields) : read (write fields) = some fields := by
  simp only [read, write, field_padded _ _ _ fits.year, field_padded _ _ _ fits.month, field_padded _ _ _ fits.day,
    field_padded _ _ _ fits.hour, field_padded _ _ _ fits.minute, field_padded _ _ _ fits.second, skip_mark,
    fraction_read _ fits.micro, bind, Option.bind, reduceIte]

theorem clock_parts (moment : Int) : 0 ≤ hourOf moment ∧ hourOf moment < 24 ∧ 0 ≤ minuteOf moment ∧ minuteOf moment < 60 ∧
    0 ≤ moment % minute / second ∧ moment % minute / second < 60 ∧ 0 ≤ moment % second ∧ moment % second < 1000000 ∧
    moment = startOfDay moment + hourOf moment * hour + minuteOf moment * minute + moment % minute / second * second +
      moment % second := by
  have units : day = 86400000000 ∧ hour = 3600000000 ∧ minute = 60000000 ∧ second = 1000000 := by decide
  rw [hourOf, minuteOf, startOfDay, days, units.1, units.2.1, units.2.2.1, units.2.2.2]
  omega

theorem month_range (moment : Moment) : 1 ≤ Months.month moment ∧ Months.month moment ≤ 12 := by
  rw [Months.month]
  omega

theorem day_range (moment : Moment) : 1 ≤ dayOfMonth moment ∧ dayOfMonth moment ≤ 31 := by
  simp only [dayOfMonth]
  omega

-- A moment is found again from its fields.
theorem moment_of_fields (moment : Moment) (recent : 1 ≤ Months.year moment) : momentOf (fieldsOf moment) = moment := by
  have months := month_range moment
  have dates := day_range moment
  obtain ⟨hours, -, minutes, -, seconds, -, micros, -, parts⟩ := clock_parts moment
  have civil : Months.ofCivil (Months.year moment) (Months.month moment) = startOfMonth moment := by
    rw [Months.start_of_month_eq, Months.ofCivil, Months.year, Months.month,
      show 12 * (Months.monthIndex moment / 12) + (Months.monthIndex moment % 12 + 1 - 1) = Months.monthIndex moment by omega]
  simp only [momentOf, fieldsOf, Int.toNat_of_nonneg (show 0 ≤ Months.year moment by omega),
    Int.toNat_of_nonneg (show 0 ≤ Months.month moment by omega), Int.toNat_of_nonneg (show 0 ≤ dayOfMonth moment by omega),
    Int.toNat_of_nonneg hours, Int.toNat_of_nonneg minutes, Int.toNat_of_nonneg seconds, Int.toNat_of_nonneg micros, civil]
  rw [startOfMonth, Int.sub_add_cancel]
  exact parts.symm

theorem fields_fit (datetime : Datetime) : Fits (fieldsOf datetime.moment) := by
  have years := And.intro datetime.after datetime.before
  have months := month_range datetime.moment
  have dates := day_range datetime.moment
  obtain ⟨-, hours, -, minutes, -, seconds, -, micros, -⟩ := clock_parts datetime.moment
  constructor
  all_goals simp only [fieldsOf]; omega

theorem round_trip (datetime : Datetime) : fromisoformat (isoformat datetime) = .ok datetime := by
  have same := moment_of_fields datetime.moment datetime.after
  rw [fromisoformat, isoformat, String.toList_ofList, read_write _ (fields_fit datetime)]
  dsimp only
  rw [dif_pos]
  · cases datetime
    congr
  · rw [same]
    exact ⟨datetime.after, datetime.before, rfl⟩

def leapDay : Datetime := ⟨1709208000000000, by decide, by decide⟩

example : isoformat leapDay = "2024-02-29T12:00:00+00:00" := by decide

end IsoTime

end QuantEngine
