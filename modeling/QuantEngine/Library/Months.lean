import Mathlib.Tactic.Ring
import QuantEngine.Library.Buckets
import QuantEngine.Library.Calendar

set_option autoImplicit false

namespace QuantEngine.Months

open QuantEngine.Calendar

-- Days before the year that starts on the first of March of `year`, counted
-- from the first of March of the year 0.
def yearStart (year : Int) : Int := 365 * year + year / 4 - year / 100 + year / 400

def yearOfEra (dayOfEra : Int) : Int :=
  (dayOfEra - dayOfEra / 1460 + dayOfEra / 36524 - dayOfEra / 146096) / 365

-- The year, counted from March, of a day counted from the first of March of the year 0.
def marchYear (dayNumber : Int) : Int := 400 * (dayNumber / 146097) + yearOfEra (dayNumber % 146097)

-- Months since January of the year 0.
def monthIndex (moment : Moment) : Int :=
  let dayNumber := days moment + 719468
  let dayOfYear := dayNumber - yearStart (marchYear dayNumber)
  12 * marchYear dayNumber + (5 * dayOfYear + 2) / 153 + 2

def year (moment : Moment) : Int := monthIndex moment / 12

def month (moment : Moment) : Int := monthIndex moment % 12 + 1

def firstDay (index : Int) : Int :=
  yearStart ((index - 2) / 12) + (153 * ((index - 2) % 12) + 2) / 5 - 719468

def ofCivil (year month : Int) : Moment := firstDay (12 * year + (month - 1)) * day

example : year 1709208000000000 = 2024 ∧ month 1709208000000000 = 2 ∧ ofCivil 2024 2 = 1706745600000000 := by decide

-- An era is four centuries, the last one a day longer; a century is 25 spans
-- of four years, whose last one has no leap day except in the last century.
theorem era_parts (dayOfEra : Int) (low : 0 ≤ dayOfEra) (high : dayOfEra < 146097) :
    ∃ century span rest left : Int, dayOfEra = 36524 * century + 1461 * span + 365 * rest + left ∧
      (0 ≤ century ∧ century ≤ 3) ∧ (0 ≤ span ∧ span ≤ 24) ∧ (0 ≤ rest ∧ rest ≤ 3) ∧ (0 ≤ left ∧ left ≤ 365) ∧
      (left = 365 → rest = 3 ∧ (span = 24 → century = 3)) := by
  obtain ⟨century, centuryOf⟩ : ∃ century, century = min 3 (dayOfEra / 36524) := ⟨_, rfl⟩
  obtain ⟨span, spanOf⟩ : ∃ span, span = (dayOfEra - 36524 * century) / 1461 := ⟨_, rfl⟩
  obtain ⟨rest, restOf⟩ : ∃ rest, rest = min 3 ((dayOfEra - 36524 * century - 1461 * span) / 365) := ⟨_, rfl⟩
  refine ⟨century, span, rest, dayOfEra - 36524 * century - 1461 * span - 365 * rest, ?_, ?_, ?_, ?_, ?_, ?_⟩
  all_goals omega

theorem year_of_parts (dayOfEra century span rest left : Int)
    (parts : dayOfEra = 36524 * century + 1461 * span + 365 * rest + left)
    (centuries : 0 ≤ century ∧ century ≤ 3) (spans : 0 ≤ span ∧ span ≤ 24) (rests : 0 ≤ rest ∧ rest ≤ 3)
    (lefts : 0 ≤ left ∧ left ≤ 365) (leap : left = 365 → rest = 3 ∧ (span = 24 → century = 3)) :
    yearOfEra dayOfEra = 100 * century + 4 * span + rest := by
  rw [yearOfEra]
  by_cases last : dayOfEra = 146096
  · have ends : century = 3 ∧ span = 24 ∧ rest = 3 := by omega
    rw [last, ends.1, ends.2.1, ends.2.2]
    decide
  · have eras : dayOfEra / 146096 = 0 := by omega
    have hundreds : dayOfEra / 36524 = century := by omega
    have leaps : dayOfEra / 1460 = 25 * century + span + (24 * century + span + 365 * rest + left) / 1460 := by omega
    have carry : (24 * century + span + 365 * rest + left) / 1460 = 0 ∧ left < 365 ∨
        (24 * century + span + 365 * rest + left) / 1460 = 1 ∧ 0 < left := by omega
    rw [eras, hundreds, leaps]
    omega

theorem centuries_within_leaps (y : Int) : (y + 1) / 100 - y / 100 ≤ (y + 1) / 4 - y / 4 := by
  by_cases turn : (y + 1) % 100 = 0
  · obtain ⟨k, multiple⟩ : ∃ k, y + 1 = 100 * k := ⟨(y + 1) / 100, by omega⟩
    omega
  · omega

theorem march_year_brackets (dayNumber : Int) :
    yearStart (marchYear dayNumber) ≤ dayNumber ∧ dayNumber < yearStart (marchYear dayNumber + 1) := by
  obtain ⟨century, span, rest, left, parts, centuries, spans, rests, lefts, leap⟩ :=
    era_parts (dayNumber % 146097) (Int.emod_nonneg _ (by decide)) (Int.emod_lt_of_pos _ (by decide))
  rw [marchYear, year_of_parts _ century span rest left parts centuries spans rests lefts leap, yearStart, yearStart]
  have whole : dayNumber = 146097 * (dayNumber / 146097) + dayNumber % 146097 := by omega
  generalize dayNumber / 146097 = era at whole ⊢
  rw [whole, parts]
  obtain ⟨year, yearOf⟩ : ∃ year, year = 400 * era + (100 * century + 4 * span + rest) := ⟨_, rfl⟩
  rw [← yearOf]
  have fours : year / 4 = 100 * era + 25 * century + span := by omega
  have hundreds : year / 100 = 4 * era + century := by omega
  have eras : year / 400 = era := by omega
  constructor
  · omega
  · by_cases ends : left = 365
    · have full := leap ends
      have nextFours : (year + 1) / 4 = 100 * era + 25 * century + span + 1 := by omega
      have lost : (year + 1) / 100 = 4 * era + century ∨ (year + 1) / 400 = era + 1 := by omega
      omega
    · have nextHundreds : (year + 1) / 400 ≥ era := by omega
      have balance := centuries_within_leaps year
      omega

theorem year_start_step (y : Int) : 365 ≤ yearStart (y + 1) - yearStart y ∧ yearStart (y + 1) - yearStart y ≤ 366 := by
  have balance := centuries_within_leaps y
  rw [yearStart, yearStart]
  constructor
  · omega
  · by_cases turn : (y + 1) % 400 = 0
    · obtain ⟨k, multiple⟩ : ∃ k, y + 1 = 400 * k := ⟨(y + 1) / 400, by omega⟩
      omega
    · omega

theorem first_day_step (index : Int) : firstDay index < firstDay (index + 1) := by
  rw [firstDay, firstDay]
  by_cases last : (index - 2) % 12 = 11
  · have next : (index + 1 - 2) / 12 = (index - 2) / 12 + 1 := by omega
    have longer := year_start_step ((index - 2) / 12)
    rw [next, last, show (index + 1 - 2) % 12 = 0 by omega]
    omega
  · rw [show (index + 1 - 2) / 12 = (index - 2) / 12 by omega,
      show (index + 1 - 2) % 12 = (index - 2) % 12 + 1 by omega]
    omega

def grid : Buckets.Grid where
  point := firstDay
  grows := first_day_step

theorem month_brackets (moment : Moment) :
    firstDay (monthIndex moment) ≤ days moment ∧ days moment < firstDay (monthIndex moment + 1) := by
  obtain ⟨dayNumber, number⟩ : ∃ dayNumber, dayNumber = days moment + 719468 := ⟨_, rfl⟩
  have inYear := march_year_brackets dayNumber
  have length := year_start_step (marchYear dayNumber)
  rw [show days moment = dayNumber - 719468 by omega]
  simp only [monthIndex, ← number]
  generalize marchYear dayNumber = y at inYear length ⊢
  obtain ⟨offset, offsetOf⟩ : ∃ offset, offset = (5 * (dayNumber - yearStart y) + 2) / 153 := ⟨_, rfl⟩
  have months : 0 ≤ offset ∧ offset ≤ 11 := by omega
  rw [← offsetOf, firstDay, firstDay, show (12 * y + offset + 2 - 2) / 12 = y by omega,
    show (12 * y + offset + 2 - 2) % 12 = offset by omega]
  constructor
  · omega
  · by_cases last : offset = 11
    · rw [show (12 * y + offset + 2 + 1 - 2) / 12 = y + 1 by omega,
        show (12 * y + offset + 2 + 1 - 2) % 12 = 0 by omega]
      omega
    · rw [show (12 * y + offset + 2 + 1 - 2) / 12 = y by omega,
        show (12 * y + offset + 2 + 1 - 2) % 12 = offset + 1 by omega]
      omega

theorem month_index_eq (moment : Moment) (index : Int) (low : firstDay index ≤ days moment)
    (high : days moment < firstDay (index + 1)) : monthIndex moment = index := by
  have inside := month_brackets moment
  have above := (grid.point_lt_iff index (monthIndex moment + 1)).mp (lt_of_le_of_lt low inside.2)
  have below := (grid.point_lt_iff (monthIndex moment) (index + 1)).mp (lt_of_le_of_lt inside.1 high)
  omega

theorem year_of_era_range (dayOfEra : Int) (low : 0 ≤ dayOfEra) (high : dayOfEra < 146097) :
    0 ≤ yearOfEra dayOfEra ∧ yearOfEra dayOfEra ≤ 399 := by
  obtain ⟨century, span, rest, left, parts, centuries, spans, rests, lefts, leap⟩ := era_parts dayOfEra low high
  rw [year_of_parts dayOfEra century span rest left parts centuries spans rests lefts leap]
  omega

theorem start_of_month_eq (moment : Moment) : startOfMonth moment = firstDay (monthIndex moment) * day := by
  have range := year_of_era_range ((days moment + 719468) % 146097) (Int.emod_nonneg _ (by decide))
    (Int.emod_lt_of_pos _ (by decide))
  have inYear := march_year_brackets (days moment + 719468)
  have length := year_start_step (marchYear (days moment + 719468))
  have whole : days moment + 719468 = 146097 * ((days moment + 719468) / 146097) + (days moment + 719468) % 146097 := by
    omega
  rw [startOfMonth, startOfDay, ← Int.sub_mul]
  congr 1
  simp only [dayOfMonth, firstDay, monthIndex, marchYear] at inYear length ⊢
  rw [yearOfEra] at range inYear length ⊢
  generalize (days moment + 719468) / 146097 = era at inYear length whole ⊢
  generalize (days moment + 719468) % 146097 = dayOfEra at range inYear length whole ⊢
  generalize (dayOfEra - dayOfEra / 1460 + dayOfEra / 36524 - dayOfEra / 146096) / 365 = y at range inYear length ⊢
  have yearDays : yearStart (400 * era + y) = 146097 * era + (365 * y + y / 4 - y / 100) := by
    rw [yearStart]
    omega
  rw [yearDays, whole] at inYear
  rw [yearDays] at length
  rw [yearDays, whole, show 146097 * era + dayOfEra - (146097 * era + (365 * y + y / 4 - y / 100)) =
    dayOfEra - (365 * y + y / 4 - y / 100) by omega]
  obtain ⟨dayOfYear, ofYear⟩ : ∃ dayOfYear, dayOfYear = dayOfEra - (365 * y + y / 4 - y / 100) := ⟨_, rfl⟩
  obtain ⟨offset, offsetOf⟩ : ∃ offset, offset = (5 * dayOfYear + 2) / 153 := ⟨_, rfl⟩
  have months : 0 ≤ offset ∧ offset ≤ 11 := by omega
  rw [← ofYear, ← offsetOf, show (12 * (400 * era + y) + offset + 2 - 2) / 12 = 400 * era + y by omega,
    show (12 * (400 * era + y) + offset + 2 - 2) % 12 = offset by omega, yearDays]
  omega

end QuantEngine.Months
