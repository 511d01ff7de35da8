set_option autoImplicit false

namespace QuantEngine.Calendar

-- A UTC instant in microseconds since the epoch, the resolution of a datetime.
abbrev Moment := Int

theorem le_later (moment : Moment) (micros : Nat) : moment ≤ moment + micros :=
  Int.le_add_of_nonneg_right (Int.natCast_nonneg micros)

def second : Int := 1000000
def minute : Int := 60 * second
def hour : Int := 60 * minute
def day : Int := 24 * hour

def days (moment : Moment) : Int := moment / day

def hourOf (moment : Moment) : Int := moment % day / hour

def minuteOf (moment : Moment) : Int := moment % hour / minute

-- Monday is 0; the epoch was a Thursday.
def weekday (moment : Moment) : Int := (days moment + 3) % 7

-- Day of the month in the proleptic Gregorian calendar, counting 400-year
-- eras that start on the first of March.
def dayOfMonth (moment : Moment) : Int :=
  let dayOfEra := (days moment + 719468) % 146097
  let yearOfEra := (dayOfEra - dayOfEra / 1460 + dayOfEra / 36524 - dayOfEra / 146096) / 365
  let dayOfYear := dayOfEra - (365 * yearOfEra + yearOfEra / 4 - yearOfEra / 100)
  let month := (5 * dayOfYear + 2) / 153
  dayOfYear - (153 * month + 2) / 5 + 1

def startOfDay (moment : Moment) : Moment := days moment * day

def startOfWeek (moment : Moment) : Moment := startOfDay moment - weekday moment * day

def startOfMonth (moment : Moment) : Moment := startOfDay moment - (dayOfMonth moment - 1) * day

-- 2024-02-29 12:00 UTC, a Thursday.
example : dayOfMonth 1709208000000000 = 29 ∧ weekday 1709208000000000 = 3 ∧
    hourOf 1709208000000000 = 12 := by decide

end QuantEngine.Calendar
