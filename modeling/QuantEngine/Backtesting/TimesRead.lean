import Mathlib.Tactic.IntervalCases
import QuantEngine.Backtesting.Datasets
import QuantEngine.Library.Decimal
import QuantEngine.Library.DigitTimes

set_option autoImplicit false

namespace QuantEngine.Datasets

open Calendar (Moment)
open IsoForms (Digits Digital DigitTime ClockDigits amount number worth civilDays)

variable (py : Python)

theorem micros_near (seconds : ℚ) (nonneg : 0 ≤ seconds) :
    seconds * 1000000 - 3 / 5 ≤ microsOf seconds ∧ (microsOf seconds : ℚ) ≤ seconds * 1000000 + 3 / 5 := by
  have whole : Decimal.truncate seconds = ⌊seconds⌋ := if_pos nonneg
  have low := Int.floor_le seconds
  have high := Int.lt_floor_add_one seconds
  obtain ⟨fraction, same⟩ : ∃ fraction, fraction = (seconds - ⌊seconds⌋) * 1000000 := ⟨_, rfl⟩
  have small : 0 ≤ fraction ∧ fraction ≤ 1000000 := by
    constructor
    · linarith
    · linarith
  have error := Decimal.double_error fraction small.1
  have rounded := Decimal.round_near (Decimal.double fraction)
  have tiny : fraction / 2 ^ 53 ≤ 1 / 10 := by
    rw [div_le_iff₀ (by norm_num)]
    linarith
  rw [microsOf, whole, ← same]
  push_cast
  constructor
  · linarith
  · linarith

-- The second and its thousandths, millionths and billionths.
def units : List Nat := [1, 1000, 1000000, 1000000000]

-- Within three microseconds of the instant that `n` counts from the epoch.
def Near (n unit : Nat) (moment : Int) : Prop :=
  (moment - 3) * unit ≤ n * Calendar.second ∧ n * Calendar.second ≤ (moment + 3) * unit

def secondsOf (n unit : Nat) : ℚ := if unit = 1 then Decimal.double n else Decimal.double (Decimal.double n / unit)

theorem seconds_nonneg (n unit : Nat) : 0 ≤ secondsOf n unit := by
  have count := Decimal.double_nonneg n (Nat.cast_nonneg n)
  rw [secondsOf]
  split
  · exact count
  · exact Decimal.double_nonneg _ (div_nonneg count (Nat.cast_nonneg unit))

theorem seconds_near (n unit : Nat) (positive : 0 < unit) (upto : n ≤ 10000000000 * unit) :
    (n : ℚ) / unit - 23 / 10000000 ≤ secondsOf n unit ∧ secondsOf n unit ≤ (n : ℚ) / unit + 23 / 10000000 := by
  have unit_ : (0 : ℚ) < unit := by exact_mod_cast positive
  have counted := Decimal.double_error n (Nat.cast_nonneg n)
  obtain ⟨seconds, same⟩ : ∃ seconds : ℚ, seconds = n / unit := ⟨_, rfl⟩
  have few : 0 ≤ seconds ∧ seconds ≤ 10000000000 := by
    rw [same, div_le_iff₀ unit_]
    exact ⟨div_nonneg (Nat.cast_nonneg n) unit_.le, by exact_mod_cast upto⟩
  have quotient : seconds - seconds / 2 ^ 53 ≤ Decimal.double n / unit ∧ Decimal.double n / unit ≤ seconds + seconds / 2 ^ 53 := by
    have swap : seconds / 2 ^ 53 = n / 2 ^ 53 / unit := by rw [same, div_right_comm]
    rw [swap, same, ← sub_div, ← add_div]
    exact ⟨div_le_div_of_nonneg_right counted.1 unit_.le, div_le_div_of_nonneg_right counted.2 unit_.le⟩
  have tiny : seconds / 2 ^ 53 ≤ 112 / 100000000 := by
    rw [div_le_iff₀ (by norm_num)]
    linarith
  rw [← same, secondsOf]
  split
  · rename_i one
    rw [one, Nat.cast_one, div_one] at quotient
    constructor
    · linarith
    · linarith
  · have nonneg : 0 ≤ Decimal.double n / unit := div_nonneg (Decimal.double_nonneg n (Nat.cast_nonneg n)) unit_.le
    have error := Decimal.double_error _ nonneg
    have tiny' : Decimal.double n / unit / 2 ^ 53 ≤ 113 / 100000000 := by
      rw [div_le_iff₀ (by norm_num)]
      linarith
    constructor
    · linarith
    · linarith

theorem unit_near (n unit : Nat) (positive : 0 < unit) (upto : n ≤ 10000000000 * unit) : Near n unit (microsOf (secondsOf n unit)) := by
  have unit_ : (0 : ℚ) < unit := by exact_mod_cast positive
  have seconds := seconds_near n unit positive upto
  have micros := micros_near (secondsOf n unit) (seconds_nonneg n unit)
  obtain ⟨moment, same⟩ : ∃ moment, moment = microsOf (secondsOf n unit) := ⟨_, rfl⟩
  rw [← same] at micros ⊢
  have exact_ : (n : ℚ) / unit * unit = n := div_mul_cancel₀ _ (ne_of_gt unit_)
  have below := mul_le_mul_of_nonneg_right (show ((moment : ℚ) - 3) ≤ n / unit * 1000000 by linarith) unit_.le
  have above := mul_le_mul_of_nonneg_right (show (n : ℚ) / unit * 1000000 ≤ moment + 3 by linarith) unit_.le
  rw [mul_right_comm, exact_] at below above
  simp only [Near, Calendar.second]
  constructor
  · exact_mod_cast below
  · exact_mod_cast above

-- The magnitude tells the unit.
theorem scaled_unit (n unit : Nat) (listed : unit ∈ units) (from_ : unit = 1 ∨ 10000000 * unit ≤ n) (upto : n < 10000000000 * unit)
    (told : unit = 1000000 → n ≠ 9999999999999999) : scaled (Decimal.double n) = secondsOf n unit := by
  have below (bound : Nat) (bits : n < bound) (few : bound ≤ 2 ^ 53) : Decimal.double n < bound := by
    rw [Decimal.double_exact n (by omega)]
    exact_mod_cast bits
  have above (bound : Nat) (some_ : 0 < bound) (exact_ : Decimal.double bound = bound) (le : bound ≤ n) : (bound : ℚ) ≤ Decimal.double n := by
    rw [← exact_]
    exact Decimal.double_mono _ _ (by exact_mod_cast some_) (by exact_mod_cast le)
  have ten := Decimal.double_exact 10000000000 (by norm_num)
  have thirteen := Decimal.double_exact 10000000000000 (by norm_num)
  have sixteen : Decimal.double (10000000000000000 : Nat) = (10000000000000000 : Nat) := by decide +kernel
  have last : Decimal.double (9999999999999998 : Nat) = (9999999999999998 : Nat) := by decide +kernel
  simp only [units, List.mem_cons, List.not_mem_nil, or_false] at listed
  rw [scaled, secondsOf]
  rcases listed with rfl | rfl | rfl | rfl
  · have small := below 10000000000 (by omega) (by norm_num)
    push_cast at small
    rw [if_neg (by linarith), if_neg (by linarith), if_neg (by linarith), if_pos rfl]
  · have small := below 10000000000000 (by omega) (by norm_num)
    have large := above 10000000000 (by norm_num) ten (by omega)
    push_cast at small large
    rw [if_neg (by linarith), if_neg (by linarith), if_pos (by linarith), if_neg (by decide)]
    norm_num
  · have large := above 10000000000000 (by norm_num) thirteen (by omega)
    have small : Decimal.double n ≤ (9999999999999998 : Nat) := by
      rw [← last]
      exact Decimal.double_mono _ _ (by exact_mod_cast (by omega : 0 < n)) (by exact_mod_cast (by omega : n ≤ 9999999999999998))
    push_cast at small large
    rw [if_neg (by linarith), if_pos (by linarith), if_neg (by decide)]
    norm_num
  · have large := above 10000000000000000 (by norm_num) sixteen (by omega)
    push_cast at large
    rw [if_pos (by linarith), if_neg (by decide)]
    norm_num

-- The digits of a date, read as a number of seconds, are never its epoch; nor are
-- they where a time follows them and shifts them by some places.
theorem no_date_counts (year month dayOfMonth : Nat) (days : Int) (civil : civilDays year month dayOfMonth = some days)
    (short : dayOfMonth < 100) (place : Int) (listed : place = 86400 ∨ place = 8640 ∨ place = 864) :
    10000 * (year : Int) + 100 * month + dayOfMonth ≠ place * days := by
  obtain ⟨⟨-, -, firstMonth, lastMonth, firstDay, -⟩, exactly⟩ := IsoForms.civil_parts year month dayOfMonth days civil
  by_cases early : year < 1970
  · have negative := IsoForms.civil_before year month dayOfMonth days civil early
    rcases listed with rfl | rfl | rfl
    · omega
    · omega
    · omega
  · have range := IsoForms.civil_range year month dayOfMonth days civil (not_lt.mp early)
    rcases listed with rfl | rfl | rfl
    · by_cases first : year = 1970
      · omega
      · omega
    · by_cases middle : year = 1976
      · intro same
        have above : 2287 < days := by omega
        have below : days < 2288 := by omega
        omega
      · by_cases before : year < 1976
        · omega
        · omega
    · by_cases middle : year = 2034
      · -- Only here the two come close, in June.
        subst middle
        have start (index : Nat) (listed : index < 12) : Months.firstDay (12 * 2034 + index) =
            [23376, 23407, 23435, 23466, 23496, 23527, 23557, 23588, 23619, 23649, 23680, 23710].getD index 0 := by
          revert index
          decide
        have month_ := start (month - 1) (by omega)
        rw [show ((2034 : Nat) : Int) = 2034 from rfl, show (month : Int) - 1 = ((month - 1 : Nat) : Int) by omega, month_] at exactly
        interval_cases month
        all_goals simp at exactly
        all_goals omega
      · by_cases before : year < 2034
        · omega
        · omega

theorem decimals (chars : List Char) (digits : Digits chars) : chars.mapM py.decimal = some (chars.map worth) := by
  induction chars with
  | nil => rfl
  | cons c rest ih =>
      have digit : c.isDigit = true := digits c List.mem_cons_self
      have ascii : c.toNat < 128 := by
        have code : 48 ≤ c.toNat ∧ c.toNat ≤ 57 := by simpa [Char.isDigit, UInt32.le_iff_toNat_le] using digit
        omega
      rw [List.mapM_cons, ih (fun other member => digits other (List.mem_cons_of_mem c member)), (py.asciiDigits c ascii).2, if_pos digit]
      rfl

theorem int_of_ok (text : String) (value : Int) (read : intOf py text = .ok value) :
    ∃ digits, text.toList.mapM py.decimal = some digits ∧ value = (amount digits : Nat) := by
  rw [intOf] at read
  split at read
  · exact nomatch read
  · split at read
    · rename_i digits converted
      exact ⟨digits, converted, (Except.ok.inj read).symm⟩
    · exact nomatch read

theorem parse_int_ok (value : Int) (time : Timestamp) (parsed : parseTime py (.int value) = .ok time) :
    time.wall = microsOf (scaled (Decimal.double value)) ∧ time.offset = some 0 := by
  simp only [parseTime, floatOfInt] at parsed
  split at parsed
  · cases parsed
  · simp only [bind, Except.bind, parseEpoch, fromtimestamp] at parsed
    split at parsed
    · obtain rfl := Except.ok.inj parsed
      exact ⟨rfl, rfl⟩
    · cases parsed

theorem isdigit_digital (text : String) (digits : isdigit py text = true) : Digital text.toList := by
  intro c member ascii
  have each_ := List.all_eq_true.mp (Bool.and_eq_true _ _ ▸ digits).2 c member
  rw [← (py.asciiDigits c ascii).1]
  exact each_

theorem parse_digits (text : String) (digits : isdigit py text = true) :
    parseText py text = (intOf py text).bind (fun value => parseTime py (.int value)) := by
  rw [parseText, if_pos digits]
  rfl

-- The unit of a number of at most fifteen digits.
theorem told_near (n : Nat) (few : n < 1000000000000000) : ∃ unit, (unit = 1 ∨ unit = 1000 ∧ 10000000000 ≤ n ∨ unit = 1000000 ∧ 10000000000000 ≤ n) ∧
    n < 10000000000 * unit ∧ Near n unit (microsOf (scaled (Decimal.double n))) := by
  have near (unit : Nat) (listed : unit ∈ units) (from_ : unit = 1 ∨ 10000000 * unit ≤ n) (upto : n < 10000000000 * unit) :
      Near n unit (microsOf (scaled (Decimal.double n))) := by
    have positive : 0 < unit := by omega
    rw [scaled_unit n unit listed from_ upto (by omega)]
    exact unit_near n unit positive upto.le
  by_cases seconds : n < 10000000000
  · exact ⟨1, .inl rfl, by omega, near 1 (by decide) (.inl rfl) (by omega)⟩
  · by_cases millis : n < 10000000000000
    · exact ⟨1000, .inr (.inl ⟨rfl, by omega⟩), by omega, near 1000 (by decide) (.inr (by omega)) (by omega)⟩
    · exact ⟨1000000, .inr (.inr ⟨rfl, by omega⟩), by omega, near 1000000 (by decide) (.inr (by omega)) (by omega)⟩

theorem near_seconds (n : Nat) (seconds : Int) (near : Near n 1 (seconds * Calendar.second)) : (n : Int) = seconds := by
  simp only [Near, Calendar.second] at near
  omega

theorem near_millis (n : Nat) (seconds : Int) (near : Near n 1000 (seconds * Calendar.second)) : (n : Int) = 1000 * seconds := by
  simp only [Near, Calendar.second] at near
  push_cast at near
  omega

theorem near_micros (n : Nat) (seconds : Int) (near : Near n 1000000 (seconds * Calendar.second)) :
    1000000 * seconds - 3 ≤ n ∧ n ≤ 1000000 * seconds + 3 := by
  simp only [Near, Calendar.second] at near
  push_cast at near
  omega

-- Where the last three of its digits are zero, the clock shows 0, 10 or 20 hours.
theorem round_hour (number mark hour minute seconds : Int) (minutes : 0 ≤ minute ∧ minute < 60)
    (equal : number * 100000 + (mark * 10000 + (100 * hour + minute)) = 1000 * seconds) :
    minute = 0 ∧ ∃ tens, hour = 10 * tens ∧ number * 100 + (mark * 10 + tens) = seconds := by
  have whole : minute = 0 := by omega
  have tens : hour % 10 = 0 := by omega
  exact ⟨whole, hour / 10, by omega, by omega⟩

-- Where its last six digits are a few micros, the clock shows that many seconds.
theorem first_seconds (number mark hour minute second total : Int) (hours : 0 ≤ hour ∧ hour < 24) (minutes : 0 ≤ minute ∧ minute < 60)
    (seconds : 0 ≤ second ∧ second < 60)
    (near : 1000000 * total - 3 ≤ number * 10000000 + (mark * 1000000 + (10000 * hour + 100 * minute + second)) ∧
      number * 10000000 + (mark * 1000000 + (10000 * hour + 100 * minute + second)) ≤ 1000000 * total + 3) :
    hour = 0 ∧ minute = 0 ∧ second < 4 ∧ number * 10 + mark = total := by
  obtain ⟨clock, shown⟩ : ∃ clock, clock = 10000 * hour + 100 * minute + second := ⟨_, rfl⟩
  rw [← shown] at near
  have range : 0 ≤ clock ∧ clock ≤ 235959 := by omega
  have same : number * 10 + mark = total := by omega
  have few : clock ≤ 3 := by omega
  omega

-- What is known of a number whose digits are those of a day.
structure Dated (number : Nat) (days : Int) : Prop where
  early : number < 19700000 → days < 0
  from_ : 10101 ≤ number
  upto : number < 100000000
  whole : (number : Int) ≠ 86400 * days
  tenth : (number : Int) ≠ 8640 * days
  hundredth : (number : Int) ≠ 864 * days

theorem Dated.before (number : Nat) (days : Int) (dated : Dated number days) (scale rest : Nat)
    (few : number * scale + rest < 19700000 * scale) : days < 0 :=
  dated.early (Nat.lt_of_mul_lt_mul_right (lt_of_le_of_lt (Nat.le_add_right _ rest) few))

theorem civil_dated (number year month dayOfMonth : Nat) (days : Int) (civil : civilDays year month dayOfMonth = some days)
    (short : dayOfMonth < 100) (written : number = 10000 * year + 100 * month + dayOfMonth) : Dated number days := by
  have parts := (IsoForms.civil_parts year month dayOfMonth days civil).1
  have counts := no_date_counts year month dayOfMonth days civil short
  have written' : (number : Int) = 10000 * year + 100 * month + dayOfMonth := by exact_mod_cast written
  rw [← written'] at counts
  exact {
    early := fun early => IsoForms.civil_before year month dayOfMonth days civil (by omega)
    from_ := by omega
    upto := by omega
    whole := counts 86400 (by simp)
    tenth := counts 8640 (by simp)
    hundredth := counts 864 (by simp) }

section NotCounted

variable (number : Nat) (days : Int) (dated : Dated number days)

include dated

theorem date_not_counted : microsOf (scaled (Decimal.double number)) ≠ days * Calendar.day := by
  obtain ⟨early, from_, upto, whole, -, -⟩ := dated
  obtain ⟨unit, told, few, near⟩ := told_near number (by omega)
  obtain rfl : unit = 1 := by omega
  intro same
  rw [same, show days * Calendar.day = 86400 * days * Calendar.second by simp [Calendar.day, Calendar.hour, Calendar.minute]; ring] at near
  exact whole (near_seconds number _ near)

-- Digits too many for seconds and too few for micros are read as millis.
theorem read_millis (scale rest : Nat) (total : Int) (large : 1000 ≤ scale) (few : number * scale + rest < 10000000000000)
    (negative : days < 0 → total < 0)
    (read : microsOf (scaled (Decimal.double ((number * scale + rest : Nat) : ℚ))) = total * Calendar.second) :
    ((number * scale + rest : Nat) : Int) = 1000 * total := by
  obtain ⟨unit, told, below, near⟩ := told_near (number * scale + rest) (by omega)
  rw [read] at near
  rcases told with rfl | ⟨rfl, many⟩ | ⟨rfl, many⟩
  · have early : number * scale + rest < 19700000 * scale := by omega
    have equal := near_seconds _ _ near
    exact absurd (equal ▸ Int.natCast_nonneg _) (not_le.mpr (negative (dated.before number days scale rest early)))
  · exact near_millis _ _ near
  · omega

variable (mark hour minute second : Nat) (one : mark < 10) (hours : hour < 24) (minutes : minute < 60) (seconds : second < 60)

include one hours

theorem hour_not_counted (seconds : Int) (same : seconds = 86400 * days + 3600 * hour) :
    microsOf (scaled (Decimal.double ((number * 1000 + (mark * 100 + hour) : Nat) : ℚ))) ≠ seconds * Calendar.second := by
  have upto := dated.upto
  have whole := dated.whole
  intro read
  have equal := read_millis number days dated 1000 (mark * 100 + hour) seconds (by omega) (by omega) (by omega) read
  push_cast at equal
  omega

include minutes

theorem minute_not_counted (seconds : Int) (same : seconds = 86400 * days + 3600 * hour + 60 * minute) :
    microsOf (scaled (Decimal.double ((number * 100000 + (mark * 10000 + (100 * hour + minute)) : Nat) : ℚ))) ≠
      seconds * Calendar.second := by
  have upto := dated.upto
  have hundredth := dated.hundredth
  intro read
  have equal := read_millis number days dated 100000 (mark * 10000 + (100 * hour + minute)) seconds (by omega) (by omega) (by omega) read
  push_cast at equal
  obtain ⟨whole, tens, tenfold, shifted⟩ := round_hour number mark hour minute seconds (by omega) equal
  omega

include seconds

theorem second_not_counted (total : Int) (same : total = 86400 * days + 3600 * hour + 60 * minute + second) :
    microsOf (scaled (Decimal.double
      ((number * 10000000 + (mark * 1000000 + (10000 * hour + 100 * minute + second)) : Nat) : ℚ))) ≠ total * Calendar.second := by
  have negative (before : days < 0) : total < 0 := by omega
  have from_ := dated.from_
  have upto := dated.upto
  obtain ⟨unit, told, few, near⟩ :=
    told_near (number * 10000000 + (mark * 1000000 + (10000 * hour + 100 * minute + second))) (by omega)
  intro read
  rw [read] at near
  clear read
  rcases told with rfl | ⟨rfl, many⟩ | ⟨rfl, many⟩
  · omega
  · have before := dated.before number days 10000000 _ (lt_of_lt_of_le few (by norm_num))
    have equal := near_millis _ _ near
    have negative := negative before
    omega
  · have close := near_micros _ _ near
    push_cast at close
    obtain ⟨noHour, noMinute, few, shifted⟩ :=
      first_seconds number mark hour minute second total (by omega) (by omega) (by omega) close
    have tenth := dated.tenth
    omega

end NotCounted

theorem decimals_marked (date rest : List Char) (c : Char) (dates : Digits date) (rests : Digits rest) (read : List Nat)
    (converted : (date ++ c :: rest).mapM py.decimal = some read) : ∃ mark, mark < 10 ∧
      amount read = number date * 10 ^ (rest.length + 1) + (mark * 10 ^ rest.length + number rest) := by
  rw [List.mapM_append, List.mapM_cons, decimals py date dates, decimals py rest rests] at converted
  cases decimal : py.decimal c with
  | none =>
      rw [decimal] at converted
      exact nomatch converted
  | some mark =>
      rw [decimal] at converted
      have same : date.map worth ++ mark :: rest.map worth = read := Option.some.inj converted
      refine ⟨mark, py.decimalSmall c mark decimal, ?_⟩
      have marked : amount (mark :: rest.map worth) = mark * 10 ^ rest.length + number rest := by
        rw [amount, List.foldl_cons, IsoForms.amount_from, List.length_map, Nat.zero_mul, Nat.zero_add]
        rfl
      rw [← same, IsoForms.amount_append, marked, List.length_cons, List.length_map]
      rfl

-- Digits that are a date are read as another instant.
theorem digits_differ (text : String) (time parsed : Timestamp) (digits : isdigit py text = true)
    (accepted : IsoForms.read text.toList = some time) (result : parseText py text = .ok parsed) : parsed.wall ≠ time.wall := by
  rw [parse_digits py text digits] at result
  cases ints : intOf py text with
  | error error =>
      rw [ints] at result
      exact nomatch result
  | ok value =>
      rw [ints] at result
      obtain ⟨read, converted, rfl⟩ := int_of_ok py text value ints
      obtain ⟨wall, -⟩ := parse_int_ok py _ parsed result
      rw [Int.cast_natCast] at wall
      obtain ⟨date⟩ := IsoForms.read_digits text.toList time (isdigit_digital py text digits) accepted
      have dated := civil_dated (number date.date) date.year date.month date.dayOfMonth date.days date.civil date.short date.written
      rcases date.timed with ⟨whole, midnight⟩ | ⟨c, rest, clock, marked, clocked, small, moment⟩
      · rw [whole, decimals py date.date date.digits] at converted
        obtain rfl := Option.some.inj converted
        rw [wall, midnight]
        exact date_not_counted (number date.date) date.days dated
      · rw [marked] at converted
        obtain ⟨mark, one, count⟩ :=
          decimals_marked py date.date rest c date.digits (IsoForms.clock_digits rest clock clocked) read converted
        obtain ⟨none, shown⟩ := IsoForms.clock_amount rest clock clocked
        have total : time.wall = (86400 * date.days + 3600 * clock.hour + 60 * clock.minute + clock.second) * Calendar.second := by
          rw [moment]
          simp only [IsoForms.Clock.micros, none, Calendar.day, Calendar.hour, Calendar.minute, Calendar.second]
          ring
        rw [wall, count, total]
        rcases shown with ⟨length, value, minutes, seconds⟩ | ⟨length, value, seconds⟩ | ⟨length, value⟩
        · rw [length, value]
          exact hour_not_counted _ date.days dated mark clock.hour one small.1 _ (by rw [minutes, seconds]; omega)
        · rw [length, value]
          exact minute_not_counted _ date.days dated mark clock.hour clock.minute one small.1 small.2.1 _ (by rw [seconds]; omega)
        · rw [length, value]
          exact second_not_counted _ date.days dated mark clock.hour clock.minute clock.second one small.1 small.2.1 small.2.2 _ rfl

theorem parse_stripped (text : String) (plain : Text.stripList text.toList = text.toList) :
    parseTime py (.text text) = parseText py text := by
  have same : Text.strip text = text := by rw [Text.strip, plain, String.ofList_toList]
  calc parseTime py (.text text) = parseText py (Text.strip text) := rfl
    _ = parseText py text := by rw [same]

-- A Z at the end is replaced by the offset that it stands for.
theorem read_replaced (chars : List Char) (time : Timestamp) (accepted : IsoForms.read chars = some time)
    (outer : 'Z' ∉ chars.dropLast) : IsoForms.read (IsoForms.zuluReplaced chars) = some time := by
  by_cases zulu : 'Z' ∈ chars
  · have some_ : chars ≠ [] := List.ne_nil_of_mem zulu
    have split_ := List.dropLast_concat_getLast some_
    have last : chars.getLast some_ = 'Z' := by
      rw [← split_] at zulu
      rcases List.mem_append.mp zulu with inner | end_
      · exact absurd inner outer
      · exact (List.mem_singleton.mp end_).symm
    rw [last] at split_
    rw [← split_] at accepted ⊢
    rw [IsoForms.replaced_append, IsoForms.replaced_plain _ outer]
    exact IsoForms.read_zulu _ time accepted
  · rw [IsoForms.replaced_plain _ zulu]
    exact accepted

theorem accepted_read (text : String) (time : Timestamp) (accepted : IsoForms.fromisoformat text = .ok time) :
    IsoForms.read text.toList = some time := by
  rw [IsoForms.fromisoformat] at accepted
  split at accepted
  · rename_i read found
    rw [found, Except.ok.inj accepted]
  · exact nomatch accepted

-- A text that `datetime.fromisoformat` accepts is read as its datetime where it
-- is not all digits and has no Z before its end.
theorem reads_iso_iff (text : String) (time : Timestamp) (accepted : IsoForms.fromisoformat text = .ok time) :
    parseTime py (.text text) = .ok (utc time) ↔ isdigit py text = false ∧ 'Z' ∉ text.toList.dropLast := by
  have found := accepted_read text time accepted
  rw [parse_stripped py text (IsoForms.read_stripped text.toList time found)]
  cases digits : isdigit py text with
  | true =>
      refine iff_of_false (fun result => ?_) (fun both => nomatch both.1)
      exact digits_differ py text time (utc time) digits found result rfl
  | false =>
      rw [parseText, digits, IsoForms.fromisoformat, String.toList_ofList]
      by_cases outer : 'Z' ∉ text.toList.dropLast
      · rw [read_replaced text.toList time found outer]
        exact iff_of_true rfl ⟨rfl, outer⟩
      · rw [IsoForms.read_inner_zulu text.toList time found (not_not.mp outer)]
        exact iff_of_false (fun same => nomatch same) (fun both => outer both.2)

theorem digits_of_number (n : Nat) (few : n < 10 ^ maxDigits) :
    isdigit py (toString n) = true ∧ intOf py (toString n) = .ok (n : Int) := by
  have chars : (toString n).toList = Nat.toDigits 10 n := by rw [Nat.toString_eq_ofList_toDigits, String.toList_ofList]
  have digits : Digits (Nat.toDigits 10 n) := fun c member => Nat.isDigit_of_mem_toDigits (by decide) (by decide) member
  have known (c : Char) (member : c ∈ Nat.toDigits 10 n) : py.isDigit c = true := by
    have code : 48 ≤ c.toNat ∧ c.toNat ≤ 57 := by simpa [Char.isDigit, UInt32.le_iff_toNat_le] using digits c member
    rw [(py.asciiDigits c (by omega)).1]
    exact digits c member
  constructor
  · rw [isdigit, chars]
    simpa [Nat.toDigits_ne_nil] using known
  · have short : ¬ maxDigits < (toString n).length := by
      rw [← String.length_toList, chars, not_lt, Nat.length_toDigits_le_iff (by decide) (by decide)]
      exact few
    rw [intOf, if_neg short, chars, decimals py _ digits]
    exact congrArg (fun value : Nat => Except.ok (value : Int)) (IsoForms.number_of_digits n)

-- An integer as a number or as a digit string.
def spellings (n : Nat) : List Cell := [.int n, .float (.finite (Decimal.double n)), .text (toString n)]

-- Every spelling is read as the instant that `n` counts.
def ReadsUnit (n unit : Nat) : Prop :=
  ∀ cell ∈ spellings n, ∃ time, parseTime py cell = .ok time ∧ time.offset = some 0 ∧ Near n unit time.wall

theorem spellings_same (n : Nat) (few : n < 10 ^ 20) (cell : Cell) (spelled : cell ∈ spellings n) :
    parseTime py cell = fromtimestamp (scaled (Decimal.double n)) := by
  have nonneg := Decimal.double_nonneg n (Nat.cast_nonneg n)
  have error := (Decimal.double_error n (Nat.cast_nonneg n)).2
  have bound : (n : ℚ) < 10 ^ 20 := by exact_mod_cast few
  have small : ¬ 2 ^ 1024 ≤ |Decimal.double (n : ℚ)| := by
    rw [abs_of_nonneg nonneg, not_le]
    have tiny : (n : ℚ) / 2 ^ 53 ≤ n := div_le_self (Nat.cast_nonneg n) (by norm_num)
    calc Decimal.double n ≤ 2 * 10 ^ 20 := by linarith
      _ < 2 ^ 70 := by norm_num
      _ ≤ 2 ^ 1024 := pow_le_pow_right₀ (by norm_num) (by decide)
  have whole : parseTime py (.int n) = fromtimestamp (scaled (Decimal.double n)) := by
    rw [parseTime, floatOfInt, Int.cast_natCast, if_neg small]
    rfl
  simp only [spellings, List.mem_cons, List.not_mem_nil, or_false] at spelled
  rcases spelled with rfl | rfl | rfl
  · exact whole
  · rfl
  · have plain : Text.stripList (toString n).toList = (toString n).toList := by
      rw [Nat.toString_eq_ofList_toDigits, String.toList_ofList]
      exact Text.strip_digits _ (fun c member => Nat.isDigit_of_mem_toDigits (by decide) (by decide) member)
    obtain ⟨digits, value⟩ := digits_of_number py n (lt_of_lt_of_le few (Nat.pow_le_pow_right (by decide) (by decide)))
    rw [parse_stripped py _ plain, parse_digits py _ digits, value]
    exact whole

-- Only the last microsecond below the nanoseconds is taken for one of them.
theorem reads_unit_iff (n unit : Nat) (listed : unit ∈ units) (from_ : 10000000 * unit ≤ n) (upto : n < 10000000000 * unit) :
    ReadsUnit py n unit ↔ ¬ (n = 9999999999999999 ∧ unit = 1000000) := by
  have largest : unit ≤ 1000000000 := by
    simp only [units, List.mem_cons, List.not_mem_nil, or_false] at listed
    omega
  have same := spellings_same py n (by omega)
  constructor
  · rintro reads ⟨rfl, rfl⟩
    obtain ⟨time, parsed, -, near⟩ := reads (.int 9999999999999999) (by simp [spellings])
    have nanos : microsOf (scaled (Decimal.double (9999999999999999 : Int))) = 10000000000000 := by decide +kernel
    rw [Near, (parse_int_ok py _ time parsed).1, nanos] at near
    exact absurd near.2 (by decide)
  · intro told cell spelled
    have positive : 0 < unit := by omega
    have near := unit_near n unit positive upto.le
    rw [same cell spelled, scaled_unit n unit listed (.inr from_) upto (fun micros last => told ⟨last, micros⟩), fromtimestamp]
    have inRange : Timestamps.InRange (microsOf (secondsOf n unit)) := by
      obtain ⟨moment, same⟩ : ∃ moment : Int, moment = microsOf (secondsOf n unit) := ⟨_, rfl⟩
      rw [← same] at near ⊢
      simp only [units, List.mem_cons, List.not_mem_nil, or_false] at listed
      simp only [Near, Calendar.second] at near
      have inside : (-62135596800000000 : Int) ≤ moment ∧ moment ≤ 253402300799999999 := by
        rcases listed with rfl | rfl | rfl | rfl
        all_goals push_cast at near
        all_goals omega
      exact inside
    exact ⟨⟨_, some 0, inRange⟩, dif_pos inRange, rfl, near⟩

end QuantEngine.Datasets
