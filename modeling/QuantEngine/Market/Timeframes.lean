import Mathlib.Tactic.Ring
import QuantEngine.Library.Months

set_option autoImplicit false

namespace QuantEngine.Timeframes

open QuantEngine.Calendar QuantEngine.Buckets

inductive Timeframe where
  | tick
  | s1
  | s5
  | s15
  | s30
  | m1
  | m3
  | m5
  | m15
  | m30
  | h1
  | h4
  | d1
  | w1
  | mn1
deriving DecidableEq

-- Fixed length; TICK and the month have none.
def seconds : Timeframe → Option Int
  | .tick => none
  | .s1 => some 1
  | .s5 => some 5
  | .s15 => some 15
  | .s30 => some 30
  | .m1 => some 60
  | .m3 => some 180
  | .m5 => some 300
  | .m15 => some 900
  | .m30 => some 1800
  | .h1 => some 3600
  | .h4 => some 14400
  | .d1 => some 86400
  | .w1 => some 604800
  | .mn1 => none

-- `int(moment.timestamp())` cuts the fraction towards the epoch.
def epochStart (step : Int) (moment : Moment) : Moment :=
  let epoch := moment.tdiv second
  (epoch - epoch % step) * second

-- None where it raises.
def bucketStart (timeframe : Timeframe) (moment : Moment) : Option Moment :=
  match timeframe with
  | .tick => none
  | .mn1 => some (startOfMonth moment)
  | .w1 => some (startOfWeek moment)
  | other => (seconds other).map (fun step => epochStart step moment)

def nextMonth (start : Moment) : Moment :=
  if Months.month start = 12 then Months.ofCivil (Months.year start + 1) 1
  else Months.ofCivil (Months.year start) (Months.month start + 1)

def bucketEnd (timeframe : Timeframe) (start : Moment) : Option Moment :=
  match timeframe with
  | .tick => none
  | .mn1 => some (nextMonth start)
  | other => (seconds other).map (fun step => start + step * second)

-- What is left of the timeframes when TICK is ignored.
abbrev Frame := { timeframe : Timeframe // timeframe ≠ .tick }

theorem bucket_start_some (frame : Frame) (moment : Moment) : (bucketStart frame.1 moment).isSome := by
  obtain ⟨timeframe, framed⟩ := frame
  cases timeframe with
  | tick => exact absurd rfl framed
  | _ => rfl

theorem bucket_end_some (frame : Frame) (start : Moment) : (bucketEnd frame.1 start).isSome := by
  obtain ⟨timeframe, framed⟩ := frame
  cases timeframe with
  | tick => exact absurd rfl framed
  | _ => rfl

def Frame.start (frame : Frame) (moment : Moment) : Moment :=
  (bucketStart frame.1 moment).get (bucket_start_some frame moment)

def Frame.stop (frame : Frame) (start : Moment) : Moment :=
  (bucketEnd frame.1 start).get (bucket_end_some frame start)

def point (timeframe : Timeframe) (index : Int) : Int :=
  match timeframe with
  | .mn1 => Months.firstDay index * day
  | .w1 => (7 * index + 4) * day
  | other => index * (seconds other).getD 1 * second

theorem point_grows (timeframe : Timeframe) (index : Int) : point timeframe index < point timeframe (index + 1) := by
  cases timeframe with
  | mn1 => exact Int.mul_lt_mul_of_pos_right (Months.first_day_step index) (by decide)
  | _ =>
      simp only [point, seconds, day, hour, minute, second, Option.getD]
      omega

def grid (frame : Frame) : Grid where
  point := point frame.1
  grows := point_grows frame.1

theorem epoch_start_point (step : Int) (moment : Moment) :
    epochStart step moment = moment.tdiv second / step * step * second := by
  rw [epochStart]
  congr 1
  have split := Int.ediv_mul_add_emod (moment.tdiv second) step
  exact sub_eq_of_eq_add split.symm

theorem epoch_start_within (step : Int) (positive : 0 < step) (moment : Moment) :
    moment < (moment.tdiv second / step + 1) * step * second := by
  have whole : moment.tdiv second + 1 ≤ (moment.tdiv second / step + 1) * step :=
    Int.lt_ediv_add_one_mul_self (moment.tdiv second) positive
  exact lt_of_lt_of_le (Int.lt_tdiv_add_one_mul_self moment (by decide))
    (Int.mul_le_mul_of_nonneg_right whole (by decide))

theorem start_of_week_point (moment : Moment) :
    startOfWeek moment = (7 * ((days moment + 3) / 7 - 1) + 4) * day ∧
      startOfWeek moment ≤ moment ∧ moment < startOfWeek moment + 7 * day := by
  dsimp only [startOfWeek, startOfDay, weekday, days, day, hour, minute, second, Moment]
  refine ⟨?_, ?_, ?_⟩ <;> omega

theorem days_brackets (moment : Moment) : days moment * day ≤ moment ∧ moment < (days moment + 1) * day := by
  dsimp only [days, day, hour, minute, second, Moment]
  omega

theorem start_of_month_brackets (moment : Moment) :
    startOfMonth moment ≤ moment ∧ moment < Months.firstDay (Months.monthIndex moment + 1) * day := by
  have inside := Months.month_brackets moment
  have ofDay := days_brackets moment
  rw [Months.start_of_month_eq]
  exact ⟨le_trans (Int.mul_le_mul_of_nonneg_right inside.1 (by decide)) ofDay.1,
    lt_of_lt_of_le ofDay.2 (Int.mul_le_mul_of_nonneg_right inside.2 (by decide))⟩

-- The start of a moment's bucket is a cut of the timeframe's grid, and the
-- moment lies before the next one.
theorem start_on_grid (frame : Frame) (moment : Moment) :
    ∃ index, frame.start moment = (grid frame).point index ∧ moment < (grid frame).point (index + 1) := by
  obtain ⟨timeframe, framed⟩ := frame
  cases timeframe with
  | tick => exact absurd rfl framed
  | mn1 => exact ⟨Months.monthIndex moment, Months.start_of_month_eq moment, (start_of_month_brackets moment).2⟩
  | w1 =>
      have week := start_of_week_point moment
      refine ⟨(days moment + 3) / 7 - 1, week.1, ?_⟩
      have next := week.2.2
      rw [week.1] at next
      refine lt_of_lt_of_eq next ?_
      simp only [grid, point]
      ring
  | _ => exact ⟨_, epoch_start_point _ moment, epoch_start_within _ (by decide) moment⟩

theorem next_month_point (index : Int) : nextMonth (Months.firstDay index * day) = Months.firstDay (index + 1) * day := by
  have first : days (Months.firstDay index * day) = Months.firstDay index := Int.mul_ediv_cancel _ (by decide)
  have month : Months.monthIndex (Months.firstDay index * day) = index :=
    Months.month_index_eq _ index (le_of_eq first.symm) (lt_of_eq_of_lt first (Months.first_day_step index))
  rw [nextMonth, Months.month, Months.year, month]
  split
  · rename_i december
    rw [Months.ofCivil]
    congr 2
    omega
  · rw [Months.ofCivil]
    congr 2
    omega

theorem stop_of_point (frame : Frame) (index : Int) :
    frame.stop ((grid frame).point index) = (grid frame).point (index + 1) := by
  obtain ⟨timeframe, framed⟩ := frame
  cases timeframe with
  | tick => exact absurd rfl framed
  | mn1 => exact next_month_point index
  | _ =>
      simp only [Frame.stop, bucketEnd, seconds, Option.map_some, Option.get_some, grid, point, Option.getD_some]
      dsimp only [day, hour, minute, second, Moment]
      omega

theorem start_bucket (frame : Frame) (moment : Moment) :
    (grid frame).IsBucket (frame.start moment) (frame.stop (frame.start moment)) ∧
      moment < frame.stop (frame.start moment) := by
  obtain ⟨index, start, before⟩ := start_on_grid frame moment
  rw [start, stop_of_point]
  exact ⟨⟨index, rfl, rfl⟩, before⟩

theorem point_fixed (timeframe : Timeframe) (step : Int) (fixed : seconds timeframe = some step)
    (notWeek : timeframe ≠ .w1) (index : Int) : point timeframe index = index * step * second := by
  cases timeframe with
  | tick => cases fixed
  | mn1 => cases fixed
  | w1 => exact absurd rfl notWeek
  | _ =>
      cases fixed
      rfl

-- Every step but the week divides the day.
theorem step_divides_day (timeframe : Timeframe) (step : Int) (fixed : seconds timeframe = some step)
    (notWeek : timeframe ≠ .w1) : step ∣ 86400 ∧ 0 < step := by
  cases timeframe with
  | tick => cases fixed
  | mn1 => cases fixed
  | w1 => exact absurd rfl notWeek
  | _ =>
      cases fixed
      decide

theorem steps_refine (fine coarse : Frame) (short long : Int) (fineStep : seconds fine.1 = some short)
    (coarseStep : seconds coarse.1 = some long) (divides : short ∣ long) : Refines (grid fine) (grid coarse) := by
  intro k
  by_cases fineWeek : fine.1 = .w1
  · by_cases coarseWeek : coarse.1 = .w1
    · refine ⟨k, ?_⟩
      simp only [grid, fineWeek, coarseWeek]
    · rw [fineWeek] at fineStep
      cases fineStep
      have bound := step_divides_day coarse.1 long coarseStep coarseWeek
      have small := Int.le_of_dvd (by decide) bound.1
      have large := Int.le_of_dvd bound.2 divides
      omega
  · have inDay := step_divides_day fine.1 short fineStep fineWeek
    simp only [grid]
    by_cases coarseWeek : coarse.1 = .w1
    · obtain ⟨q, quotient⟩ := inDay.1
      refine ⟨(7 * k + 4) * q, ?_⟩
      rw [point_fixed fine.1 short fineStep fineWeek, coarseWeek]
      calc (7 * k + 4) * day = (7 * k + 4) * (86400 * second) := rfl
        _ = (7 * k + 4) * (short * q * second) := by rw [← quotient]
        _ = (7 * k + 4) * q * short * second := by ring
    · obtain ⟨q, quotient⟩ := divides
      refine ⟨k * q, ?_⟩
      rw [point_fixed fine.1 short fineStep fineWeek, point_fixed coarse.1 long coarseStep coarseWeek, quotient]
      ring

end QuantEngine.Timeframes
