import QuantEngine.Backtesting.TimesRead
import QuantEngine.Library.Fallible

set_option autoImplicit false

namespace QuantEngine.Datasets

open Calendar (Moment)
open Timeframes (Timeframe)
open Timestamps (InRange)
open IsoForms (amount)

variable (py : Python)

-- The time that an epoch counts.
def EpochIs (epoch : Extended) (time : Timestamp) : Prop :=
  ∃ value, epoch = .finite value ∧ time.wall = microsOf (scaled value) ∧ time.offset = some 0

def WholeIs (value : Int) (time : Timestamp) : Prop :=
  |Decimal.double value| < 2 ^ 1024 ∧ EpochIs (.finite (Decimal.double value)) time

def TextIs (text : String) (time : Timestamp) : Prop :=
  if isdigit py text then
    text.length ≤ maxDigits ∧ ∃ digits, text.toList.mapM py.decimal = some digits ∧ WholeIs (amount digits : Nat) time
  else ∃ parsed, IsoForms.read (IsoForms.zuluReplaced text.toList) = some parsed ∧ time = utc parsed

-- The time that a cell holds.
def TimeIs (cell : Cell) (time : Timestamp) : Prop :=
  match cell with
  | .time value => time = utc value
  | .int value => WholeIs value time
  | .float epoch => EpochIs epoch time
  | cell => ∃ shown, str py cell = some shown ∧ TextIs py (Text.strip shown) time

def TextRefused (text : String) : Prop :=
  isdigit py text = false ∧ IsoForms.read (IsoForms.zuluReplaced text.toList) = none

-- A cell whose text is neither digits nor the form of a time.
def TimeRefused (cell : Cell) : Prop :=
  match cell with
  | .time _ | .int _ | .float _ => False
  | cell => ∃ shown, str py cell = some shown ∧ TextRefused py (Text.strip shown)

theorem timestamp_ext (a b : Timestamp) (walls : a.wall = b.wall) (offsets : a.offset = b.offset) : a = b := by
  cases a
  cases b
  simp_all

theorem parse_epoch_iff (epoch : Extended) (time : Timestamp) : parseEpoch epoch = .ok time ↔ EpochIs epoch time := by
  cases epoch with
  | nan => exact iff_of_false (by intro same; cases same) (by rintro ⟨_, same, _⟩; cases same)
  | infinite negative => exact iff_of_false (by intro same; cases same) (by rintro ⟨_, same, _⟩; cases same)
  | finite value =>
      rw [parseEpoch, fromtimestamp]
      constructor
      · intro parsed
        split at parsed
        · obtain rfl := Except.ok.inj parsed
          exact ⟨value, rfl, rfl, rfl⟩
        · cases parsed
      · rintro ⟨value', same, wall, offset⟩
        obtain rfl := Extended.finite.inj same
        rw [dif_pos (wall ▸ time.inRange)]
        exact congrArg Except.ok (timestamp_ext _ _ wall.symm offset.symm)

theorem parse_epoch_foreign (epoch : Extended) : parseEpoch epoch ≠ .error datasetError := by
  cases epoch with
  | nan =>
      intro same
      cases same
  | infinite negative =>
      intro same
      cases same
  | finite value =>
      rw [parseEpoch, fromtimestamp]
      split
      · intro same
        cases same
      · rw [outside]
        split
        · intro same
          cases same
        · split
          · intro same
            cases same
          · intro same
            cases same

theorem parse_int_iff (value : Int) (time : Timestamp) : parseTime py (.int value) = .ok time ↔ WholeIs value time := by
  rw [parseTime, floatOfInt, WholeIs, ← parse_epoch_iff]
  by_cases large : 2 ^ 1024 ≤ |Decimal.double (value : ℚ)|
  · rw [if_pos large]
    exact iff_of_false (by intro same; cases same) (fun both => not_le.mpr both.1 large)
  · rw [if_neg large]
    exact ⟨fun parsed => ⟨not_le.mp large, parsed⟩, And.right⟩

theorem parse_int_foreign (value : Int) : parseTime py (.int value) ≠ .error datasetError := by
  rw [parseTime, floatOfInt]
  split
  · intro same
    cases same
  · exact parse_epoch_foreign (.finite (Decimal.double value))

theorem parse_text_iff (text : String) (time : Timestamp) : parseText py text = .ok time ↔ TextIs py text time := by
  rw [TextIs]
  by_cases digits : isdigit py text = true
  · rw [if_pos digits, parse_digits py text digits]
    constructor
    · intro parsed
      cases ints : intOf py text with
      | error error =>
          rw [ints] at parsed
          cases parsed
      | ok value =>
          rw [ints] at parsed
          obtain ⟨read, converted, rfl⟩ := int_of_ok py text value ints
          refine ⟨?_, read, converted, (parse_int_iff py _ time).mp parsed⟩
          by_contra long
          rw [intOf, if_pos (not_le.mp long)] at ints
          cases ints
    · rintro ⟨short, read, converted, whole⟩
      rw [intOf, if_neg (not_lt.mpr short), converted]
      exact (parse_int_iff py _ time).mpr whole
  · rw [if_neg digits, parseText, if_neg digits, IsoForms.fromisoformat, String.toList_ofList]
    cases IsoForms.read (IsoForms.zuluReplaced text.toList) with
    | none => simp
    | some parsed =>
        constructor
        · intro same
          exact ⟨parsed, rfl, (Except.ok.inj same).symm⟩
        · rintro ⟨other, same, rfl⟩
          rw [Option.some.inj same]

theorem parse_text_refused_iff (text : String) : parseText py text = .error datasetError ↔ TextRefused py text := by
  cases digits : isdigit py text with
  | true =>
      rw [parse_digits py text digits]
      refine iff_of_false (fun refused => ?_) (fun both => Bool.noConfusion (digits.symm.trans both.1))
      cases ints : intOf py text with
      | error error =>
          rw [ints] at refused
          rw [intOf] at ints
          split at ints
          · obtain rfl := Except.error.inj ints
            cases refused
          · split at ints
            · cases ints
            · obtain rfl := Except.error.inj ints
              cases refused
      | ok value =>
          rw [ints] at refused
          exact parse_int_foreign py value refused
  | false =>
      rw [parseText, digits, TextRefused, digits, IsoForms.fromisoformat, String.toList_ofList]
      cases IsoForms.read (IsoForms.zuluReplaced text.toList) with
      | none => exact iff_of_true rfl ⟨rfl, rfl⟩
      | some parsed => exact iff_of_false (by intro same; cases same) (fun both => absurd both.2 (by simp))

-- What is read of the text of a cell is read of its stripped text.
theorem shown_reads (Is : String → Prop) (answer : Except PyError Timestamp) (fails : .error .value ≠ answer)
    (reads : ∀ text, parseText py text = answer ↔ Is text) (cell : Cell) : (match str py cell with
      | some shown => parseText py (Text.strip shown)
      | none => .error .value) = answer ↔ ∃ shown, str py cell = some shown ∧ Is (Text.strip shown) := by
  cases str py cell with
  | none => simp [fails]
  | some shown => simp [reads]

theorem shown_iff (cell : Cell) (time : Timestamp) : (match str py cell with
      | some shown => parseText py (Text.strip shown)
      | none => .error .value) = .ok time ↔ ∃ shown, str py cell = some shown ∧ TextIs py (Text.strip shown) time :=
  shown_reads py (fun text => TextIs py text time) (.ok time) (by simp) (fun text => parse_text_iff py text time) cell

theorem parse_time_iff (cell : Cell) (time : Timestamp) : parseTime py cell = .ok time ↔ TimeIs py cell time := by
  cases cell with
  | time value => exact ⟨fun same => (Except.ok.inj same).symm, fun same => congrArg Except.ok same.symm⟩
  | int value => exact parse_int_iff py value time
  | float epoch => exact parse_epoch_iff epoch time
  | none => exact shown_iff py .none time
  | bool value => exact shown_iff py (.bool value) time
  | text value => exact shown_iff py (.text value) time
  | other shown => exact shown_iff py (.other shown) time

theorem shown_refused_iff (cell : Cell) : (match str py cell with
      | some shown => parseText py (Text.strip shown)
      | none => .error .value) = .error datasetError ↔ ∃ shown, str py cell = some shown ∧ TextRefused py (Text.strip shown) :=
  shown_reads py (TextRefused py) (.error datasetError) (by intro same; cases same) (parse_text_refused_iff py) cell

theorem parse_time_refused_iff (cell : Cell) : parseTime py cell = .error datasetError ↔ TimeRefused py cell := by
  cases cell with
  | time value => exact iff_of_false (fun same => nomatch same) id
  | int value => exact iff_of_false (parse_int_foreign py value) id
  | float epoch => exact iff_of_false (parse_epoch_foreign epoch) id
  | none => exact shown_refused_iff py .none
  | bool value => exact shown_refused_iff py (.bool value)
  | text value => exact shown_refused_iff py (.text value)
  | other shown => exact shown_refused_iff py (.other shown)

-- A cell whose text is a number, and one whose text is none.
def NumberRead (cell : Cell) : Prop := ∃ shown number, str py cell = some shown ∧ py.float shown = some number

def NumberRefused (cell : Cell) : Prop := ∃ shown, str py cell = some shown ∧ py.float shown = none

theorem num_iff (cell : Cell) : (∃ number, num py cell = .ok number) ↔ NumberRead py cell := by
  rw [num, NumberRead]
  cases str py cell with
  | none => simp
  | some shown =>
      cases read : py.float shown with
      | none => simp [read]
      | some number => simp [read]

theorem num_refused_iff (cell : Cell) : num py cell = .error datasetError ↔ NumberRefused py cell := by
  rw [num, NumberRefused]
  cases str py cell with
  | none => simp [datasetError]
  | some shown =>
      cases read : py.float shown with
      | none => simp [read]
      | some number => simp [read]

-- The cells of a row that are read as numbers, in their order.
def fields (entries : List (String × Cell)) : List Cell :=
  [openKeys, highKeys, lowKeys, closeKeys].map (fun keys => (first entries keys).getD .none) ++ (first entries volumeKeys).toList

variable (provider symbol : String) (timeframe : Timeframe)

def candleOf (start end_ : Timestamp) (numbers : List Extended) : Candle :=
  { symbol := symbol, provider := provider, timeframe := timeframe, start := start, end_ := end_,
    open_ := numbers.getD 0 .nan, high := numbers.getD 1 .nan, low := numbers.getD 2 .nan, close := numbers.getD 3 .nan,
    volume := numbers.getD 4 (.finite 0) }

theorem row_fields (entries : List (String × Cell)) (rawTime : Cell) (found : first entries timeKeys = some rawTime) :
    rowToCandle py provider symbol timeframe (.mapping entries) = (do
      let start ← parseTime py rawTime
      let numbers ← (fields entries).mapM (num py)
      let end_ ← bucketEnd timeframe start
      pure (candleOf provider symbol timeframe start end_ numbers)) := by
  simp only [rowToCandle, found, fields, List.map_cons, List.map_nil, List.cons_append, List.nil_append, List.mapM_cons]
  cases first entries volumeKeys with
  | none =>
      simp only [Option.toList, List.mapM_nil, bind_assoc, pure_bind]
      rfl
  | some raw =>
      simp only [Option.toList, List.mapM_cons, List.mapM_nil, bind_assoc, pure_bind]
      rfl

-- A row that becomes a candle.
def RowRead (row : Row) : Prop :=
  match row with
  | .other => False
  | .mapping entries => ∃ rawTime start, first entries timeKeys = some rawTime ∧ TimeIs py rawTime start ∧
      (∀ cell ∈ fields entries, NumberRead py cell) ∧ ∃ end_, bucketEnd timeframe start = .ok end_

-- A row without a time, or whose time or first field that is no number is refused.
def RowRefused (row : Row) : Prop :=
  match row with
  | .other => False
  | .mapping entries =>
      match first entries timeKeys with
      | .none => ∀ entry ∈ entries, (str py entry.2).isSome = true
      | some rawTime => TimeRefused py rawTime ∨ (∃ start, TimeIs py rawTime start) ∧
          ∃ before cell after, fields entries = before ++ cell :: after ∧ (∀ other ∈ before, NumberRead py other) ∧
            NumberRefused py cell

theorem bucket_end_foreign (start : Timestamp) : bucketEnd timeframe start ≠ .error datasetError := by
  have later (delta : Int) : start.plus delta ≠ .error datasetError := by
    rw [Timestamp.plus]
    split
    · intro same
      cases same
    · intro same
      cases same
  unfold bucketEnd
  split
  · simp only [nextMonth]
    split
    · split
      · intro same
        cases same
      · intro same
        cases same
    · intro same
      cases same
  · exact later _
  · intro same
    cases same

theorem row_read_iff (row : Row) : (∃ candle, rowToCandle py provider symbol timeframe row = .ok candle) ↔ RowRead py timeframe row := by
  cases row with
  | other => exact iff_of_false (fun ⟨_, same⟩ => nomatch same) id
  | mapping entries =>
      cases found : first entries timeKeys with
      | none =>
          refine iff_of_false (fun ⟨candle, same⟩ => ?_) (fun ⟨rawTime, _, same, _⟩ => nomatch found.symm.trans same)
          rw [rowToCandle, found] at same
          exact nomatch same
      | some rawTime =>
          rw [row_fields py provider symbol timeframe entries rawTime found]
          constructor
          · rintro ⟨candle, made⟩
            obtain ⟨start, parsed, later⟩ := (Fallible.then_ok_iff _ _ _).mp made
            obtain ⟨numbers, mapped, later⟩ := (Fallible.then_ok_iff _ _ _).mp later
            obtain ⟨end_, ends, -⟩ := (Fallible.then_ok_iff _ _ _).mp later
            have each_ := (Fallible.map_ok_iff _ _).mp ⟨numbers, mapped⟩
            exact ⟨rawTime, start, found, (parse_time_iff py rawTime start).mp parsed,
              fun cell member => (num_iff py cell).mp (each_ cell member), end_, ends⟩
          · rintro ⟨rawTime', start, found', is, each_, end_, ends⟩
            obtain rfl := Option.some.inj (found.symm.trans found')
            obtain ⟨numbers, mapped⟩ := (Fallible.map_ok_iff (num py) (fields entries)).mpr
              (fun cell member => (num_iff py cell).mpr (each_ cell member))
            exact ⟨_, (Fallible.then_ok_iff _ _ _).mpr ⟨start, (parse_time_iff py rawTime start).mpr is,
              (Fallible.then_ok_iff _ _ _).mpr ⟨numbers, mapped, (Fallible.then_ok_iff _ _ _).mpr ⟨end_, ends, rfl⟩⟩⟩⟩

theorem row_refused_iff (row : Row) :
    rowToCandle py provider symbol timeframe row = .error datasetError ↔ RowRefused py row := by
  cases row with
  | other => exact iff_of_false (by intro same; cases same) id
  | mapping entries =>
      cases found : first entries timeKeys with
      | none =>
          simp only [rowToCandle, RowRefused, found]
          split
          · rename_i printable
            exact iff_of_true rfl (by simpa using printable)
          · rename_i unprintable
            exact iff_of_false (by intro same; cases same) (by simpa using unprintable)
      | some rawTime =>
          rw [row_fields py provider symbol timeframe entries rawTime found]
          simp only [RowRefused, found]
          rw [Fallible.then_error_iff, parse_time_refused_iff]
          refine or_congr_right ?_
          constructor
          · rintro ⟨start, parsed, later⟩
            refine ⟨⟨start, (parse_time_iff py rawTime start).mp parsed⟩, ?_⟩
            rcases (Fallible.then_error_iff _ _ _).mp later with mapped | ⟨numbers, -, ends⟩
            · obtain ⟨before, cell, after, split_, passed, failed⟩ := (Fallible.map_error_iff _ _ _).mp mapped
              exact ⟨before, cell, after, split_, fun other member => (num_iff py other).mp (passed other member),
                (num_refused_iff py cell).mp failed⟩
            · rcases (Fallible.then_error_iff _ _ _).mp ends with last | ⟨end_, -, made⟩
              · exact absurd last (bucket_end_foreign timeframe start)
              · cases made
          · rintro ⟨⟨start, is⟩, before, cell, after, split_, passed, failed⟩
            refine ⟨start, (parse_time_iff py rawTime start).mpr is, (Fallible.then_error_iff _ _ _).mpr (.inl ?_)⟩
            exact (Fallible.map_error_iff _ _ _).mpr ⟨before, cell, after, split_,
              fun other member => (num_iff py other).mpr (passed other member), (num_refused_iff py cell).mpr failed⟩

end QuantEngine.Datasets
