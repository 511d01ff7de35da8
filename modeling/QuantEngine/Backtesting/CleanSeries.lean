import QuantEngine.Backtesting.RowsRead
import QuantEngine.Library.Replay

set_option autoImplicit false

namespace QuantEngine.Datasets

open Calendar (Moment)
open Timeframes (Timeframe)
open Timestamps (InRange)
open Versions (Latest latest)

def candleKey (candle : Candle) : Bool × Moment := startKey candle.start

def instantOf (candle : Candle) : Moment := candle.start.instant

theorem dedupe_latest (candles : List Candle) : dedupe candles = chronological (latest candleKey candles) := rfl

def earlier (a b : (Bool × Moment) × Candle) : Prop := a.1.2 ≤ b.1.2

instance : DecidableRel earlier := fun a b => inferInstanceAs (Decidable (a.1.2 ≤ b.1.2))

instance : Std.Total earlier := ⟨fun a b => le_total a.1.2 b.1.2⟩

instance : IsTrans _ earlier := ⟨fun _ _ _ => le_trans⟩

def Rising (candles : List Candle) : Prop := candles.Pairwise (fun a b => instantOf a < instantOf b)

-- The candles are all aware or all naive.
def Uniform (candles : List Candle) : Prop :=
  (∀ candle ∈ candles, candle.start.aware = true) ∨ ∀ candle ∈ candles, candle.start.aware = false

theorem collected_own (candles : List Candle) : ∀ entry ∈ (latest candleKey candles).entries,
    entry.1 = candleKey entry.2 ∧ entry.2 ∈ candles := by
  intro entry member
  obtain ⟨same, stays⟩ := (Versions.mem_latest candleKey candles entry.1 entry.2).mp member
  exact ⟨same.symm, Versions.latest_mem candleKey candles entry.2 stays⟩

theorem chronological_some (candles series : List Candle) (sorted : dedupe candles = .ok series) :
    ((∀ entry ∈ (latest candleKey candles).entries, entry.1.1 = true) ∨
      ∀ entry ∈ (latest candleKey candles).entries, entry.1.1 = false) ∧
    series = ((latest candleKey candles).entries.insertionSort earlier).map Prod.snd := by
  rw [dedupe_latest, chronological] at sorted
  split at sorted
  · rename_i alike
    refine ⟨?_, (Except.ok.inj sorted).symm⟩
    simpa [Dict.keys] using alike
  · cases sorted

theorem sorted_rising (byStart : ByStart) (own : ∀ entry ∈ byStart.entries, entry.1 = candleKey entry.2) (zoned : Bool)
    (alike : ∀ entry ∈ byStart.entries, entry.1.1 = zoned) : Rising ((byStart.entries.insertionSort earlier).map Prod.snd) := by
  have same := List.perm_insertionSort earlier byStart.entries
  have apart : (byStart.entries.insertionSort earlier).Pairwise (fun a b => a.1 ≠ b.1) :=
    List.pairwise_map.mp ((same.map Prod.fst).nodup_iff.mpr byStart.unique)
  have ordered := (List.pairwise_insertionSort earlier byStart.entries).and apart
  refine List.pairwise_map.mpr (ordered.imp_of_mem ?_)
  intro a b first second both
  have inA := same.mem_iff.mp first
  have inB := same.mem_iff.mp second
  have keyA : a.1.2 = instantOf a.2 := congrArg Prod.snd (own a inA)
  have keyB : b.1.2 = instantOf b.2 := congrArg Prod.snd (own b inB)
  have differ : a.1.2 ≠ b.1.2 := fun equal => both.2 (Prod.ext ((alike a inA).trans (alike b inB).symm) equal)
  rw [← keyA, ← keyB]
  exact lt_of_le_of_ne both.1 differ

theorem dedupe_series (candles series : List Candle) (sorted : dedupe candles = .ok series) :
    Rising series ∧ Uniform series ∧ ∀ candle, candle ∈ series ↔ Latest candleKey candles candle := by
  obtain ⟨alike, rfl⟩ := chronological_some candles series sorted
  have own := collected_own candles
  have member (candle : Candle) : candle ∈ ((latest candleKey candles).entries.insertionSort earlier).map Prod.snd ↔
      Latest candleKey candles candle := by
    constructor
    · intro listed
      obtain ⟨entry, inside, rfl⟩ := List.mem_map.mp listed
      exact ((Versions.mem_latest candleKey candles entry.1 entry.2).mp
        ((List.perm_insertionSort earlier _).mem_iff.mp inside)).2
    · intro stays
      exact List.mem_map.mpr ⟨(candleKey candle, candle), (List.perm_insertionSort earlier _).mem_iff.mpr
        ((Versions.mem_latest candleKey candles _ candle).mpr ⟨rfl, stays⟩), rfl⟩
  have aware (candle : Candle) (listed : candle ∈ ((latest candleKey candles).entries.insertionSort earlier).map Prod.snd) :
      (candleKey candle, candle) ∈ (latest candleKey candles).entries :=
    (Versions.mem_latest candleKey candles _ candle).mpr ⟨rfl, (member candle).mp listed⟩
  refine ⟨?_, ?_, member⟩
  · rcases alike with zoned | naive
    · exact sorted_rising _ (fun entry inside => (own entry inside).1) true zoned
    · exact sorted_rising _ (fun entry inside => (own entry inside).1) false naive
  · rcases alike with zoned | naive
    · exact .inl (fun candle listed => zoned _ (aware candle listed))
    · exact .inr (fun candle listed => naive _ (aware candle listed))

-- A series that is in order already is its own.
theorem dedupe_own (series : List Candle) (rising : Rising series) (uniform : Uniform series) : dedupe series = .ok series := by
  have apart : (series.map candleKey).Nodup :=
    List.pairwise_map.mpr (rising.imp_of_mem (fun _ _ less same => absurd (congrArg Prod.snd same) (ne_of_lt less)))
  have entries := Versions.latest_distinct candleKey series apart
  have ordered : (series.map (fun candle => (candleKey candle, candle))).Pairwise earlier :=
    List.pairwise_map.mpr (rising.imp le_of_lt)
  have alike : ((latest candleKey series).keys.all Prod.fst || (latest candleKey series).keys.all (fun key => !key.1)) = true := by
    rw [Dict.keys, entries, List.map_map]
    rcases uniform with zoned | naive
    · refine Bool.or_eq_true_iff.mpr (.inl (List.all_eq_true.mpr ?_))
      simpa [candleKey, startKey] using zoned
    · refine Bool.or_eq_true_iff.mpr (.inr (List.all_eq_true.mpr ?_))
      simpa [candleKey, startKey] using naive
  calc dedupe series = .ok (((latest candleKey series).entries.insertionSort earlier).map Prod.snd) := if_pos alike
    _ = .ok ((series.map (fun candle => (candleKey candle, candle))).map Prod.snd) := by rw [entries, ordered.insertionSort_eq]
    _ = .ok series := by rw [List.map_map]; exact congrArg Except.ok (List.map_id series)

theorem dedupe_twice (candles : List Candle) : (dedupe candles).bind dedupe = dedupe candles := by
  cases sorted : dedupe candles with
  | error error => rfl
  | ok series =>
      obtain ⟨rising, uniform, -⟩ := dedupe_series candles series sorted
      exact dedupe_own series rising uniform

-- One candle for each instant, the last one, in the order of their starts.
structure Series (candles series : List Candle) : Prop where
  rising : Rising series
  latest : ∀ candle, candle ∈ series ↔ Latest instantOf candles candle
  complete : ∀ candle ∈ candles, ∃ kept ∈ series, instantOf kept = instantOf candle

theorem latest_aware (candles : List Candle) (aware : ∀ candle ∈ candles, candle.start.aware = true) (candle : Candle) :
    Latest candleKey candles candle ↔ Latest instantOf candles candle := by
  have same (other : Candle) (first : other ∈ candles) (second : candle ∈ candles) :
      candleKey other ≠ candleKey candle ↔ instantOf other ≠ instantOf candle := by
    rw [candleKey, candleKey, startKey, startKey, aware other first, aware candle second]
    simp [instantOf]
  constructor
  · rintro ⟨before, after, split_, apart⟩
    exact ⟨before, after, split_, fun other member => (same other (by simp [split_, member]) (by simp [split_])).mp (apart other member)⟩
  · rintro ⟨before, after, split_, apart⟩
    exact ⟨before, after, split_, fun other member => (same other (by simp [split_, member]) (by simp [split_])).mpr (apart other member)⟩

theorem aware_series (candles : List Candle) (aware : ∀ candle ∈ candles, candle.start.aware = true) :
    ∃ series, dedupe candles = .ok series ∧ Series candles series := by
  have alike : ((latest candleKey candles).keys.all Prod.fst || (latest candleKey candles).keys.all (fun key => !key.1)) = true := by
    refine Bool.or_eq_true_iff.mpr (.inl (List.all_eq_true.mpr (fun key member => ?_)))
    obtain ⟨entry, inside, rfl⟩ := List.mem_map.mp member
    obtain ⟨same, listed⟩ := collected_own candles entry inside
    rw [same]
    exact aware entry.2 listed
  have sorted : dedupe candles = .ok (((latest candleKey candles).entries.insertionSort earlier).map Prod.snd) := if_pos alike
  obtain ⟨rising, -, member⟩ := dedupe_series candles _ sorted
  refine ⟨_, sorted, rising, fun candle => (member candle).trans (latest_aware candles aware candle), fun candle listed => ?_⟩
  obtain ⟨last, stays, same⟩ := Versions.latest_of_key candleKey candles candle listed
  exact ⟨last, (member last).mpr stays, congrArg Prod.snd same⟩

variable (py : Python) (provider : String)

theorem epoch_aware (epoch : Extended) (time : Timestamp) (is : EpochIs epoch time) : time.aware = true := by
  obtain ⟨_, _, _, offset⟩ := is
  rw [Timestamp.aware, offset]
  rfl

theorem text_aware (text : String) (time : Timestamp) (is : TextIs py text time) : time.aware = true := by
  rw [TextIs] at is
  split at is
  · obtain ⟨_, _, _, _, is⟩ := is
    exact epoch_aware _ time is
  · obtain ⟨_, _, rfl⟩ := is
    rfl

theorem shown_aware (cell : Cell) (time : Timestamp)
    (shown : ∃ text, str py cell = some text ∧ TextIs py (Text.strip text) time) : time.aware = true :=
  shown.elim (fun text both => text_aware py (Text.strip text) time both.2)

theorem time_aware (cell : Cell) (time : Timestamp) (is : TimeIs py cell time) : time.aware = true := by
  cases cell with
  | time value => rw [show time = utc value from is]; rfl
  | int value => exact epoch_aware _ time is.2
  | float epoch => exact epoch_aware epoch time is
  | none => exact shown_aware py .none time is
  | bool value => exact shown_aware py (.bool value) time is
  | text value => exact shown_aware py (.text value) time is
  | other shown => exact shown_aware py (.other shown) time is

theorem row_start (symbol : String) (timeframe : Timeframe) (row : Row) (candle : Candle)
    (made : rowToCandle py provider symbol timeframe row = .ok candle) : candle.start.aware = true := by
  cases row with
  | other => cases made
  | mapping entries =>
      cases found : first entries timeKeys with
      | none =>
          rw [rowToCandle, found] at made
          cases made
      | some rawTime =>
          rw [row_fields py provider symbol timeframe entries rawTime found] at made
          obtain ⟨start, parsed, later⟩ := (Fallible.then_ok_iff _ _ _).mp made
          obtain ⟨numbers, -, later⟩ := (Fallible.then_ok_iff _ _ _).mp later
          obtain ⟨end_, -, same⟩ := (Fallible.then_ok_iff _ _ _).mp later
          rw [← Except.ok.inj same]
          exact time_aware py rawTime start ((parse_time_iff py rawTime start).mp parsed)

theorem from_rows_eq (rows : List Row) (symbol text : String) (timeframe : Timeframe) (known : timeframeOf text = some timeframe) :
    fromRows py provider rows symbol text =
      (rows.mapM (rowToCandle py provider (upper symbol) timeframe)).bind
        (fun candles => if candles = [] then .error datasetError else dedupe candles) := by
  have loop : rows.foldlM (addRow py provider (upper symbol) timeframe) .empty =
      (rows.mapM (rowToCandle py provider (upper symbol) timeframe)).map (fun candles => latest candleKey candles) := by
    rw [show addRow py provider (upper symbol) timeframe = fun byStart row =>
        (rowToCandle py provider (upper symbol) timeframe row).map (keep byStart) from rfl]
    exact Fallible.fold_map _ keep rows .empty
  have nothing (candles : List Candle) : (latest candleKey candles).entries.isEmpty = true ↔ candles = [] := by
    rw [List.isEmpty_iff]
    constructor
    · intro none
      by_contra some_
      obtain ⟨candle, member⟩ := List.exists_mem_of_ne_nil candles some_
      obtain ⟨last, stays, same⟩ := Versions.latest_of_key candleKey candles candle member
      have inside := (Versions.mem_latest candleKey candles _ last).mpr ⟨rfl, stays⟩
      rw [none] at inside
      exact nomatch inside
    · rintro rfl
      rfl
  rw [fromRows, known]
  dsimp only
  rw [loop]
  cases rows.mapM (rowToCandle py provider (upper symbol) timeframe) with
  | error error => rfl
  | ok candles =>
      simp only [Except.map, bind, Except.bind, nothing]
      rfl

-- The first row that becomes no candle, if there is one, is refused.
def Orderly (timeframe : Timeframe) (rows : List Row) : Prop :=
  ∀ before row after, rows = before ++ row :: after → (∀ previous ∈ before, RowRead py timeframe previous) →
    RowRead py timeframe row ∨ RowRefused py row

theorem orderly_iff (symbol : String) (timeframe : Timeframe) (rows : List Row) : Orderly py timeframe rows ↔
    ∀ error, rows.mapM (rowToCandle py provider symbol timeframe) = .error error → error = datasetError := by
  constructor
  · intro orderly error failed
    obtain ⟨before, row, after, split_, passed, raised⟩ := (Fallible.map_error_iff _ _ _).mp failed
    rcases orderly before row after split_ (fun previous member =>
      (row_read_iff py provider symbol timeframe previous).mp (passed previous member)) with read | refused
    · obtain ⟨candle, made⟩ := (row_read_iff py provider symbol timeframe row).mpr read
      exact nomatch raised.symm.trans made
    · exact Except.error.inj (raised.symm.trans ((row_refused_iff py provider symbol timeframe row).mpr refused))
  · intro only before row after split_ passed
    cases made : rowToCandle py provider symbol timeframe row with
    | ok candle => exact .inl ((row_read_iff py provider symbol timeframe row).mp ⟨candle, made⟩)
    | error error =>
        have failed := only error ((Fallible.map_error_iff _ _ _).mpr ⟨before, row, after, split_,
          fun previous member => (row_read_iff py provider symbol timeframe previous).mpr (passed previous member), made⟩)
        rw [failed] at made
        exact .inr ((row_refused_iff py provider symbol timeframe row).mp made)

def KnownOrderly (rows : List Row) (text : String) : Prop := ∃ timeframe, timeframeOf text = some timeframe ∧ Orderly py timeframe rows

-- The candles of the rows, in their order.
def Converted (rows : List Row) (symbol text : String) (candles : List Candle) : Prop :=
  ∃ timeframe, timeframeOf text = some timeframe ∧ rows.mapM (rowToCandle py provider (upper symbol) timeframe) = .ok candles

theorem converted_aware (rows : List Row) (symbol text : String) (candles : List Candle)
    (converted : Converted py provider rows symbol text candles) : ∀ candle ∈ candles, candle.start.aware = true := by
  obtain ⟨timeframe, -, mapped⟩ := converted
  intro candle member
  have each_ : (.ok candle : Except PyError Candle) ∈ rows.map (rowToCandle py provider (upper symbol) timeframe) := by
    rw [(Fallible.map_all_iff _ _ _).mp mapped]
    exact List.mem_map_of_mem member
  obtain ⟨row, -, made⟩ := List.mem_map.mp each_
  exact row_start py provider _ timeframe row candle made

theorem from_rows_some (rows : List Row) (symbol text : String) (series : List Candle)
    (built : fromRows py provider rows symbol text = .ok series) :
    ∃ candles, Converted py provider rows symbol text candles ∧ dedupe candles = .ok series ∧ Series candles series := by
  cases known : timeframeOf text with
  | none =>
      rw [fromRows, known] at built
      exact nomatch built
  | some timeframe =>
      rw [from_rows_eq py provider rows symbol text timeframe known] at built
      obtain ⟨candles, mapped, later⟩ := (Fallible.then_ok_iff _ _ _).mp built
      have converted : Converted py provider rows symbol text candles := ⟨timeframe, known, mapped⟩
      split at later
      · exact nomatch later
      · obtain ⟨sorted, same, whole⟩ := aware_series candles (converted_aware py provider rows symbol text candles converted)
        obtain rfl := Except.ok.inj (later.symm.trans same)
        exact ⟨candles, converted, same, whole⟩

theorem from_rows_raises_iff (rows : List Row) (symbol text : String) :
    (∀ error, fromRows py provider rows symbol text = .error error → error = datasetError) ↔ KnownOrderly py rows text := by
  cases known : timeframeOf text with
  | none =>
      refine iff_of_false (fun only => ?_) (fun ⟨_, same, _⟩ => nomatch known.symm.trans same)
      have failed : fromRows py provider rows symbol text = .error .value := by rw [fromRows, known]
      exact nomatch only .value failed
  | some timeframe =>
      have orderly := orderly_iff py provider (upper symbol) timeframe rows
      have only : KnownOrderly py rows text ↔ Orderly py timeframe rows := by
        constructor
        · rintro ⟨other, same, inOrder⟩
          rwa [Option.some.inj (known.symm.trans same)]
        · intro inOrder
          exact ⟨timeframe, known, inOrder⟩
      rw [only, orderly, from_rows_eq py provider rows symbol text timeframe known]
      constructor
      · intro raises error failed
        exact raises error (by rw [failed]; rfl)
      · intro raises error failed
        cases mapped : rows.mapM (rowToCandle py provider (upper symbol) timeframe) with
        | error other =>
            rw [mapped] at failed
            rw [← Except.error.inj failed]
            exact raises other mapped
        | ok candles =>
            rw [mapped] at failed
            obtain ⟨sorted, same, -⟩ :=
              aware_series candles (converted_aware py provider rows symbol text candles ⟨timeframe, known, mapped⟩)
            change (if candles = [] then .error datasetError else dedupe candles) = .error error at failed
            split at failed
            · exact (Except.error.inj failed).symm
            · exact nomatch same.symm.trans failed

-- A series, or the error of a dataset.
theorem from_rows_iff (rows : List Row) (symbol text : String) :
    (fromRows py provider rows symbol text = .error datasetError ∨ ∃ candles series, Converted py provider rows symbol text candles ∧
      fromRows py provider rows symbol text = .ok series ∧ Series candles series) ↔ KnownOrderly py rows text := by
  rw [← from_rows_raises_iff py provider rows symbol text]
  cases built : fromRows py provider rows symbol text with
  | error error =>
      constructor
      · rintro (same | ⟨_, _, _, same, _⟩)
        · intro other same'
          exact Except.error.inj (same'.symm.trans same)
        · exact nomatch same
      · intro only
        rw [only error rfl]
        exact .inl rfl
  | ok series =>
      obtain ⟨candles, converted, -, whole⟩ := from_rows_some py provider rows symbol text series built
      exact iff_of_true (.inr ⟨candles, series, converted, rfl, whole⟩) (fun error same => nomatch same)

theorem from_rows_deduped (rows : List Row) (symbol text : String) (series : List Candle)
    (built : fromRows py provider rows symbol text = .ok series) : dedupe series = .ok series := by
  obtain ⟨candles, -, sorted, -⟩ := from_rows_some py provider rows symbol text series built
  obtain ⟨rising, uniform, -⟩ := dedupe_series candles series sorted
  exact dedupe_own series rising uniform

section Load

variable (loads : String → Except PyError (Json Extended))

def jsonLines (text : String) : List String := ((splitlines text).map Text.strip).filter (fun line => line ≠ "")

-- The rows that a file holds: UTF-8, with a JSON value on each line or with records.
def Contents (bytes : ByteArray) (suffix : String) (rows : List Row) : Prop :=
  ∃ text, String.fromUTF8? bytes = some text ∧
    if suffix = ".jsonl" then ∃ values : List (Json Extended), (jsonLines text).map loads = values.map .ok ∧ rows = values.map (rowOf py)
    else ∃ records, Csv.dictRows text.toList = .ok records ∧ rows = records.map (csvRow py)

def readRows (bytes : ByteArray) (suffix : String) : Except PyError (List Row) :=
  if suffix = ".jsonl" then readJsonl py loads bytes else readCsv py bytes

theorem lines_iff (lines : List String) (rows : List Row) : lines.mapM (fun line => (loads line).map (rowOf py)) = .ok rows ↔
    ∃ values : List (Json Extended), lines.map loads = values.map .ok ∧ rows = values.map (rowOf py) := by
  induction lines generalizing rows with
  | nil =>
      constructor
      · intro same
        exact ⟨[], rfl, (Except.ok.inj same).symm⟩
      · rintro ⟨values, same, rfl⟩
        rw [List.map_eq_nil_iff.mp same.symm]
        rfl
  | cons line rest ih =>
      rw [List.mapM_cons, Fallible.then_ok_iff]
      constructor
      · rintro ⟨row, first, later⟩
        obtain ⟨others, rested, same⟩ := (Fallible.then_ok_iff _ _ _).mp later
        obtain ⟨values, lines, rfl⟩ := (ih others).mp rested
        cases read : loads line with
        | error error =>
            rw [read] at first
            exact nomatch first
        | ok value =>
            rw [read] at first
            refine ⟨value :: values, by rw [List.map_cons, List.map_cons, read, lines], ?_⟩
            rw [List.map_cons, Except.ok.inj first]
            exact (Except.ok.inj same).symm
      · rintro ⟨values, same, rfl⟩
        cases values with
        | nil => exact nomatch same
        | cons value values =>
            obtain ⟨first, rested⟩ := List.cons.inj same
            refine ⟨rowOf py value, by rw [first]; rfl, ?_⟩
            exact (Fallible.then_ok_iff _ _ _).mpr ⟨values.map (rowOf py), (ih _).mpr ⟨values, rested, rfl⟩, rfl⟩

theorem read_rows_iff (bytes : ByteArray) (suffix : String) (rows : List Row) :
    readRows py loads bytes suffix = .ok rows ↔ Contents py loads bytes suffix rows := by
  rw [readRows, readJsonl, readCsv, Contents, readText]
  cases String.fromUTF8? bytes with
  | none =>
      refine iff_of_false (fun same => ?_) (fun ⟨_, same, _⟩ => nomatch same)
      split at same
      · exact nomatch same
      · exact nomatch same
  | some text =>
      have only (p : String → Prop) : (∃ text', some text = some text' ∧ p text') ↔ p text :=
        ⟨fun ⟨_, same, holds⟩ => Option.some.inj same ▸ holds, fun holds => ⟨text, rfl, holds⟩⟩
      rw [only]
      by_cases json : suffix = ".jsonl"
      · rw [if_pos json, if_pos json]
        exact lines_iff py loads (jsonLines text) rows
      · rw [if_neg json, if_neg json]
        change (Csv.dictRows text.toList >>= fun records => pure (records.map (csvRow py))) = .ok rows ↔ _
        refine (Fallible.then_ok_iff _ _ _).trans (exists_congr fun records => and_congr_right fun _ => ?_)
        exact ⟨fun same => (Except.ok.inj same).symm, fun same => congrArg Except.ok same.symm⟩

-- `json.loads` raises other errors than a dataset's.
variable (foreign : ∀ text, loads text ≠ .error datasetError)

include foreign

theorem read_rows_foreign (bytes : ByteArray) (suffix : String) : readRows py loads bytes suffix ≠ .error datasetError := by
  intro failed
  have text (other : PyError) (none : readText bytes = .error other) : other = .value := by
    rw [readText] at none
    split at none
    · exact nomatch none
    · exact (Except.error.inj none).symm
  rw [readRows] at failed
  split at failed
  · rcases (Fallible.then_error_iff _ _ _).mp failed with unread | ⟨content, -, lines⟩
    · exact nomatch text _ unread
    · obtain ⟨-, line, -, -, -, raised⟩ := (Fallible.map_error_iff _ _ _).mp lines
      cases read : loads line with
      | error error =>
          rw [read] at raised
          exact foreign line (read.trans (congrArg Except.error (Except.error.inj raised)))
      | ok value =>
          rw [read] at raised
          exact nomatch raised
  · rcases (Fallible.then_error_iff _ _ _).mp failed with unread | ⟨content, -, later⟩
    · exact nomatch text _ unread
    · rcases (Fallible.then_error_iff _ _ _).mp later with records | ⟨all, -, made⟩
      · exact nomatch Csv.rows_raises content.toList datasetError records
      · exact nomatch made

theorem load_raises_iff (bytes : Option ByteArray) (suffix symbol text : String) :
    (∀ error, load py provider loads bytes suffix symbol text = .error error → error = datasetError) ↔
      bytes = none ∨ ∃ content rows, bytes = some content ∧ Contents py loads content suffix rows ∧ KnownOrderly py rows text := by
  cases bytes with
  | none => exact iff_of_true (fun error same => (Except.error.inj same).symm) (.inl rfl)
  | some content =>
      have steps : load py provider loads (some content) suffix symbol text =
          readRows py loads content suffix >>= fun rows => fromRows py provider rows symbol text := by
        by_cases json : suffix = ".jsonl"
        · simp only [load, readRows, if_pos json]
        · simp only [load, readRows, if_neg json]
      rw [steps]
      constructor
      · intro only
        cases read : readRows py loads content suffix with
        | error error =>
            have failed := only error (by rw [read]; rfl)
            rw [failed] at read
            exact absurd read (read_rows_foreign py loads foreign content suffix)
        | ok rows =>
            refine .inr ⟨content, rows, rfl, (read_rows_iff py loads content suffix rows).mp read, ?_⟩
            refine (from_rows_raises_iff py provider rows symbol text).mp (fun error failed => only error ?_)
            rw [read]
            exact failed
      · rintro (none | ⟨content', rows, same, holds, inOrder⟩) error failed
        · exact nomatch none
        · obtain rfl := Option.some.inj same
          rw [(read_rows_iff py loads content suffix rows).mpr holds] at failed
          exact (from_rows_raises_iff py provider rows symbol text).mpr inOrder error failed

-- The rows become a series where the first that does not convert is refused; texts of
-- dates are read where they are not all digits and have no Z before their end; numbers
-- are read in their unit but for the last microsecond that a double takes for nanos.
theorem dataset_loading_iff :
    (∀ rows symbol text, (fromRows py provider rows symbol text = .error datasetError ∨
        ∃ candles series, Converted py provider rows symbol text candles ∧ fromRows py provider rows symbol text = .ok series ∧
          Series candles series) ↔ KnownOrderly py rows text) ∧
      (∀ candles, (dedupe candles).bind dedupe = dedupe candles) ∧
      (∀ rows symbol text series, fromRows py provider rows symbol text = .ok series → dedupe series = .ok series) ∧
      (∀ text time, IsoForms.fromisoformat text = .ok time →
        (parseTime py (.text text) = .ok (utc time) ↔ isdigit py text = false ∧ 'Z' ∉ text.toList.dropLast)) ∧
      (∀ n unit, unit ∈ units → 10000000 * unit ≤ n → n < 10000000000 * unit →
        (ReadsUnit py n unit ↔ ¬ (n = 9999999999999999 ∧ unit = 1000000))) ∧
      (∀ bytes suffix symbol text, (∀ error, load py provider loads bytes suffix symbol text = .error error → error = datasetError) ↔
        bytes = none ∨ ∃ content rows, bytes = some content ∧ Contents py loads content suffix rows ∧ KnownOrderly py rows text) :=
  ⟨from_rows_iff py provider, dedupe_twice, from_rows_deduped py provider, reads_iso_iff py, reads_unit_iff py,
    load_raises_iff py provider loads foreign⟩

end Load

-- Python as far as the texts are ASCII and the numbers whole.
def asciiPython : Python where
  isDigit c := c.isDigit
  decimal c := if c.isDigit then some (c.toNat - 48) else none
  asciiDigits _ _ := ⟨rfl, rfl⟩
  decimalSmall c value found := by
    split at found
    · rename_i digit
      rw [← Option.some.inj found]
      exact IsoForms.worth_lt c digit
    · exact nomatch found
  float text := (Text.parseInt text).map (fun value => .finite value)
  floatText _ := ""
  timeText _ := ""
  listText _ := ""
  jsonText _ := ""

def barAt (time : String) : Row :=
  .mapping [("Date", .text time), ("o", .text "1"), ("h", .text "2"), ("l", .text "1"), ("c", .text "2"), ("v", .text "")]

def notJson (_ : String) : Except PyError (Json Extended) := .error .value

def raised {α : Type} (result : Except PyError α) : Option PyError :=
  match result with
  | .error error => some error
  | .ok _ => none

theorem bar_reads (time : String) (converts : raised (rowToCandle asciiPython "backtest" "BTC" .d1 (barAt time)) = none) :
    RowRead asciiPython .d1 (barAt time) := by
  refine (row_read_iff asciiPython "backtest" "BTC" .d1 (barAt time)).mp ?_
  cases made : rowToCandle asciiPython "backtest" "BTC" .d1 (barAt time) with
  | error error =>
      rw [made] at converts
      exact nomatch converts
  | ok candle => exact ⟨candle, rfl⟩

theorem dataset_loading_daily :
    (fromRows asciiPython "backtest" [barAt "2024-01-02"] "btc" "1d" = .error datasetError ∨
        ∃ candles series, Converted asciiPython "backtest" [barAt "2024-01-02"] "btc" "1d" candles ∧
          fromRows asciiPython "backtest" [barAt "2024-01-02"] "btc" "1d" = .ok series ∧ Series candles series) ∧
      parseTime asciiPython (.text "2024-01-01T10:00:00Z") = .ok (utc ⟨1704103200000000, some 0, by decide⟩) ∧
      ReadsUnit asciiPython 1704067200000 1000 ∧
      ∀ error, load asciiPython "backtest" notJson none ".csv" "BTC" "1d" = .error error → error = datasetError := by
  obtain ⟨rows, -, -, texts, numbers, loading⟩ := dataset_loading_iff asciiPython "backtest" notJson (fun _ same => nomatch same)
  refine ⟨(rows _ _ _).mpr ⟨.d1, rfl, fun before row after split_ _ => ?_⟩,
    (texts _ _ (by decide +kernel)).mpr ⟨by decide, by decide⟩,
    (numbers 1704067200000 1000 (by decide) (by decide) (by decide)).mpr (by decide), (loading none _ _ _).mpr (.inl rfl)⟩
  have only : row ∈ [barAt "2024-01-02"] := split_ ▸ List.mem_append_right before List.mem_cons_self
  rw [List.mem_singleton.mp only]
  exact .inl (bar_reads "2024-01-02" (by decide +kernel))

-- Eight digits are a date, but are read as seconds; a microsecond is read as a
-- nanosecond; and a time out of all years, and bytes that are no text, raise other errors.
theorem dataset_misread :
    (IsoForms.fromisoformat "20240101" = .ok ⟨1704067200000000, none, by decide⟩ ∧
        parseTime asciiPython (.text "20240101") = .ok ⟨20240101000000, some 0, by decide⟩) ∧
      ¬ ReadsUnit asciiPython 9999999999999999 1000000 ∧
      raised (fromRows asciiPython "backtest" [barAt "999999999999999999999999"] "BTC" "1d") = some .value ∧
      raised (load asciiPython "backtest" notJson (some ⟨#[255]⟩) ".csv" "BTC" "1d") = some .value := by
  have late := reads_unit_iff asciiPython 9999999999999999 1000000 (by decide) (by decide) (by decide)
  exact ⟨⟨by decide +kernel, by decide +kernel⟩, fun reads => late.mp reads ⟨rfl, rfl⟩, by decide +kernel, by decide +kernel⟩

end QuantEngine.Datasets
