import Mathlib.Data.List.Sort
import QuantEngine.Library.Csv
import QuantEngine.Library.Dict
import QuantEngine.Library.Extended
import QuantEngine.Library.IsoForms
import QuantEngine.Market.Timeframes

set_option autoImplicit false

namespace QuantEngine.Datasets

open Calendar (Moment)
open Timeframes (Timeframe)
open Timestamps (InRange)

def datasetError : PyError := .other "DatasetError"

-- A value of a row. An object of another kind is known by its `str()`, which raises
-- where it is `none`.
inductive Cell where
  | none
  | bool (value : Bool)
  | int (value : Int)
  | float (value : Extended)
  | text (value : String)
  | time (value : Timestamp)
  | other (shown : Option String)

-- What Python knows of characters and of the texts of numbers. The digits of other
-- scripts count as digits; some, like the superscripts, have no value for `int`.
structure Python where
  isDigit : Char → Bool
  decimal : Char → Option Nat
  asciiDigits : ∀ c, c.toNat < 128 → isDigit c = c.isDigit ∧ decimal c = if c.isDigit then some (c.toNat - 48) else .none
  decimalSmall : ∀ c value, decimal c = some value → value < 10
  float : String → Option Extended
  floatText : Extended → String
  timeText : Timestamp → String
  listText : List String → String
  jsonText : Json Extended → String

-- The most digits that `int` and `str` convert.
def maxDigits : Nat := 4300

variable (py : Python)

-- `str(value)`.
def str : Cell → Option String
  | .none => some "None"
  | .bool value => some (if value then "True" else "False")
  | .int value => if value.natAbs < 10 ^ maxDigits then some (toString value) else .none
  | .float value => some (py.floatText value)
  | .text value => some value
  | .time value => some (py.timeText value)
  | .other shown => shown

-- A row is a mapping, or it is none at all.
inductive Row where
  | mapping (entries : List (String × Cell))
  | other

def timeKeys : List String := ["start", "timestamp", "time", "date", "open_time", "t"]

def openKeys : List String := ["open", "o"]

def highKeys : List String := ["high", "h"]

def lowKeys : List String := ["low", "l"]

def closeKeys : List String := ["close", "c"]

def volumeKeys : List String := ["volume", "vol", "v"]

def lower (text : String) : String := String.ofList (text.toList.map Char.toLower)

def present : Cell → Bool
  | .none => false
  | .text value => decide (value ≠ "")
  | _ => true

-- `_first`.
def first (row : List (String × Cell)) (keys : List String) : Option Cell :=
  let lowered : Dict String Cell := Dict.empty.insertAll (row.map (fun entry => (lower entry.1, entry.2)))
  keys.findSome? (fun key => (lowered.lookup key).filter present)

-- `float(value)` of an integer.
def floatOfInt (value : Int) : Except PyError Extended :=
  if 2 ^ 1024 ≤ |Decimal.double value| then .error .overflow else .ok (.finite (Decimal.double value))

-- Seconds, from the seconds, millis, micros or nanos that the magnitude tells.
def scaled (epoch : ℚ) : ℚ :=
  if 10 ^ 16 ≤ epoch then Decimal.double (epoch / 10 ^ 9)
  else if 10 ^ 13 ≤ epoch then Decimal.double (epoch / 10 ^ 6)
  else if 10 ^ 10 ≤ epoch then Decimal.double (epoch / 10 ^ 3)
  else epoch

-- The whole seconds are taken off before the micros are rounded.
def microsOf (seconds : ℚ) : Moment :=
  let whole := Decimal.truncate seconds
  whole * 1000000 + Decimal.roundHalfEven (Decimal.double ((seconds - whole) * 1000000))

-- Beyond these bounds the C library has no calendar, and no integer.
def outside (seconds : ℚ) : PyError :=
  if 2 ^ 63 ≤ |seconds| then .overflow else if 67768036191676799 < |seconds| then .os else .value

-- `datetime.fromtimestamp(seconds, tz=UTC)`.
def fromtimestamp (seconds : ℚ) : Except PyError Timestamp :=
  if inRange : InRange (microsOf seconds) then .ok ⟨microsOf seconds, some 0, inRange⟩ else .error (outside seconds)

def parseEpoch : Extended → Except PyError Timestamp
  | .finite epoch => fromtimestamp (scaled epoch)
  | .nan => .error .value
  | .infinite _ => .error .overflow

def isdigit (text : String) : Bool := !text.toList.isEmpty && text.toList.all py.isDigit

-- `int(text)` of digits.
def intOf (text : String) : Except PyError Int :=
  if maxDigits < text.length then .error .value
  else match text.toList.mapM py.decimal with
    | some digits => .ok (digits.foldl (fun value digit => value * 10 + digit) 0 : Nat)
    | .none => .error .value

def utc (time : Timestamp) : Timestamp := { time with offset := some (time.offset.getD 0) }

def parseText (text : String) : Except PyError Timestamp :=
  if isdigit py text then do
    let value ← intOf py text
    let epoch ← floatOfInt value
    parseEpoch epoch
  else match IsoForms.fromisoformat (String.ofList (IsoForms.zuluReplaced text.toList)) with
    | .ok parsed => .ok (utc parsed)
    | .error _ => .error datasetError

-- `_parse_time`.
def parseTime : Cell → Except PyError Timestamp
  | .time value => .ok (utc value)
  | .int value => floatOfInt value >>= parseEpoch
  | .float value => parseEpoch value
  | cell => match str py cell with
    | some shown => parseText py (Text.strip shown)
    | .none => .error .value

-- `_num`. The message of the error shows the value again.
def num (cell : Cell) : Except PyError Extended :=
  match str py cell with
  | .none => .error .value
  | some shown => match py.float shown with
    | some number => .ok number
    | .none => .error datasetError

structure Candle where
  symbol : String
  provider : String
  timeframe : Timeframe
  start : Timestamp
  end_ : Timestamp
  open_ : Extended
  high : Extended
  low : Extended
  close : Extended
  volume : Extended
  closed : Bool := true
  source : String := "backtest"

def timeframeOf (text : String) : Option Timeframe :=
  match text with
  | "tick" => some .tick
  | "1s" => some .s1
  | "5s" => some .s5
  | "15s" => some .s15
  | "30s" => some .s30
  | "1m" => some .m1
  | "3m" => some .m3
  | "5m" => some .m5
  | "15m" => some .m15
  | "30m" => some .m30
  | "1h" => some .h1
  | "4h" => some .h4
  | "1d" => some .d1
  | "1w" => some .w1
  | "1M" => some .mn1
  | _ => .none

-- `start.replace(month=...)`: the day has to be in the next month too.
def nextMonth (start : Timestamp) : Except PyError Timestamp :=
  let index := Months.monthIndex start.wall
  let wall := start.wall + (Months.firstDay (index + 1) - Months.firstDay index) * Calendar.day
  if Calendar.dayOfMonth start.wall ≤ Months.firstDay (index + 2) - Months.firstDay (index + 1) then
    if inRange : InRange wall then .ok ⟨wall, start.offset, inRange⟩ else .error .value
  else .error .value

-- `Timeframe.bucket_end`.
def bucketEnd (timeframe : Timeframe) (start : Timestamp) : Except PyError Timestamp :=
  match timeframe, Timeframes.seconds timeframe with
  | .mn1, _ => nextMonth start
  | _, some seconds => start.plus (seconds * Calendar.second)
  | _, .none => .error .value

variable (provider : String)

-- `_row_to_candle`.
def rowToCandle (symbol : String) (timeframe : Timeframe) (row : Row) : Except PyError Candle :=
  match row with
  | .other => .error .attribute
  | .mapping row => match first row timeKeys with
    | .none => .error (if row.all (fun entry => (str py entry.2).isSome) then datasetError else .value)
    | some rawTime => do
        let start ← parseTime py rawTime
        let open_ ← num py ((first row openKeys).getD .none)
        let high ← num py ((first row highKeys).getD .none)
        let low ← num py ((first row lowKeys).getD .none)
        let close ← num py ((first row closeKeys).getD .none)
        let volume ← match first row volumeKeys with
          | .none => pure (.finite 0)
          | some raw => num py raw
        let end_ ← bucketEnd timeframe start
        pure { symbol := symbol, provider := provider, timeframe := timeframe, start := start, end_ := end_, open_ := open_,
               high := high, low := low, close := close, volume := volume }

-- Datetimes are the same when they are the same instant, of those that have a zone.
def startKey (time : Timestamp) : Bool × Moment := (time.aware, time.instant)

abbrev ByStart := Dict (Bool × Moment) Candle

-- `[by_start[start] for start in sorted(by_start)]`: starts with a zone are not
-- compared with starts without.
def chronological (byStart : ByStart) : Except PyError (List Candle) :=
  if byStart.keys.all Prod.fst || byStart.keys.all (fun key => !key.1) then
    .ok ((byStart.entries.insertionSort (fun a b => a.1.2 ≤ b.1.2)).map Prod.snd)
  else .error .type

def keep (byStart : ByStart) (candle : Candle) : ByStart := byStart.insert (startKey candle.start) candle

def addRow (symbol : String) (timeframe : Timeframe) (byStart : ByStart) (row : Row) : Except PyError ByStart := do
  let candle ← rowToCandle py provider symbol timeframe row
  pure (keep byStart candle)

def upper (text : String) : String := String.ofList (text.toList.map Char.toUpper)

-- `from_rows`.
def fromRows (rows : List Row) (symbol timeframe : String) : Except PyError (List Candle) :=
  match timeframeOf timeframe with
  | .none => .error .value
  | some timeframe => do
      let byStart ← rows.foldlM (addRow py provider (upper symbol) timeframe) .empty
      if byStart.entries.isEmpty then .error datasetError else chronological byStart

-- `dedupe`.
def dedupe (candles : List Candle) : Except PyError (List Candle) := chronological (candles.foldl keep .empty)

def cellOf : Json Extended → Cell
  | .null => .none
  | .bool value => .bool value
  | .int value => .int value
  | .float value => .float value
  | .str text => .text text
  | other => .other (some (py.jsonText other))

def rowOf : Json Extended → Row
  | .obj members => .mapping (members.map (fun entry => (entry.1, cellOf py entry.2)))
  | _ => .other

-- The characters that end a line of `splitlines`.
def lineEnd (c : Char) : Bool :=
  ['\n', '\r', '\x0b', '\x0c', '\x1c', '\x1d', '\x1e', '\u0085', '\u2028', '\u2029'].contains c

def splitFrom : List Char → List Char → List (List Char)
  | line, [] => if line = [] then [] else [line]
  | line, '\r' :: '\n' :: rest => line :: splitFrom [] rest
  | line, c :: rest => if lineEnd c then line :: splitFrom [] rest else splitFrom (line ++ [c]) rest

def splitlines (text : String) : List String := (splitFrom [] text.toList).map String.ofList

-- The text of a file, where its bytes are UTF-8.
def readText (bytes : ByteArray) : Except PyError String :=
  match String.fromUTF8? bytes with
  | some text => .ok text
  | .none => .error .value

variable (loads : String → Except PyError (Json Extended))

-- `_read_jsonl`.
def readJsonl (bytes : ByteArray) : Except PyError (List Row) := do
  let text ← readText bytes
  ((splitlines text).map Text.strip).filter (fun line => line ≠ "") |>.mapM (fun line => (loads line).map (rowOf py))

def csvRow (row : Csv.DictRow) : Row :=
  .mapping (row.named.map (fun entry => (entry.1, .text entry.2)) ++
    (row.surplus.toList.map (fun values => ("None", Cell.other (some (py.listText values)))) ++
      row.missing.map (fun name => (name, Cell.none))))

-- `_read_csv`.
def readCsv (bytes : ByteArray) : Except PyError (List Row) := do
  let text ← readText bytes
  let rows ← Csv.dictRows text.toList
  pure (rows.map (csvRow py))

-- `load`; a file that does not exist has no bytes.
def load (bytes : Option ByteArray) (suffix symbol timeframe : String) : Except PyError (List Candle) :=
  match bytes with
  | .none => .error datasetError
  | some bytes => do
      let rows ← if suffix = ".jsonl" then readJsonl py loads bytes else readCsv py bytes
      fromRows py provider rows symbol timeframe

end QuantEngine.Datasets
