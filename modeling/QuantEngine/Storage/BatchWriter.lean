import QuantEngine.Library.Coroutine
import QuantEngine.Library.Deque
import QuantEngine.Market.Candles

set_option autoImplicit false

namespace QuantEngine.BatchWriter

open QuantEngine.Candles QuantEngine.Task

-- The market writer and the history writer are one pattern: two buffers of rows
-- (ticks and candles, signals and decisions) that one task flushes.
inductive Label where
  | first
  | second
deriving DecidableEq

structure WriterSettings where
  runs : Bool
  stores : Label → Bool
  bufferLimit : Nat
  batchSize : Int

-- `added` and `evicted` are ghosts: every row buffered, and those that a full
-- buffer dropped. `database` and `spillFiles` are what was committed and what was
-- appended to the spill files.
structure Writer (Row : Type) where
  buffers : Label → List Row
  dbAvailable : Bool
  rowsWritten : Nat
  rowsSpilled : Nat
  database : List Row
  spillFiles : List Row
  added : List Row
  evicted : List Row

section

variable {Row : Type} (settings : WriterSettings)

def Writer.start : Writer Row := ⟨fun _ => [], true, 0, 0, [], [], [], []⟩

def overflow (rows : List Row) (row : Row) : List Row :=
  (rows ++ [row]).take (rows.length + 1 - settings.bufferLimit)

def add (w : Writer Row) (entry : Label × Row) : Writer Row :=
  if settings.stores entry.1 then
    { w with
      buffers := Function.update w.buffers entry.1 (Deque.push settings.bufferLimit (w.buffers entry.1) entry.2)
      added := w.added ++ [entry.2]
      evicted := w.evicted ++ overflow settings (w.buffers entry.1) entry.2 }
  else w

structure Insert (Row : Type) where
  label : Label
  batch : List Row

-- How a wait on the database ends: a cancellation may come before the commit or
-- after it.
inductive Outcome where
  | committed
  | failed
  | cancelled (afterCommit : Bool)
deriving DecidableEq

abbrev WriterTask (Row : Type) := Task (Writer Row) (Insert Row) Outcome

def takeBatch (label : Label) (w : Writer Row) : List Row × Writer Row :=
  let rows := w.buffers label
  (rows.take settings.batchSize.toNat,
    { w with buffers := Function.update w.buffers label (rows.drop settings.batchSize.toNat) })

def wrote (batch : List Row) (w : Writer Row) : Writer Row :=
  { w with database := w.database ++ batch, rowsWritten := w.rowsWritten + batch.length, dbAvailable := true }

def spill (batch : List Row) (w : Writer Row) : Writer Row :=
  { w with spillFiles := w.spillFiles ++ batch, rowsSpilled := w.rowsSpilled + batch.length, dbAvailable := false }

def interrupted (afterCommit : Bool) (batch : List Row) (w : Writer Row) : Writer Row :=
  if afterCommit then { w with database := w.database ++ batch } else w

-- A CancelledError is not among the errors that spill.
def resolve (batch : List Row) : Outcome → WriterTask Row Unit
  | .committed => modify (wrote batch)
  | .failed => modify (spill batch)
  | .cancelled afterCommit => do
      modify (interrupted afterCommit batch)
      raise

def flushBatch (label : Label) : WriterTask Row Unit := do
  let w ← get
  if (w.buffers label).isEmpty then pure ()
  else do
    let batch ← sync (takeBatch settings label)
    let outcome ← suspend ⟨label, batch⟩
    resolve batch outcome

def flush : WriterTask Row Unit := do
  flushBatch settings .first
  flushBatch settings .second

-- The loop sleeps, or its flush waits on the database.
structure System (Row : Type) where
  writer : Writer Row
  flight : Option (Suspended (Writer Row) (Insert Row) Outcome)

def System.start : System Row := ⟨Writer.start, none⟩

def settle : Co (Writer Row) (Insert Row) Outcome Unit → System Row
  | .done w _ => ⟨w, none⟩
  | .raised w => ⟨w, none⟩
  | .await w point resume => ⟨w, some ⟨point, resume⟩⟩

inductive WriterAction (Row : Type) where
  | add (entries : List (Label × Row))
  | wake
  | answer (committed : Bool)

def outcomeOf (committed : Bool) : Outcome := if committed then .committed else .failed

def wake (s : System Row) : System Row :=
  if settings.runs ∧ s.flight.isNone then settle (flush settings s.writer) else s

def answered (s : System Row) (outcome : Outcome) : System Row :=
  match s.flight with
  | none => s
  | some task => settle (task.resume s.writer outcome)

def step (s : System Row) : WriterAction Row → System Row
  | .add entries => { s with writer := entries.foldl (add settings) s.writer }
  | .wake => wake settings s
  | .answer committed => answered s (outcomeOf committed)

-- `_on_stop`: the task is cancelled wherever it waits, and one last flush is
-- awaited.
def stop (s : System Row) (afterCommit : Bool) (commits : Label → Bool) : Writer Row :=
  Co.finish (fun point => outcomeOf (commits point.label)) (flush settings (answered s (.cancelled afterCommit)).writer)

end

structure MarketStorageSettings where
  enabled : Bool
  storeTicks : Bool
  storeCandles : Bool
  batchSize : Int
  bufferLimit : Nat

def MarketStorageSettings.writer (settings : MarketStorageSettings) : WriterSettings where
  runs := settings.enabled
  stores label := settings.enabled && (if label = .first then settings.storeTicks else settings.storeCandles)
  bufferLimit := settings.bufferLimit
  batchSize := settings.batchSize

-- A row is the object it was made from.
inductive MarketRow where
  | tick (trade : Trade)
  | candle (candle : MarketCandle)

def addTrade (trade : Trade) : List (Label × MarketRow) := [(.first, .tick trade)]

def addCandles (candles : List MarketCandle) : List (Label × MarketRow) :=
  (candles.filter MarketCandle.closed).map (fun candle => (.second, .candle candle))

structure QuantHistorySettings where
  persist : Bool
  memoryLimit : Nat
  batchSize : Int

def QuantHistorySettings.writer (settings : QuantHistorySettings) : WriterSettings where
  runs := settings.persist
  stores _ := settings.persist
  bufferLimit := settings.memoryLimit
  batchSize := settings.batchSize

inductive HistoryRow (Record Decision : Type) where
  | signal (record : Record)
  | decision (decision : Decision)

def addSignal {Record Decision : Type} (record : Record) : List (Label × HistoryRow Record Decision) :=
  [(.first, .signal record)]

def addDecision {Record Decision : Type} (decision : Decision) : List (Label × HistoryRow Record Decision) :=
  [(.second, .decision decision)]

end QuantEngine.BatchWriter
