import QuantEngine.Execution.Models
import QuantEngine.Library.Deque

set_option autoImplicit false

namespace QuantEngine

-- One line of the journal file. A corrupt line is any text that does not parse
-- into a trade.
inductive JournalLine where
  | blank
  | corrupt
  | trade (record : TradeRecord)
  deriving DecidableEq

def JournalLine.readable : JournalLine → Option TradeRecord
  | .trade record => some record
  | _ => none

-- `file` is the backing file, where it exists; the two flags say whether the
-- disk currently serves reads and writes.
structure TradeJournal where
  hasPath : Bool := true
  persist : Bool := true
  memoryLimit : Nat := 10000
  trades : List TradeRecord := []
  file : Option (List JournalLine) := none
  diskReads : Bool := true
  diskWrites : Bool := true
  deriving DecidableEq

namespace TradeJournal

def persists (journal : TradeJournal) : Bool := journal.persist && journal.hasPath

-- The disk never stops the trading: a failed write leaves the memory ahead.
def record (journal : TradeJournal) (trade : TradeRecord) : TradeJournal :=
  let remembered := { journal with trades := Deque.push journal.memoryLimit journal.trades trade }
  if journal.persists && journal.diskWrites then
    { remembered with file := some (journal.file.getD [] ++ [.trade trade]) }
  else remembered

def count (journal : TradeJournal) : Nat := journal.trades.length

def all (journal : TradeJournal) : List TradeRecord := journal.trades

def restore (journal : TradeJournal) (trades : List TradeRecord) : TradeJournal :=
  { journal with trades := Deque.extend journal.memoryLimit journal.trades trades }

def readTrades (lines : List JournalLine) : List TradeRecord := lines.filterMap JournalLine.readable

-- Does nothing when trades are already held in memory.
def loadFromDisk (journal : TradeJournal) : TradeJournal :=
  if !journal.trades.isEmpty || !journal.hasPath then journal
  else match journal.file with
    | none => journal
    | some lines => if journal.diskReads then journal.restore (readTrades lines) else journal

theorem record_limit (journal : TradeJournal) (trade : TradeRecord) :
    (journal.record trade).memoryLimit = journal.memoryLimit := by
  simp only [record]
  split <;> rfl

end TradeJournal

namespace PerformanceEngine

structure PerformanceReport where
  totalTrades : Nat
  winRate : ℚ
  riskReward : ℚ
  deriving DecidableEq

def safeRatio (numerator denominator : ℚ) : ℚ := if denominator ≤ 0 then 0 else numerator / denominator

def average (total : ℚ) (count : Nat) : ℚ := if count = 0 then 0 else total / count

def compute (trades : List TradeRecord) : PerformanceReport :=
  let wins := trades.filter (fun trade => decide (trade.pnl > 0))
  let losses := trades.filter (fun trade => decide (trade.pnl < 0))
  let averageWin := average (wins.map TradeRecord.pnl).sum wins.length
  let averageLoss := average (-(losses.map TradeRecord.pnl).sum) losses.length
  if trades.isEmpty then ⟨0, 0, 0⟩
  else
    { totalTrades := trades.length
      winRate := Decimal.roundTo 4 ((wins.length : ℚ) / trades.length)
      riskReward := Decimal.roundTo 4 (safeRatio averageWin averageLoss) }

end PerformanceEngine

end QuantEngine
