import Mathlib.Data.List.Induction
import QuantEngine.Execution.TradeDocuments
import QuantEngine.Library.Deque

set_option autoImplicit false

namespace QuantEngine.TradeFiles

-- One line of the file, as far as it can be read: as text, and as a document.
inductive Line where
  | blank
  | undecodable
  | unparsed (error : PyError)
  | parsed (data : Json ℚ)

section

variable [PyFloat ℚ]

-- A line that is no text raises where the file is read, outside of the loop's
-- own handler, and a `ValueError` is not handled there.
def readLines : List Line → Except PyError (List TradeRecord)
  | [] => .ok []
  | .blank :: rest => readLines rest
  | .undecodable :: _ => .error .value
  | .unparsed error :: rest => if caught error then readLines rest else .error error
  | .parsed data :: rest =>
      match TradeRecord.fromDict data with
      | .ok trade => do .ok (trade :: (← readLines rest))
      | .error error => if caught error then readLines rest else .error error

end

structure TradeJournal where
  memoryLimit : Nat
  trades : List TradeRecord := []
  file : Option (List Line) := none

namespace TradeJournal

def append (journal : TradeJournal) (line : Line) : TradeJournal :=
  { journal with file := some (journal.file.getD [] ++ [line]) }

def record (journal : TradeJournal) (trade : TradeRecord) : TradeJournal :=
  { journal with trades := Deque.push journal.memoryLimit journal.trades trade }.append (.parsed trade.toDict)

def all (journal : TradeJournal) : List TradeRecord := journal.trades

def restore (journal : TradeJournal) (trades : List TradeRecord) : TradeJournal :=
  { journal with trades := Deque.extend journal.memoryLimit journal.trades trades }

def loadFromDisk [PyFloat ℚ] (journal : TradeJournal) : Except PyError TradeJournal :=
  if !journal.trades.isEmpty then .ok journal
  else match journal.file with
    | none => .ok journal
    | some lines => do .ok (journal.restore (← readLines lines))

end TradeJournal

section

variable [PyFloat ℚ]

def Corrupt : Line → Prop
  | .parsed data => ∀ trade, TradeRecord.fromDict data ≠ .ok trade
  | _ => True

inductive Event where
  | record (trade : TradeRecord) (safe : JsonSafe trade)
  | corrupt (line : Line) (bad : Corrupt line)

def step (journal : TradeJournal) : Event → TradeJournal
  | .record trade _ => journal.record trade
  | .corrupt line _ => journal.append line

def run (memoryLimit : Nat) (events : List Event) : TradeJournal := events.foldl step { memoryLimit }

def Reloads (journal : TradeJournal) : Prop :=
  ∃ reloaded, TradeJournal.loadFromDisk { memoryLimit := journal.memoryLimit, file := journal.file } = .ok reloaded ∧
    reloaded.all = journal.all

def Skipped : Line → Prop
  | .blank => True
  | .undecodable => False
  | .unparsed error => caught error = true
  | .parsed data => ¬ TooLarge data

def Event.line : Event → Line
  | .record trade _ => .parsed trade.toDict
  | .corrupt line _ => line

def Event.trade : Event → Option TradeRecord
  | .record trade _ => some trade
  | .corrupt _ _ => none

-- A corrupt line that stops the loading.
def Event.skipped : Event → Prop
  | .record _ _ => True
  | .corrupt line _ => Skipped line

theorem corrupt_read (line : Line) (bad : Corrupt line) (rest : List Line) :
    (Skipped line → readLines (line :: rest) = readLines rest) ∧
      (¬ Skipped line → ∃ error, readLines (line :: rest) = .error error) := by
  cases line with
  | blank => exact ⟨fun _ => rfl, fun stops => absurd trivial stops⟩
  | undecodable => exact ⟨fun skipped => absurd skipped id, fun _ => ⟨.value, rfl⟩⟩
  | unparsed error =>
      refine ⟨fun skipped => ?_, fun stops => ⟨error, ?_⟩⟩
      · rw [readLines, if_pos (show caught error = true from skipped)]
      · rw [readLines, if_neg (show ¬ caught error = true from stops)]
  | parsed data =>
      cases decoded : TradeRecord.fromDict data with
      | ok trade => exact absurd decoded (bad trade)
      | error error =>
          simp only [readLines, decoded]
          cases known : caught error with
          | true =>
              refine ⟨fun _ => if_pos rfl, fun stops => ?_⟩
              obtain ⟨other, failed, uncaught⟩ := (uncaught_iff data).mpr (not_not.mp stops)
              rw [decoded] at failed
              cases failed
              rw [known] at uncaught
              cases uncaught
          | false =>
              refine ⟨fun skipped => absurd ((uncaught_iff data).mp ⟨error, decoded, known⟩) skipped, fun _ => ?_⟩
              exact ⟨error, if_neg Bool.false_ne_true⟩

theorem record_read (trade : TradeRecord) (safe : JsonSafe trade) (rest : List Line) :
    readLines (.parsed trade.toDict :: rest) = readLines rest >>= fun trades => .ok (trade :: trades) := by
  simp only [readLines, from_to_dict trade safe]

theorem lines_read (events : List Event) :
    ((∀ event ∈ events, event.skipped) → readLines (events.map Event.line) = .ok (events.filterMap Event.trade)) ∧
      ((∃ event ∈ events, ¬ event.skipped) → ∃ error, readLines (events.map Event.line) = .error error) := by
  induction events with
  | nil => exact ⟨fun _ => rfl, by rintro ⟨event, none, -⟩; cases none⟩
  | cons event rest ih =>
      obtain ⟨reads, stops⟩ := ih
      cases event with
      | record trade safe =>
          rw [List.map_cons, Event.line, record_read trade safe]
          constructor
          · intro skipped
            rw [reads fun event member => skipped event (List.mem_cons_of_mem _ member)]
            rfl
          · rintro ⟨event, member, bad⟩
            rcases List.mem_cons.mp member with rfl | later
            · exact absurd trivial bad
            · obtain ⟨error, failed⟩ := stops ⟨event, later, bad⟩
              rw [failed]
              exact ⟨error, rfl⟩
      | corrupt line bad =>
          have here := corrupt_read line bad (rest.map Event.line)
          rw [List.map_cons, Event.line]
          constructor
          · intro skipped
            rw [here.1 (skipped _ List.mem_cons_self)]
            exact reads fun event member => skipped event (List.mem_cons_of_mem _ member)
          · rintro ⟨event, member, unskipped⟩
            by_cases first : Skipped line
            · rw [here.1 first]
              rcases List.mem_cons.mp member with rfl | later
              · exact absurd first unskipped
              · exact stops ⟨event, later, unskipped⟩
            · exact here.2 first

-- What a run has written and what it holds.
structure Holds (limit : Nat) (events : List Event) (journal : TradeJournal) : Prop where
  memoryLimit : journal.memoryLimit = limit
  trades : journal.trades = Deque.extend limit [] (events.filterMap Event.trade)
  file : journal.file.getD [] = events.map Event.line

theorem run_holds (memoryLimit : Nat) (events : List Event) : Holds memoryLimit events (run memoryLimit events) := by
  induction events using List.reverseRecOn with
  | nil => exact ⟨rfl, rfl, rfl⟩
  | append_singleton events event ih =>
      obtain ⟨limit, trades, file⟩ := ih
      rw [run, List.foldl_append, ← run]
      cases event with
      | record trade safe =>
          refine ⟨limit, ?_, ?_⟩
          · simp only [step, TradeJournal.record, TradeJournal.append, limit, trades, List.filterMap_append, Deque.extend,
              List.foldl_append, List.foldl_cons, List.foldl_nil, List.filterMap_cons, List.filterMap_nil, Event.trade]
          · simp only [step, TradeJournal.record, TradeJournal.append, file, List.map_append, List.map_cons, List.map_nil,
              Event.line, List.foldl_cons, List.foldl_nil, Option.getD_some]
      | corrupt line bad =>
          refine ⟨limit, ?_, ?_⟩
          · simp [step, TradeJournal.append, trades, Event.trade, List.filterMap_cons]
          · simp [step, TradeJournal.append, file, Event.line]

theorem load_fresh (journal : TradeJournal) (empty : journal.trades = []) :
    journal.loadFromDisk = readLines (journal.file.getD []) >>= fun trades => .ok (journal.restore trades) := by
  rw [TradeJournal.loadFromDisk, empty]
  cases stored : journal.file with
  | none =>
      change Except.ok journal = Except.ok { journal with trades := journal.trades }
      rfl
  | some lines => rfl

-- The journal's own file gives back what is in memory exactly where every
-- corrupt line is one that the loader skips, and both decoders are one.
theorem journal_reloads_iff (memoryLimit : Nat) (events : List Event) :
    (Reloads (run memoryLimit events) ↔ ∀ event ∈ events, event.skipped) ∧
      ∀ data, tradeFromDict data = TradeRecord.fromDict data := by
  refine ⟨?_, decoders_agree⟩
  obtain ⟨limit, trades, file⟩ := run_holds memoryLimit events
  obtain ⟨reads, stops⟩ := lines_read events
  rw [Reloads, load_fresh _ rfl, file]
  constructor
  · rintro ⟨reloaded, loaded, -⟩
    by_contra unskipped
    push Not at unskipped
    obtain ⟨error, failed⟩ := stops unskipped
    rw [failed] at loaded
    cases loaded
  · intro skipped
    rw [reads skipped]
    refine ⟨_, rfl, ?_⟩
    rw [TradeJournal.all, TradeJournal.all, trades, TradeJournal.restore, limit]

end

-- A record with an integer for its quantity.
def counted (quantity : Int) : Json ℚ := .obj [("trade_id", .str "t"), ("position_id", .str "p"), ("symbol", .str "XAUUSD"),
  ("side", .str "long"), ("quantity", .int quantity)]

def huge : Json ℚ := counted (1000 ^ 103)

theorem counted_fails (quantity : Int) (error : PyError) (raised : PyFloat.ofInt (F := ℚ) quantity = .error error) :
    TradeRecord.fromDict (counted quantity) = .error error := by
  have tradeId : text (counted quantity) "trade_id" = .ok "t" := rfl
  have positionId : text (counted quantity) "position_id" = .ok "p" := rfl
  have symbol : text (counted quantity) "symbol" = .ok "XAUUSD" := rfl
  have side : (counted quantity).item "side" = .ok (.str PositionSide.long.value) := rfl
  have number : number (counted quantity) "quantity" = PyFloat.ofInt quantity := rfl
  simp only [TradeRecord.fromDict, tradeId, positionId, symbol, side, side_read, number, raised, Json.ok_bind]
  rfl

theorem huge_fails : TradeRecord.fromDict huge = .error .overflow := by
  have large : ¬ (1000 ^ 103 : Int).natAbs < 16 ^ 256 - 1024 ^ 97 := by decide +kernel
  exact counted_fails (1000 ^ 103) .overflow (if_neg large)

def sample : TradeRecord where
  tradeId := "a"
  positionId := "b"
  symbol := "XAUUSD"
  side := .long
  quantity := 1
  entryTime := IsoTime.leapDay
  exitTime := IsoTime.leapDay
  entryPrice := 2000
  exitPrice := 2001
  stopLoss := none
  takeProfit := none
  commission := 0
  slippageBps := 0
  spreadBps := 0
  pnl := 1
  pnlGross := 1
  rMultiple := 0
  returnPct := 0
  atr := none
  volatility := "normal"
  regime := "unknown"
  score := 0
  confidence := 0
  exitReason := .manual
  entryReasons := []
  exitReasons := []
  decisionId := .null
  contextSnapshot := []
  recordedAt := IsoTime.leapDay

def recordThenHuge : List Event :=
  [.record sample ⟨⟨.empty, rfl⟩⟩, .corrupt (.parsed huge) (fun trade read => by rw [huge_fails] at read; cases read)]

-- `OverflowError` is none of the errors that the loader skips a line for.
theorem overflow_stops_loading : ¬ Reloads (run 10 recordThenHuge) := by
  rintro ⟨reloaded, loaded, -⟩
  obtain ⟨error, failed⟩ := (lines_read recordThenHuge).2
    ⟨_, List.mem_cons_of_mem _ List.mem_cons_self, fun skipped => skipped ((uncaught_iff huge).mp ⟨_, huge_fails, rfl⟩)⟩
  rw [load_fresh _ rfl, (run_holds 10 recordThenHuge).file, failed] at loaded
  cases loaded

end QuantEngine.TradeFiles
