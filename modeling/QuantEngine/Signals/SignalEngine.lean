import Mathlib.Data.List.Sort
import QuantEngine.Library.Deque
import QuantEngine.Library.Shelves
import QuantEngine.Signals.Models

set_option autoImplicit false

namespace QuantEngine

open Calendar (Moment)
open Decimal (plain)

namespace SignalValidator

def problem (holds : Bool) (text : String) : List String := if holds then [text] else []

def zoneReference (signal : StrategySignal) : Option ℚ := signal.entryZone.map (fun zone => (zone.low + zone.high) / 2)

-- The stop and the target against the middle of the entry zone, where both are
-- given.
def sideChecks (signal : StrategySignal) (wrongStop wrongTarget : ℚ → ℚ → Bool) (stopText targetText : String) :
    List String :=
  match zoneReference signal with
  | none => []
  | some reference =>
      problem (signal.stopLoss.any (fun stop => wrongStop stop reference)) stopText ++
        problem (signal.takeProfit.any (fun target => wrongTarget target reference)) targetText

def levelChecks (signal : StrategySignal) : List String :=
  let zone := match signal.entryZone with
    | none => []
    | some zone => problem (decide (zone.low > zone.high))
        ("entry_zone invertida: [" ++ plain zone.low ++ ", " ++ plain zone.high ++ "]")
  let ratio := match signal.riskReward with
    | none => []
    | some ratio => problem (decide (ratio ≤ 0)) ("risk_reward no positivo: " ++ plain ratio)
  match signal.direction with
  | .neutral => zone
  | .long => zone ++ sideChecks signal (fun stop reference => decide (stop ≥ reference))
      (fun target reference => decide (target ≤ reference)) "stop_loss por encima de la entrada en un long"
      "take_profit por debajo de la entrada en un long" ++ ratio
  | .short => zone ++ sideChecks signal (fun stop reference => decide (stop ≤ reference))
      (fun target reference => decide (target ≥ reference)) "stop_loss por debajo de la entrada en un short"
      "take_profit por encima de la entrada en un short" ++ ratio

def validate (signal : StrategySignal) (now : Moment) : List String :=
  problem (decide (signal.symbol = "")) "símbolo vacío" ++
    problem (decide (signal.strategyName = "" ∨ signal.strategyName = "unnamed")) "estrategia sin nombre" ++
    problem (!decide (0 ≤ signal.confidence ∧ signal.confidence ≤ 1))
      ("confidence fuera de [0,1]: " ++ plain signal.confidence) ++
    problem (!decide (0 ≤ signal.score ∧ signal.score ≤ 100)) ("score fuera de [0,100]: " ++ plain signal.score) ++
    problem signal.reasons.isEmpty "sin razones (explicabilidad obligatoria)" ++
    problem (signal.expiration.any (fun deadline => decide (deadline ≤ now))) "expiración en el pasado" ++
    levelChecks signal

end SignalValidator

-- The deques of the history are bounded by the memory limit; `none` stands for
-- an unbounded one.
structure SignalHistoryStore where
  memoryLimit : Option Nat := some 10000
  signals : List SignalRecord := []
  decisions : List Decision := []
  dailyDrawdownPct : ℚ := 0
  deriving DecidableEq

namespace SignalHistoryStore

def remember {α : Type} (limit : Option Nat) (items : List α) (item : α) : List α :=
  match limit with
  | none => items ++ [item]
  | some limit => Deque.push limit items item

def recordSignal (store : SignalHistoryStore) (signal : StrategySignal) (status : SignalStatus) (reasons : List String)
    (resolvedAt : Moment) : SignalHistoryStore :=
  { store with
    signals := remember store.memoryLimit store.signals ⟨signal, status, reasons, signal.timestamp, some resolvedAt⟩ }

def recordDecision (store : SignalHistoryStore) (decision : Decision) : SignalHistoryStore :=
  { store with decisions := remember store.memoryLimit store.decisions decision }

-- The slice `items[-limit:]` is the whole list for a limit of zero.
def recentDecisions (store : SignalHistoryStore) (limit : Nat) : List Decision :=
  if limit = 0 then store.decisions else Deque.newest limit store.decisions

end SignalHistoryStore

-- The active signals are kept by symbol, as written by who reads or writes.
structure SignalEngine where
  signalTtlSeconds : ℚ := 300
  dedupeWindowSeconds : ℚ := 60
  active : Shelves String StrategySignal := .empty
  history : SignalHistoryStore := {}

namespace SignalEngine

open Shelves (shelf)

def secondsBetween (earlier later : Moment) : ℚ := ((later - earlier : Int) : ℚ) / 1000000

def isExpired (ttl : ℚ) (moment : Moment) (signal : StrategySignal) : Bool :=
  match signal.expiration with
  | none => decide (secondsBetween signal.timestamp moment > ttl)
  | some deadline => decide (moment ≥ deadline)

def expiring (engine : SignalEngine) (moment : Moment) : List StrategySignal :=
  engine.active.values.flatten.filter (isExpired engine.signalTtlSeconds moment)

def recordAll (status : SignalStatus) (reasons : List String) (now : Moment) (store : SignalHistoryStore)
    (signals : List StrategySignal) : SignalHistoryStore :=
  signals.foldl (fun store signal => store.recordSignal signal status reasons now) store

def expireStale (engine : SignalEngine) (moment : Moment) : Nat × SignalEngine :=
  ((engine.expiring moment).length,
    { engine with
      active := Shelves.sift (fun signal => !isExpired engine.signalTtlSeconds moment signal) engine.active
      history := recordAll .expired ["TTL alcanzado"] moment engine.history (engine.expiring moment) })

def sameVote (signal existing : StrategySignal) : Bool :=
  decide (existing.strategyName = signal.strategyName) && decide (existing.direction = signal.direction)

-- One within the window comes first, then any that has not expired.
def findDuplicate (engine : SignalEngine) (active : List StrategySignal) (signal : StrategySignal) :
    Option StrategySignal :=
  (active.find? (fun existing => sameVote signal existing &&
      decide (secondsBetween existing.timestamp signal.timestamp ≤ engine.dedupeWindowSeconds))).or
    (active.find? (sameVote signal))

-- Stable, the highest priority first.
def byPriority (signals : List StrategySignal) : List StrategySignal :=
  signals.insertionSort (fun a b => a.priority ≥ b.priority)

def enlist (engine : SignalEngine) (signal : StrategySignal) (now : Moment) : SignalEngine :=
  let active := shelf engine.active signal.symbol
  match engine.findDuplicate active signal with
  | none => { engine with active := engine.active.insert signal.symbol (byPriority (active ++ [signal])) }
  | some duplicate =>
      { engine with
        active := engine.active.insert signal.symbol (byPriority (active.erase duplicate ++ [signal]))
        history := engine.history.recordSignal duplicate .superseded ["reemplazada por " ++ signal.signalId] now }

def submit (engine : SignalEngine) (signal : StrategySignal) (now : Moment) : Bool × SignalEngine :=
  let problems := SignalValidator.validate signal now
  if problems.isEmpty then (true, enlist (engine.expireStale now).2 signal now)
  else (false, { engine with history := engine.history.recordSignal signal .rejected problems now })

def activeSignals (engine : SignalEngine) (symbol : String) (now : Moment) : List StrategySignal × SignalEngine :=
  let fresh := (engine.expireStale now).2
  (shelf fresh.active (upper symbol), fresh)

def detectConflict (engine : SignalEngine) (symbol : String) : Bool :=
  let directions := (shelf engine.active (upper symbol)).map StrategySignal.direction
  decide (.long ∈ directions) && decide (.short ∈ directions)

def consume (engine : SignalEngine) (symbol : String) (status : SignalStatus) (reasons : List String) (now : Moment) :
    SignalEngine :=
  { engine with
    active := engine.active.erase (upper symbol)
    history := recordAll status reasons now engine.history (shelf engine.active (upper symbol)) }

end SignalEngine

end QuantEngine
