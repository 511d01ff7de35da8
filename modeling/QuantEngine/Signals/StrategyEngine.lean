import QuantEngine.Core.EventBus
import QuantEngine.Library.Coroutine
import QuantEngine.Signals.Models

set_option autoImplicit false

namespace QuantEngine

open Calendar (Moment)
open QuantEngine.Core (ServiceState)

namespace StrategyEngine

inductive CadenceKind where
  | everyTick
  | everySecond
  | everyCandle
  | interval
deriving DecidableEq

-- The timeframe by its value.
structure Cadence where
  kind : CadenceKind
  timeframe : Option String := none
  seconds : ℚ := 1

structure BaseStrategy where
  name : String
  version : String
  symbols : List String
  cadence : Cadence

structure StrategyStats where
  name : String
  version : String
  enabled : Bool
  symbols : List String
  weight : ℚ
  runs : Nat := 0
  errors : Nat := 0
  skipped : Nat := 0
  signalsProduced : Nat := 0
  lastRunAt : Option Moment := none
  lastDurationMs : Option ℚ := none
  avgDurationMs : Option ℚ := none
  lastSignalAt : Option Moment := none
  lastScore : Option ℚ := none
  lastConfidence : Option ℚ := none

-- `locked` is the state of the lock. `attempts`, `begun` and `lost` are ghosts:
-- the triggers that found the strategy enabled and the engine running, the
-- evaluations among them, and those cancelled before their run was recorded.
structure LoadedStrategy where
  strategy : BaseStrategy
  enabled : Bool
  weight : ℚ
  stats : StrategyStats
  locked : Bool := false
  lastSignal : Option StrategySignal := none
  lastExplanation : String := "Sin evaluaciones todavía."
  attempts : Nat := 0
  begun : Nat := 0
  lost : Nat := 0

def LoadedStrategy.new (strategy : BaseStrategy) (enabled : Bool) (weight : ℚ) : LoadedStrategy where
  strategy := strategy
  enabled := enabled
  weight := weight
  stats := ⟨strategy.name, strategy.version, enabled, strategy.symbols, weight, 0, 0, 0, 0, none, none, none, none, none, none⟩

-- A task that was created and has not begun.
structure Spawned where
  loaded : Nat
  symbol : String
  trigger : String
deriving DecidableEq

-- The wrappers are a heap: one that was unloaded lives on in its tasks. `market`
-- are the symbols of the market service; `perfCounter` counts seconds.
structure Engine where
  state : ServiceState
  heap : List LoadedStrategy := []
  strategies : Dict String Nat := .empty
  tasks : List Spawned := []
  market : List String := []
  now : Moment
  perfCounter : ℚ := 0

namespace Engine

def change (id : Nat) (f : LoadedStrategy → LoadedStrategy) (engine : Engine) : Engine :=
  { engine with heap := engine.heap.modify id f }

def changeStats (id : Nat) (f : StrategyStats → StrategyStats) : Engine → Engine :=
  change id (fun loaded => { loaded with stats := f loaded.stats })

inductive ConfigurationError where
  | loaded (name : String)
  | missing (name : String)
deriving DecidableEq

def ConfigurationError.message : ConfigurationError → String
  | .loaded name => s!"Strategy '{name}' already loaded"
  | .missing name => s!"Strategy '{name}' is not loaded"

def setEnabled (enabled : Bool) (name : String) (engine : Engine) : Except ConfigurationError Engine :=
  match engine.strategies.lookup name with
  | none => .error (.missing name)
  | some id => .ok (engine.change id (fun loaded =>
      { loaded with enabled := enabled, stats := { loaded.stats with enabled := enabled } }))

def enableStrategy : String → Engine → Except ConfigurationError Engine := setEnabled true

def disableStrategy : String → Engine → Except ConfigurationError Engine := setEnabled false

-- `_register` once the strategy is initialized.
def register (strategy : BaseStrategy) (enabled : Bool) (weight : ℚ) (engine : Engine) : Engine :=
  { engine with
    heap := engine.heap ++ [.new strategy enabled weight]
    strategies := engine.strategies.insert strategy.name engine.heap.length }

def unloadStrategy (name : String) (engine : Engine) : Except ConfigurationError Engine :=
  if name ∈ engine.strategies.keys then .ok { engine with strategies := engine.strategies.erase name }
  else .error (.missing name)

def isMatch (strategy : BaseStrategy) (symbol : String) : Bool :=
  strategy.symbols.isEmpty || decide (upper symbol ∈ strategy.symbols.map upper)

def symbolsFor (engine : Engine) (strategy : BaseStrategy) : List String :=
  if strategy.symbols.isEmpty then engine.market else strategy.symbols.map upper

def dispatch (fires : BaseStrategy → Bool) (symbol trigger : String) (engine : Engine) : Engine :=
  { engine with
    tasks := engine.tasks ++ engine.strategies.values.filterMap (fun id =>
      (engine.heap[id]?).bind (fun loaded =>
        if fires loaded.strategy && isMatch loaded.strategy symbol then some ⟨id, symbol, trigger⟩ else none)) }

def onTick (symbol : String) : Engine → Engine :=
  dispatch (fun strategy => decide (strategy.cadence.kind = .everyTick)) symbol "tick"

def onCandle (symbol timeframe : String) : Engine → Engine :=
  dispatch (fun strategy => decide (strategy.cadence.kind = .everyCandle) &&
    decide (timeframe = strategy.cadence.timeframe.getD "1m")) symbol ("candle:" ++ timeframe)

def recordRun (id : Nat) (started : ℚ) (engine : Engine) : Engine :=
  let duration := (engine.perfCounter - started) * 1000
  engine.changeStats id (fun stats =>
    { stats with
      runs := stats.runs + 1
      lastRunAt := some engine.now
      lastDurationMs := some (Decimal.roundTo 3 duration)
      avgDurationMs := some (match stats.avgDurationMs with
        | none => duration
        | some average => Decimal.roundTo 3 (9 / 10 * average + 1 / 10 * duration)) })

-- `record_evaluation` with a signal, and what is noted of it.
def recordSignal (id : Nat) (signal : StrategySignal) (engine : Engine) : Engine :=
  engine.change id (fun loaded =>
    { loaded with
      lastSignal := some signal
      stats := { loaded.stats with
        signalsProduced := loaded.stats.signalsProduced + 1
        lastSignalAt := some engine.now
        lastScore := some signal.score
        lastConfidence := some signal.confidence } })

def recordNothing (id : Nat) (trigger : String) : Engine → Engine :=
  change id (fun loaded =>
    { loaded with
      lastSignal := none
      lastExplanation := "[" ++ loaded.strategy.name ++ "] sin oportunidad (" ++ trigger ++ ")" })

def skip (id : Nat) : Engine → Engine :=
  change id (fun loaded =>
    { loaded with attempts := loaded.attempts + 1, stats := { loaded.stats with skipped := loaded.stats.skipped + 1 } })

def acquire (id : Nat) : Engine → Engine :=
  change id (fun loaded => { loaded with locked := true, attempts := loaded.attempts + 1, begun := loaded.begun + 1 })

def release (id : Nat) : Engine → Engine := change id (fun loaded => { loaded with locked := false })

def recordError (id : Nat) : Engine → Engine := changeStats id (fun stats => { stats with errors := stats.errors + 1 })

-- Cancelled before its run is recorded.
def lose (id : Nat) : Engine → Engine := change id (fun loaded => { loaded with locked := false, lost := loaded.lost + 1 })

end Engine

open Engine

-- Where an evaluation waits, under the lock of its strategy.
inductive Place where
  | build
  | analyze
  | detection
  | score
  | submit
  | decide
  | executed
  | failure
deriving DecidableEq

structure Point where
  loaded : Nat
  place : Place
deriving DecidableEq

-- `busError` is an `EventBusError`, which `_publish` tolerates; `raised` any
-- other exception. A signal comes with the number of detections.
inductive Answer where
  | returned
  | analysis (signal : Option StrategySignal) (detections : Nat)
  | submitted (accepted : Bool)
  | busError
  | raised
  | cancelled

abbrev Evaluation := Task Engine Point Answer Unit

def call (id : Nat) (place : Place) : Task Engine Point Answer Answer := Task.suspend ⟨id, place⟩

def leave (id : Nat) : Evaluation := do
  Task.modify (release id)
  Task.raise

-- The `except` of the evaluation, left by what `_publish` lets through.
def fail (id : Nat) : Evaluation := do
  Task.modify (Engine.recordError id)
  match ← call id .failure with
  | .cancelled => leave id
  | .raised => leave id
  | _ => Task.modify (release id)

def publish (id : Nat) (place : Place) (next : Evaluation) : Evaluation := do
  match ← call id place with
  | .cancelled => leave id
  | .raised => fail id
  | _ => next

def executed (id : Nat) : Evaluation := publish id .executed (Task.modify (release id))

def submit (id : Nat) : Evaluation := do
  match ← call id .submit with
  | .cancelled => leave id
  | .submitted false => executed id
  | .submitted true => do
      match ← call id .decide with
      | .cancelled => leave id
      | .returned => executed id
      | _ => fail id
  | _ => fail id

def conclude (id : Nat) (trigger : String) (signal : Option StrategySignal) : Evaluation :=
  match signal with
  | some signal => do
      Task.modify (recordSignal id signal)
      publish id .score (submit id)
  | none => do
      Task.modify (recordNothing id trigger)
      executed id

def detections (id : Nat) (next : Evaluation) : Nat → Evaluation
  | 0 => next
  | count + 1 => publish id .detection (detections id next count)

def lost (id : Nat) : Evaluation := do
  Task.modify (lose id)
  Task.raise

def evaluate (id : Nat) (trigger : String) : Evaluation := do
  Task.modify (acquire id)
  let engine ← Task.get
  let started := engine.perfCounter
  match ← call id .build with
  | .cancelled => lost id
  | .returned => do
      match ← call id .analyze with
      | .cancelled => lost id
      | .analysis signal found => do
          Task.modify (recordRun id started)
          detections id (conclude id trigger signal) found
      | _ => fail id
  | _ => fail id

-- An unlocked lock is taken at once. The symbol goes to the context and the
-- events only.
def runStrategy (id : Nat) (trigger : String) : Evaluation := do
  let engine ← Task.get
  match engine.heap[id]? with
  | none => pure ()
  | some loaded =>
      if loaded.enabled = false ∨ engine.state ≠ .running then pure ()
      else if loaded.locked then Task.modify (skip id)
      else evaluate id trigger

def timerJob (id : Nat) : Evaluation := do
  let engine ← Task.get
  match engine.heap[id]? with
  | none => pure ()
  | some loaded => Task.each (fun _ => runStrategy id "timer") (engine.symbolsFor loaded.strategy)

-- What the loop may start: a task that was spawned, or a timer.
inductive Job where
  | spawned (index : Nat)
  | timer (id : Nat)

def perform : Job → Evaluation
  | .timer id => timerJob id
  | .spawned index => do
      let engine ← Task.get
      match engine.tasks[index]? with
      | none => pure ()
      | some task => do
          Task.modify (fun engine => { engine with tasks := engine.tasks.eraseIdx index })
          runStrategy task.loaded task.trigger

-- What goes on beside the tasks; a call that raises leaves the engine as it is.
inductive Change where
  | tick (symbol : String)
  | candle (symbol timeframe : String)
  | service (state : ServiceState)
  | register (strategy : BaseStrategy) (enabled : Bool) (weight : ℚ)
  | unload (name : String)
  | enable (name : String)
  | disable (name : String)
  | drop (index : Nat)
  | clock (now : Moment) (perfCounter : ℚ)

def disturb (engine : Engine) : Change → Engine
  | .tick symbol => engine.onTick symbol
  | .candle symbol timeframe => engine.onCandle symbol timeframe
  | .service state => { engine with state := state }
  | .register strategy enabled weight => engine.register strategy enabled weight
  | .unload name => (engine.unloadStrategy name).toOption.getD engine
  | .enable name => (engine.enableStrategy name).toOption.getD engine
  | .disable name => (engine.disableStrategy name).toOption.getD engine
  | .drop index => { engine with tasks := engine.tasks.eraseIdx index }
  | .clock now perfCounter => { engine with now := now, perfCounter := perfCounter }

abbrev Step := Action Job Answer Change

def step : Pool Engine Point Answer → Step → Pool Engine Point Answer :=
  Pool.step perform (fun change engine => disturb engine change)

-- How far an evaluation is: before its run is recorded, before its signal is,
-- after both, or failed.
inductive Stage where
  | early
  | middle
  | late
  | failing

def Place.stage : Place → Stage
  | .build => .early
  | .analyze => .early
  | .detection => .middle
  | .score => .late
  | .submit => .late
  | .decide => .late
  | .executed => .late
  | .failure => .failing

-- `open_` evaluations have not recorded their run, `unmarked` ones may still
-- fail, and `silent` ones may still record a signal.
structure Books (loaded : LoadedStrategy) (open_ unmarked silent : Nat) : Prop where
  triggers : loaded.attempts = loaded.stats.skipped + loaded.begun
  recorded : loaded.stats.runs + loaded.lost + open_ ≤ loaded.begun
  accounted : loaded.begun ≤ loaded.stats.runs + loaded.stats.errors + loaded.lost + open_
  failed : loaded.stats.errors + unmarked ≤ loaded.begun
  produced : loaded.stats.signalsProduced + silent ≤ loaded.stats.runs

def Stage.Books (stage : Stage) (loaded : LoadedStrategy) : Prop :=
  match stage with
  | .early => StrategyEngine.Books loaded 1 1 0
  | .middle => StrategyEngine.Books loaded 0 1 1
  | .late => StrategyEngine.Books loaded 0 1 0
  | .failing => StrategyEngine.Books loaded 0 0 0

def Free (loaded : LoadedStrategy) : Prop := loaded.locked = false ∧ Books loaded 0 0 0

def placeOf (id : Nat) (point : Point) : Option Place := if point.loaded = id then some point.place else none

def places (id : Nat) (waiting : List Point) : List Place := waiting.filterMap (placeOf id)

-- The lock is held by the one evaluation under way.
def SoundAt (loaded : LoadedStrategy) : List Place → Prop
  | [] => Free loaded
  | [place] => loaded.locked = true ∧ place.stage.Books loaded
  | _ => False

def Sound (engine : Engine) (waiting : List Point) : Prop :=
  ∀ id, match engine.heap[id]? with
    | none => places id waiting = []
    | some loaded => SoundAt loaded (places id waiting)

theorem sound_at_cases (loaded : LoadedStrategy) (held : List Place) (sound : SoundAt loaded held) :
    (held = [] ∧ Free loaded) ∨ ∃ place, held = [place] ∧ loaded.locked = true ∧ place.stage.Books loaded := by
  match held, sound with
  | [], free => exact .inl ⟨rfl, free⟩
  | [place], busy => exact .inr ⟨place, rfl, busy⟩

theorem sound_found (engine : Engine) (waiting : List Point) (sound : Sound engine waiting) (id : Nat) (loaded : LoadedStrategy)
    (found : engine.heap[id]? = some loaded) : SoundAt loaded (places id waiting) := by
  have here := sound id
  rw [found] at here
  exact here

theorem sound_perm (engine : Engine) (a b : List Point) (perm : a.Perm b) (sound : Sound engine a) : Sound engine b := by
  intro id
  have here := sound id
  have same : (places id a).Perm (places id b) := perm.filterMap (placeOf id)
  cases found : engine.heap[id]? with
  | none =>
      rw [found] at here
      dsimp only at here ⊢
      rw [here] at same
      exact List.nil_perm.mp same
  | some loaded =>
      dsimp only
      rcases sound_at_cases loaded _ (sound_found engine a sound id loaded found) with ⟨none_, free⟩ | ⟨place, one, busy⟩
      · rw [none_] at same
        rw [List.nil_perm.mp same]
        exact free
      · rw [one] at same
        rw [← List.singleton_perm.mp same]
        exact busy

-- What a stretch of the evaluation of one strategy leaves alone.
def Only (id : Nat) (before after : Engine) : Prop := ∀ other, other ≠ id → after.heap[other]? = before.heap[other]?

theorem only_refl (id : Nat) (engine : Engine) : Only id engine engine := fun _ _ => rfl

theorem only_trans (id : Nat) (a b c : Engine) (first : Only id a b) (second : Only id b c) : Only id a c :=
  fun other apart => (second other apart).trans (first other apart)

theorem change_only (id : Nat) (f : LoadedStrategy → LoadedStrategy) (engine : Engine) : Only id engine (engine.change id f) := by
  intro other apart
  simp [change, Ne.symm apart]

-- All is in order but the strategy at work, which is known by the stage of its
-- evaluation; no other evaluation of it waits.
structure Working (id : Nat) (stage : Stage) (engine : Engine) (others : List Point) : Prop where
  present : ∃ loaded, engine.heap[id]? = some loaded ∧ loaded.locked = true ∧ stage.Books loaded
  alone : places id others = []
  rest : ∀ other, other ≠ id → match engine.heap[other]? with
    | none => places other others = []
    | some loaded => SoundAt loaded (places other others)

theorem places_here (id : Nat) (place : Place) (others : List Point) :
    places id (⟨id, place⟩ :: others) = place :: places id others := by
  simp [places, placeOf]

theorem places_other (id other : Nat) (place : Place) (others : List Point) (apart : other ≠ id) :
    places other (⟨id, place⟩ :: others) = places other others := by
  simp [places, placeOf, Ne.symm apart]

theorem working_sound (id : Nat) (place : Place) (engine : Engine) (others : List Point)
    (working : Working id place.stage engine others) : Sound engine (⟨id, place⟩ :: others) := by
  intro other
  by_cases same : other = id
  · subst same
    obtain ⟨loaded, found, locked, books⟩ := working.present
    rw [places_here, working.alone, found]
    exact ⟨locked, books⟩
  · rw [places_other id other place others same]
    exact working.rest other same

theorem sound_working (id : Nat) (place : Place) (engine : Engine) (others : List Point)
    (sound : Sound engine (⟨id, place⟩ :: others)) : Working id place.stage engine others := by
  have here := sound id
  rw [places_here] at here
  cases found : engine.heap[id]? with
  | none =>
      rw [found] at here
      cases here
  | some loaded =>
      rw [found] at here
      rcases sound_at_cases loaded _ here with ⟨none_, _⟩ | ⟨other, one, busy⟩
      · cases none_
      · obtain ⟨rfl, alone⟩ := List.cons.inj one
        exact ⟨⟨loaded, found, busy⟩, alone, fun other apart => places_other id other place others apart ▸ sound other⟩

theorem working_change (id : Nat) (stage next : Stage) (f : LoadedStrategy → LoadedStrategy) (engine : Engine)
    (others : List Point) (working : Working id stage engine others)
    (step : ∀ loaded, stage.Books loaded → (f loaded).locked = loaded.locked ∧ next.Books (f loaded)) :
    Working id next (engine.change id f) others := by
  obtain ⟨loaded, found, locked, books⟩ := working.present
  obtain ⟨kept, after⟩ := step loaded books
  refine ⟨⟨f loaded, ?_, kept.trans locked, after⟩, working.alone, ?_⟩
  · simp [change, found]
  · intro other apart
    rw [change_only id f engine other apart]
    exact working.rest other apart

theorem working_over (id : Nat) (stage : Stage) (f : LoadedStrategy → LoadedStrategy) (engine : Engine)
    (others : List Point) (working : Working id stage engine others)
    (step : ∀ loaded, stage.Books loaded → Free (f loaded)) : Sound (engine.change id f) others := by
  obtain ⟨loaded, found, locked, books⟩ := working.present
  intro other
  by_cases same : other = id
  · subst same
    have here : (engine.change other f).heap[other]? = some (f loaded) := by simp [change, found]
    rw [here, working.alone]
    exact step loaded books
  · rw [change_only id f engine other same]
    exact working.rest other same

theorem stage_counts (stage : Stage) :
    ∃ open_ unmarked silent, ∀ loaded, stage.Books loaded ↔ Books loaded open_ unmarked silent := by
  cases stage with
  | early => exact ⟨1, 1, 0, fun _ => Iff.rfl⟩
  | middle => exact ⟨0, 1, 1, fun _ => Iff.rfl⟩
  | late => exact ⟨0, 1, 0, fun _ => Iff.rfl⟩
  | failing => exact ⟨0, 0, 0, fun _ => Iff.rfl⟩

theorem change_sound (id : Nat) (f : LoadedStrategy → LoadedStrategy) (engine : Engine) (others : List Point)
    (sound : Sound engine others)
    (step : ∀ loaded open_ unmarked silent, Books loaded open_ unmarked silent →
      (f loaded).locked = loaded.locked ∧ Books (f loaded) open_ unmarked silent) : Sound (engine.change id f) others := by
  intro other
  by_cases same : other = id
  · subst same
    have changed : (engine.change other f).heap[other]? = (engine.heap[other]?).map f := by simp [change]
    rw [changed]
    cases found : engine.heap[other]? with
    | none =>
        have here := sound other
        rw [found] at here
        exact here
    | some loaded =>
        rw [Option.map_some]
        dsimp only
        rcases sound_at_cases loaded _ (sound_found engine others sound other loaded found) with
          ⟨none_, free⟩ | ⟨place, one, locked, books⟩
        · obtain ⟨kept, after⟩ := step loaded _ _ _ free.2
          rw [none_]
          exact ⟨kept.trans free.1, after⟩
        · obtain ⟨open_, unmarked, silent, counts⟩ := stage_counts place.stage
          obtain ⟨kept, after⟩ := step loaded open_ unmarked silent ((counts loaded).mp books)
          rw [one]
          exact ⟨kept.trans locked, (counts (f loaded)).mpr after⟩
  · rw [change_only id f engine other same]
    exact sound other

-- Where the lock is released the evaluation has been recorded, or has failed.
theorem release_free (stage : Stage) (recorded : stage ≠ .early) (loaded : LoadedStrategy) (books : stage.Books loaded) :
    Free { loaded with locked := false } := by
  refine ⟨rfl, ?_⟩
  cases stage with
  | early => exact absurd rfl recorded
  | middle =>
      obtain ⟨triggers, recorded, accounted, failed, produced⟩ := books
      exact ⟨triggers, recorded, accounted, by dsimp only; omega, by dsimp only; omega⟩
  | late =>
      obtain ⟨triggers, recorded, accounted, failed, produced⟩ := books
      exact ⟨triggers, recorded, accounted, by dsimp only; omega, produced⟩
  | failing =>
      obtain ⟨triggers, recorded, accounted, failed, produced⟩ := books
      exact ⟨triggers, recorded, accounted, failed, produced⟩

section

variable (id : Nat) (stage : Stage)

-- What goes on from a stage of the evaluation keeps all in order.
def Going (stage : Stage) (task : Evaluation) : Prop :=
  ∀ engine others, Working id stage engine others → Co.Keeps Sound (Only id) (task engine) engine others

theorem going_call (place : Place) (next : Answer → Evaluation) (resumed : ∀ answer, Going id place.stage (next answer)) :
    Going id place.stage (call id place >>= next) := by
  intro engine others working
  refine ⟨only_refl id engine, working_sound id place engine others working, ?_⟩
  intro later answer rest sound
  exact resumed answer later rest (sound_working id place later rest sound)

theorem going_change (after : Stage) (f : Engine → LoadedStrategy → LoadedStrategy) (task : Evaluation)
    (step : ∀ engine loaded, stage.Books loaded → (f engine loaded).locked = loaded.locked ∧ after.Books (f engine loaded))
    (goes : Going id after task) : Going id stage (do Task.modify (fun engine => engine.change id (f engine)); task) :=
  fun engine others working => Co.keeps_after Sound (Only id) (only_trans id) _ engine (engine.change id (f engine)) others
    (change_only id (f engine) engine) (goes _ others (working_change id stage after (f engine) engine others working (step engine)))

theorem going_release (recorded : stage ≠ .early) : Going id stage (Task.modify (release id)) :=
  fun engine others working => ⟨change_only id _ engine, working_over id stage _ engine others working (release_free stage recorded)⟩

theorem going_leave (recorded : stage ≠ .early) : Going id stage (leave id) :=
  fun engine others working => ⟨change_only id _ engine, working_over id stage _ engine others working (release_free stage recorded)⟩

theorem going_lost : Going id .early (lost id) := by
  intro engine others working
  refine ⟨change_only id _ engine, working_over id .early _ engine others working ?_⟩
  intro loaded books
  obtain ⟨triggers, recorded, accounted, failed, produced⟩ := books
  exact ⟨rfl, triggers, by dsimp only; omega, by dsimp only; omega, by dsimp only; omega, produced⟩

theorem going_fail (unfailed : stage ≠ .failing) : Going id stage (fail id) := by
  apply going_change id stage .failing
  · intro engine loaded books
    refine ⟨rfl, ?_⟩
    cases stage with
    | failing => exact absurd rfl unfailed
    | early =>
        obtain ⟨triggers, recorded, accounted, failed, produced⟩ := books
        exact ⟨triggers, by dsimp only; omega, by dsimp only; omega, by dsimp only; omega, produced⟩
    | middle =>
        obtain ⟨triggers, recorded, accounted, failed, produced⟩ := books
        exact ⟨triggers, recorded, by dsimp only; omega, by dsimp only; omega, by dsimp only; omega⟩
    | late =>
        obtain ⟨triggers, recorded, accounted, failed, produced⟩ := books
        exact ⟨triggers, recorded, by dsimp only; omega, by dsimp only; omega, produced⟩
  · apply going_call id .failure
    intro answer
    have left := going_leave id .failing (by simp)
    have freed := going_release id .failing (by simp)
    cases answer with
    | cancelled => exact left
    | raised => exact left
    | returned => exact freed
    | analysis signal found => exact freed
    | submitted accepted => exact freed
    | busError => exact freed

theorem going_publish (place : Place) (unfailed : place.stage ≠ .failing) (recorded : place.stage ≠ .early) (next : Evaluation)
    (goes : Going id place.stage next) : Going id place.stage (publish id place next) := by
  apply going_call id place
  intro answer
  cases answer with
  | cancelled => exact going_leave id place.stage recorded
  | raised => exact going_fail id place.stage unfailed
  | returned => exact goes
  | analysis signal found => exact goes
  | submitted accepted => exact goes
  | busError => exact goes

theorem going_executed : Going id .late (executed id) :=
  going_publish id .executed (by simp [Place.stage]) (by simp [Place.stage]) _ (going_release id .late (by simp))

theorem going_submit : Going id .late (submit id) := by
  have left := going_leave id .late (by simp)
  have failed := going_fail id .late (by simp)
  apply going_call id .submit
  intro answer
  cases answer with
  | cancelled => exact left
  | returned => exact failed
  | analysis signal found => exact failed
  | busError => exact failed
  | raised => exact failed
  | submitted accepted =>
      cases accepted with
      | false => exact going_executed id
      | true =>
          apply going_call id .decide
          intro answer
          cases answer with
          | cancelled => exact left
          | returned => exact going_executed id
          | analysis signal found => exact failed
          | submitted accepted => exact failed
          | busError => exact failed
          | raised => exact failed

theorem going_conclude (trigger : String) (signal : Option StrategySignal) : Going id .middle (conclude id trigger signal) := by
  cases signal with
  | some signal =>
      refine going_change id .middle .late _ _ ?_
        (going_publish id .score (by simp [Place.stage]) (by simp [Place.stage]) _ (going_submit id))
      intro engine loaded books
      obtain ⟨triggers, recorded, accounted, failed, produced⟩ := books
      exact ⟨rfl, triggers, recorded, accounted, failed, by dsimp only; omega⟩
  | none =>
      refine going_change id .middle .late _ _ ?_ (going_executed id)
      intro engine loaded books
      obtain ⟨triggers, recorded, accounted, failed, produced⟩ := books
      exact ⟨rfl, triggers, recorded, accounted, failed, by dsimp only; omega⟩

theorem going_detections (next : Evaluation) (goes : Going id .middle next) (count : Nat) :
    Going id .middle (detections id next count) := by
  induction count with
  | zero => exact goes
  | succ count ih => exact going_publish id .detection (by simp [Place.stage]) (by simp [Place.stage]) _ ih

theorem going_build (trigger : String) (started : ℚ) (answer : Answer) :
    Going id .early (match answer with
      | .cancelled => lost id
      | .returned => do
          match ← call id .analyze with
          | .cancelled => lost id
          | .analysis signal found => do
              Task.modify (recordRun id started)
              detections id (conclude id trigger signal) found
          | _ => fail id
      | _ => fail id) := by
  have failed := going_fail id .early (by simp)
  cases answer with
  | cancelled => exact going_lost id
  | analysis signal found => exact failed
  | submitted accepted => exact failed
  | busError => exact failed
  | raised => exact failed
  | returned =>
      apply going_call id .analyze
      intro answer
      cases answer with
      | cancelled => exact going_lost id
      | returned => exact failed
      | submitted accepted => exact failed
      | busError => exact failed
      | raised => exact failed
      | analysis signal found =>
          refine going_change id .early .middle _ _ ?_ (going_detections id _ (going_conclude id trigger signal) found)
          intro engine loaded books
          obtain ⟨triggers, recorded, accounted, failed, produced⟩ := books
          exact ⟨rfl, triggers, by dsimp only; omega, by dsimp only; omega, failed, by dsimp only; omega⟩

theorem evaluate_keeps (trigger : String) (engine : Engine) (others : List Point) (loaded : LoadedStrategy)
    (found : engine.heap[id]? = some loaded) (unlocked : loaded.locked = false) (sound : Sound engine others) :
    Co.Keeps Sound (Only id) (evaluate id trigger engine) engine others := by
  have alone : places id others = [] ∧ Free loaded := by
    rcases sound_at_cases loaded _ (sound_found engine others sound id loaded found) with idle | ⟨_, _, locked, _⟩
    · exact idle
    · exact absurd (locked.symm.trans unlocked) (by simp)
  have working : Working id .early (acquire id engine) others := by
    refine ⟨⟨{ loaded with locked := true, attempts := loaded.attempts + 1, begun := loaded.begun + 1 }, ?_, rfl, ?_⟩, alone.1, ?_⟩
    · simp [acquire, change, found]
    · obtain ⟨triggers, recorded, accounted, failed, produced⟩ := alone.2.2
      exact ⟨by dsimp only; omega, by dsimp only; omega, by dsimp only; omega, by dsimp only; omega, produced⟩
    · intro other apart
      rw [acquire, change_only id _ engine other apart]
      exact sound other
  exact Co.keeps_after Sound (Only id) (only_trans id) _ engine (acquire id engine) others (change_only id _ engine)
    (going_call id .build _ (going_build id trigger (acquire id engine).perfCounter) (acquire id engine) others working)

end

theorem run_strategy_keeps (id : Nat) (trigger : String) : (runStrategy id trigger).Keeps Sound (Only id) := by
  intro engine others sound
  change Co.Keeps Sound (Only id) ((match engine.heap[id]? with
    | none => pure ()
    | some loaded => _ : Evaluation) engine) engine others
  cases found : engine.heap[id]? with
  | none => exact ⟨only_refl id engine, sound⟩
  | some loaded =>
      dsimp only
      split
      · exact ⟨only_refl id engine, sound⟩
      · split
        · refine ⟨change_only id _ engine, ?_⟩
          apply change_sound id _ engine others sound
          intro loaded _ _ _ books
          obtain ⟨triggers, recorded, accounted, failed, produced⟩ := books
          exact ⟨rfl, by dsimp only; omega, recorded, accounted, failed, produced⟩
        · rename_i unlocked
          exact evaluate_keeps id trigger engine others loaded found (Bool.eq_false_iff.mpr unlocked) sound

theorem timer_job_keeps (id : Nat) : (timerJob id).Keeps Sound (Only id) := by
  intro engine others sound
  change Co.Keeps Sound (Only id) ((match engine.heap[id]? with
    | none => pure ()
    | some loaded => Task.each (fun _ => runStrategy id "timer") (engine.symbolsFor loaded.strategy) : Evaluation) engine) engine others
  cases engine.heap[id]? with
  | none => exact ⟨only_refl id engine, sound⟩
  | some loaded =>
      exact Task.keeps_each Sound (Only id) (only_refl id) (only_trans id) _ (fun _ => run_strategy_keeps id "timer") _ engine others sound

-- One stretch of one task concerns one strategy.
def Isolated (before after : Engine) : Prop := ∃ id, Only id before after

theorem same_heap (engine after : Engine) (others : List Point) (same : after.heap = engine.heap) (sound : Sound engine others) :
    Isolated engine after ∧ Sound after others := by
  refine ⟨⟨0, fun _ _ => by rw [same]⟩, ?_⟩
  intro id
  rw [same]
  exact sound id

theorem perform_keeps (job : Job) : (perform job).Keeps Sound Isolated := by
  intro engine others sound
  cases job with
  | timer id => exact Co.keeps_mono Sound (Only id) Isolated (fun _ _ only => ⟨id, only⟩) _ engine others (timer_job_keeps id engine others sound)
  | spawned index =>
      change Co.Keeps Sound Isolated ((match engine.tasks[index]? with
        | none => pure ()
        | some task => _ : Evaluation) engine) engine others
      cases engine.tasks[index]? with
      | none => exact ⟨⟨0, only_refl 0 engine⟩, sound⟩
      | some task =>
          have begun := (same_heap engine { engine with tasks := engine.tasks.eraseIdx index } others rfl sound).2
          have kept := run_strategy_keeps task.loaded task.trigger _ others begun
          have moved := Co.keeps_after Sound (Only task.loaded) (only_trans task.loaded) _ engine
            { engine with tasks := engine.tasks.eraseIdx index } others (fun _ _ => rfl) kept
          exact Co.keeps_mono Sound (Only task.loaded) Isolated (fun _ _ only => ⟨task.loaded, only⟩) _ engine others moved

theorem disturb_keeps (change : Change) (engine : Engine) (others : List Point) (sound : Sound engine others) :
    Isolated engine (disturb engine change) ∧ Sound (disturb engine change) others := by
  have toggled (enabled : Bool) (name : String) : Isolated engine ((setEnabled enabled name engine).toOption.getD engine) ∧
      Sound ((setEnabled enabled name engine).toOption.getD engine) others := by
    rw [setEnabled]
    cases engine.strategies.lookup name with
    | none => exact same_heap engine engine others rfl sound
    | some id =>
        refine ⟨⟨id, change_only id _ engine⟩, ?_⟩
        apply change_sound id _ engine others sound
        intro loaded _ _ _ books
        obtain ⟨triggers, recorded, accounted, failed, produced⟩ := books
        exact ⟨rfl, triggers, recorded, accounted, failed, produced⟩
  cases change with
  | tick symbol => exact same_heap engine _ others rfl sound
  | candle symbol timeframe => exact same_heap engine _ others rfl sound
  | service state => exact same_heap engine _ others rfl sound
  | drop index => exact same_heap engine _ others rfl sound
  | clock now perfCounter => exact same_heap engine _ others rfl sound
  | enable name => exact toggled true name
  | disable name => exact toggled false name
  | unload name =>
      rw [disturb, unloadStrategy]
      split
      · exact same_heap engine _ others rfl sound
      · exact same_heap engine _ others rfl sound
  | register strategy enabled weight =>
      constructor
      · refine ⟨engine.heap.length, ?_⟩
        intro other apart
        simp only [disturb, register]
        by_cases old : other < engine.heap.length
        · exact List.getElem?_append_left old
        · rw [List.getElem?_eq_none (by simp; omega), List.getElem?_eq_none (by omega)]
      · intro id
        have here := sound id
        simp only [disturb, register]
        by_cases old : id < engine.heap.length
        · rw [List.getElem?_append_left old]
          exact here
        · rw [List.getElem?_eq_none (by omega)] at here
          by_cases fresh : id = engine.heap.length
          · subst fresh
            rw [List.getElem?_append_right (Nat.le_refl _), Nat.sub_self]
            dsimp only at here
            rw [here]
            exact ⟨rfl, rfl, Nat.le_refl 0, Nat.le_refl 0, Nat.le_refl 0, Nat.le_refl 0⟩
          · rw [List.getElem?_eq_none (by simp; omega)]
            exact here

def idle (state : ServiceState) (market : List String) (now : Moment) : Pool Engine Point Answer :=
  ⟨{ state := state, market := market, now := now }, []⟩

theorem run_sound (state : ServiceState) (market : List String) (now : Moment) (actions : List Step) :
    Run.Always step (fun reached => Sound reached.state reached.points) (idle state market now) actions ∧
      Run.Along step (fun before after => Isolated before.state after.state) (idle state market now) actions :=
  Pool.run_crewed perform _ Sound Isolated sound_perm (fun engine => ⟨0, only_refl 0 engine⟩) perform_keeps disturb_keeps
    (idle state market now) actions rfl (fun _ => rfl)

theorem books_of_sound (engine : Engine) (waiting : List Point) (sound : Sound engine waiting) (id : Nat)
    (loaded : LoadedStrategy) (found : engine.heap[id]? = some loaded) :
    (places id waiting).length = (if loaded.locked then 1 else 0) ∧
      ∃ open_ unmarked silent, open_ ≤ (places id waiting).length ∧ Books loaded open_ unmarked silent := by
  rcases sound_at_cases loaded _ (sound_found engine waiting sound id loaded found) with
    ⟨none_, free⟩ | ⟨place, one, locked, books⟩
  · rw [none_]
    exact ⟨by simp [free.1], 0, 0, 0, Nat.le_refl 0, free.2⟩
  · rw [one]
    refine ⟨by simp [locked], ?_⟩
    cases staged : place.stage with
    | early =>
        rw [staged] at books
        exact ⟨1, 1, 0, Nat.le_refl 1, books⟩
    | middle =>
        rw [staged] at books
        exact ⟨0, 1, 1, Nat.zero_le 1, books⟩
    | late =>
        rw [staged] at books
        exact ⟨0, 1, 0, Nat.zero_le 1, books⟩
    | failing =>
        rw [staged] at books
        exact ⟨0, 0, 0, Nat.zero_le 1, books⟩

-- However triggers, timers, cancellations and reconfigurations interleave, a
-- strategy has one evaluation under way while its lock is held, and else none.
theorem one_evaluation_each (state : ServiceState) (market : List String) (now : Moment) (actions : List Step) :
    Run.Always step (fun reached => ∀ id loaded, reached.state.heap[id]? = some loaded →
      (places id reached.points).length = if loaded.locked then 1 else 0) (idle state market now) actions :=
  Run.always_mono _ _ _ (fun reached sound id loaded found => (books_of_sound reached.state reached.points sound id loaded found).1)
    _ _ (run_sound state market now actions).1

-- Every trigger let in was skipped or begun, and what was begun left a run or an
-- error, was cancelled before either, or is still under way.
theorem triggers_accounted (state : ServiceState) (market : List String) (now : Moment) (actions : List Step) :
    Run.Always step (fun reached => ∀ id loaded, reached.state.heap[id]? = some loaded →
      loaded.attempts = loaded.stats.skipped + loaded.begun ∧
      loaded.stats.runs ≤ loaded.begun ∧ loaded.stats.errors ≤ loaded.begun ∧
      loaded.begun ≤ loaded.stats.runs + loaded.stats.errors + loaded.lost + (places id reached.points).length ∧
      loaded.stats.signalsProduced ≤ loaded.stats.runs) (idle state market now) actions := by
  apply Run.always_mono _ _ _ _ _ _ (run_sound state market now actions).1
  intro reached sound id loaded found
  obtain ⟨_, open_, unmarked, silent, bounded, books⟩ := books_of_sound reached.state reached.points sound id loaded found
  obtain ⟨triggers, recorded, accounted, failed, produced⟩ := books
  omega

-- Whatever a stretch of a task does, an exception or a cancellation too, it
-- changes the record of one strategy at most.
theorem strategies_isolated (state : ServiceState) (market : List String) (now : Moment) (actions : List Step) :
    Run.Along step (fun before after : Pool Engine Point Answer => ∃ id : Nat, ∀ other : Nat, other ≠ id →
        after.state.heap[other]? = before.state.heap[other]?)
      (idle state market now) actions :=
  (run_sound state market now actions).2

end StrategyEngine

end QuantEngine
