import QuantEngine.Execution.Effects
import QuantEngine.Execution.Models
import QuantEngine.Library.Latch

set_option autoImplicit false

namespace QuantEngine

open Calendar (Moment)
open Decimal (fixed)

inductive SafeModeTrigger where
  | apiDown
  | brokerUnstable
  | latency
  | drawdown
  | memory
  | cpu
  | repeatedErrors
  | drift
  | risk
  deriving DecidableEq

def SafeModeTrigger.value : SafeModeTrigger → String
  | .apiDown => "api_down"
  | .brokerUnstable => "broker_unstable"
  | .latency => "latency"
  | .drawdown => "drawdown"
  | .memory => "memory"
  | .cpu => "cpu"
  | .repeatedErrors => "repeated_errors"
  | .drift => "drift"
  | .risk => "risk"

structure SafeModeObservation where
  apiOk : Option Bool := none
  brokerFailures : Int := 0
  latencyMs : Option ℚ := none
  drawdownPct : Option ℚ := none
  memoryPct : Option ℚ := none
  cpuPct : Option ℚ := none
  recentErrors : Int := 0
  criticalDrift : Bool := false
  riskBreach : Bool := false
  deriving DecidableEq

structure SafeModeSettings where
  enabled : Bool := true
  recoveryCycles : Int := 3
  maxLatencyMs : ℚ := 2000
  maxCpuPct : ℚ := 95
  maxMemoryPct : ℚ := 95
  maxDrawdownPct : ℚ := 15
  errorThreshold : Int := 10
  errorWindowSeconds : ℚ := 300
  brokerFailureThreshold : Int := 3
  deriving DecidableEq

inductive SafeModeAudit where
  | entered (trigger detail : String)
  | exited (healthyCycles : Int)
  deriving DecidableEq

structure SafeModeController where
  settings : SafeModeSettings
  active : Bool := false
  trigger : Option SafeModeTrigger := none
  detail : String := ""
  healthyStreak : Int := 0
  enteredAt : Option Moment := none
  audit : List SafeModeAudit := []
  deriving DecidableEq

namespace SafeModeController

def entryVeto (controller : SafeModeController) : Option String :=
  if !controller.active then none
  else
    let trigger := match controller.trigger with
      | none => "None"
      | some trigger => trigger.value
    some ("Safe Mode activo (" ++ trigger ++ "): " ++ controller.detail)

def above (value : Option ℚ) (strict : Bool) (limit : ℚ) : Option ℚ :=
  value.filter (fun value => if strict then decide (value > limit) else decide (value ≥ limit))

def firstBreach (s : SafeModeSettings) (o : SafeModeObservation) : Option (SafeModeTrigger × String) :=
  if o.apiOk = some false then some (.apiDown, "la API no responde")
  else if o.brokerFailures ≥ s.brokerFailureThreshold ∧ s.brokerFailureThreshold > 0 then
    some (.brokerUnstable,
      toString o.brokerFailures ++ " fallos de broker ≥ " ++ toString s.brokerFailureThreshold)
  else match above o.latencyMs true s.maxLatencyMs with
  | some value =>
      some (.latency, "latencia " ++ fixed 0 value ++ " ms > " ++ fixed 0 s.maxLatencyMs ++ " ms")
  | none => match above o.drawdownPct false s.maxDrawdownPct with
  | some value => some (.drawdown, "drawdown " ++ fixed 1 value ++ "% ≥ " ++ fixed 1 s.maxDrawdownPct ++ "%")
  | none => match above o.memoryPct false s.maxMemoryPct with
  | some value => some (.memory, "memoria " ++ fixed 0 value ++ "% ≥ " ++ fixed 0 s.maxMemoryPct ++ "%")
  | none => match above o.cpuPct false s.maxCpuPct with
  | some value => some (.cpu, "CPU " ++ fixed 0 value ++ "% ≥ " ++ fixed 0 s.maxCpuPct ++ "%")
  | none =>
      if o.recentErrors ≥ s.errorThreshold ∧ s.errorThreshold > 0 then
        some (.repeatedErrors,
          toString o.recentErrors ++ " errores en " ++ fixed 0 s.errorWindowSeconds ++ "s ≥ " ++
            toString s.errorThreshold)
      else if o.criticalDrift then some (.drift, "drift severo detectado por el ML")
      else if o.riskBreach then some (.risk, "el Risk Manager reporta riesgo excesivo")
      else none

def enter (controller : SafeModeController) (trigger : SafeModeTrigger) (detail : String) (now : Moment) :
    SafeModeController :=
  { controller with
    active := true
    trigger := some trigger
    detail := detail
    enteredAt := some now
    healthyStreak := 0
    audit := controller.audit ++ [.entered trigger.value detail] }

def exit (controller : SafeModeController) : SafeModeController :=
  { controller with
    active := false
    trigger := none
    detail := ""
    enteredAt := none
    audit := controller.audit ++ [.exited controller.healthyStreak] }

def evaluate (controller : SafeModeController) (observation : SafeModeObservation) (now : Moment) :
    Bool × SafeModeController :=
  if !controller.settings.enabled then (false, controller)
  else match firstBreach controller.settings observation with
    | some breach =>
        let reset := { controller with healthyStreak := 0 }
        (true, if controller.active then reset else reset.enter breach.1 breach.2 now)
    | none =>
        if controller.active then
          let counted := { controller with healthyStreak := controller.healthyStreak + 1 }
          if counted.healthyStreak ≥ max 1 controller.settings.recoveryCycles then (false, counted.exit)
          else (true, counted)
        else (false, controller)

theorem evaluate_inactive (controller : SafeModeController) (observation : SafeModeObservation) (now : Moment)
    (outside : controller.active = false) :
    (controller.evaluate observation now).2.active =
      (controller.settings.enabled && (firstBreach controller.settings observation).isSome) := by
  rw [evaluate]
  by_cases enabled : controller.settings.enabled = true
  · cases firstBreach controller.settings observation with
    | none => simp [enabled, outside]
    | some breach => simp [enabled, outside, enter]
  · simp [enabled, outside]

end SafeModeController

end QuantEngine

namespace QuantEngine.SafeModeHysteresis

open Calendar (Moment)
open ExecutionEngine
open SafeModeController (firstBreach)

variable {β : Type}

abbrev Reading := SafeModeObservation × Moment

def observe (controller : SafeModeController) (reading : Reading) : SafeModeController :=
  (controller.evaluate reading.1 reading.2).2

def breaching (s : SafeModeSettings) (reading : Reading) : Bool := (firstBreach s reading.1).isSome

def cycles (s : SafeModeSettings) : Int := max 1 s.recoveryCycles

def observed (settings : SafeModeSettings) (readings : List Reading) : SafeModeController :=
  Run.final observe { settings := settings } readings

-- What the engine gets when it asks the registered veto.
def answer (controller : SafeModeController) : EntryVeto :=
  match controller.entryVeto with
  | none => .allows
  | some reason => .blocks reason

-- The whole call runs without a suspension and leaves the book as it was.
def LeavesBook (engine : ExecutionEngine β) (decision : DecisionGenerated) (world : World β) : Prop :=
  ∃ later, engine.processDecision decision world = .done later () ∧
    later.positions = world.positions ∧ later.portfolio = world.portfolio

theorem observe_settings (controller : SafeModeController) (reading : Reading) :
    (observe controller reading).settings = controller.settings := by
  rw [observe, SafeModeController.evaluate]
  split
  · rfl
  · split
    · dsimp only
      split <;> rfl
    · split
      · dsimp only
        split <;> rfl
      · rfl

def Tuned (settings : SafeModeSettings) := { controller : SafeModeController // controller.settings = settings }

def Tuned.observe {settings : SafeModeSettings} (tuned : Tuned settings) (reading : Reading) : Tuned settings :=
  ⟨SafeModeHysteresis.observe tuned.1 reading, (observe_settings tuned.1 reading).trans tuned.2⟩

theorem tuned_final (settings : SafeModeSettings) (tuned : Tuned settings) (readings : List Reading) :
    (Run.final Tuned.observe tuned readings).1 = Run.final observe tuned.1 readings := by
  induction readings generalizing tuned with
  | nil => rfl
  | cons reading rest ih => exact ih (tuned.observe reading)

theorem safe_mode_latch (settings : SafeModeSettings) (enabled : settings.enabled = true) :
    Latch.Law (Tuned.observe : Tuned settings → Reading → Tuned settings) (breaching settings) (cycles settings)
      (fun tuned => tuned.1.active) (fun tuned => tuned.1.healthyStreak) where
  breached := by
    rintro ⟨controller, rfl⟩ reading breach
    obtain ⟨cause, found⟩ := Option.isSome_iff_exists.mp breach
    simp only [Tuned.observe, observe, SafeModeController.evaluate, enabled, found, Bool.not_true, Bool.false_eq_true,
      if_false]
    by_cases active : controller.active = true
    · rw [if_pos active]
      exact ⟨active, rfl⟩
    · rw [if_neg active]
      exact ⟨rfl, rfl⟩
  counted := by
    rintro ⟨controller, rfl⟩ reading healthy active
    have found : firstBreach controller.settings reading.1 = none := by
      rwa [breaching, Option.isSome_eq_false_iff, Option.isNone_iff_eq_none] at healthy
    dsimp only at active
    simp only [Tuned.observe, observe, SafeModeController.evaluate, enabled, found, active, Bool.not_true,
      Bool.false_eq_true, if_false, if_true, cycles]
    by_cases recovered : controller.healthyStreak + 1 ≥ max 1 controller.settings.recoveryCycles
    · rw [if_pos recovered]
      exact ⟨(decide_eq_false (not_lt.mpr recovered)).symm, rfl⟩
    · rw [if_neg recovered]
      exact ⟨(decide_eq_true (not_le.mp recovered)).symm, rfl⟩
  idle := by
    rintro ⟨controller, rfl⟩ reading healthy inactive
    have entered := controller.evaluate_inactive reading.1 reading.2 inactive
    rw [show (firstBreach controller.settings reading.1).isSome = false from healthy, Bool.and_false] at entered
    exact entered

theorem active_iff (settings : SafeModeSettings) (enabled : settings.enabled = true) (readings : List Reading) :
    (observed settings readings).active = true ↔ Latch.Recent (breaching settings) (cycles settings) readings := by
  let start : Tuned settings := ⟨{ settings := settings }, rfl⟩
  have positive : 0 < cycles settings := lt_of_lt_of_le Int.one_pos (le_max_left _ _)
  have closed := Latch.closed_iff _ _ _ _ _ (safe_mode_latch settings enabled) positive start rfl readings
  rwa [tuned_final settings start readings] at closed

theorem active_blocks (controller : SafeModeController) (active : controller.active = true) :
    ∃ reason, controller.entryVeto = some reason ∧ answer controller = .blocks reason := by
  simp only [answer, SafeModeController.entryVeto, active, Bool.not_true, Bool.false_eq_true, if_false]
  exact ⟨_, rfl, rfl⟩

theorem blocks_vetoes (world : World β) (reason : String) (registered : .blocks reason ∈ world.vetoes) :
    ∃ veto, entryVeto world = some veto := by
  cases found : entryVeto world with
  | some veto => exact ⟨veto, rfl⟩
  | none =>
      rw [entryVeto, List.findSome?_eq_none_iff] at found
      cases found _ registered

-- An entry that reaches the vetoes is rejected there, and one that does not
-- has gone nowhere yet.
theorem vetoed_leaves_book (engine : ExecutionEngine β) (decision : DecisionGenerated) (world : World β)
    (veto : String) (vetoed : entryVeto world = some veto) : LeavesBook engine decision world := by
  have screened : (engine.screen decision world).1 = none := by
    rw [screen]
    cases entrySide decision with
    | none => rfl
    | some side =>
        dsimp only
        rw [vetoed]
        split <;> rfl
  have quiet := engine.screen_quiet decision world
  refine ⟨(engine.screen decision world).2, ?_, quiet.positions, quiet.portfolio⟩
  rw [processDecision, Task.sync_bind, screened]
  rfl

-- After any observations a fresh controller is active exactly where fewer than
-- `cycles` of them follow the last breach, and while it is, its veto keeps
-- every decision out of the book.
theorem safe_mode_hysteresis (engine : ExecutionEngine β) (settings : SafeModeSettings)
    (enabled : settings.enabled = true) (readings : List Reading) :
    ((observed settings readings).active = true ↔
        Latch.Recent (breaching settings) (max 1 settings.recoveryCycles) readings) ∧
      ((observed settings readings).active = true →
        (∃ reason, (observed settings readings).entryVeto = some reason) ∧
        ∀ (decision : DecisionGenerated) (world : World β), answer (observed settings readings) ∈ world.vetoes →
          LeavesBook engine decision world) := by
  refine ⟨active_iff settings enabled readings, ?_⟩
  intro active
  obtain ⟨reason, vetoes, answered⟩ := active_blocks _ active
  refine ⟨⟨reason, vetoes⟩, ?_⟩
  intro decision world registered
  rw [answered] at registered
  obtain ⟨veto, vetoed⟩ := blocks_vetoes world reason registered
  exact vetoed_leaves_book engine decision world veto vetoed

def apiDown : Reading := ({ apiOk := some false }, 0)

def healthy : Reading := ({}, 0)

theorem safe_mode_hysteresis_api_down :
    ((observed {} [apiDown, healthy, healthy]).active = true ↔
        Latch.Recent (breaching {}) 3 [apiDown, healthy, healthy]) ∧
      ((observed {} [apiDown, healthy, healthy]).active = true →
        (∃ reason, (observed {} [apiDown, healthy, healthy]).entryVeto = some reason) ∧
        ∀ (decision : DecisionGenerated) (world : World PaperState),
          answer (observed {} [apiDown, healthy, healthy]) ∈ world.vetoes →
            LeavesBook ⟨{}, PaperBroker.midway.broker, false⟩ decision world) :=
  safe_mode_hysteresis ⟨{}, PaperBroker.midway.broker, false⟩ {} rfl _

example : (observed {} [apiDown, healthy, healthy]).active = true ∧
    (observed {} [apiDown, healthy, healthy, healthy]).active = false := by decide

end QuantEngine.SafeModeHysteresis
