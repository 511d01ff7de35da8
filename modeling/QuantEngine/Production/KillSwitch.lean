import QuantEngine.Production.Recovery
import QuantEngine.Library.Run
import QuantEngine.Library.Text

set_option autoImplicit false

namespace QuantEngine

open Calendar (Moment)

inductive KillSwitchTrigger where
  | manual
  | automatic
  | scheduled
  | risk
  | drawdown
  | errors
  | connectionLost
  | latency
  | dataLoss
  | inconsistency
  deriving DecidableEq

def KillSwitchTrigger.value : KillSwitchTrigger → String
  | .manual => "manual"
  | .automatic => "automatic"
  | .scheduled => "scheduled"
  | .risk => "risk"
  | .drawdown => "drawdown"
  | .errors => "errors"
  | .connectionLost => "connection_lost"
  | .latency => "latency"
  | .dataLoss => "data_loss"
  | .inconsistency => "inconsistency"

structure KillSwitchState where
  active : Bool
  trigger : String := ""
  reason : String := ""
  actor : String := ""
  engagedAt : Option Moment := none
  deriving DecidableEq

structure KillSwitchSettings where
  enabled : Bool := true
  persistState : Bool := true
  requireReasonToRelease : Bool := true
  scheduledUtc : String := ""
  deriving DecidableEq

inductive KillSwitchAudit where
  | engaged (actor : String) (after : KillSwitchState) (restoredAfterRestart : Bool)
  | released (actor : String) (before after : KillSwitchState) (reason : String)
  deriving DecidableEq

inductive KillSwitchEvent where
  | engaged (trigger reason actor : String)
  | released (actor reason : String)
  deriving DecidableEq

inductive KillSwitchFile where
  | absent
  | unreadable
  | stored (state : KillSwitchState)
  deriving DecidableEq

structure KillSwitchController where
  settings : KillSwitchSettings
  switch : KillSwitchState := ⟨false, "", "", "", none⟩
  file : KillSwitchFile := .absent
  diskWrites : Bool := true
  audit : List KillSwitchAudit := []
  published : List KillSwitchEvent := []
  deriving DecidableEq

namespace KillSwitchController

def active (controller : KillSwitchController) : Bool := controller.switch.active

def persist (controller : KillSwitchController) : KillSwitchController :=
  if controller.settings.persistState && controller.diskWrites then
    { controller with file := .stored controller.switch }
  else controller

def load (controller : KillSwitchController) : Option KillSwitchState :=
  if !controller.settings.persistState then none
  else match controller.file with
    | .stored state => some state
    | _ => none

def recordAudit (controller : KillSwitchController) (state : KillSwitchState) (restored : Bool) :
    KillSwitchController :=
  { controller with
    audit := controller.audit ++ [.engaged (orElseText state.actor "system") state restored] }

-- A restart must not clear a persisted engagement.
def start (controller : KillSwitchController) (risk : RiskManager) : KillSwitchController × RiskManager :=
  match controller.load with
  | none => (controller, risk)
  | some restored =>
      if restored.active then
        ({ controller with switch := restored }.recordAudit restored true,
          risk.engageKillSwitch (orElseText restored.reason "kill switch persistido"))
      else (controller, risk)

def stop (controller : KillSwitchController) : KillSwitchController := controller.persist

-- Engaging again keeps the origin.
def engage (controller : KillSwitchController) (risk : RiskManager) (trigger : KillSwitchTrigger)
    (reason actor : String) (now : Moment) : KillSwitchController × RiskManager :=
  if controller.switch.active then (controller, risk)
  else
    let switch : KillSwitchState := ⟨true, trigger.value, reason, actor, some now⟩
    let recorded := ({ controller with switch := switch }.persist).recordAudit switch false
    ({ recorded with published := recorded.published ++ [.engaged trigger.value reason actor] },
      risk.engageKillSwitch reason)

-- Raises without a named actor or, where it is required, without a reason.
def release (controller : KillSwitchController) (risk : RiskManager) (actor reason : String) :
    Except String KillSwitchState × KillSwitchController × RiskManager :=
  if Text.blank actor then (.error "Liberar el kill switch exige un actor identificable", controller, risk)
  else if controller.settings.requireReasonToRelease && Text.blank reason then
    (.error "Liberar el kill switch exige un motivo", controller, risk)
  else
    let switch : KillSwitchState := ⟨false, "", "", "", none⟩
    let written := { controller with switch := switch }.persist
    (.ok switch,
      { written with
        audit := written.audit ++ [.released actor controller.switch switch reason]
        published := written.published ++ [.released actor reason] },
      risk.resetKillSwitch)

-- The hour and minute of the daily cut-off, or none where the text is invalid.
def cutOff (raw : String) : Option (Int × Int) :=
  match Text.splitFirst ':' raw with
  | none => none
  | some (hour, minute) =>
      match Text.parseInt hour, Text.parseInt minute with
      | some hour, some minute => some (hour, minute)
      | _, _ => none

def checkScheduled (controller : KillSwitchController) (risk : RiskManager) (now : Moment) :
    Bool × KillSwitchController × RiskManager :=
  let raw := Text.strip controller.settings.scheduledUtc
  if raw = "" || controller.switch.active then (false, controller, risk)
  else if cutOff raw = some (Calendar.hourOf now, Calendar.minuteOf now) then
    (true, controller.engage risk .scheduled ("corte programado diario a las " ++ raw ++ " UTC") "scheduler" now)
  else (false, controller, risk)

theorem persist_active (controller : KillSwitchController) : controller.persist.active = controller.active := by
  rw [persist]
  split <;> rfl

theorem start_active (controller : KillSwitchController) (risk : RiskManager)
    (agree : controller.active = risk.killSwitchActive) :
    (controller.start risk).1.active = (controller.start risk).2.killSwitchActive := by
  rw [start]
  cases controller.load with
  | none => exact agree
  | some restored =>
      by_cases engaged : restored.active = true
      · simp [engaged, active, recordAudit, RiskManager.killSwitchActive, RiskManager.engageKillSwitch]
      · simp only [if_neg engaged]
        exact agree

theorem engage_active (controller : KillSwitchController) (risk : RiskManager) (trigger : KillSwitchTrigger)
    (reason actor : String) (now : Moment) (agree : controller.active = risk.killSwitchActive) :
    (controller.engage risk trigger reason actor now).1.active =
      (controller.engage risk trigger reason actor now).2.killSwitchActive := by
  rw [engage]
  split
  · exact agree
  · simp only [active, recordAudit, RiskManager.killSwitchActive, RiskManager.engageKillSwitch]
    exact persist_active _

theorem release_active (controller : KillSwitchController) (risk : RiskManager) (actor reason : String)
    (agree : controller.active = risk.killSwitchActive) :
    (controller.release risk actor reason).2.1.active = (controller.release risk actor reason).2.2.killSwitchActive := by
  rw [release]
  split
  · exact agree
  · split
    · exact agree
    · simp only [active, RiskManager.killSwitchActive, RiskManager.resetKillSwitch]
      exact persist_active _

theorem engage_engaged (controller : KillSwitchController) (risk : RiskManager) (trigger : KillSwitchTrigger)
    (reason actor : String) (now : Moment) : (controller.engage risk trigger reason actor now).1.active = true := by
  rw [engage]
  split
  · assumption
  · exact persist_active _

theorem release_inactive (controller : KillSwitchController) (risk : RiskManager) (actor reason : String)
    (inactive : controller.active = false) : (controller.release risk actor reason).2.1.active = false := by
  rw [release]
  split
  · exact inactive
  · split
    · exact inactive
    · exact persist_active _

theorem check_scheduled_active (controller : KillSwitchController) (risk : RiskManager) (now : Moment)
    (agree : controller.active = risk.killSwitchActive) :
    (controller.checkScheduled risk now).2.1.active = (controller.checkScheduled risk now).2.2.killSwitchActive := by
  simp only [checkScheduled]
  split
  · exact agree
  · split
    · dsimp only
      exact engage_active controller risk _ _ _ now agree
    · exact agree

end KillSwitchController

namespace KillSwitch

open Run

structure System where
  now : Moment
  controller : KillSwitchController
  recovery : RecoveryService
  managers : Managers

inductive Operation where
  | engage (trigger : KillSwitchTrigger) (reason actor : String)
  | release (actor reason : String)
  | checkScheduled
  | start
  | stop
  | updateEquity (drawdownPct : ℚ)
  | restore (snapshot : SnapshotFile)
  | elapse (micros : Nat)
  | disk (writes : Bool)

namespace System

def withSwitch (system : System) (result : KillSwitchController × RiskManager) : System :=
  { system with controller := result.1, managers := { system.managers with risk := result.2 } }

def step (system : System) : Operation → System
  | .engage trigger reason actor =>
      system.withSwitch (system.controller.engage system.managers.risk trigger reason actor system.now)
  | .release actor reason => system.withSwitch (system.controller.release system.managers.risk actor reason).2
  | .checkScheduled => system.withSwitch (system.controller.checkScheduled system.managers.risk system.now).2
  | .start => system.withSwitch (system.controller.start system.managers.risk)
  | .stop => { system with controller := system.controller.stop }
  | .updateEquity drawdownPct =>
      { system with managers := { system.managers with risk := system.managers.risk.updateEquity drawdownPct } }
  | .restore snapshot =>
      let result := { system.recovery with file := snapshot }.restore system.now system.managers
      { system with recovery := result.1, managers := result.2 }
  | .elapse micros => { system with now := system.now + micros }
  | .disk writes => { system with controller := { system.controller with diskWrites := writes } }

def OneSwitch (system : System) : Prop := system.controller.active = system.managers.risk.killSwitchActive

-- The drawdown rule and the recovery write the risk manager's copy only: they
-- engage nothing that the controller has not engaged before.
def ControllerFirst (system : System) : Operation → Prop
  | .updateEquity drawdownPct =>
      system.managers.risk.drawdownBreached drawdownPct = true → system.controller.active = true
  | .restore snapshot => ∀ state, { system.recovery with file := snapshot }.applicable system.now = some state →
      state.killSwitchActive = true → system.controller.active = true
  | _ => True

theorem update_equity_kill (risk : RiskManager) (drawdownPct : ℚ) :
    (risk.updateEquity drawdownPct).killSwitch = (risk.killSwitch || risk.drawdownBreached drawdownPct) := by
  simp only [RiskManager.updateEquity]
  by_cases breached : risk.drawdownBreached drawdownPct = true
  · simp [breached, RiskManager.engageKillSwitch]
  · simp [breached]

theorem restore_kill (recovery : RecoveryService) (now : Moment) (managers : Managers) :
    (recovery.restore now managers).2.risk.killSwitch =
      (managers.risk.killSwitch || (recovery.applicable now).any EngineState.killSwitchActive) := by
  have risk : (recovery.restore now managers).2.risk = (recovery.restoreSnapshot now managers).2.risk := rfl
  rw [risk, RecoveryService.restore_snapshot_managers]
  cases recovery.applicable now with
  | none => simp
  | some state =>
      simp only [RecoveryService.applyState, RecoveryService.applyRisk, Option.any_some]
      by_cases engaged : state.killSwitchActive = true
      · simp [engaged, RiskManager.engageKillSwitch]
      · simp [engaged, RiskManager.restore]

theorem agree_or (controller risk raised : Bool) (agree : controller = risk) :
    (controller = (risk || raised)) ↔ (raised = true → controller = true) := by
  subst agree
  cases controller <;> cases raised <;> decide

theorem step_one_switch (system : System) (operation : Operation) (agree : system.OneSwitch) :
    (system.step operation).OneSwitch ↔ system.ControllerFirst operation := by
  cases operation with
  | engage trigger reason actor =>
      exact iff_of_true (system.controller.engage_active _ trigger reason actor system.now agree) trivial
  | release actor reason => exact iff_of_true (system.controller.release_active _ actor reason agree) trivial
  | checkScheduled =>
      have moved := system.controller.check_scheduled_active system.managers.risk system.now agree
      simp only [OneSwitch, step, withSwitch, ControllerFirst, moved]
  | start => exact iff_of_true (system.controller.start_active _ agree) trivial
  | stop => exact iff_of_true ((system.controller.persist_active).trans agree) trivial
  | elapse micros => exact iff_of_true agree trivial
  | disk writes => exact iff_of_true agree trivial
  | updateEquity drawdownPct =>
      simp only [OneSwitch, step, RiskManager.killSwitchActive, update_equity_kill, ControllerFirst]
      exact agree_or _ _ _ agree
  | restore snapshot =>
      simp only [OneSwitch, step, RiskManager.killSwitchActive, restore_kill, ControllerFirst]
      refine (agree_or _ _ _ agree).trans ?_
      simp only [Option.any_eq_true]
      exact ⟨fun h state found engaged => h ⟨state, found, engaged⟩, fun h ⟨state, found, engaged⟩ =>
        h state found engaged⟩

end System

def fresh : System where
  now := 0
  controller := { settings := {} }
  recovery := { settings := {}, file := .absent }
  managers := {
    positions := {}
    portfolio := .init 10000 "USD" 1
    risk := .init {} 10000
    journal := {} }

end KillSwitch

end QuantEngine
