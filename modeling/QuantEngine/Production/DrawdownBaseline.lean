import QuantEngine.Execution.Guarantees
import QuantEngine.Production.Recovery
import Mathlib.Tactic.FieldSimp

set_option autoImplicit false

namespace QuantEngine.DrawdownBaseline

open Decimal (roundTo)
open ExecutionEngine World
open PortfolioManager (drawdownPct)
open Run (Along Always Each)

variable {β : Type}

-- The services in their order: the state is restored before the engine starts.
def boot (engine : ExecutionEngine β) (service : RecoveryService) (world : World β) : World β :=
  engine.onStart { world with toManagers := (service.restore world.now world.toManagers).2 }

def booted (engine : ExecutionEngine β) (service : RecoveryService) (world : World β) : Session β :=
  ⟨boot engine service world, []⟩

def reported (engine : ExecutionEngine β) (world : World β) : Option ℚ :=
  engine.paper.accountBalance.bind (fun balanceOf => balanceOf world.broker)

def trips (risk : RiskManager) (peakEquity equity : ℚ) : Bool :=
  risk.drawdownBreached (roundTo 4 (drawdownPct (max peakEquity equity) equity))

-- The first thing a pass does is to synchronise the balance.
def SyncKeeps (engine : ExecutionEngine β) (session : Session β) : Event β → Prop
  | .spawn .manage =>
      session.state.portfolio.peakEquity ≤ (engine.syncBrokerBalance session.state).portfolio.peakEquity
  | _ => True

-- The snapshot's peak survives the boot, and the peak never decreases after it.
structure Survives (engine : ExecutionEngine β) (service : RecoveryService) (world : World β) (peakEquity : ℚ)
    (events : List (Event β)) : Prop where
  boot : peakEquity ≤ (boot engine service world).portfolio.peakEquity
  steps : Along engine.run (fun before after => before.state.portfolio.peakEquity ≤ after.state.portfolio.peakEquity)
    (booted engine service world) events
  syncs : Each engine.run (SyncKeeps engine) (booted engine service world) events

-- Every refresh at an equity that trips the switch with the snapshot's peak
-- has tripped it. Beyond a loss of the whole equity a higher peak means a
-- smaller percentage, which matters to a threshold above 100% only.
def TripsAgain (peakEquity : ℚ) (world : World β) : Prop :=
  ∀ found equity killSwitch, .refreshed found equity killSwitch ∈ world.history →
    0 ≤ equity ∨ world.risk.settings.killSwitchDrawdownPct ≤ 100 →
      trips world.risk peakEquity equity = true → killSwitch = true

-- Either no balance is reported at the boot and the snapshot is applied, or
-- the reported balance is no lower than the snapshot's peak.
def Kept (engine : ExecutionEngine β) (service : RecoveryService) (world : World β) (state : EngineState) : Prop :=
  match reported engine world with
  | some balance => state.peakEquity ≤ balance
  | none => RecoveryService.tooOld service.settings state world.now = false ∨
      state.peakEquity ≤ engine.settings.initialBalance

-- A balance that still has to set the baseline is no lower than the peak.
def Steady (engine : ExecutionEngine β) (session : Session β) : Event β → Prop
  | .spawn .manage => session.state.balanceBaselineSet = false →
      ∀ balance, reported engine session.state = some balance → session.state.portfolio.peakEquity ≤ balance
  | _ => True

theorem drawdown_nonneg (peakEquity equity : ℚ) : 0 ≤ drawdownPct peakEquity equity := by
  rw [drawdownPct]
  split
  · exact le_max_left _ _
  · exact le_refl 0

theorem drawdown_mono (low high equity : ℚ) (solvent : 0 ≤ equity) (le : low ≤ high) :
    drawdownPct low equity ≤ drawdownPct high equity := by
  by_cases positive : low > 0
  · have higher : high > 0 := lt_of_lt_of_le positive le
    have share : equity / high ≤ equity / low := div_le_div_of_nonneg_left solvent positive le
    have lowPct : (low - equity) / low = 1 - equity / low := by rw [sub_div, div_self (ne_of_gt positive)]
    have highPct : (high - equity) / high = 1 - equity / high := by rw [sub_div, div_self (ne_of_gt higher)]
    simp only [drawdownPct]
    rw [if_pos positive, if_pos higher, lowPct, highPct]
    exact max_le_max (le_refl 0) (by linarith)
  · have nothing : drawdownPct low equity = 0 := by rw [drawdownPct, if_neg positive]
    rw [nothing]
    exact drawdown_nonneg high equity

theorem drawdown_insolvent (peakEquity equity : ℚ) (positive : 0 < peakEquity) (insolvent : equity < 0) :
    100 ≤ drawdownPct peakEquity equity := by
  have whole : 1 ≤ (peakEquity - equity) / peakEquity := by
    rw [one_le_div positive]
    linarith
  rw [drawdownPct]
  rw [if_pos positive]
  exact le_trans (by linarith) (le_max_right _ _)

theorem trips_iff (risk : RiskManager) (peakEquity equity : ℚ) :
    trips risk peakEquity equity = true ↔
      risk.settings.killSwitchDrawdownPct ≤ roundTo 4 (drawdownPct (max peakEquity equity) equity) ∧
        0 < risk.settings.killSwitchDrawdownPct := by
  simp only [trips, RiskManager.drawdownBreached, Bool.and_eq_true, decide_eq_true_eq, ge_iff_le, gt_iff_lt]

theorem trips_settings (a b : RiskManager) (same : a.settings = b.settings) (peakEquity equity : ℚ) :
    trips a peakEquity equity = trips b peakEquity equity := by
  simp only [trips, RiskManager.drawdownBreached, same]

theorem trips_mono (risk : RiskManager) (low high equity : ℚ) (le : low ≤ high)
    (bounded : 0 ≤ equity ∨ risk.settings.killSwitchDrawdownPct ≤ 100) (tripped : trips risk low equity = true) :
    trips risk high equity = true := by
  rw [trips_iff] at tripped ⊢
  obtain ⟨reached, enabled⟩ := tripped
  refine ⟨?_, enabled⟩
  by_cases solvent : 0 ≤ equity
  · have deeper := drawdown_mono (max low equity) (max high equity) equity solvent (max_le_max le (le_refl equity))
    exact le_trans reached (Decimal.round_to_mono 4 _ _ deeper)
  · -- A breach means a positive peak, so the drawdown is the whole equity at least.
    have insolvent : equity < 0 := not_le.mp solvent
    have positive : 0 < max low equity := by
      by_contra none
      rw [drawdownPct, if_neg none, Decimal.round_to_grid 4 0 ⟨0, by simp⟩] at reached
      exact absurd reached (not_le.mpr enabled)
    have higher : 0 < max high equity := lt_of_lt_of_le positive (max_le_max le (le_refl equity))
    have whole := Decimal.round_to_mono 4 _ _ (drawdown_insolvent (max high equity) equity higher insolvent)
    rw [Decimal.round_to_grid 4 100 ⟨1000000, by norm_num [Decimal.scale]⟩] at whole
    exact le_trans (bounded.resolve_left solvent) whole

structure Climbs (before after : World β) : Prop where
  peak : before.portfolio.peakEquity ≤ after.portfolio.peakEquity
  limits : after.risk.settings = before.risk.settings
  refreshes : ∀ found equity killSwitch, .refreshed found equity killSwitch ∈ after.history →
    .refreshed found equity killSwitch ∈ before.history ∨
      (before.portfolio.peakEquity ≤ found ∧ (trips before.risk found equity = true → killSwitch = true))

theorem Climbs.trans (a b c : World β) (first : Climbs a b) (second : Climbs b c) : Climbs a c where
  peak := le_trans first.peak second.peak
  limits := second.limits.trans first.limits
  refreshes found equity killSwitch member := by
    rcases second.refreshes found equity killSwitch member with old | ⟨above, engaged⟩
    · exact first.refreshes found equity killSwitch old
    · refine .inr ⟨le_trans first.peak above, ?_⟩
      rwa [← trips_settings b.risk a.risk first.limits]

theorem same_peak_climbs (before after : World β)
    (peak : after.portfolio.peakEquity = before.portfolio.peakEquity)
    (limits : after.risk.settings = before.risk.settings) (extra : List Happening)
    (history : after.history = before.history ++ extra)
    (none : ∀ found equity killSwitch, .refreshed found equity killSwitch ∉ extra) : Climbs before after where
  peak := ge_of_eq peak
  limits := limits
  refreshes found equity killSwitch member := by
    rw [history] at member
    exact .inl ((List.mem_append.mp member).resolve_right (none found equity killSwitch))

theorem quiet_climbs (before after : World β) (quiet : before.Quiet after) : Climbs before after :=
  same_peak_climbs before after (by rw [quiet.portfolio]) quiet.limits [] (by rw [quiet.history, List.append_nil])
    (fun _ _ _ => List.not_mem_nil)

theorem opened_climbs (before after : World β) (id : PositionId) (position : Position)
    (killSwitch circuitBreaker : Bool) (opened : before.Opened after id position killSwitch circuitBreaker) :
    Climbs before after := by
  refine same_peak_climbs before after ?_ opened.limits _ opened.history ?_
  · rw [opened.portfolio]
    rfl
  · intro found equity kill member
    cases List.mem_singleton.mp member

theorem settled_climbs (before after : World β) (id : PositionId) (position : Position) (fill : Fill)
    (executed : List Happening) (closing : ∀ happening ∈ executed, happening = .closingExecuted id)
    (settled : before.Settled after id position fill executed) : Climbs before after := by
  refine same_peak_climbs before after ?_ settled.limits _ settled.history ?_
  · rw [settled.portfolio]
    rfl
  · intro found equity kill member
    cases List.mem_append.mp member with
      | inl order => cases closing _ order
      | inr books => simp at books

theorem valued_climbs (before after : World β) (valued : before.Valued after) : Climbs before after := by
  obtain ⟨killSwitch, history, engaged⟩ := valued.history
  refine ⟨?_, valued.limits, ?_⟩
  · rw [valued.portfolio]
    exact le_max_left _ _
  · intro found equity kill member
    rw [history] at member
    cases List.mem_append.mp member with
      | inl old => exact .inl old
      | inr fresh =>
          cases List.mem_singleton.mp fresh
          exact .inr ⟨le_refl _, engaged⟩

theorem climbs_steps : Steps (Climbs (β := β)) where
  refl world := quiet_climbs world world (.refl world)
  trans := Climbs.trans
  quiet := quiet_climbs
  opened := opened_climbs
  settled := settled_climbs
  touched world later id touched :=
    same_peak_climbs world later (by rw [touched.portfolio]) touched.limits []
      (by rw [touched.history, List.append_nil]) (fun _ _ _ => List.not_mem_nil)
  valued := valued_climbs

-- A synchronisation moves the peak down exactly when it sets the baseline to a
-- balance below it.
theorem sync_peak_iff (engine : ExecutionEngine β) (world : World β) :
    world.portfolio.peakEquity ≤ (engine.syncBrokerBalance world).portfolio.peakEquity ↔
      (world.balanceBaselineSet = false →
        ∀ balance, reported engine world = some balance → world.portfolio.peakEquity ≤ balance) := by
  rw [syncBrokerBalance]
  cases found : engine.paper.accountBalance.bind (fun balanceOf => balanceOf world.broker) with
  | none =>
      refine ⟨fun _ _ balance given => ?_, fun _ => le_refl _⟩
      rw [reported, found] at given
      cases given
  | some reportedBalance =>
      rw [reported, found]
      cases set : world.balanceBaselineSet with
      | true =>
          refine ⟨fun _ unset => ?_, fun _ => le_max_left _ _⟩
          cases unset
      | false =>
          constructor
          · intro above _ balance given
            cases Option.some.inj given
            exact above
          · exact fun steady => steady rfl reportedBalance rfl

theorem sync_climbs (engine : ExecutionEngine β) (world : World β)
    (steady : world.balanceBaselineSet = false →
      ∀ balance, reported engine world = some balance → world.portfolio.peakEquity ≤ balance) :
    Climbs world (engine.syncBrokerBalance world) := by
  have peak := (sync_peak_iff engine world).mpr steady
  rw [syncBrokerBalance] at peak ⊢
  cases found : engine.paper.accountBalance.bind (fun balanceOf => balanceOf world.broker) with
  | none => exact climbs_steps.refl world
  | some balance =>
      rw [found] at peak
      exact ⟨peak, rfl, fun _ _ _ member => .inl member⟩

theorem sync_keeps_iff (engine : ExecutionEngine β) (session : Session β) (event : Event β) :
    SyncKeeps engine session event ↔ Steady engine session event := by
  cases event with
  | spawn job =>
      cases job with
      | manage => exact sync_peak_iff engine session.state
      | decide decision => exact Iff.rfl
      | close id reason exitReasons => exact Iff.rfl
      | modifyStop id stopLoss => exact Iff.rfl
      | moveBreakEven id => exact Iff.rfl
  | resume index input => exact Iff.rfl
  | environment change => exact Iff.rfl

theorem steady_unreported (engine : ExecutionEngine β) (none : engine.paper.accountBalance = none)
    (session : Session β) (event : Event β) : Steady engine session event := by
  have nothing : reported engine session.state = Option.none := by rw [reported, none, Option.bind_none]
  cases event with
  | spawn job =>
      cases job with
      | manage =>
          intro _ balance given
          rw [nothing] at given
          cases given
      | decide decision => trivial
      | close id reason exitReasons => trivial
      | modifyStop id stopLoss => trivial
      | moveBreakEven id => trivial
  | resume index input => trivial
  | environment change => trivial

theorem run_climbs (engine : ExecutionEngine β) (session : Session β) (events : List (Event β))
    (idle : session.waiting = []) (steady : Each engine.run (Steady engine) session events) :
    Along engine.run (fun before after => Climbs before.state after.state) session events := by
  refine Pool.along_guaranteed engine.perform Disturbance.disturb Climbs
    (fun world job => job = .manage → Climbs world (engine.syncBrokerBalance world)) climbs_steps.refl
    (fun job world synced => perform_guarantees climbs_steps job world synced)
    (fun change world => quiet_climbs world _ (disturb_quiet world change)) session events idle ?_
  refine Run.each_mono _ _ _ ?_ session events steady
  intro reached event kept
  cases event with
  | spawn job =>
      intro manage
      cases manage
      exact sync_climbs engine reached.state kept
  | resume index input => trivial
  | environment change => trivial

theorem adopt_keeps (engine : ExecutionEngine β) (world : World β) :
    (engine.adoptBrokerPositions world).portfolio = world.portfolio ∧
      (engine.adoptBrokerPositions world).history = world.history ∧
      (engine.adoptBrokerPositions world).balanceBaselineSet = world.balanceBaselineSet := by
  have adopted (live : List BrokerPosition) (world : World β) :
      (live.foldl (fun world live => adoptPosition live world) world).portfolio = world.portfolio ∧
        (live.foldl (fun world live => adoptPosition live world) world).history = world.history ∧
        (live.foldl (fun world live => adoptPosition live world) world).balanceBaselineSet =
          world.balanceBaselineSet := by
    induction live generalizing world with
    | nil => exact ⟨rfl, rfl, rfl⟩
    | cons position rest ih => exact ih (adoptPosition position world)
  rw [adoptBrokerPositions]
  cases engine.paper.openBrokerPositions with
  | none => exact ⟨rfl, rfl, rfl⟩
  | some positionsOf => exact adopted _ world

section

variable (engine : ExecutionEngine β) (service : RecoveryService) (world : World β) (state : EngineState)

theorem boot_history : (boot engine service world).history = world.history := by
  rw [boot, onStart, (adopt_keeps engine _).2.1]
  rw [syncBrokerBalance]
  split <;> rfl

theorem boot_peak_reported (balance : ℚ) (unset : world.balanceBaselineSet = false)
    (given : reported engine world = some balance) : (boot engine service world).portfolio.peakEquity = balance := by
  rw [boot, onStart, (adopt_keeps engine _).1]
  simp only [reported] at given
  simp only [syncBrokerBalance, given, unset, PortfolioManager.syncFromBroker, Bool.not_false, if_true]

theorem boot_peak_unreported (stored : service.file.load = some state) (given : reported engine world = none) :
    (boot engine service world).portfolio.peakEquity =
      if RecoveryService.tooOld service.settings state world.now then world.portfolio.peakEquity
      else max state.peakEquity state.balance := by
  rw [boot, onStart, (adopt_keeps engine _).1]
  simp only [reported] at given
  simp only [syncBrokerBalance, given, RecoveryService.restore_managers, RecoveryService.restoreJournal,
    RecoveryService.restoreSnapshot, stored]
  split <;> rfl

theorem boot_peak_iff (stored : service.file.load = some state) (unset : world.balanceBaselineSet = false)
    (initial : world.portfolio.peakEquity = engine.settings.initialBalance) :
    state.peakEquity ≤ (boot engine service world).portfolio.peakEquity ↔ Kept engine service world state := by
  rw [Kept]
  cases given : reported engine world with
  | some balance => rw [boot_peak_reported engine service world balance unset given]
  | none =>
      rw [boot_peak_unreported engine service world state stored given]
      cases RecoveryService.tooOld service.settings state world.now with
      | true => simp [initial]
      | false => simp

end

def Guarded (peakEquity : ℚ) (world : World β) : Prop :=
  peakEquity ≤ world.portfolio.peakEquity ∧ ∀ found equity killSwitch,
    .refreshed found equity killSwitch ∈ world.history →
      peakEquity ≤ found ∧ (trips world.risk found equity = true → killSwitch = true)

theorem guarded_climbs (peakEquity : ℚ) (before after : World β) (climbs : Climbs before after)
    (guarded : Guarded peakEquity before) : Guarded peakEquity after := by
  refine ⟨le_trans guarded.1 climbs.peak, ?_⟩
  intro found equity killSwitch member
  rw [trips_settings after.risk before.risk climbs.limits]
  rcases climbs.refreshes found equity killSwitch member with old | ⟨above, engaged⟩
  · exact guarded.2 found equity killSwitch old
  · exact ⟨le_trans guarded.1 above, engaged⟩

theorem guarded_trips (peakEquity : ℚ) (world : World β) (guarded : Guarded peakEquity world) :
    TripsAgain peakEquity world := by
  intro found equity killSwitch member bounded tripped
  obtain ⟨above, engaged⟩ := guarded.2 found equity killSwitch member
  exact engaged (trips_mono world.risk peakEquity found equity above bounded tripped)

section

variable (engine : ExecutionEngine β) (service : RecoveryService) (world : World β) (state : EngineState)
  (stored : service.file.load = some state) (unset : world.balanceBaselineSet = false)
  (initial : world.portfolio.peakEquity = engine.settings.initialBalance)

include stored unset initial

theorem survives_iff (events : List (Event β)) :
    Survives engine service world state.peakEquity events ↔
      Kept engine service world state ∧ Each engine.run (Steady engine) (booted engine service world) events := by
  have atBoot := boot_peak_iff engine service world state stored unset initial
  have syncs : Each engine.run (SyncKeeps engine) (booted engine service world) events ↔
      Each engine.run (Steady engine) (booted engine service world) events :=
    ⟨Run.each_mono _ _ _ (fun reached event => (sync_keeps_iff engine reached event).mp) _ events,
      Run.each_mono _ _ _ (fun reached event => (sync_keeps_iff engine reached event).mpr) _ events⟩
  constructor
  · exact fun survives => ⟨atBoot.mp survives.boot, syncs.mp survives.syncs⟩
  · rintro ⟨kept, steady⟩
    refine ⟨atBoot.mpr kept, ?_, syncs.mpr steady⟩
    exact Run.each_mono _ _ _ (fun _ _ climbs => Climbs.peak climbs) _ events (run_climbs engine _ events rfl steady)

end

-- The snapshot's peak survives the boot and the run after it exactly when no
-- balance that sets the baseline is below it; then every refresh that it
-- would trip the kill switch at trips it.
theorem baseline_survives_iff (engine : ExecutionEngine β) (service : RecoveryService) (journal : TradeJournal)
    (bus : Option EventBus) (broker : β) (market : Market) (now : Calendar.Moment) (state : EngineState)
    (stored : service.file.load = some state) (events : List (Event β)) :
    let world := World.fresh engine.settings journal bus broker market now
    (Survives engine service world state.peakEquity events ↔
      Kept engine service world state ∧ Each engine.run (Steady engine) (booted engine service world) events) ∧
    (Survives engine service world state.peakEquity events →
      Always engine.run (fun reached => TripsAgain state.peakEquity reached.state) (booted engine service world)
        events) := by
  intro world
  have exactly := survives_iff engine service world state stored rfl rfl events
  refine ⟨exactly, ?_⟩
  intro survives
  obtain ⟨-, steady⟩ := exactly.mp survives
  have start : Guarded state.peakEquity (boot engine service world) := by
    refine ⟨survives.boot, ?_⟩
    rw [boot_history]
    exact fun _ _ _ member => absurd member List.not_mem_nil
  have guarded := Run.always_of_along engine.run _ (fun reached => Guarded state.peakEquity reached.state)
    (fun a b => guarded_climbs state.peakEquity a.state b.state) (booted engine service world) events start
    (run_climbs engine _ events rfl steady)
  exact ⟨guarded_trips _ _ guarded.1, Run.each_mono _ _ _ (fun _ _ => guarded_trips _ _) _ events guarded.2⟩

def peaked : EngineState := { capturedAt := 0, balance := 9000, peakEquity := 12000 }

def service : RecoveryService := { settings := {}, file := .stored peaked }

def noMarket : Market := ⟨fun _ => none, fun _ => []⟩

def paper : ExecutionEngine PaperState := { settings := {}, paper := PaperBroker.midway.broker }

theorem baseline_survives_paper :
    let world := World.fresh paper.settings {} none {} noMarket 1000000
    Survives paper service world 12000 [.spawn .manage, .spawn .manage] ∧
      Always paper.run (fun reached => TripsAgain 12000 reached.state) (booted paper service world)
        [.spawn .manage, .spawn .manage] := by
  intro world
  have exactly := baseline_survives_iff paper service {} none {} noMarket 1000000 peaked rfl
    [.spawn .manage, .spawn .manage]
  have survives := exactly.1.mpr
    ⟨.inl (by decide +kernel), Run.each_of_all _ _ (steady_unreported paper rfl) _ _⟩
  exact ⟨survives, exactly.2 survives⟩

def account : ExecutionEngine PaperState where
  settings := {}
  paper := { PaperBroker.midway.broker with accountBalance := some (fun _ => some 9000) }

-- A drawdown of 25% from 12000 is one of nothing after the restart.
theorem baseline_forgotten :
    let world := World.fresh account.settings {} none {} noMarket 1000000
    ¬ Survives account service world 12000 [] ∧ trips world.risk 12000 9000 = true ∧
      (boot account service world).portfolio.equity (boot account service world).openPositions = 9000 ∧
      (refreshRiskState (boot account service world)).2.risk.killSwitchActive = false := by
  intro world
  refine ⟨?_, by decide +kernel, by decide +kernel, by decide +kernel⟩
  intro survives
  have low : (boot account service world).portfolio.peakEquity = 9000 := by decide +kernel
  have kept := survives.boot
  rw [low] at kept
  exact absurd kept (by decide +kernel)

end QuantEngine.DrawdownBaseline
