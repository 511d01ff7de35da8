import QuantEngine.Execution.Effects

set_option autoImplicit false

namespace QuantEngine

variable {β : Type}

namespace ExecutionEngine

open World

-- The stretches of code that the tasks of the engine are made of. What a
-- management pass does first stands apart.
inductive Operation where
  | screen (decision : DecisionGenerated)
  | enter (decision : DecisionGenerated) (entry : Entry) (view : MarketView)
  | startClose (id : PositionId) (reason : ExitReason) (exitReasons : List String)
  | finishClose (order : ClosingOrder) (view : MarketView)
  | markAndManage (id : PositionId)
  | readRegime (id : PositionId) (view : MarketView)
  | refreshRisk
  | modifyStop (id : PositionId) (stopLoss : ℚ)
  | moveBreakEven (id : PositionId)

def Operation.entering : Operation → Bool
  | .enter _ _ _ => true
  | _ => false

def act (engine : ExecutionEngine β) (operation : Operation) (world : World β) : World β :=
  match operation with
  | .screen decision => (engine.screen decision world).2
  | .enter decision entry view => engine.enter decision entry view world
  | .startClose id reason exitReasons => (startClose id reason exitReasons world).2
  | .finishClose order view => engine.finishClose order view world
  | .markAndManage id => (engine.markAndManage id world).2
  | .readRegime id view => (engine.readRegime id view world).2
  | .refreshRisk => (refreshRiskState world).2
  | .modifyStop id stopLoss => modifyStop id stopLoss world
  | .moveBreakEven id => moveBreakEven id world

def catchUp (engine : ExecutionEngine β) (world : World β) : World β :=
  engine.reconcileBrokerPositions (engine.syncBrokerBalance world)

def manageOpen (engine : ExecutionEngine β) : Flow β Unit := do
  let ids ← Task.sync (fun world => (world.openIds, world))
  Task.each engine.managePosition ids

theorem manage_once_caught_up (engine : ExecutionEngine β) (world : World β) :
    engine.manageOnce world = (do engine.manageOpen; engine.refreshRisk : Flow β Unit) (engine.catchUp world) := rfl

-- What a relation has to meet so that every stretch of the tasks that manage
-- and close positions is a step of it, the start of a pass apart.
structure Manages (engine : ExecutionEngine β) (R : World β → World β → Prop) : Prop where
  refl : ∀ world, R world world
  trans : ∀ a b c, R a b → R b c → R a c
  each : ∀ operation world, operation.entering = false → R world (engine.act operation world)

structure Operates (engine : ExecutionEngine β) (R : World β → World β → Prop) : Prop extends Manages engine R where
  enter : ∀ decision entry view world, R world (engine.enter decision entry view world)

section

variable {engine : ExecutionEngine β} {R : World β → World β → Prop}

theorem view_stretches (refl : ∀ world, R world world) (trans : ∀ a b c, R a b → R b c → R a c) (point : SuspensionPoint)
    (symbol : String) : (engine.marketView point symbol).Guarantees R := by
  rw [marketView]
  by_cases context : engine.hasContext = true
  · rw [if_pos context]
    refine Task.guarantees_seq R trans _ _ (Task.guarantees_suspend R refl point) ?_
    intro input
    cases input with
    | none => exact Task.guarantees_raise R refl
    | some view => exact Task.guarantees_pure R refl view
  · rw [if_neg context]
    exact Task.guarantees_sync R _ refl

theorem view_guarantees (manages : engine.Manages R) (point : SuspensionPoint) (symbol : String) :
    (engine.marketView point symbol).Guarantees R := view_stretches manages.refl manages.trans point symbol

theorem process_decision_guarantees (operates : engine.Operates R) (decision : DecisionGenerated) :
    (engine.processDecision decision).Guarantees R := by
  have screened : (Task.sync (engine.screen decision) : Flow β (Option Entry)).Guarantees R :=
    Task.guarantees_sync R _ (fun world => operates.each (.screen decision) world rfl)
  rw [processDecision]
  refine Task.guarantees_seq R operates.trans _ _ screened ?_
  intro found
  cases found with
  | none => exact Task.guarantees_pure R operates.refl ()
  | some entry =>
      refine Task.guarantees_seq R operates.trans _ _ (view_guarantees operates.toManages _ _) ?_
      exact fun view => Task.guarantees_modify R _ (operates.enter decision entry view)

theorem close_position_stretches (refl : ∀ world, R world world) (trans : ∀ a b c, R a b → R b c → R a c)
    (id : PositionId) (reason : ExitReason) (exitReasons : List String)
    (starts : ∀ world, R world (startClose id reason exitReasons world).2)
    (finishes : ∀ order view world, R world (engine.finishClose order view world)) :
    (engine.closePosition id reason exitReasons).Guarantees R := by
  have started : (Task.sync (startClose id reason exitReasons) : Flow β (Option ClosingOrder)).Guarantees R :=
    Task.guarantees_sync R _ starts
  rw [closePosition]
  refine Task.guarantees_seq R trans _ _ started ?_
  intro found
  cases found with
  | none => exact Task.guarantees_pure R refl ()
  | some order =>
      refine Task.guarantees_seq R trans _ _ (view_stretches refl trans _ _) ?_
      exact fun view => Task.guarantees_modify R _ (finishes order view)

theorem close_position_guarantees (manages : engine.Manages R) (id : PositionId) (reason : ExitReason)
    (exitReasons : List String) : (engine.closePosition id reason exitReasons).Guarantees R :=
  close_position_stretches manages.refl manages.trans id reason exitReasons
    (fun world => manages.each (.startClose id reason exitReasons) world rfl)
    (fun order view world => manages.each (.finishClose order view) world rfl)

theorem exit_reason_guarantees (manages : engine.Manages R) (id : PositionId) :
    (engine.exitReason id).Guarantees R := by
  have watched (position : Position) : (engine.regimeTurnedAgainst id position).Guarantees R := by
    refine Task.guarantees_read R _ ?_
    intro world
    split
    · refine Task.guarantees_seq R manages.trans _ _ (view_guarantees manages _ _) ?_
      exact fun view => Task.guarantees_sync R _ (fun world => manages.each (.readRegime id view) world rfl)
    · exact Task.guarantees_pure R manages.refl false
  refine Task.guarantees_read R _ ?_
  intro world
  cases world.positions.object id with
  | none => exact Task.guarantees_pure R manages.refl none
  | some position =>
      dsimp only
      split
      · exact Task.guarantees_pure R manages.refl _
      · refine Task.guarantees_seq R manages.trans _ _ (watched position) ?_
        intro turned
        cases turned with
        | true => exact Task.guarantees_pure R manages.refl _
        | false => exact Task.guarantees_read R _ (fun later => Task.guarantees_pure R manages.refl _)

theorem manage_position_guarantees (manages : engine.Manages R) (id : PositionId) :
    (engine.managePosition id).Guarantees R := by
  have marked : (Task.sync (engine.markAndManage id) : Flow β Bool).Guarantees R :=
    Task.guarantees_sync R _ (fun world => manages.each (.markAndManage id) world rfl)
  rw [managePosition]
  refine Task.guarantees_seq R manages.trans _ _ marked ?_
  intro priced
  cases priced with
  | false => exact Task.guarantees_pure R manages.refl ()
  | true =>
      refine Task.guarantees_seq R manages.trans _ _ (exit_reason_guarantees manages id) ?_
      intro reason
      cases reason with
      | none => exact Task.guarantees_pure R manages.refl ()
      | some reason => exact close_position_guarantees manages id reason []

theorem manage_open_guarantees (manages : engine.Manages R) : engine.manageOpen.Guarantees R := by
  have listed : (Task.sync (fun world => (world.openIds, world)) : Flow β (List PositionId)).Guarantees R :=
    Task.guarantees_sync R _ manages.refl
  rw [manageOpen]
  refine Task.guarantees_seq R manages.trans _ _ listed ?_
  exact Task.guarantees_each R manages.refl manages.trans _ (manage_position_guarantees manages)

theorem refresh_risk_guarantees (manages : engine.Manages R) : engine.refreshRisk.Guarantees R := by
  have refreshed : (Task.sync refreshRiskState : Flow β (List PositionId)).Guarantees R :=
    Task.guarantees_sync R _ (fun world => manages.each .refreshRisk world rfl)
  rw [refreshRisk]
  refine Task.guarantees_seq R manages.trans _ _ refreshed ?_
  exact fun doomed => Task.guarantees_each R manages.refl manages.trans _
    (fun id => close_position_guarantees manages id .killSwitch []) doomed

theorem manage_once_guarantees (manages : engine.Manages R) (world : World β)
    (caughtUp : R world (engine.catchUp world)) : (engine.manageOnce world).Guarantees R world := by
  have passed := Task.guarantees_seq R manages.trans _ _ (manage_open_guarantees manages)
    (fun _ => refresh_risk_guarantees manages)
  rw [manage_once_caught_up]
  exact Co.guarantees_after R manages.trans _ world _ caughtUp (passed _)

theorem perform_operates (operates : engine.Operates R) (job : Job) (world : World β)
    (caughtUp : job = .manage → R world (engine.catchUp world)) : (engine.perform job world).Guarantees R world := by
  cases job with
  | decide decision => exact process_decision_guarantees operates decision world
  | manage => exact manage_once_guarantees operates.toManages world (caughtUp rfl)
  | close id reason exitReasons => exact close_position_guarantees operates.toManages id reason exitReasons world
  | modifyStop id stopLoss => exact operates.each (.modifyStop id stopLoss) world rfl
  | moveBreakEven id => exact operates.each (.moveBreakEven id) world rfl

end

-- The same, in terms of what the stretches change; the synchronisation of the
-- balance stands apart.
structure Steps (R : World β → World β → Prop) : Prop where
  refl : ∀ world, R world world
  trans : ∀ a b c, R a b → R b c → R a c
  quiet : ∀ world later : World β, world.Quiet later → R world later
  opened : ∀ (world later : World β) id position killSwitch circuitBreaker,
    world.Opened later id position killSwitch circuitBreaker → R world later
  settled : ∀ (world later : World β) id position fill executed,
    (∀ happening ∈ executed, happening = .closingExecuted id) → world.Settled later id position fill executed →
      R world later
  touched : ∀ (world later : World β) id, world.Touched later id → R world later
  valued : ∀ world later : World β, world.Valued later → R world later

section

variable {engine : ExecutionEngine β} {R : World β → World β → Prop}

theorem reconcile_steps (steps : Steps R) (world : World β) : R world (engine.reconcileBrokerPositions world) := by
  have settleAll (gone : List (PositionId × Position)) (world : World β) :
      R world (gone.foldl (fun world entry => settleExternalClose entry.1 entry.2 world) world) := by
    induction gone generalizing world with
    | nil => exact steps.refl world
    | cons entry rest ih =>
        obtain ⟨fill, settled⟩ := external_close_effect entry.1 entry.2 world
        have closed := steps.settled _ _ _ _ fill [] (List.forall_mem_nil _) settled
        exact steps.trans _ _ _ closed (ih _)
  rw [reconcileBrokerPositions]
  cases engine.paper.openPositionTickets with
  | none => exact steps.refl world
  | some ticketsOf => exact settleAll _ world

theorem enter_steps (steps : Steps R) (decision : DecisionGenerated) (entry : Entry) (view : MarketView)
    (world : World β) : R world (engine.enter decision entry view world) := by
  rcases engine.enter_effect decision entry view world with quiet | ⟨id, position, kill, breaker, -, opened⟩
  · exact steps.quiet _ _ quiet
  · exact steps.opened _ _ id position kill breaker opened

theorem finish_close_steps (steps : Steps R) (order : ClosingOrder) (view : MarketView) (world : World β) :
    R world (engine.finishClose order view world) := by
  cases found : world.positions.object order.id with
  | none =>
      have nothing : engine.finishClose order view world = world := by simp only [finishClose, found]
      rw [nothing]
      exact steps.refl world
  | some position =>
      rcases engine.finish_close_effect order view world position found with ⟨-, quiet⟩ | ⟨fill, -, settled⟩
      · exact steps.quiet _ _ quiet
      · exact steps.settled _ _ _ position fill _ (fun _ member => List.mem_singleton.mp member) settled

theorem act_steps (steps : Steps R) (operation : Operation) (world : World β) :
    R world (engine.act operation world) := by
  cases operation with
  | screen decision => exact steps.quiet _ _ (engine.screen_quiet decision world)
  | enter decision entry view => exact enter_steps steps decision entry view world
  | startClose id reason exitReasons => exact steps.quiet _ _ (start_close_quiet id reason exitReasons world)
  | finishClose order view => exact finish_close_steps steps order view world
  | markAndManage id => exact steps.touched _ _ id (engine.mark_and_manage_effect id world)
  | readRegime id view => exact steps.touched _ _ id (engine.read_regime_effect id view world)
  | refreshRisk => exact steps.valued _ _ (refresh_risk_effect world)
  | modifyStop id stopLoss => exact steps.touched _ _ id (modify_stop_effect id stopLoss world)
  | moveBreakEven id => exact steps.touched _ _ id (break_even_effect id world)

theorem perform_guarantees (steps : Steps R) (job : Job) (world : World β)
    (synced : job = .manage → R world (engine.syncBrokerBalance world)) :
    (engine.perform job world).Guarantees R world := by
  have operates : engine.Operates R :=
    ⟨⟨steps.refl, steps.trans, fun operation world _ => act_steps steps operation world⟩, enter_steps steps⟩
  exact perform_operates operates job world
    (fun pass => steps.trans _ _ _ (synced pass) (reconcile_steps steps _))

end

end ExecutionEngine

end QuantEngine
