import QuantEngine.Execution.Effects

set_option autoImplicit false

namespace QuantEngine

variable {β : Type}

namespace ExecutionEngine

open World

-- What an invariant has to meet so that every task of the engine keeps it. It
-- speaks about the positions that the task at hand has still to visit; `Ready`
-- is what a close may count on when it gets its market view.
structure Rules (engine : ExecutionEngine β)
    (contract : Contract (World β) SuspensionPoint (Option MarketView))
    (Inv : List PositionId → World β → Prop) (Ready : ClosingOrder → MarketView → World β → Prop) : Prop where
  pause : ∀ point ids world, Inv ids world → contract.pause point world
  fail : ∀ ids world, Inv ids world → contract.fail world
  rely : ∀ point ids world later input, contract.rely point world later input → Inv ids world → Inv ids later
  readyNow : ∀ order view (world : World β), order.id ∈ world.openIds → Ready order view world
  readyLater : ∀ order view (world later : World β), order.id ∈ world.openIds →
    contract.rely (.closing order) world later (some view) → Ready order view later
  drop : ∀ id ids world, Inv (id :: ids) world → Inv ids world
  take : ∀ id (world : World β), id ∈ world.openIds → Inv [] world → Inv [id] world
  takeAll : ∀ world : World β, Inv [] world → Inv world.openIds world
  quiet : ∀ ids (world later : World β), world.Quiet later → Inv ids world → Inv ids later
  valued : ∀ world later : World β, world.Valued later → Inv [] world → Inv [] later
  touched : ∀ id ids (world later : World β), world.Touched later id → Inv (id :: ids) world → Inv (id :: ids) later
  synced : ∀ world, Inv [] world → Inv [] (engine.syncBrokerBalance world)
  opened : ∀ (world later : World β) id position killSwitch circuitBreaker,
    Admitted world position killSwitch circuitBreaker →
      world.Opened later id position killSwitch circuitBreaker → Inv [] world → Inv [] later
  external : ∀ (world later : World β) id position fill, world.positions.opened.lookup id = some position →
    world.Settled later id position fill [] → Inv [] world → Inv [] later
  finished : ∀ ids (world later : World β) order view position fill, Ready order view world →
    world.positions.object order.id = some position →
      (engine.closeExecution order position view world).1.fill = some fill →
        world.Settled later order.id position fill [.closingExecuted order.id] →
          Inv (order.id :: ids) world → Inv ids later

theorem settled_opened (world later : World β) (id : PositionId) (position : Position) (fill : Fill)
    (executed : List Happening) (settled : world.Settled later id position fill executed) :
    later.positions.opened = world.positions.opened.erase id := by
  obtain ⟨reason, exitReasons, now, positions⟩ := settled.positions
  rw [positions]
  exact Dict.entries_erase_modify _ _ _

theorem settled_keys (world later : World β) (id : PositionId) (position : Position) (fill : Fill)
    (executed : List Happening) (settled : world.Settled later id position fill executed) (other : PositionId)
    (member : other ∈ later.openIds) : other ∈ world.openIds ∧ other ≠ id := by
  rw [openIds, settled_opened world later id position fill executed settled] at member
  exact (Dict.mem_keys_erase _ _ _).mp member

section

variable {engine : ExecutionEngine β} {contract : Contract (World β) SuspensionPoint (Option MarketView)}
  {Inv : List PositionId → World β → Prop} {Ready : ClosingOrder → MarketView → World β → Prop}

-- Positions that are gone at the broker are settled one after the other; each
-- is still open when its turn comes.
theorem settle_all_keeps (rules : engine.Rules contract Inv Ready) (gone : List (PositionId × Position))
    (world : World β) (distinct : (gone.map Prod.fst).Nodup)
    (found : ∀ entry ∈ gone, world.positions.opened.lookup entry.1 = some entry.2) (inv : Inv [] world) :
    Inv [] (gone.foldl (fun world entry => settleExternalClose entry.1 entry.2 world) world) := by
  induction gone generalizing world with
  | nil => exact inv
  | cons entry rest ih =>
      obtain ⟨fill, settled⟩ := external_close_effect entry.1 entry.2 world
      rw [List.map_cons, List.nodup_cons] at distinct
      refine ih _ distinct.2 ?_ (rules.external world _ entry.1 entry.2 fill (found entry List.mem_cons_self) settled inv)
      intro other later
      have apart : other.1 ≠ entry.1 := fun same => distinct.1 (List.mem_map.mpr ⟨other, later, same⟩)
      rw [settled_opened world _ entry.1 entry.2 fill [] settled, Dict.lookup_erase, if_neg apart]
      exact found other (List.mem_cons_of_mem _ later)

theorem reconcile_keeps (rules : engine.Rules contract Inv Ready) (world : World β) (inv : Inv [] world) :
    Inv [] (engine.reconcileBrokerPositions world) := by
  rw [reconcileBrokerPositions]
  cases engine.paper.openPositionTickets with
  | none => exact inv
  | some ticketsOf =>
      refine settle_all_keeps rules _ world ?_ ?_ inv
      · exact world.positions.opened.unique.sublist (List.filter_sublist.map Prod.fst)
      · intro entry member
        exact Dict.lookup_of_mem _ _ _ (List.mem_of_mem_filter member)

theorem market_view_meets (engine : ExecutionEngine β)
    (contract : Contract (World β) SuspensionPoint (Option MarketView)) (point : SuspensionPoint) (symbol : String)
    (post : MarketView → World β → Prop) (world : World β) (pause : contract.pause point world)
    (fail : ∀ later, contract.rely point world later none → contract.fail later) (atOnce : ∀ view, post view world)
    (resumed : ∀ view later, contract.rely point world later (some view) → post view later) :
    (engine.marketView point symbol world).Meets contract post := by
  rw [marketView]
  by_cases context : engine.hasContext = true
  · rw [if_pos context, Task.meets_seq, Task.meets_suspend]
    refine ⟨pause, ?_⟩
    intro later input relied
    cases input with
    | none => exact fail later relied
    | some view => exact resumed view later relied
  · rw [if_neg context]
    exact atOnce _

theorem view_meets (rules : engine.Rules contract Inv Ready) (ids : List PositionId) (point : SuspensionPoint)
    (symbol : String) (post : MarketView → World β → Prop) (world : World β) (inv : Inv ids world)
    (atOnce : ∀ view, post view world)
    (resumed : ∀ view later, contract.rely point world later (some view) → Inv ids later → post view later) :
    (engine.marketView point symbol world).Meets contract post :=
  market_view_meets engine contract point symbol post world (rules.pause point ids world inv)
    (fun later relied => rules.fail ids later (rules.rely point ids world later none relied inv)) atOnce
    (fun view later relied => resumed view later relied (rules.rely point ids world later (some view) relied inv))

theorem process_decision_meets (rules : engine.Rules contract Inv Ready) (decision : DecisionGenerated)
    (world : World β) (inv : Inv [] world) :
    (engine.processDecision decision world).Meets contract (fun _ later => Inv [] later) := by
  have screened := rules.quiet [] world _ (engine.screen_quiet decision world) inv
  have entered (entry : Entry) (view : MarketView) (later : World β) (kept : Inv [] later) :
      Inv [] (engine.enter decision entry view later) := by
    rcases engine.enter_effect decision entry view later with quiet | ⟨id, position, kill, breaker, admitted, opened⟩
    · exact rules.quiet [] later _ quiet kept
    · exact rules.opened later _ id position kill breaker admitted opened kept
  rw [processDecision]
  rw [Task.meets_seq, Task.meets_sync]
  cases (engine.screen decision world).1 with
  | none => exact screened
  | some entry =>
      rw [Task.meets_seq]
      refine view_meets rules [] _ _ _ _ screened (fun view => entered entry view _ screened) ?_
      exact fun view later _ kept => entered entry view later kept

theorem close_position_meets (rules : engine.Rules contract Inv Ready) (id : PositionId) (ids : List PositionId)
    (reason : ExitReason) (exitReasons : List String) (world : World β) (kept : Inv ids world)
    (inv : id ∈ world.openIds → Inv (id :: ids) world) :
    (engine.closePosition id reason exitReasons world).Meets contract (fun _ later => Inv ids later) := by
  have quiet := start_close_quiet id reason exitReasons world
  rw [closePosition]
  rw [Task.meets_seq, Task.meets_sync]
  cases started : (startClose id reason exitReasons world).1 with
  | none => exact rules.quiet ids world _ quiet kept
  | some order =>
      obtain ⟨rfl, present⟩ := start_close_order id reason exitReasons world order started
      have openStill : order.id ∈ (startClose order.id reason exitReasons world).2.openIds := by
        rw [openIds, quiet.positions]
        exact present
      have finish (view : MarketView) (later : World β) (ready : Ready order view later)
          (here : Inv (order.id :: ids) later) : Inv ids (engine.finishClose order view later) := by
        cases found : later.positions.object order.id with
        | none =>
            have nothing : engine.finishClose order view later = later := by simp only [finishClose, found]
            rw [nothing]
            exact rules.drop _ _ _ here
        | some position =>
            rcases engine.finish_close_effect order view later position found with ⟨-, quiet⟩ | ⟨fill, filled, settled⟩
            · exact rules.quiet ids later _ quiet (rules.drop _ _ _ here)
            · exact rules.finished ids later _ order view position fill ready found filled settled here
      have here := rules.quiet _ world _ quiet (inv present)
      rw [Task.meets_seq]
      refine view_meets rules (order.id :: ids) _ _ _ _ here ?_ ?_
      · exact fun view => finish view _ (rules.readyNow order view _ openStill) here
      · intro view later relied there
        exact finish view later (rules.readyLater order view _ later openStill relied) there

theorem exit_reason_meets (rules : engine.Rules contract Inv Ready) (id : PositionId) (ids : List PositionId)
    (world : World β) (inv : Inv (id :: ids) world) :
    (engine.exitReason id world).Meets contract (fun _ later => Inv (id :: ids) later) := by
  rw [exitReason]
  rw [Task.meets_seq, Task.meets_get]
  cases world.positions.object id with
  | none => exact inv
  | some position =>
      dsimp only
      split
      · exact inv
      · rw [Task.meets_seq]
        have judged (turned : Bool) (later : World β) (kept : Inv (id :: ids) later) :
            ((if turned then pure (some ExitReason.regimeChange) else do
                let latest ← Task.get
                pure ((latest.positions.object id).bind Position.checkExit) : Flow β (Option ExitReason)) later).Meets
              contract (fun _ later => Inv (id :: ids) later) := by
          cases turned with
          | true => exact kept
          | false => exact kept
        rw [regimeTurnedAgainst]
        rw [Task.meets_seq, Task.meets_get]
        split
        · rw [Task.meets_seq]
          refine view_meets rules (id :: ids) _ _ _ world inv ?_ ?_
          · intro view
            exact judged _ _ (rules.touched id ids world _ (engine.read_regime_effect id view world) inv)
          · intro view later _ kept
            exact judged _ _ (rules.touched id ids later _ (engine.read_regime_effect id view later) kept)
        · exact judged false world inv

theorem manage_position_meets (rules : engine.Rules contract Inv Ready) (id : PositionId) (ids : List PositionId)
    (world : World β) (inv : Inv (id :: ids) world) :
    (engine.managePosition id world).Meets contract (fun _ later => Inv ids later) := by
  have marked := rules.touched id ids world _ (engine.mark_and_manage_effect id world) inv
  rw [managePosition]
  rw [Task.meets_seq, Task.meets_sync]
  split
  · rw [Task.meets_seq]
    refine Co.meets_mono contract _ _ _ ?_ (exit_reason_meets rules id ids _ marked)
    intro reason later kept
    cases reason with
    | none => exact rules.drop _ _ _ kept
    | some reason => exact close_position_meets rules id ids reason [] later (rules.drop _ _ _ kept) (fun _ => kept)
  · exact rules.drop _ _ _ marked

theorem refresh_risk_meets (rules : engine.Rules contract Inv Ready) (world : World β) (inv : Inv [] world) :
    (engine.refreshRisk world).Meets contract (fun _ later => Inv [] later) := by
  have valued := refresh_risk_effect world
  have kept := rules.valued world _ valued inv
  rw [refreshRisk]
  rw [Task.meets_seq, Task.meets_sync]
  refine Task.each_meets contract _ Inv ?_ _ _ ?_
  · intro id rest later here
    exact close_position_meets rules id rest _ _ later (rules.drop _ _ _ here) (fun _ => here)
  · cases refresh_risk_ids world with
      | inl none =>
          rw [none]
          exact kept
      | inr all =>
          rw [all, openIds, ← valued.positions]
          exact rules.takeAll _ kept

theorem manage_once_meets (rules : engine.Rules contract Inv Ready) (world : World β) (inv : Inv [] world) :
    (engine.manageOnce world).Meets contract (fun _ later => Inv [] later) := by
  have reconciled := reconcile_keeps rules _ (rules.synced world inv)
  rw [manageOnce]
  rw [Task.meets_seq, Task.meets_modify, Task.meets_seq, Task.meets_modify, Task.meets_seq, Task.meets_sync,
    Task.meets_seq]
  refine Co.meets_mono contract _ _ _ (fun _ later kept => refresh_risk_meets rules later kept) ?_
  refine Task.each_meets contract _ Inv ?_ _ _ (rules.takeAll _ reconciled)
  exact fun id rest later here => manage_position_meets rules id rest later here

theorem perform_meets (rules : engine.Rules contract Inv Ready) (job : Job) (world : World β) (inv : Inv [] world) :
    (engine.perform job world).Meets contract (fun _ later => Inv [] later) := by
  cases job with
  | decide decision => exact process_decision_meets rules decision world inv
  | manage => exact manage_once_meets rules world inv
  | close id reason exitReasons =>
      exact close_position_meets rules id [] reason exitReasons world inv (fun present => rules.take id world present inv)
  | modifyStop id stopLoss =>
      rw [perform, Task.meets_modify]
      by_cases present : id ∈ world.openIds
      · exact rules.drop _ _ _ (rules.touched id [] world _ (modify_stop_effect id stopLoss world)
          (rules.take id world present inv))
      · rw [modifyStop, PositionManager.get, (Dict.lookup_none_iff _ _).mpr present]
        exact inv
  | moveBreakEven id =>
      rw [perform, Task.meets_modify]
      by_cases present : id ∈ world.openIds
      · exact rules.drop _ _ _ (rules.touched id [] world _ (break_even_effect id world)
          (rules.take id world present inv))
      · rw [moveBreakEven, PositionManager.get, (Dict.lookup_none_iff _ _).mpr present]
        exact inv

end

end ExecutionEngine

end QuantEngine
