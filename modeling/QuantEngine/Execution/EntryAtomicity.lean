import QuantEngine.Execution.Acceptance
import Mathlib.Tactic.Linarith

set_option autoImplicit false

namespace QuantEngine.EntryAtomicity

open ExecutionEngine World

variable {β : Type}

def LeavesTerminal (before after : OrderManager) : Prop :=
  ∀ id order, after.get id = some order → order.isTerminal = true ∨ before.get id = some order

def KeepsTerminal (before after : OrderManager) : Prop :=
  ∀ id order, before.get id = some order → order.isTerminal = true → after.get id = some order

structure Ends (before after : OrderManager) : Prop where
  leaves : LeavesTerminal before after
  keeps : KeepsTerminal before after

theorem Ends.refl (manager : OrderManager) : Ends manager manager :=
  ⟨fun _ _ found => .inr found, fun _ _ found _ => found⟩

theorem Ends.trans {a b c : OrderManager} (first : Ends a b) (second : Ends b c) : Ends a c where
  leaves id order found := by
    cases second.leaves id order found with
    | inl terminal => exact .inl terminal
    | inr earlier => exact first.leaves id order earlier
  keeps id order found terminal := second.keeps id order (first.keeps id order found terminal) terminal

theorem cancel_ends (manager : OrderManager) (target : OrderId) : Ends manager (manager.cancel target) := by
  rw [OrderManager.cancel]
  cases present : manager.get target with
  | none => exact .refl manager
  | some held =>
      dsimp only
      by_cases ended : held.isTerminal = true
      · rw [if_pos ended]
        exact .refl manager
      · rw [if_neg ended]
        refine ⟨fun id order found => ?_, fun id order found terminal => ?_⟩
        · by_cases here : id = target
          · rw [here, OrderManager.get, Dict.lookup_modify_here _ target _ held present] at found
            exact .inl (Option.some.inj found ▸ rfl)
          · rw [OrderManager.get, Dict.lookup_modify_other _ target id _ here] at found
            exact .inr found
        · have other : id ≠ target := by
            intro here
            rw [here, present] at found
            exact ended (Option.some.inj found ▸ terminal)
          rw [OrderManager.get, Dict.lookup_modify_other _ target id _ other]
          exact found

theorem cancel_each_ends (targets : List OrderId) (manager : OrderManager) :
    Ends manager (targets.foldl OrderManager.cancel manager) := by
  induction targets generalizing manager with
  | nil => exact .refl manager
  | cons target rest ih => exact (cancel_ends manager target).trans (ih (manager.cancel target))

theorem fire_oco_ends (manager : OrderManager) (filledId : OrderId) (groupId : String) :
    Ends manager (manager.fireOco filledId groupId) := by
  rw [OrderManager.fireOco]
  cases manager.oco.lookup groupId with
  | none => exact .refl manager
  | some group =>
      dsimp only
      split
      · have cancelled := cancel_each_ends (group.orderIds.filter (fun other => decide (other ≠ filledId)))
          { manager with oco := manager.oco.modify groupId (fun group => { group with active := false }) }
        exact ⟨cancelled.leaves, cancelled.keeps⟩
      · exact .refl manager

theorem cancel_siblings_ends (manager : OrderManager) (filledId : OrderId) :
    Ends manager (manager.cancelOcoSiblings filledId) := by
  rw [OrderManager.cancelOcoSiblings]
  generalize manager.oco.keys = groups
  induction groups generalizing manager with
  | nil => exact .refl manager
  | cons groupId rest ih => exact (fire_oco_ends manager filledId groupId).trans (ih (manager.fireOco filledId groupId))

theorem created_here (manager : OrderManager) (id : OrderId) (request : OrderRequest) (now : Calendar.Moment) :
    (manager.create id request now).get id = some { request := request, status := .pending, updatedAt := now } := by
  rw [OrderManager.get, OrderManager.create, Dict.lookup_insert, if_pos rfl]

theorem created_other (manager : OrderManager) (id other : OrderId) (request : OrderRequest) (now : Calendar.Moment)
    (apart : other ≠ id) : (manager.create id request now).get other = manager.get other := by
  rw [OrderManager.get, OrderManager.create, Dict.lookup_insert, if_neg apart, OrderManager.get]

theorem rejected_terminal (manager : OrderManager) (id : OrderId) (request : OrderRequest) (reason : RejectReason)
    (created rejected : Calendar.Moment) :
    LeavesTerminal manager ((manager.create id request created).reject id reason rejected) := by
  intro other order found
  by_cases here : other = id
  · rw [here, OrderManager.get, OrderManager.reject,
      Dict.lookup_modify_here _ id _ _ (created_here manager id request created)] at found
    exact .inl (Option.some.inj found ▸ rfl)
  · rw [OrderManager.get, OrderManager.reject, Dict.lookup_modify_other _ id other _ here] at found
    exact .inr ((created_other manager id other request created here) ▸ found)

-- The one order that a fill leaves behind: filled, or only in part where the
-- fill falls short of what was asked for.
structure OneFilled (before after : OrderManager) (id : OrderId) (order : Order) (fill : Fill) : Prop where
  present : after.get id = some order
  fills : order.fills = [fill]
  quantity : order.filledQuantity = fill.quantity
  status : order.status = if order.request.quantity - fill.quantity ≤ 1 / 1000000000000 then .filled
    else .partiallyFilled
  others : ∀ other rest, after.get other = some rest → other = id ∨ rest.isTerminal = true ∨ before.get other = some rest

theorem first_fill_status (request : OrderRequest) (now : Calendar.Moment) (fill : Fill) :
    (Order.applyFill { request := request, status := .pending, updatedAt := now } fill).status =
      if request.quantity - fill.quantity ≤ 1 / 1000000000000 then .filled else .partiallyFilled := by
  simp only [Order.applyFill, Order.remainingQuantity, zero_add]
  by_cases whole : request.quantity - fill.quantity ≤ 1 / 1000000000000
  · rw [if_pos whole, if_pos (max_le (by norm_num) whole)]
  · rw [if_neg whole, if_neg (fun short => whole (le_trans (le_max_right _ _) short))]

theorem applied_fill (manager : OrderManager) (id : OrderId) (order : Order) (fill : Fill)
    (found : manager.get id = some order) :
    (manager.applyFill id fill).get id = some (order.applyFill fill) ∧
      ∀ other rest, (manager.applyFill id fill).get other = some rest →
        other = id ∨ rest.isTerminal = true ∨ manager.get other = some rest := by
  have here := Dict.lookup_modify_here manager.orders id (fun order => order.applyFill fill) order found
  have others (other : OrderId) (rest : Order)
      (held : (manager.orders.modify id (fun order => order.applyFill fill)).lookup other = some rest) :
      other = id ∨ manager.get other = some rest := by
    by_cases same : other = id
    · exact .inl same
    · rw [Dict.lookup_modify_other _ id other _ same] at held
      exact .inr held
  simp only [OrderManager.applyFill, OrderManager.get, here]
  split
  · rename_i whole
    have ends := cancel_siblings_ends { manager with
      orders := manager.orders.modify id (fun order => order.applyFill fill), filled := manager.filled + 1 } id
    refine ⟨ends.keeps id _ here (by rw [Order.isTerminal, whole]), fun other rest held => ?_⟩
    cases ends.leaves other rest held with
    | inl terminal => exact .inr (.inl terminal)
    | inr earlier =>
        cases others other rest earlier with
        | inl same => exact .inl same
        | inr old => exact .inr (.inr old)
  · refine ⟨here, fun other rest held => ?_⟩
    cases others other rest held with
    | inl same => exact .inl same
    | inr old => exact .inr (.inr old)

theorem created_filled (manager : OrderManager) (id : OrderId) (request : OrderRequest) (now : Calendar.Moment)
    (fill : Fill) : ∃ order, order.request = request ∧
      OneFilled manager ((manager.create id request now).applyFill id fill) id order fill := by
  obtain ⟨here, others⟩ := applied_fill (manager.create id request now) id _ fill (created_here manager id request now)
  refine ⟨_, rfl, here, rfl, zero_add _, first_fill_status request now fill, fun other rest held => ?_⟩
  by_cases same : other = id
  · exact .inl same
  · have old := others other rest held
    rw [created_other manager id other request now same] at old
    exact old

structure Untouched (before after : World β) : Prop where
  positions : after.positions = before.positions
  portfolio : after.portfolio = before.portfolio
  ledger : after.risk.ledger = before.risk.ledger
  streak : after.risk.consecutiveLosses = before.risk.consecutiveLosses
  journal : after.journal = before.journal
  orders : LeavesTerminal before.orders after.orders

structure Entered (before after : World β) (id : PositionId) (position : Position) : Prop where
  positions : after.positions.openPositions = before.positions.openPositions ++ [(id, position)]
  closed : after.positions.closed = before.positions.closed
  filled : ∃ fill orderId order, OneFilled before.orders after.orders orderId order fill ∧
    position.quantity = fill.quantity ∧ position.entryPrice = fill.price ∧
    after.portfolio = { before.portfolio with
      balance := before.portfolio.balance - fill.commission
      commissionPaid := before.portfolio.commissionPaid + fill.commission }
  ledger : after.risk.ledger = before.risk.ledger
  streak : after.risk.consecutiveLosses = before.risk.consecutiveLosses
  journal : after.journal = before.journal

def Outcome (before after : World β) : Option (PositionId × Position) → Prop
  | none => Untouched before after
  | some (id, position) => Entered before after id position

-- Identifiers are drawn once.
def Drawn (world : World β) : Prop := ∀ id ∈ world.openIds, id < world.nextId

-- An outcome is read off the books and the orders alone.
theorem outcome_from (start world after : World β) (result : Option (PositionId × Position))
    (positions : start.positions = world.positions) (portfolio : start.portfolio = world.portfolio)
    (ledger : start.risk.ledger = world.risk.ledger)
    (streak : start.risk.consecutiveLosses = world.risk.consecutiveLosses) (journal : start.journal = world.journal)
    (orders : start.orders = world.orders) (outcome : Outcome start after result) : Outcome world after result := by
  cases result with
  | none =>
      exact ⟨outcome.positions.trans positions, outcome.portfolio.trans portfolio, outcome.ledger.trans ledger,
        outcome.streak.trans streak, outcome.journal.trans journal, orders ▸ outcome.orders⟩
  | some opened =>
      exact ⟨positions ▸ outcome.positions, outcome.closed.trans (congrArg PositionManager.closed positions),
        orders ▸ portfolio ▸ outcome.filled, outcome.ledger.trans ledger, outcome.streak.trans streak,
        outcome.journal.trans journal⟩

theorem Untouched.refl (world : World β) : Untouched world world :=
  ⟨rfl, rfl, rfl, rfl, rfl, fun _ _ found => .inr found⟩

section

variable (engine : ExecutionEngine β)

def placed (decision : DecisionGenerated) (plan : EntryPlan) (world : World β) : Option (PositionId × Position) :=
  (engine.entryExecution decision plan world).1.fill.map (fun fill =>
    (world.nextId + 2, entryPosition decision plan fill))

def returned (decision : DecisionGenerated) (entry : Entry) (view : MarketView) (world : World β) :
    Option (PositionId × Position) :=
  if !(world.risk.checkSpread view.spreadBps).allowed then none
  else if !(world.risk.checkLiquidity view.volume).allowed then none
  else
    let spec := engine.instrumentSpec entry.symbol world
    let plan := engine.plan decision entry view spec.1 world
    if plan.sizing.quantity ≤ 0 then none
    else
      let verdict := spec.2.risk.evaluateEntry (riskQuery plan spec.2) spec.2.now
      if !verdict.1.allowed then none
      else placed engine decision plan { spec.2 with risk := verdict.2 }

def decided (decision : DecisionGenerated) : Flow β (Option (PositionId × Position)) := do
  match ← Task.sync (engine.screen decision) with
  | none => pure none
  | some entry =>
      let view ← engine.marketView (.entering entry.symbol) entry.symbol
      Task.sync (fun world => (returned engine decision entry view world, engine.enter decision entry view world))

theorem decided_processes (decision : DecisionGenerated) :
    (decided engine decision >>= fun _ => pure ()) = engine.processDecision decision := by
  funext world
  simp only [decided, processDecision, marketView]
  change Co.bind (Co.bind (.done _ _) _) _ = Co.bind (.done _ _) _
  simp only [Co.bind]
  cases (engine.screen decision world).1 with
  | none => rfl
  | some entry =>
      dsimp only
      by_cases context : engine.hasContext = true
      · simp only [context, if_true]
        change Co.await _ _ _ = Co.await _ _ _
        congr 1
        funext later input
        cases input <;> rfl
      · simp only [context]
        rfl

theorem reject_untouched (symbol : String) (side : OrderSide) (reason : RejectReason) (rule detail : String)
    (world : World β) : Untouched world (reject symbol side reason rule detail world) :=
  ⟨rfl, rfl, rfl, rfl, rfl, rejected_terminal world.orders _ _ reason _ _⟩

theorem evaluate_ledger (risk : RiskManager) (query : RiskQuery) (now : Calendar.Moment) :
    (risk.evaluateEntry query now).2.ledger = risk.ledger := by
  rw [RiskManager.evaluateEntry]
  split
  · rfl
  · simp only [RiskManager.refreshCircuitBreaker]
    split <;> rfl

theorem screen_entry (decision : DecisionGenerated) (world : World β) (entry : Entry)
    (found : (engine.screen decision world).1 = some entry) : (engine.screen decision world).2 = world := by
  rw [screen] at found ⊢
  cases side : entrySide decision with
  | none => rfl
  | some side =>
      rw [side] at found
      dsimp only at found ⊢
      split
      · rfl
      · rename_i enabled
        rw [if_neg enabled] at found
        cases veto : entryVeto world with
        | none => rfl
        | some reason =>
            rw [veto] at found
            cases found

theorem screen_untouched (decision : DecisionGenerated) (world : World β) :
    Untouched world (engine.screen decision world).2 := by
  rw [screen]
  cases entrySide decision with
  | none => exact .refl world
  | some side =>
      dsimp only
      split
      · exact .refl world
      · cases entryVeto world with
        | none => exact .refl world
        | some veto => exact reject_untouched _ side _ _ veto world

theorem place_order_outcome (decision : DecisionGenerated) (plan : EntryPlan) (killSwitch circuitBreaker : Bool)
    (world : World β) (drawn : Drawn world) :
    Outcome world (engine.placeOrder decision plan killSwitch circuitBreaker world) (placed engine decision plan world) := by
  cases filled : (engine.entryExecution decision plan world).1.fill with
  | none =>
      rw [placed, filled]
      rw [entryExecution] at filled
      simp only [placeOrder]
      split
      · exact ⟨rfl, rfl, rfl, rfl, rfl, rejected_terminal world.orders _ _ _ _ _⟩
      · rename_i other found
        cases filled.symm.trans found
  | some fill =>
      rw [placed, filled]
      rw [entryExecution] at filled
      simp only [placeOrder]
      split
      · rename_i found
        cases filled.symm.trans found
      · rename_i other found
        cases Option.some.inj (filled.symm.trans found)
        have unused : world.nextId + 2 ∉ world.openIds := by
          intro member
          exact absurd (drawn _ member) (Nat.not_lt.mpr (Nat.le_add_right _ 2))
        obtain ⟨order, -, one⟩ := created_filled world.orders (world.nextId + 1)
          (entryRequest (.fresh world.nextId) decision plan) world.now fill
        exact ⟨Dict.entries_insert_fresh _ _ _ unused, rfl, ⟨fill, _, order, one, rfl, rfl, rfl⟩, rfl, rfl, rfl⟩

theorem enter_outcome (decision : DecisionGenerated) (entry : Entry) (view : MarketView) (world : World β)
    (drawn : Drawn world) :
    Outcome world (engine.enter decision entry view world) (returned engine decision entry view world) := by
  obtain ⟨cache, same⟩ := engine.spec_cached entry.symbol world
  rw [enter, returned]
  by_cases spread : (!(world.risk.checkSpread view.spreadBps).allowed) = true
  · simp only [if_pos spread]
    exact reject_untouched _ _ _ _ _ world
  · simp only [if_neg spread]
    by_cases liquidity : (!(world.risk.checkLiquidity view.volume).allowed) = true
    · simp only [if_pos liquidity]
      exact reject_untouched _ _ _ _ _ world
    · simp only [if_neg liquidity, same]
      by_cases sized : (engine.plan decision entry view (engine.instrumentSpec entry.symbol world).1 world).sizing.quantity ≤ 0
      · simp only [if_pos sized]
        exact outcome_from { world with specCache := cache } world _ none rfl rfl rfl rfl rfl rfl
          (reject_untouched _ _ _ _ _ _)
      · simp only [if_neg sized, riskChecked]
        generalize engine.plan decision entry view (engine.instrumentSpec entry.symbol world).1 world = plan
        have ledger := evaluate_ledger world.risk (riskQuery plan { world with specCache := cache }) world.now
        have streak := (world.risk.evaluate_frame (riskQuery plan { world with specCache := cache }) world.now).2.1
        refine outcome_from { world with
            specCache := cache
            risk := (world.risk.evaluateEntry (riskQuery plan { world with specCache := cache }) world.now).2 }
          world _ _ rfl rfl ledger streak rfl rfl ?_
        split
        · exact reject_untouched _ _ _ _ _ _
        · exact place_order_outcome engine decision plan _ _ _ drawn

def resumed (decision : DecisionGenerated) (entry : Entry) (built : Option MarketView) (world : World β) :
    Co (World β) SuspensionPoint (Option MarketView) (Option (PositionId × Position)) :=
  match built with
  | none => .raised world
  | some view => .done (engine.enter decision entry view world) (returned engine decision entry view world)

theorem decided_waits (decision : DecisionGenerated) (world : World β) (entry : Entry)
    (context : engine.hasContext = true) (found : (engine.screen decision world).1 = some entry) :
    decided engine decision world = .await (engine.screen decision world).2 (.entering entry.symbol)
      (fun later built => resumed engine decision entry built later) := by
  simp only [decided, marketView, context, if_true]
  change Co.bind (.done _ _) _ = _
  simp only [Co.bind, found]
  change Co.await _ _ _ = _
  congr 1
  funext later built
  cases built <;> rfl

-- The last stretch of a call decides; what it did before a wait, if anything,
-- left the books alone. A view that could not be built counts as no position.
def AllOrNothing (run : List (World β × World β) × Option (Option (PositionId × Position))) : Prop :=
  ∃ waited last, run.1 = waited ++ [last] ∧ (∀ stretch ∈ waited, Untouched stretch.1 stretch.2) ∧
    Outcome last.1 last.2 run.2.join

theorem resumed_all_or_nothing (decision : DecisionGenerated) (entry : Entry) (built : Option MarketView)
    (around : SuspensionPoint → World β → World β × Option MarketView) (first : World β × World β)
    (untouched : Untouched first.1 first.2) (later : World β) (drawn : Drawn later) :
    AllOrNothing (first :: ((resumed engine decision entry built later).run around later).1,
      ((resumed engine decision entry built later).run around later).2) := by
  have waited (stretch : World β × World β) (member : stretch ∈ [first]) : Untouched stretch.1 stretch.2 :=
    List.mem_singleton.mp member ▸ untouched
  cases built with
  | none => exact ⟨[first], (later, later), rfl, waited, .refl later⟩
  | some view =>
      exact ⟨[first], (later, engine.enter decision entry view later), rfl, waited,
        enter_outcome engine decision entry view later drawn⟩

end

def buyGold : DecisionGenerated := ⟨"a", "XAUUSD", "open_long", true, 80, 1, "ruptura"⟩

def quotedGold : World PaperState :=
  .fresh { initialBalance := 100000 } {} none {} ⟨fun _ => some ⟨1999, 2000⟩, fun _ => []⟩ 0

def calmView : MarketView := ⟨none, none, some 5, "trending", "normal", none, some 2000, "europe"⟩

-- While its view is built, the clock goes on and nothing else does.
def aSecond (_ : SuspensionPoint) (world : World PaperState) : World PaperState × Option MarketView :=
  ({ world with now := world.now + 1000000 }, some calmView)

def fillingBy (partialFills : ℚ) : ExecutionEngine PaperState where
  settings := { initialBalance := 100000 }
  paper := { PaperBroker.midway with settings := { partialFillProbability := partialFills } }.broker
  hasContext := true

end QuantEngine.EntryAtomicity
