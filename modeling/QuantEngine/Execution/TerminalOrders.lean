import QuantEngine.Execution.Orders
import QuantEngine.Library.Run

set_option autoImplicit false

namespace QuantEngine.TerminalOrders

open Calendar (Moment)
open OrderManager
open Run (Each Along Always)

inductive Call where
  | create (id : OrderId) (request : OrderRequest) (now : Moment)
  | applyFill (id : OrderId) (fill : Fill)
  | reject (id : OrderId) (reason : RejectReason) (now : Moment)
  | cancel (id : OrderId)
  | createOco (orderIds : List OrderId) (groupId : String)

def step (manager : OrderManager) : Call → OrderManager
  | .create id request now => manager.create id request now
  | .applyFill id fill => manager.applyFill id fill
  | .reject id reason now => manager.reject id reason now
  | .cancel id => manager.cancel id
  | .createOco orderIds groupId => manager.createOco orderIds groupId

-- A new order has an id of its own, and the other calls are made on orders that
-- the manager created.
def Own (manager : OrderManager) : Call → Prop
  | .create id _ _ => manager.get id = none
  | .applyFill id _ | .reject id _ _ | .cancel id => ∃ order, manager.get id = some order
  | .createOco _ _ => True

def TerminalStays (before after : OrderManager) : Prop :=
  ∀ id, ∀ order ∈ before.get id, order.isTerminal = true →
    ∃ kept ∈ after.get id, kept.status = order.status ∧ kept.filledQuantity = order.filledQuantity

def accounted (manager : OrderManager) : Nat :=
  manager.filled + manager.rejected + manager.cancelled + manager.activeOrders.length

def Partitioned (manager : OrderManager) : Prop := manager.created = accounted manager

-- Only orders that are not terminal are filled or rejected.
def OnActive (manager : OrderManager) : Call → Prop
  | .applyFill id _ | .reject id _ _ => ∀ order ∈ manager.get id, order.isTerminal = false
  | _ => True

def live (order : Order) : Nat := if order.isTerminal then 0 else 1

theorem active_total (manager : OrderManager) :
    manager.activeOrders.length = manager.orders.total (fun entry => live entry.2) := by
  rw [activeOrders, Dict.filter_total]
  congr 1
  funext entry
  rw [live]
  cases entry.2.isTerminal <;> rfl

theorem same_terminal (a b : Order) (same : a.status = b.status) : a.isTerminal = b.isTerminal := by
  rw [Order.isTerminal, Order.isTerminal, same]

theorem terminal_refl (manager : OrderManager) : TerminalStays manager manager :=
  fun _ order held _ => ⟨order, held, rfl, rfl⟩

theorem terminal_trans (a b c : OrderManager) (first : TerminalStays a b) (second : TerminalStays b c) :
    TerminalStays a c := by
  intro id order held terminal
  obtain ⟨kept, here, status, quantity⟩ := first id order held terminal
  obtain ⟨last, there, lastStatus, lastQuantity⟩ := second id kept here ((same_terminal kept order status).trans terminal)
  exact ⟨last, there, lastStatus.trans status, lastQuantity.trans quantity⟩

-- A change of one order, in the table and in the number of active ones.
theorem modify_active (orders : Dict OrderId Order) (id : OrderId) (f : Order → Order) (order : Order)
    (held : orders.lookup id = some order) :
    (orders.modify id f).total (fun entry => live entry.2) + live order =
      orders.total (fun entry => live entry.2) + live (f order) := by
  have before := Dict.total_erase (fun entry : OrderId × Order => live entry.2) orders id order held
  have after := Dict.total_erase (fun entry : OrderId × Order => live entry.2) (orders.modify id f) id (f order)
    (Dict.lookup_modify_here orders id f order held)
  rw [Dict.entries_erase_modify] at after
  change _ = live order + _ at before
  change _ = live (f order) + _ at after
  omega

theorem modify_stays (manager after : OrderManager) (id : OrderId) (f : Order → Order)
    (orders : after.orders = manager.orders.modify id f) (active : ∀ order ∈ manager.get id, order.isTerminal = false) :
    TerminalStays manager after := by
  intro other order held terminal
  have apart : other ≠ id := by
    rintro rfl
    rw [active order held] at terminal
    cases terminal
  refine ⟨order, ?_, rfl, rfl⟩
  rw [OrderManager.get, orders, Dict.lookup_modify, if_neg apart]
  exact held

-- What a cancellation, and anything made of them, leaves alone.
structure Keeps (before after : OrderManager) : Prop where
  created : after.created = before.created
  accounted : accounted after = accounted before
  stays : TerminalStays before after

theorem keeps_refl (manager : OrderManager) : Keeps manager manager := ⟨rfl, rfl, terminal_refl manager⟩

theorem keeps_trans (a b c : OrderManager) (first : Keeps a b) (second : Keeps b c) : Keeps a c :=
  ⟨second.created.trans first.created, second.accounted.trans first.accounted, terminal_trans a b c first.stays second.stays⟩

theorem keeps_each {α : Type} (f : OrderManager → α → OrderManager) (keeps : ∀ manager item, Keeps manager (f manager item))
    (manager : OrderManager) (items : List α) : Keeps manager (items.foldl f manager) := by
  induction items generalizing manager with
  | nil => exact keeps_refl manager
  | cons item rest ih => exact keeps_trans _ _ _ (keeps manager item) (ih (f manager item))

theorem cancel_keeps (manager : OrderManager) (id : OrderId) : Keeps manager (manager.cancel id) := by
  rw [OrderManager.cancel]
  cases held : manager.get id with
  | none => exact keeps_refl manager
  | some order =>
      dsimp only
      split
      · exact keeps_refl manager
      · rename_i active
        have moved := modify_active manager.orders id (fun order => { order with status := .cancelled }) order held
        have alive : live order = 1 := if_neg active
        have dead : live { order with status := .cancelled } = 0 := rfl
        refine ⟨rfl, ?_, modify_stays manager _ id _ rfl ?_⟩
        · simp only [accounted, active_total]
          omega
        · intro other same
          cases Option.some.inj (held.symm.trans same)
          exact Bool.eq_false_iff.mpr active

theorem fire_keeps (manager : OrderManager) (filledId : OrderId) (groupId : String) :
    Keeps manager (manager.fireOco filledId groupId) := by
  rw [fireOco]
  cases manager.oco.lookup groupId with
  | none => exact keeps_refl manager
  | some group =>
      dsimp only
      split
      · have used : Keeps manager
            { manager with oco := manager.oco.modify groupId (fun group => { group with active := false }) } :=
          ⟨rfl, rfl, terminal_refl manager⟩
        exact keeps_trans _ _ _ used (keeps_each OrderManager.cancel cancel_keeps _ _)
      · exact keeps_refl manager

theorem siblings_keep (manager : OrderManager) (filledId : OrderId) : Keeps manager (manager.cancelOcoSiblings filledId) :=
  keeps_each _ (fun manager groupId => fire_keeps manager filledId groupId) manager _

def written (manager : OrderManager) (id : OrderId) (fill : Fill) : OrderManager :=
  { manager with orders := manager.orders.modify id (fun order => order.applyFill fill) }

def counted (manager : OrderManager) (id : OrderId) (fill : Fill) : OrderManager :=
  { written manager id fill with filled := manager.filled + 1 }

theorem fill_status (order : Order) (fill : Fill) :
    (order.applyFill fill).status = .filled ∨ (order.applyFill fill).status = .partiallyFilled := by
  obtain ⟨full, decidable, status⟩ : ∃ full : Prop, ∃ _ : Decidable full,
      (order.applyFill fill).status = if full then .filled else .partiallyFilled := ⟨_, _, rfl⟩
  rw [status]
  split
  · exact .inl rfl
  · exact .inr rfl

-- A fill makes an order filled, which counts and fires its groups, or leaves it
-- partially filled.
theorem fill_cases (manager : OrderManager) (id : OrderId) (fill : Fill) (order : Order) (held : manager.get id = some order) :
    (written manager id fill).get id = some (order.applyFill fill) ∧
      ((order.applyFill fill).status = .filled ∧
          manager.applyFill id fill = (counted manager id fill).cancelOcoSiblings id ∨
        (order.applyFill fill).status = .partiallyFilled ∧ manager.applyFill id fill = written manager id fill) := by
  have here : (written manager id fill).get id = some (order.applyFill fill) :=
    Dict.lookup_modify_here manager.orders id _ order held
  refine ⟨here, ?_⟩
  rw [written] at here
  simp only [OrderManager.applyFill, here]
  rcases fill_status order fill with full | part
  · exact .inl ⟨full, if_pos full⟩
  · exact .inr ⟨part, if_neg (by simp [part])⟩

theorem fill_active (manager : OrderManager) (id : OrderId) (fill : Fill) (order : Order) (held : manager.get id = some order)
    (active : order.isTerminal = false) : Keeps manager (manager.applyFill id fill) := by
  have moved := modify_active manager.orders id (fun order => order.applyFill fill) order held
  have alive : live order = 1 := by simp [live, active]
  have stays (after : OrderManager) (orders : after.orders = manager.orders.modify id (fun order => order.applyFill fill)) :
      TerminalStays manager after := by
    refine modify_stays manager after id _ orders fun other same => ?_
    cases Option.some.inj (held.symm.trans same)
    exact active
  obtain ⟨-, ⟨full, filled⟩ | ⟨part, filled⟩⟩ := fill_cases manager id fill order held
  · rw [filled]
    have dead : live (order.applyFill fill) = 0 := by simp [live, Order.isTerminal, full]
    have first : Keeps manager (counted manager id fill) := by
      refine ⟨rfl, ?_, stays _ rfl⟩
      simp only [accounted, active_total, counted, written]
      omega
    exact keeps_trans _ _ _ first (siblings_keep _ id)
  · rw [filled]
    refine ⟨rfl, ?_, stays _ rfl⟩
    have still : live (order.applyFill fill) = 1 := by simp [live, Order.isTerminal, part]
    simp only [accounted, active_total, written]
    omega

-- A fill of a terminal order changes it or is counted once more.
theorem fill_terminal (manager : OrderManager) (id : OrderId) (fill : Fill) (order : Order) (held : manager.get id = some order)
    (terminal : order.isTerminal = true) (partitioned : Partitioned manager)
    (stays : TerminalStays manager (manager.applyFill id fill)) : ¬ Partitioned (manager.applyFill id fill) := by
  have moved := modify_active manager.orders id (fun order => order.applyFill fill) order held
  have dead : live order = 0 := by simp [live, terminal]
  obtain ⟨here, ⟨full, filled⟩ | ⟨part, filled⟩⟩ := fill_cases manager id fill order held
  · have still : live (order.applyFill fill) = 0 := by simp [live, Order.isTerminal, full]
    have keeps := siblings_keep (counted manager id fill) id
    rw [filled, Partitioned, keeps.created, keeps.accounted]
    simp only [Partitioned, accounted, active_total, counted, written] at partitioned ⊢
    omega
  · obtain ⟨kept, after, status, -⟩ := stays id order held terminal
    rw [filled] at after
    cases Option.some.inj (here.symm.trans after)
    rw [← same_terminal _ _ status, Order.isTerminal, part] at terminal
    cases terminal

theorem reject_moves (manager : OrderManager) (id : OrderId) (reason : RejectReason) (now : Moment) (order : Order)
    (held : manager.get id = some order) :
    accounted (manager.reject id reason now) + live order = accounted manager + 1 := by
  have moved := modify_active manager.orders id (fun order => order.reject reason now) order held
  have dead : live (order.reject reason now) = 0 := rfl
  simp only [accounted, active_total, OrderManager.reject]
  omega

theorem create_fresh (manager : OrderManager) (id : OrderId) (request : OrderRequest) (now : Moment)
    (fresh : manager.get id = none) :
    accounted (manager.create id request now) = accounted manager + 1 ∧ TerminalStays manager (manager.create id request now) := by
  have absent := (Dict.lookup_none_iff _ _).mp fresh
  constructor
  · have added := Dict.total_insert_fresh (fun entry : OrderId × Order => live entry.2) manager.orders id
      { request := request, status := .pending, updatedAt := now } absent
    change _ = _ + 1 at added
    simp only [accounted, active_total, OrderManager.create]
    omega
  · intro other order held _
    have apart : other ≠ id := by
      rintro rfl
      rw [fresh] at held
      cases held
    refine ⟨order, ?_, rfl, rfl⟩
    rw [OrderManager.get, OrderManager.create, Dict.lookup_insert, if_neg apart]
    exact held

-- A call keeps terminal orders and the count of all orders exactly where it is
-- made on an active one.
theorem step_iff (manager : OrderManager) (call : Call) (partitioned : Partitioned manager) (own : Own manager call) :
    TerminalStays manager (step manager call) ∧ Partitioned (step manager call) ↔ OnActive manager call := by
  have kept (after : OrderManager) (keeps : Keeps manager after) : TerminalStays manager after ∧ Partitioned after :=
    ⟨keeps.stays, by rw [Partitioned, keeps.created, keeps.accounted]; exact partitioned⟩
  cases call with
  | create id request now =>
      obtain ⟨one, stays⟩ := create_fresh manager id request now own
      refine iff_of_true ⟨stays, ?_⟩ trivial
      change manager.created + 1 = _
      rw [step, one, partitioned]
  | applyFill id fill =>
      obtain ⟨order, held⟩ := own
      constructor
      · rintro ⟨stays, counts⟩ other same
        cases Option.some.inj (held.symm.trans same)
        refine Bool.eq_false_iff.mpr fun terminal => ?_
        exact fill_terminal manager id fill order held terminal partitioned stays counts
      · intro active
        exact kept _ (fill_active manager id fill order held (active order held))
  | reject id reason now =>
      obtain ⟨order, held⟩ := own
      have moves := reject_moves manager id reason now order held
      constructor
      · rintro ⟨-, counts⟩ other same
        cases Option.some.inj (held.symm.trans same)
        refine Bool.eq_false_iff.mpr fun terminal => ?_
        have dead : live order = 0 := if_pos terminal
        have created : manager.created = accounted (manager.reject id reason now) := counts
        rw [Partitioned] at partitioned
        omega
      · intro active
        have alive : live order = 1 := by simp [live, active order held]
        refine kept _ ⟨rfl, by simp only [step]; omega, modify_stays manager _ id _ rfl fun other same => ?_⟩
        exact active other same
  | cancel id => exact iff_of_true (kept _ (cancel_keeps manager id)) trivial
  | createOco orderIds groupId => exact iff_of_true (kept _ ⟨rfl, rfl, terminal_refl manager⟩) trivial

-- From an empty manager, terminal orders stay as they are and the counters
-- account for every order throughout a run exactly where no fill and no
-- rejection is of a terminal order.
theorem orders_partitioned_iff (historyLimit : Nat) (calls : List Call) (own : Each step Own { historyLimit } calls) :
    Along step TerminalStays { historyLimit } calls ∧ Always step Partitioned { historyLimit } calls ↔
      Each step OnActive { historyLimit } calls := by
  have steps := Run.each_iff_where step Own (fun manager call => TerminalStays manager (step manager call) ∧
      Partitioned (step manager call)) OnActive Partitioned step_iff
    (fun manager call partitioned own active => ((step_iff manager call partitioned own).mpr active).2)
    { historyLimit } calls rfl own
  rw [← steps]
  constructor
  · rintro ⟨stays, -, counts⟩
    exact Run.each_and step _ _ _ calls stays counts
  · intro both
    exact ⟨Run.each_mono step _ _ (fun _ _ => And.left) _ calls both, rfl,
      Run.each_mono step _ _ (fun _ _ => And.right) _ calls both⟩

def asked : OrderRequest := { requestId := .fresh 0, symbol := "XAUUSD", side := .buy, quantity := 1 }

def full : Fill :=
  { requestId := .fresh 0, symbol := "XAUUSD", side := .buy, quantity := 1, requestedQuantity := 1, referencePrice := 2000,
    price := 2000, executedAt := 0 }

def pair : List Call := [.create 0 asked 0, .create 1 asked 0, .createOco [0, 1] "a", .applyFill 0 full]

theorem orders_partitioned_iff_pair :
    Along step TerminalStays { historyLimit := 10 } pair ∧ Always step Partitioned { historyLimit := 10 } pair := by
  refine (orders_partitioned_iff 10 pair ⟨rfl, rfl, trivial, ⟨_, rfl⟩, trivial⟩).mpr ⟨trivial, trivial, trivial, ?_, trivial⟩
  intro order held
  cases held
  rfl

-- The order that its sibling's fill cancelled is filled as well: of two orders,
-- two are filled and one is cancelled.
theorem cancelled_sibling_filled :
    Each step Own { historyLimit := 10 } (pair ++ [.applyFill 1 full]) ∧
      ¬ Along step TerminalStays { historyLimit := 10 } (pair ++ [.applyFill 1 full]) ∧
      ¬ Always step Partitioned { historyLimit := 10 } (pair ++ [.applyFill 1 full]) := by
  have before : ((Run.final step { historyLimit := 10 } pair).get 1).map Order.status = some .cancelled := by decide +kernel
  have after : ((step (Run.final step { historyLimit := 10 } pair) (.applyFill 1 full)).get 1).map Order.status =
      some .filled := by decide +kernel
  obtain ⟨order, held, cancelled⟩ := Option.map_eq_some_iff.mp before
  obtain ⟨refilled, there, filled⟩ := Option.map_eq_some_iff.mp after
  refine ⟨⟨rfl, rfl, trivial, ⟨_, rfl⟩, ⟨order, held⟩, trivial⟩, ?_, ?_⟩
  · intro along
    obtain ⟨kept, same, status, -⟩ :=
      ((Run.each_append step _ _ pair _).mp along).2.1 1 order held (by rw [Order.isTerminal, cancelled])
    cases Option.some.inj (there.symm.trans same)
    rw [filled, cancelled] at status
    cases status
  · intro always
    have last := Run.always_final _ _ _ _ always
    exact absurd last (by unfold Partitioned; decide +kernel)

end QuantEngine.TerminalOrders
