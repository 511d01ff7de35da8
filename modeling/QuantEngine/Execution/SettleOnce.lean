import QuantEngine.Execution.Rules

set_option autoImplicit false

namespace QuantEngine.SettleOnce

open ExecutionEngine World
open Run (Always Each)

variable {β : Type}

def settlements (id : PositionId) : List Happening :=
  [.closingExecuted id, .portfolioSettled id, .riskSettled id, .journaled id]

def closedCount (world : World β) (id : PositionId) : Nat :=
  world.positions.closed.countP (fun entry => decide (entry.1 = id))

-- The broker's closing orders, the history of closed positions, the two
-- managers' books and the journal hold a position at most once.
def SettledAtMostOnce (world : World β) : Prop :=
  ∀ id, closedCount world id ≤ 1 ∧ ∀ happening ∈ settlements id, world.history.count happening ≤ 1

def Unsettled (world : World β) (id : PositionId) : Prop :=
  closedCount world id = 0 ∧ ∀ happening ∈ settlements id, world.history.count happening = 0

structure Inv (world : World β) : Prop where
  once : SettledAtMostOnce world
  openUnsettled : ∀ id ∈ world.openIds, Unsettled world id
  freshUnsettled : ∀ id, world.nextId ≤ id → Unsettled world id
  below : ∀ id ∈ world.openIds, id < world.nextId

-- A close that gets its market view still finds its position open, or the
-- broker gives no fill for it.
def Ready (engine : ExecutionEngine β) (order : ClosingOrder) (view : MarketView) (world : World β) : Prop :=
  order.id ∈ world.openIds ∨ ∀ position, world.positions.object order.id = some position →
    (engine.closeExecution order position view world).1.fill = none

def resumable (engine : ExecutionEngine β) : SuspensionPoint → Option MarketView → World β → Prop
  | .closing order, some view, world => Ready engine order view world
  | _, _, _ => True

def Undoubled (engine : ExecutionEngine β) (session : Session β) (event : Event β) : Prop :=
  Pool.Admissible (resumable engine) session event

theorem closed_count_modify (manager : PositionManager) (target id : PositionId) (f : Position → Position) :
    (manager.modify target f).closed.countP (fun entry => decide (entry.1 = id)) =
      manager.closed.countP (fun entry => decide (entry.1 = id)) := by
  simp only [PositionManager.modify, List.countP_map]
  exact List.countP_congr (fun entry _ => by simp only [Function.comp, Dict.modify_entry_key])

theorem settled_closed (world later : World β) (id : PositionId) (position : Position) (fill : Fill)
    (executed : List Happening) (settled : world.Settled later id position fill executed) (other : PositionId) :
    closedCount later other = closedCount world other + if id = other then 1 else 0 := by
  obtain ⟨reason, exitReasons, now, positions⟩ := settled.positions
  simp only [closedCount, positions, PositionManager.close, List.countP_append, closed_count_modify,
    List.countP_singleton, decide_eq_true_eq]

theorem settled_history (world later : World β) (id : PositionId) (position : Position) (fill : Fill)
    (executed : List Happening) (closing : executed = [] ∨ executed = [.closingExecuted id])
    (settled : world.Settled later id position fill executed) (other : PositionId) (happening : Happening)
    (member : happening ∈ settlements other) :
    later.history.count happening ≤ world.history.count happening + if id = other then 1 else 0 := by
  rw [settled.history, List.count_append]
  apply Nat.add_le_add_left
  simp only [settlements, List.mem_cons, List.not_mem_nil, or_false] at member
  by_cases same : id = other
  · subst other
    rcases closing with rfl | rfl <;> rcases member with rfl | rfl | rfl | rfl <;> simp
  · rcases closing with rfl | rfl <;> rcases member with rfl | rfl | rfl | rfl <;> simp [same]

theorem unsettled_same (world later : World β) (id : PositionId)
    (closed : closedCount later id = closedCount world id)
    (history : ∀ happening ∈ settlements id, later.history.count happening = world.history.count happening)
    (unsettled : Unsettled world id) : Unsettled later id :=
  ⟨closed.trans unsettled.1, fun happening member => (history happening member).trans (unsettled.2 happening member)⟩

theorem counts_inv (world later : World β) (closed : ∀ id, closedCount later id = closedCount world id)
    (history : ∀ id, ∀ happening ∈ settlements id, later.history.count happening = world.history.count happening)
    (opened : ∀ id ∈ later.openIds, id ∈ world.openIds ∨ world.nextId ≤ id)
    (below : ∀ id ∈ later.openIds, id < later.nextId) (ids : world.nextId ≤ later.nextId) (inv : Inv world) :
    Inv later where
  once id := by
    obtain ⟨few, rare⟩ := inv.once id
    refine ⟨closed id ▸ few, fun happening member => ?_⟩
    rw [history id happening member]
    exact rare happening member
  openUnsettled id member := by
    cases opened id member with
      | inl old => exact unsettled_same world later id (closed id) (history id) (inv.openUnsettled id old)
      | inr fresh => exact unsettled_same world later id (closed id) (history id) (inv.freshUnsettled id fresh)
  freshUnsettled id fresh :=
    unsettled_same world later id (closed id) (history id) (inv.freshUnsettled id (Nat.le_trans ids fresh))
  below := below

theorem same_positions_inv (world later : World β) (positions : later.positions = world.positions)
    (history : ∀ id, ∀ happening ∈ settlements id, later.history.count happening = world.history.count happening)
    (ids : world.nextId ≤ later.nextId) (inv : Inv world) : Inv later := by
  refine counts_inv world later ?_ history ?_ ?_ ids inv
  · exact fun id => by rw [closedCount, positions, closedCount]
  · exact fun id member => .inl (by rwa [openIds, positions] at member)
  · intro id member
    rw [openIds, positions] at member
    exact Nat.lt_of_lt_of_le (inv.below id member) ids

theorem valued_counts (world later : World β) (valued : world.Valued later) (id : PositionId) :
    ∀ happening ∈ settlements id, later.history.count happening = world.history.count happening := by
  obtain ⟨killSwitch, history, -⟩ := valued.history
  intro happening member
  rw [history, List.count_append, List.count_singleton]
  simp only [settlements, List.mem_cons, List.not_mem_nil, or_false] at member
  rcases member with rfl | rfl | rfl | rfl <;> rfl

theorem touched_inv (world later : World β) (id : PositionId) (touched : world.Touched later id) (inv : Inv world) :
    Inv later := by
  obtain ⟨f, -, changed⟩ := touched.positions
  have keys : later.openIds = world.openIds := by
    rw [openIds, changed]
    exact Dict.keys_modify _ _ _
  refine counts_inv world later ?_ ?_ ?_ ?_ touched.ids inv
  · exact fun other => by rw [closedCount, changed, closed_count_modify, closedCount]
  · exact fun _ _ _ => by rw [touched.history]
  · exact fun other member => .inl (keys ▸ member)
  · exact fun other member => Nat.lt_of_lt_of_le (inv.below other (keys ▸ member)) touched.ids

theorem opened_inv (world later : World β) (id : PositionId) (position : Position) (killSwitch circuitBreaker : Bool)
    (opened : world.Opened later id position killSwitch circuitBreaker) (inv : Inv world) : Inv later := by
  have keys (other : PositionId) (member : other ∈ later.openIds) : other = id ∨ other ∈ world.openIds := by
    rw [openIds, opened.positions] at member
    exact (Dict.mem_keys_insert _ _ _ _).mp member
  refine counts_inv world later ?_ ?_ ?_ ?_ opened.ids inv
  · exact fun other => by rw [closedCount, opened.positions]; rfl
  · intro other happening member
    rw [opened.history, List.count_append]
    simp only [settlements, List.mem_cons, List.not_mem_nil, or_false] at member
    rcases member with rfl | rfl | rfl | rfl <;> simp
  · intro other member
    rcases keys other member with rfl | old
    · exact .inr opened.fresh
    · exact .inl old
  · intro other member
    rcases keys other member with rfl | old
    · exact opened.used
    · exact Nat.lt_of_lt_of_le (inv.below other old) opened.ids

theorem settled_inv (world later : World β) (id : PositionId) (position : Position) (fill : Fill)
    (executed : List Happening) (closing : executed = [] ∨ executed = [.closingExecuted id])
    (present : id ∈ world.openIds) (settled : world.Settled later id position fill executed) (inv : Inv world) :
    Inv later := by
  have closed := settled_closed world later id position fill executed settled
  have history := settled_history world later id position fill executed closing settled
  have others (other : PositionId) (apart : id ≠ other) (unsettled : Unsettled world other) : Unsettled later other := by
    have same := closed other
    rw [if_neg apart] at same
    refine ⟨same.trans unsettled.1, fun happening member => ?_⟩
    have bound := history other happening member
    rw [if_neg apart, unsettled.2 happening member] at bound
    exact Nat.le_zero.mp bound
  have left := settled_keys world later id position fill executed settled
  refine ⟨?_, ?_, ?_, ?_⟩
  · intro other
    by_cases same : id = other
    · subst other
      obtain ⟨none, never⟩ := inv.openUnsettled id present
      have count := closed id
      rw [if_pos rfl, none] at count
      refine ⟨Nat.le_of_eq count, fun happening member => ?_⟩
      have bound := history id happening member
      rwa [if_pos rfl, never happening member] at bound
    · obtain ⟨few, rare⟩ := inv.once other
      have count := closed other
      rw [if_neg same] at count
      refine ⟨count ▸ few, fun happening member => ?_⟩
      have bound := history other happening member
      rw [if_neg same] at bound
      exact Nat.le_trans bound (rare happening member)
  · intro other member
    obtain ⟨old, apart⟩ := left other member
    exact others other (Ne.symm apart) (inv.openUnsettled other old)
  · intro other fresh
    have used := Nat.lt_of_lt_of_le (inv.below id present) (Nat.le_trans settled.ids fresh)
    exact others other (Nat.ne_of_lt used) (inv.freshUnsettled other (Nat.le_trans settled.ids fresh))
  · intro other member
    exact Nat.lt_of_lt_of_le (inv.below other (left other member).1) settled.ids

theorem settle_rules (engine : ExecutionEngine β) :
    engine.Rules (Pool.Sharing Inv (resumable engine)) (fun _ => Inv) (Ready engine) where
  pause _ _ _ inv := inv
  fail _ _ inv := inv
  rely _ _ _ _ _ relied _ := relied.1
  readyNow _ _ _ present := .inl present
  readyLater _ _ _ _ _ relied := relied.2
  drop _ _ _ inv := inv
  take _ _ _ inv := inv
  takeAll _ inv := inv
  quiet _ world later quiet inv :=
    same_positions_inv world later quiet.positions (fun _ _ _ => by rw [quiet.history]) quiet.ids inv
  valued world later valued inv :=
    same_positions_inv world later valued.positions (valued_counts world later valued) valued.ids inv
  touched id _ world later touched inv := touched_inv world later id touched inv
  synced world inv := by
    rw [syncBrokerBalance]
    split
    · exact inv
    · exact same_positions_inv world _ rfl (fun _ _ _ => rfl) (Nat.le_refl _) inv
  opened world later id position _ _ _ opened inv := opened_inv world later id position _ _ opened inv
  external world later id position fill found settled inv :=
    settled_inv world later id position fill [] (.inl rfl) (Dict.mem_keys_of_lookup _ _ _ found) settled inv
  finished _ world later order view position fill ready found filled settled inv := by
    cases ready with
      | inl present => exact settled_inv world later order.id position fill _ (.inr rfl) present settled inv
      | inr unfilled =>
          rw [unfilled position found] at filled
          cases filled

def withContext : ExecutionEngine PaperState where
  settings := {}
  paper := PaperBroker.midway.broker
  hasContext := true

def quiet : MarketView := ⟨none, none, none, "trending", "normal", none, none, "europe"⟩

def gold : Position := .postInit {
  symbol := "XAUUSD", side := .long, quantity := 1, initialQuantity := 1, entryPrice := 1990, initialStop := some 1980
  stopLoss := some 1980, takeProfit := some 2005, openedAt := 0 }

def oneOpen : Session PaperState where
  state := { World.fresh {} {} none {} ⟨fun _ => some ⟨2000, 2001⟩, fun _ => []⟩ 60000000 with
    positions := { opened := Dict.empty.insert 0 gold }
    nextId := 1 }
  waiting := []

def twoCloses : List (Event PaperState) :=
  [.spawn (.close 0 .manual []), .spawn (.close 0 .killSwitch []), .resume 0 (some quiet), .resume 0 (some quiet)]

end QuantEngine.SettleOnce
