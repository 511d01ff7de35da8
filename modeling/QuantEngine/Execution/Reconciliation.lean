import QuantEngine.Execution.Guarantees
import QuantEngine.Execution.Rules

set_option autoImplicit false

namespace QuantEngine

variable {β : Type}

namespace ExecutionEngine

open World

def lastPrice (world : World β) (position : Position) : ℚ :=
  match world.market.tickers position.symbol with
  | none => position.markPrice
  | some ticker => ticker.mid

def settleAll (gone : List (PositionId × Position)) (world : World β) : World β :=
  gone.foldl (fun world entry => settleExternalClose entry.1 entry.2 world) world

theorem external_close_balance (id : PositionId) (position : Position) (world : World β) :
    (settleExternalClose id position world).portfolio.balance =
      world.portfolio.balance + position.grossPnl (lastPrice world position) := by
  change world.portfolio.balance + (position.grossPnl (lastPrice world position) - 0) = _
  rw [sub_zero]

theorem settle_all_balance (gone : List (PositionId × Position)) (world : World β) :
    (settleAll gone world).portfolio.balance =
      world.portfolio.balance + (gone.map (fun entry => entry.2.grossPnl (lastPrice world entry.2))).sum := by
  induction gone generalizing world with
  | nil => exact (add_zero _).symm
  | cons entry rest ih =>
      have priced (position : Position) :
          lastPrice (settleExternalClose entry.1 entry.2 world) position = lastPrice world position := rfl
      rw [settleAll, List.foldl_cons, ← settleAll, ih, external_close_balance, List.map_cons, List.sum_cons]
      simp only [priced]
      ring

theorem settle_all_entries (gone : List (PositionId × Position)) (world : World β) :
    (settleAll gone world).positions.opened.entries =
      world.positions.opened.entries.filter (fun entry => !decide (entry.1 ∈ gone.map Prod.fst)) := by
  induction gone generalizing world with
  | nil => simp [settleAll]
  | cons entry rest ih =>
      obtain ⟨fill, settled⟩ := external_close_effect entry.1 entry.2 world
      rw [settleAll, List.foldl_cons, ← settleAll, ih, settled_opened world _ entry.1 entry.2 fill [] settled, Dict.erase,
        List.filter_filter]
      refine List.filter_congr ?_
      intro other _
      by_cases here : other.1 = entry.1
      · simp [here]
      · simp [here]

theorem settle_all_frame (gone : List (PositionId × Position)) (world : World β) :
    (settleAll gone world).broker = world.broker ∧
      (settleAll gone world).portfolio.peakEquity = world.portfolio.peakEquity := by
  induction gone generalizing world with
  | nil => exact ⟨rfl, rfl⟩
  | cons entry rest ih => exact ih (settleExternalClose entry.1 entry.2 world)

variable (engine : ExecutionEngine β)

def gone (world : World β) : List (PositionId × Position) :=
  match engine.paper.openPositionTickets with
  | none => []
  | some ticketsOf =>
      world.positions.openPositions.filter (fun entry => goneAtBroker (ticketsOf world.broker) entry.2)

theorem reconcile_settles (world : World β) :
    engine.reconcileBrokerPositions world = settleAll (engine.gone world) world := by
  rw [reconcileBrokerPositions, gone]
  cases engine.paper.openPositionTickets with
  | none => rfl
  | some ticketsOf => rfl

theorem sync_positions (world : World β) : (engine.syncBrokerBalance world).positions = world.positions := by
  rw [syncBrokerBalance]
  split <;> rfl

theorem sync_gone (world : World β) : engine.gone (engine.syncBrokerBalance world) = engine.gone world := by
  rw [syncBrokerBalance]
  split <;> rfl

theorem sync_price (world : World β) (position : Position) :
    lastPrice (engine.syncBrokerBalance world) position = lastPrice world position := by
  rw [syncBrokerBalance]
  split <;> rfl

theorem catch_up_settles (world : World β) :
    engine.catchUp world = settleAll (engine.gone world) (engine.syncBrokerBalance world) := by
  rw [catchUp, reconcile_settles, sync_gone]

theorem gone_open (world : World β) (entry : PositionId × Position) (member : entry ∈ engine.gone world) :
    world.positions.opened.lookup entry.1 = some entry.2 := by
  rw [gone] at member
  split at member
  · cases member
  · exact Dict.lookup_of_mem _ _ _ (List.mem_of_mem_filter member)

theorem sync_broker (world : World β) : (engine.syncBrokerBalance world).broker = world.broker := by
  rw [syncBrokerBalance]
  split <;> rfl

theorem catch_up_entries (world : World β) : (engine.catchUp world).positions.opened.entries =
    world.positions.opened.entries.filter (fun entry => !decide (entry ∈ engine.gone world)) := by
  rw [catch_up_settles, settle_all_entries, sync_positions]
  refine List.filter_congr ?_
  intro entry member
  have named : entry.1 ∈ (engine.gone world).map Prod.fst ↔ entry ∈ engine.gone world := by
    constructor
    · intro inside
      obtain ⟨other, isGone, same⟩ := List.mem_map.mp inside
      have there := engine.gone_open world other isGone
      rw [same, Dict.lookup_of_mem _ _ _ member] at there
      have equal : entry = other := Prod.ext same.symm (Option.some.inj there)
      exact equal ▸ isGone
    · exact fun isGone => List.mem_map.mpr ⟨entry, isGone, rfl⟩
  simp only [named]

theorem catch_up_broker (world : World β) : (engine.catchUp world).broker = world.broker := by
  rw [catch_up_settles, (settle_all_frame _ _).1, sync_broker]

end ExecutionEngine

end QuantEngine
