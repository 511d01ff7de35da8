import QuantEngine.Brokers.Mt5
import QuantEngine.Execution.Reconciliation

set_option autoImplicit false

namespace QuantEngine.LostConnection

open ExecutionEngine World

variable {τ : Type}

def Answered (adapter : Mt5Broker τ) (state : Mt5State τ) (symbol : String) (live : List LivePosition) : Prop :=
  state.connected = true ∧ adapter.positionsOf state (adapter.resolveSymbol state symbol).1 = some live

def Unmoved {β : Type} (before after : World β) : Prop :=
  after.positions = before.positions ∧ after.portfolio = before.portfolio ∧
    after.risk.ledger = before.risk.ledger ∧ after.journal = before.journal

section

variable (adapter : Mt5Broker τ) (settings : ExecutionSettings) (hasContext : Bool)

def Tracked (world : World (Mt5State τ)) (id : PositionId) (position : Position) : Prop :=
  world.positions.opened.lookup id = some position ∧ brokerRef position ≠ none

-- A pass settles as closed outside only what an answer leaves out, and without
-- any answer its reconciliation changes nothing.
structure TrustsAnswers (world : World (Mt5State τ)) : Prop where
  settled : ∀ id position, Tracked world id position →
    id ∉ ((adapter.engine settings hasContext).catchUp world).openIds →
      ∃ live, Answered adapter world.broker position.symbol live ∧
        ∃ ref, brokerRef position = some ref ∧ ∀ held ∈ live, toString held.ticket ≠ ref
  kept : ∀ id position, Tracked world id position →
    (¬ ∃ live, Answered adapter world.broker position.symbol live) →
      ((adapter.engine settings hasContext).catchUp world).positions.opened.lookup id = some position
  unmoved : (∀ id position live, Tracked world id position → ¬ Answered adapter world.broker position.symbol live) →
    Unmoved ((adapter.engine settings hasContext).syncBrokerBalance world)
      ((adapter.engine settings hasContext).catchUp world)

theorem tickets_answered (state : Mt5State τ) (symbol : String) (live : List LivePosition)
    (answered : Answered adapter state symbol live) :
    adapter.openPositionTickets state symbol = live.map LivePosition.ticket := by
  obtain ⟨connected, positions⟩ := answered
  simp only [Mt5Broker.openPositionTickets, connected, Bool.not_true, Bool.false_eq_true, if_false, positions,
    Option.getD_some]

theorem tickets_unanswered (state : Mt5State τ) (symbol : String)
    (silent : ¬ ∃ live, Answered adapter state symbol live) : adapter.openPositionTickets state symbol = [] := by
  rw [Mt5Broker.openPositionTickets]
  by_cases connected : state.connected = true
  · simp only [connected, Bool.not_true, Bool.false_eq_true, if_false]
    cases positions : adapter.positionsOf state (adapter.resolveSymbol state symbol).1 with
    | none => rfl
    | some live => exact (silent ⟨live, connected, positions⟩).elim
  · simp only [Bool.not_eq_true _ ▸ connected, Bool.not_false, if_true]

theorem mem_gone_iff (world : World (Mt5State τ)) (id : PositionId) (position : Position) :
    (id, position) ∈ (adapter.engine settings hasContext).gone world ↔
      world.positions.opened.lookup id = some position ∧
        ∃ ref, brokerRef position = some ref ∧
          ref ∉ (adapter.openPositionTickets world.broker position.symbol).map toString := by
  have listed : (id, position) ∈ world.positions.openPositions ↔ world.positions.opened.lookup id = some position :=
    ⟨Dict.lookup_of_mem _ _ _, Dict.lookup_mem _ _ _⟩
  change (id, position) ∈ world.positions.openPositions.filter _ ↔ _
  rw [List.mem_filter, listed]
  refine and_congr_right (fun _ => ?_)
  simp only [goneAtBroker]
  cases brokerRef position with
  | none => simp
  | some ref => simp

theorem tracked_gone_iff (world : World (Mt5State τ)) (id : PositionId) (position : Position)
    (tracked : Tracked world id position) :
    id ∉ ((adapter.engine settings hasContext).catchUp world).openIds ↔
      (id, position) ∈ (adapter.engine settings hasContext).gone world := by
  have held : (id, position) ∈ world.positions.opened.entries := Dict.lookup_mem _ _ _ tracked.1
  rw [openIds, Dict.keys, (adapter.engine settings hasContext).catch_up_entries world, List.mem_map]
  constructor
  · intro closed
    by_contra stays
    exact closed ⟨(id, position), List.mem_filter.mpr ⟨held, by simpa using stays⟩, rfl⟩
  · rintro member ⟨entry, left, same⟩
    obtain ⟨inside, stays⟩ := List.mem_filter.mp left
    have there := Dict.lookup_of_mem _ entry.1 entry.2 inside
    rw [same, tracked.1] at there
    have equal : entry = (id, position) := Prod.ext same (Option.some.inj there).symm
    rw [equal, decide_eq_true member] at stays
    cases stays

-- A failed query reads as an answer without positions, so the condition is
-- that none fails.
theorem lost_connection_iff (world : World (Mt5State τ)) :
    TrustsAnswers adapter settings hasContext world ↔
      ∀ id position, Tracked world id position → ∃ live, Answered adapter world.broker position.symbol live := by
  constructor
  · intro trusts id position tracked
    by_contra silent
    obtain ⟨ref, named⟩ := Option.ne_none_iff_exists'.mp tracked.2
    have member : (id, position) ∈ (adapter.engine settings hasContext).gone world := by
      rw [mem_gone_iff]
      refine ⟨tracked.1, ref, named, ?_⟩
      rw [tickets_unanswered adapter world.broker position.symbol silent]
      exact List.not_mem_nil
    have closed := (tracked_gone_iff adapter settings hasContext world id position tracked).mpr member
    obtain ⟨live, answered, -⟩ := trusts.settled id position tracked closed
    exact silent ⟨live, answered⟩
  · intro answers
    refine ⟨?_, ?_, ?_⟩
    · intro id position tracked closed
      obtain ⟨live, answered⟩ := answers id position tracked
      have member := (tracked_gone_iff adapter settings hasContext world id position tracked).mp closed
      obtain ⟨-, ref, named, absent⟩ := (mem_gone_iff adapter settings hasContext world id position).mp member
      refine ⟨live, answered, ref, named, ?_⟩
      intro held present same
      rw [tickets_answered adapter world.broker position.symbol live answered, List.map_map] at absent
      exact absent (List.mem_map.mpr ⟨held, present, same⟩)
    · exact fun id position tracked silent => (silent (answers id position tracked)).elim
    · intro silent
      have nothing : (adapter.engine settings hasContext).gone world = [] := by
        refine List.eq_nil_iff_forall_not_mem.mpr ?_
        intro entry member
        obtain ⟨found, ref, named, -⟩ := (mem_gone_iff adapter settings hasContext world entry.1 entry.2).mp member
        have tracked : Tracked world entry.1 entry.2 := ⟨found, by rw [named]; exact Option.some_ne_none ref⟩
        obtain ⟨live, answered⟩ := answers entry.1 entry.2 tracked
        exact silent entry.1 entry.2 live tracked answered
      rw [catch_up_settles, nothing]
      exact ⟨rfl, rfl, rfl, rfl⟩

end

def oneTicket : Terminal Unit where
  symbolInfo _ _ := some {}
  symbolsGet _ := none
  positionsGet _ _ := some [⟨7, "XAUUSD", some 0, some 100, some 777001, 1, 1990, 1980, 2005⟩]
  accountInfo _ := some (some 10000)
  orderSend _ _ := (none, ())
  lastError _ := 0

def held : Position := .postInit {
  symbol := "XAUUSD", side := .long, quantity := 1, initialQuantity := 1, entryPrice := 1990, initialStop := some 1980
  stopLoss := some 1980, takeProfit := some 2005, openedAt := 0, metadata := { brokerRef := some "7" } }

def holding (connected : Bool) : World (Mt5State Unit) :=
  { World.fresh {} {} none { connected := connected, terminal := () }
      ⟨fun _ => some ⟨2000, 2001⟩, fun _ => []⟩ 60000000 with
    positions := { opened := Dict.empty.insert 0 held }
    balanceBaselineSet := true
    nextId := 1 }

-- Disconnected, the pass closes the position in the books, with its profit.
theorem lost_connection_closes :
    ¬ TrustsAnswers ⟨oneTicket, 20, 777001⟩ {} false (holding false) ∧
      ((Mt5Broker.engine ⟨oneTicket, 20, 777001⟩ {} false).catchUp (holding false)).openIds = [] ∧
      ((Mt5Broker.engine ⟨oneTicket, 20, 777001⟩ {} false).catchUp (holding false)).portfolio.balance = 20021 / 2 := by
  refine ⟨?_, by decide +kernel, by decide +kernel⟩
  intro trusts
  have tracked : Tracked (holding false) 0 held := ⟨by decide +kernel, by decide +kernel⟩
  obtain ⟨live, ⟨connected, -⟩, -⟩ := trusts.settled 0 held tracked (by decide +kernel)
  cases connected

end QuantEngine.LostConnection
