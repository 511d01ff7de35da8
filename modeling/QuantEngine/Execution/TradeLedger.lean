import QuantEngine.Execution.CashConservation

set_option autoImplicit false

namespace QuantEngine.TradeLedger

open ExecutionEngine World
open CashConservation (Inv LoopInv)

variable {β : Type}

def openedId : Happening → Option PositionId
  | .opened id _ _ => some id
  | _ => none

def openings (world : World β) : List PositionId := world.history.filterMap openedId

def entry (trade : TradeRecord) : PositionId × ℚ := (trade.positionId, trade.pnl)

def row (closed : PositionId × Position) : PositionId × ℚ := (closed.1, Decimal.roundTo 6 closed.2.realizedPnl)

-- The journal has the newest closed positions in the order they were closed, and
-- each position that was opened is closed or open. What was closed at the start
-- stays where it is.
structure Booked (limit : Nat) (base : List (PositionId × Position)) (world : World β) : Prop where
  memory : world.journal.memoryLimit = limit
  trades : world.journal.trades.map entry = Deque.newest limit (world.positions.closed.map row)
  opened : (openings world).Perm (world.positions.closed.map Prod.fst ++ world.openIds)
  once : (openings world).Nodup
  since : base <+: world.positions.closed

variable (limit : Nat) (base : List (PositionId × Position))

theorem booked_same (world later : World β) (closed : later.positions.closed = world.positions.closed)
    (keys : later.openIds = world.openIds) (trades : later.journal.trades = world.journal.trades)
    (memory : later.journal.memoryLimit = world.journal.memoryLimit) (history : openings later = openings world)
    (booked : Booked limit base world) : Booked limit base later where
  memory := memory.trans booked.memory
  trades := by rw [trades, closed, booked.trades]
  opened := by
    rw [history, closed, keys]
    exact booked.opened
  once := history ▸ booked.once
  since := closed ▸ booked.since

theorem Booked.rebase {limit : Nat} {base : List (PositionId × Position)} {world : World β}
    (booked : Booked limit base world) : Booked limit world.positions.closed world :=
  { booked with since := List.prefix_refl _ }

theorem quiet_booked (world later : World β) (quiet : world.Quiet later) (booked : Booked limit base world) :
    Booked limit base later :=
  booked_same limit base world later (by rw [quiet.positions]) (CashConservation.quiet_keys world later quiet) quiet.trades
    quiet.memory (by rw [openings, quiet.history, openings]) booked

theorem valued_booked (world later : World β) (valued : world.Valued later) (booked : Booked limit base world) :
    Booked limit base later := by
  obtain ⟨killSwitch, history, -⟩ := valued.history
  refine booked_same limit base world later (by rw [valued.positions]) (by rw [openIds, valued.positions, openIds])
    valued.trades valued.memory ?_ booked
  rw [openings, history, List.filterMap_append]
  exact List.append_nil _

theorem touched_booked (settings : ExecutionSettings) (world later : World β) (id : PositionId)
    (present : id ∈ world.openIds) (touched : world.Touched later id) (inv : Inv settings world)
    (booked : Booked limit base world) : Booked limit base later := by
  obtain ⟨f, -, changed⟩ := touched.positions
  refine booked_same limit base world later ?_ (CashConservation.touched_keys world later id touched) touched.trades
    touched.memory (by rw [openings, touched.history, openings]) booked
  rw [changed]
  exact CashConservation.closed_untouched settings world id f present inv

theorem openings_below (settings : ExecutionSettings) (world : World β) (inv : Inv settings world)
    (booked : Booked limit base world) (id : PositionId) (member : id ∈ openings world) : id < world.nextId := by
  cases List.mem_append.mp (booked.opened.mem_iff.mp member) with
  | inl closed =>
      obtain ⟨entry, old, rfl⟩ := List.mem_map.mp closed
      exact inv.closedBelow entry old
  | inr openStill => exact inv.below id openStill

theorem opened_booked (settings : ExecutionSettings) (world later : World β) (id : PositionId) (position : Position)
    (killSwitch circuitBreaker : Bool) (opened : world.Opened later id position killSwitch circuitBreaker)
    (inv : Inv settings world) (booked : Booked limit base world) : Booked limit base later := by
  have fresh : id ∉ world.openIds := fun member => Nat.not_lt.mpr opened.fresh (inv.below id member)
  have closed : later.positions.closed = world.positions.closed := by
    rw [opened.positions]
    rfl
  have keys : later.openIds = world.openIds ++ [id] := by
    rw [openIds, opened.positions]
    exact Dict.keys_insert_fresh _ _ _ fresh
  have history : openings later = openings world ++ [id] := by
    rw [openings, opened.history, List.filterMap_append]
    rfl
  refine ⟨opened.memory.trans booked.memory, ?_, ?_, ?_, closed ▸ booked.since⟩
  · rw [opened.trades, closed, booked.trades]
  · rw [history, closed, keys, ← List.append_assoc]
    exact booked.opened.append_right [id]
  · rw [history]
    refine List.Nodup.append booked.once (List.nodup_singleton id) (List.disjoint_singleton.mpr ?_)
    exact fun member => Nat.not_lt.mpr opened.fresh (openings_below limit base settings world inv booked id member)

theorem settled_booked (settings : ExecutionSettings) (world later : World β) (id : PositionId) (position : Position)
    (fill : Fill) (executed : List Happening) (closing : ∀ happening ∈ executed, openedId happening = none)
    (present : id ∈ world.openIds) (settled : world.Settled later id position fill executed)
    (inv : Inv settings world) (booked : Booked limit base world) : Booked limit base later := by
  obtain ⟨last, exit, closed⟩ := CashConservation.settled_exit settings world later id position fill executed present settled inv
  have history : openings later = openings world := by
    have none : executed.filterMap openedId = [] := List.filterMap_eq_nil_iff.mpr closing
    rw [openings, settled.history, List.filterMap_append, List.filterMap_append, none]
    exact List.append_nil _
  refine ⟨settled.memory.trans booked.memory, ?_, ?_, history ▸ booked.once, ?_⟩
  · obtain ⟨trade, named, pnl, trades⟩ := settled.trades
    have recorded : entry trade = row (id, last) := by
      rw [entry, row, named, pnl, exit.realized]
    rw [trades, booked.memory, closed, Deque.push, Deque.newest_map, List.map_append, booked.trades,
      Deque.newest_append_newest, List.map_append, List.map_singleton, List.map_singleton, recorded]
  · have erased := Dict.keys_erase_perm world.positions.opened id present
    rw [← settled_opened world later id position fill executed settled] at erased
    rw [history, closed, List.map_append, List.map_singleton, List.append_assoc]
    exact booked.opened.trans (erased.append_left _)
  · rw [closed]
    exact booked.since.trans (List.prefix_append _ _)

theorem ledger_rules (engine : ExecutionEngine β) (paper : engine.paper.accountBalance = none)
    (settings : ExecutionSettings) :
    engine.Rules (Pool.Exclusive (fun world => Inv settings world ∧ Booked limit base world) World.Quiet)
      (fun ids world => LoopInv settings ids world ∧ Booked limit base world)
      (fun order _ world => order.id ∈ world.openIds) :=
  have cash := CashConservation.cash_rules engine paper settings
  { pause := fun _ _ _ inv => ⟨inv.1.1, inv.2⟩
    fail := fun _ _ inv => ⟨inv.1.1, inv.2⟩
    rely := fun point ids world later input quiet inv =>
      ⟨cash.rely point ids world later input quiet inv.1, quiet_booked limit base world later quiet inv.2⟩
    readyNow := cash.readyNow
    readyLater := fun order view world later present quiet => cash.readyLater order view world later present quiet
    drop := fun id ids world inv => ⟨cash.drop id ids world inv.1, inv.2⟩
    take := fun id world present inv => ⟨cash.take id world present inv.1, inv.2⟩
    takeAll := fun world inv => ⟨cash.takeAll world inv.1, inv.2⟩
    quiet := fun ids world later quiet inv =>
      ⟨cash.quiet ids world later quiet inv.1, quiet_booked limit base world later quiet inv.2⟩
    valued := fun world later valued inv =>
      ⟨cash.valued world later valued inv.1, valued_booked limit base world later valued inv.2⟩
    touched := fun id ids world later touched inv =>
      ⟨cash.touched id ids world later touched inv.1,
        touched_booked limit base settings world later id (inv.1.2.2 id List.mem_cons_self) touched inv.1.1 inv.2⟩
    synced := fun world inv => by
      rw [syncBrokerBalance, paper]
      exact inv
    opened := fun world later id position kill breaker admitted opened inv =>
      ⟨cash.opened world later id position kill breaker admitted opened inv.1,
        opened_booked limit base settings world later id position kill breaker opened inv.1.1 inv.2⟩
    external := fun world later id position fill found settled inv =>
      ⟨cash.external world later id position fill found settled inv.1,
        settled_booked limit base settings world later id position fill [] (List.forall_mem_nil _)
          (Dict.mem_keys_of_lookup _ _ _ found) settled inv.1.1 inv.2⟩
    finished := fun ids world later order view position fill ready found filled settled inv =>
      ⟨cash.finished ids world later order view position fill ready found filled settled inv.1,
        settled_booked limit base settings world later order.id position fill _
          (fun _ member => List.mem_singleton.mp member ▸ rfl) (inv.1.2.2 order.id List.mem_cons_self) settled inv.1.1 inv.2⟩ }

end QuantEngine.TradeLedger
