import QuantEngine.Execution.Rules
import Mathlib.Tactic.Linarith

set_option autoImplicit false

namespace QuantEngine.CashConservation

open ExecutionEngine World
open Run (Always Each)

variable {β : Type}

-- The signed move of the price times the quantity. A close marks its position
-- at the exit price.
def priceMove (position : Position) : ℚ :=
  (position.markPrice - position.entryPrice) * position.directionSign * position.quantity

def closedPositions (world : World β) : List Position := world.positions.closed.map Prod.snd

def allPositions (world : World β) : List Position := world.openPositions ++ closedPositions world

def isJournaled : Happening → Bool
  | .journaled _ => true
  | _ => false

def journaled (world : World β) : Nat := world.history.countP isJournaled

structure CashConserved (settings : ExecutionSettings) (world : World β) : Prop where
  balance : world.portfolio.balance = settings.initialBalance +
    ((closedPositions world).map Position.realizedPnl).sum - (world.openPositions.map Position.commissionPaid).sum
  commissionPaid : world.portfolio.commissionPaid = ((allPositions world).map Position.commissionPaid).sum
  trades : world.portfolio.totalTrades = (closedPositions world).length
  journal : journaled world = (closedPositions world).length
  memory : world.journal.count = min world.journal.memoryLimit (closedPositions world).length
  exits : ∀ position ∈ closedPositions world, position.realizedPnl = priceMove position - position.commissionPaid
  equity : world.portfolio.equity world.openPositions = settings.initialBalance +
    ((allPositions world).map priceMove).sum - ((allPositions world).map Position.commissionPaid).sum

def commission (entry : PositionId × Position) : ℚ := entry.2.commissionPaid

def realized (entry : PositionId × Position) : ℚ := entry.2.realizedPnl

structure Inv (settings : ExecutionSettings) (world : World β) : Prop where
  balance : world.portfolio.balance = settings.initialBalance + (world.positions.closed.map realized).sum -
    world.positions.opened.total commission
  commissionPaid : world.portfolio.commissionPaid = world.positions.opened.total commission +
    (world.positions.closed.map commission).sum
  trades : world.portfolio.totalTrades = world.positions.closed.length
  journal : journaled world = world.positions.closed.length
  memory : world.journal.count = min world.journal.memoryLimit world.positions.closed.length
  exits : ∀ entry ∈ world.positions.closed, entry.2.realizedPnl = priceMove entry.2 - entry.2.commissionPaid
  apart : ∀ entry ∈ world.positions.closed, entry.1 ∉ world.openIds
  below : ∀ id ∈ world.openIds, id < world.nextId
  closedBelow : ∀ entry ∈ world.positions.closed, entry.1 < world.nextId

-- The positions still to be visited by a loop are open, and none comes twice.
def LoopInv (settings : ExecutionSettings) (ids : List PositionId) (world : World β) : Prop :=
  Inv settings world ∧ ids.Nodup ∧ ∀ id ∈ ids, id ∈ world.openIds

theorem move_unrealized (position : Position) : position.unrealizedPnl = priceMove position := by
  simp only [Position.unrealizedPnl, Position.unrealizedPnlAt, priceMove]
  ring

theorem realized_sum (entries : List (PositionId × Position))
    (exits : ∀ entry ∈ entries, entry.2.realizedPnl = priceMove entry.2 - entry.2.commissionPaid) :
    (entries.map realized).sum =
      (entries.map (fun entry => priceMove entry.2)).sum - (entries.map commission).sum := by
  induction entries with
  | nil => simp
  | cons entry rest ih =>
      have here := exits entry List.mem_cons_self
      have later := ih (fun other member => exits other (List.mem_cons_of_mem _ member))
      simp only [List.map_cons, List.sum_cons, later, realized, here, commission]
      ring

theorem inv_conserved (settings : ExecutionSettings) (world : World β) (inv : Inv settings world) :
    CashConserved settings world := by
  have closedRealized : ((closedPositions world).map Position.realizedPnl).sum =
      (world.positions.closed.map realized).sum := by
    rw [closedPositions, List.map_map]
    rfl
  have closedCommission : ((closedPositions world).map Position.commissionPaid).sum =
      (world.positions.closed.map commission).sum := by
    rw [closedPositions, List.map_map]
    rfl
  have closedMoves : ((closedPositions world).map priceMove).sum =
      (world.positions.closed.map (fun entry => priceMove entry.2)).sum := by
    rw [closedPositions, List.map_map]
    rfl
  have openCommission : (world.openPositions.map Position.commissionPaid).sum =
      world.positions.opened.total commission := by
    rw [openPositions, Managers.openPositions, Dict.values, List.map_map]
    rfl
  have count : (closedPositions world).length = world.positions.closed.length := List.length_map ..
  refine ⟨?_, ?_, ?_, ?_, ?_, ?_, ?_⟩
  · rw [closedRealized, openCommission]
    exact inv.balance
  · rw [allPositions, List.map_append, List.sum_append, openCommission, closedCommission]
    exact inv.commissionPaid
  · rw [count]
    exact inv.trades
  · rw [count]
    exact inv.journal
  · rw [count]
    exact inv.memory
  · intro position member
    obtain ⟨entry, closed, rfl⟩ := List.mem_map.mp member
    exact inv.exits entry closed
  · have floating : PortfolioManager.floatingPnl world.openPositions = (world.openPositions.map priceMove).sum :=
      congrArg List.sum (List.map_congr_left (fun position _ => move_unrealized position))
    rw [PortfolioManager.equity, floating, allPositions, List.map_append, List.map_append, List.sum_append,
      List.sum_append, openCommission, closedCommission, closedMoves, inv.balance, realized_sum _ inv.exits]
    ring

theorem same_books_inv (settings : ExecutionSettings) (world later : World β)
    (positions : later.positions = world.positions) (balance : later.portfolio.balance = world.portfolio.balance)
    (commissionPaid : later.portfolio.commissionPaid = world.portfolio.commissionPaid)
    (totalTrades : later.portfolio.totalTrades = world.portfolio.totalTrades)
    (trades : later.journal.trades = world.journal.trades)
    (memory : later.journal.memoryLimit = world.journal.memoryLimit) (recorded : journaled later = journaled world)
    (ids : world.nextId ≤ later.nextId) (inv : Inv settings world) : Inv settings later where
  balance := by rw [balance, positions, inv.balance]
  commissionPaid := by rw [commissionPaid, positions, inv.commissionPaid]
  trades := by rw [totalTrades, positions, inv.trades]
  journal := by rw [recorded, positions, inv.journal]
  memory := by rw [TradeJournal.count, trades, memory, positions, ← inv.memory, TradeJournal.count]
  exits := positions ▸ inv.exits
  apart := by
    rw [openIds, positions]
    exact inv.apart
  below id member := by
    rw [openIds, positions] at member
    exact Nat.lt_of_lt_of_le (inv.below id member) ids
  closedBelow entry member := by
    rw [positions] at member
    exact Nat.lt_of_lt_of_le (inv.closedBelow entry member) ids

theorem quiet_inv (settings : ExecutionSettings) (world later : World β) (quiet : world.Quiet later)
    (inv : Inv settings world) : Inv settings later :=
  same_books_inv settings world later quiet.positions (by rw [quiet.portfolio]) (by rw [quiet.portfolio])
    (by rw [quiet.portfolio]) quiet.trades quiet.memory (by rw [journaled, quiet.history, journaled]) quiet.ids inv

theorem valued_inv (settings : ExecutionSettings) (world later : World β) (valued : world.Valued later)
    (inv : Inv settings world) : Inv settings later := by
  obtain ⟨killSwitch, history, -⟩ := valued.history
  have recorded : journaled later = journaled world := by
    rw [journaled, history, List.countP_append]
    rfl
  exact same_books_inv settings world later valued.positions (by rw [valued.portfolio]; rfl)
    (by rw [valued.portfolio]; rfl) (by rw [valued.portfolio]; rfl) valued.trades valued.memory recorded valued.ids inv

theorem closed_untouched (settings : ExecutionSettings) (world : World β) (id : PositionId) (f : Position → Position)
    (present : id ∈ world.openIds) (inv : Inv settings world) :
    world.positions.closed.map (Dict.modifyEntry id f) = world.positions.closed := by
  refine (List.map_congr_left ?_).trans (List.map_id' _)
  intro entry member
  have other : entry.1 ≠ id := fun same => inv.apart entry member (same ▸ present)
  simp only [Dict.modifyEntry, if_neg other]

theorem touched_inv (settings : ExecutionSettings) (world later : World β) (id : PositionId)
    (present : id ∈ world.openIds) (touched : world.Touched later id) (inv : Inv settings world) :
    Inv settings later := by
  obtain ⟨f, keeps, changed⟩ := touched.positions
  have closed : later.positions.closed = world.positions.closed := by
    rw [changed]
    exact closed_untouched settings world id f present inv
  have keys : later.openIds = world.openIds := by
    rw [openIds, changed]
    exact Dict.keys_modify _ _ _
  have open' : later.positions.opened.total commission = world.positions.opened.total commission := by
    rw [changed]
    exact Dict.total_modify commission _ id f keeps.commissionPaid
  refine ⟨?_, ?_, ?_, ?_, ?_, ?_, ?_, ?_, ?_⟩
  · rw [touched.portfolio, closed, open', inv.balance]
  · rw [touched.portfolio, closed, open', inv.commissionPaid]
  · rw [touched.portfolio, closed, inv.trades]
  · rw [journaled, touched.history, closed, ← inv.journal, journaled]
  · rw [TradeJournal.count, touched.trades, touched.memory, closed, ← inv.memory, TradeJournal.count]
  · exact closed ▸ inv.exits
  · rw [closed, keys]
    exact inv.apart
  · exact fun other member => Nat.lt_of_lt_of_le (inv.below other (keys ▸ member)) touched.ids
  · intro entry member
    rw [closed] at member
    exact Nat.lt_of_lt_of_le (inv.closedBelow entry member) touched.ids

theorem opened_inv (settings : ExecutionSettings) (world later : World β) (id : PositionId) (position : Position)
    (killSwitch circuitBreaker : Bool) (opened : world.Opened later id position killSwitch circuitBreaker)
    (inv : Inv settings world) : Inv settings later := by
  have unused : id ∉ world.openIds := fun member => Nat.not_lt.mpr opened.fresh (inv.below id member)
  have closed : later.positions.closed = world.positions.closed := by rw [opened.positions]; rfl
  have total : later.positions.opened.total commission =
      world.positions.opened.total commission + position.commissionPaid := by
    rw [opened.positions]
    exact Dict.total_insert_fresh commission _ id position unused
  have keys (other : PositionId) (member : other ∈ later.openIds) : other = id ∨ other ∈ world.openIds := by
    rw [openIds, opened.positions] at member
    exact (Dict.mem_keys_insert _ _ _ _).mp member
  refine ⟨?_, ?_, ?_, ?_, ?_, ?_, ?_, ?_, ?_⟩
  · rw [opened.portfolio, closed, total]
    change world.portfolio.balance - position.commissionPaid = _
    rw [inv.balance]
    ring
  · rw [opened.portfolio, closed, total]
    change world.portfolio.commissionPaid + position.commissionPaid = _
    rw [inv.commissionPaid]
    ring
  · rw [opened.portfolio, closed]
    exact inv.trades
  · rw [journaled, opened.history, List.countP_append, closed]
    exact inv.journal
  · rw [TradeJournal.count, opened.trades, opened.memory, closed, ← inv.memory, TradeJournal.count]
  · exact closed ▸ inv.exits
  · intro entry member present
    rw [closed] at member
    cases keys entry.1 present with
      | inl same => exact Nat.not_lt.mpr opened.fresh (same ▸ inv.closedBelow entry member)
      | inr old => exact inv.apart entry member old
  · intro other member
    cases keys other member with
      | inl same => exact same ▸ opened.used
      | inr old => exact Nat.lt_of_lt_of_le (inv.below other old) opened.ids
  · intro entry member
    rw [closed] at member
    exact Nat.lt_of_lt_of_le (inv.closedBelow entry member) opened.ids

structure Exit (position : Position) (fill : Fill) (last : Position) : Prop where
  realized : last.realizedPnl = position.grossPnl fill.price - (position.commissionPaid + fill.commission)
  commission : last.commissionPaid = position.commissionPaid + fill.commission
  move : priceMove last = position.grossPnl fill.price

theorem settled_exit (settings : ExecutionSettings) (world later : World β) (id : PositionId) (position : Position)
    (fill : Fill) (executed : List Happening) (present : id ∈ world.openIds)
    (settled : world.Settled later id position fill executed) (inv : Inv settings world) :
    ∃ last, Exit position fill last ∧ later.positions.closed = world.positions.closed ++ [(id, last)] := by
  obtain ⟨reason, exitReasons, now, positions⟩ := settled.positions
  refine ⟨position.settled fill.price fill.commission reason exitReasons now, ⟨rfl, rfl, ?_⟩, ?_⟩
  · change (fill.price - position.entryPrice) * position.directionSign * position.quantity = _
    rw [Position.grossPnl]
    ring
  · rw [positions]
    change world.positions.closed.map _ ++ _ = _
    rw [closed_untouched settings world id _ present inv]

-- The gross result goes to the balance less the closing commission, the whole
-- commission to the position that moves to the history.
theorem settled_cash (settings : ExecutionSettings) (world later : World β) (id : PositionId)
    (position last : Position) (fill : Fill) (executed : List Happening) (exit : Exit position fill last)
    (closed : later.positions.closed = world.positions.closed ++ [(id, last)])
    (found : world.positions.opened.lookup id = some position)
    (settled : world.Settled later id position fill executed) (inv : Inv settings world) :
    later.portfolio.balance = settings.initialBalance + (later.positions.closed.map realized).sum -
        later.positions.opened.total commission ∧
      later.portfolio.commissionPaid = later.positions.opened.total commission +
        (later.positions.closed.map commission).sum := by
  have total : world.positions.opened.total commission =
      position.commissionPaid + later.positions.opened.total commission := by
    rw [settled_opened world later id position fill executed settled]
    exact Dict.total_erase commission _ id position found
  constructor
  · have balance : later.portfolio.balance =
        world.portfolio.balance + (position.grossPnl fill.price - fill.commission) := by
      rw [settled.portfolio]
      rfl
    rw [balance, closed, List.map_append, List.sum_append, inv.balance, total, List.map_singleton, List.sum_singleton,
      realized, exit.realized]
    ring
  · have charged : later.portfolio.commissionPaid = world.portfolio.commissionPaid + fill.commission := by
      rw [settled.portfolio]
      rfl
    rw [charged, closed, List.map_append, List.sum_append, inv.commissionPaid, total, List.map_singleton,
      List.sum_singleton, commission, exit.commission]
    ring

theorem settled_counts (settings : ExecutionSettings) (world later : World β) (id : PositionId)
    (position last : Position) (fill : Fill) (executed : List Happening)
    (closing : ∀ happening ∈ executed, isJournaled happening = false)
    (closed : later.positions.closed = world.positions.closed ++ [(id, last)])
    (settled : world.Settled later id position fill executed) (inv : Inv settings world) :
    later.portfolio.totalTrades = later.positions.closed.length ∧
      journaled later = later.positions.closed.length ∧
      later.journal.count = min later.journal.memoryLimit later.positions.closed.length := by
  refine ⟨?_, ?_, ?_⟩
  · have one : later.portfolio.totalTrades = world.portfolio.totalTrades + 1 := by
      rw [settled.portfolio]
      rfl
    rw [one, closed, List.length_append, inv.trades]
    rfl
  · have none : executed.countP isJournaled = 0 :=
      List.countP_eq_zero.mpr (fun happening member => by simp [closing happening member])
    rw [journaled, settled.history, List.countP_append, List.countP_append, none, closed, List.length_append,
      ← inv.journal]
    rfl
  · obtain ⟨trade, -, -, trades⟩ := settled.trades
    have length := inv.memory
    rw [TradeJournal.count] at length
    rw [TradeJournal.count, trades, settled.memory, closed, Deque.push, Deque.newest_length, List.length_append,
      List.length_append, length]
    simp only [List.length_singleton]
    omega

theorem settled_inv (settings : ExecutionSettings) (world later : World β) (id : PositionId) (position : Position)
    (fill : Fill) (executed : List Happening) (closing : ∀ happening ∈ executed, isJournaled happening = false)
    (found : world.positions.opened.lookup id = some position)
    (settled : world.Settled later id position fill executed) (inv : Inv settings world) : Inv settings later := by
  have present : id ∈ world.openIds := Dict.mem_keys_of_lookup _ _ _ found
  have keys := settled_keys world later id position fill executed settled
  obtain ⟨last, exit, closed⟩ := settled_exit settings world later id position fill executed present settled inv
  obtain ⟨balance, charged⟩ :=
    settled_cash settings world later id position last fill executed exit closed found settled inv
  obtain ⟨trades, recorded, memory⟩ :=
    settled_counts settings world later id position last fill executed closing closed settled inv
  have split (entry : PositionId × Position) (member : entry ∈ later.positions.closed) :
      entry ∈ world.positions.closed ∨ entry = (id, last) := by
    rw [closed] at member
    exact (List.mem_append.mp member).imp_right List.mem_singleton.mp
  refine ⟨balance, charged, trades, recorded, memory, ?_, ?_, ?_, ?_⟩
  · intro entry member
    cases split entry member with
    | inl old => exact inv.exits entry old
    | inr fresh =>
        subst fresh
        rw [exit.realized, exit.move, exit.commission]
  · intro entry member openStill
    obtain ⟨old, other⟩ := keys entry.1 openStill
    cases split entry member with
    | inl earlier => exact inv.apart entry earlier old
    | inr fresh => exact other (congrArg Prod.fst fresh)
  · intro other member
    exact Nat.lt_of_lt_of_le (inv.below other (keys other member).1) settled.ids
  · intro entry member
    cases split entry member with
    | inl earlier => exact Nat.lt_of_lt_of_le (inv.closedBelow entry earlier) settled.ids
    | inr fresh =>
        subst fresh
        exact Nat.lt_of_lt_of_le (inv.below id present) settled.ids

theorem loop_kept (settings : ExecutionSettings) (ids : List PositionId) (world later : World β)
    (keys : later.openIds = world.openIds) (kept : Inv settings world → Inv settings later)
    (inv : LoopInv settings ids world) : LoopInv settings ids later :=
  ⟨kept inv.1, inv.2.1, fun id member => keys ▸ inv.2.2 id member⟩

theorem no_loop (settings : ExecutionSettings) (world : World β) (inv : Inv settings world) :
    LoopInv settings [] world := ⟨inv, List.nodup_nil, List.forall_mem_nil _⟩

theorem quiet_keys (world later : World β) (quiet : world.Quiet later) : later.openIds = world.openIds := by
  rw [openIds, quiet.positions, openIds]

theorem touched_keys (world later : World β) (id : PositionId) (touched : world.Touched later id) :
    later.openIds = world.openIds := by
  obtain ⟨f, -, changed⟩ := touched.positions
  rw [openIds, changed]
  exact Dict.keys_modify _ _ _

theorem object_open (world : World β) (id : PositionId) (position : Position)
    (found : world.positions.object id = some position) (present : id ∈ world.openIds) :
    world.positions.opened.lookup id = some position := by
  obtain ⟨current, search⟩ := Dict.lookup_of_mem_keys _ _ present
  simp only [PositionManager.object, search] at found
  rw [search, found]

theorem finished_inv (settings : ExecutionSettings) (ids : List PositionId) (world later : World β) (id : PositionId)
    (position : Position) (fill : Fill) (found : world.positions.object id = some position)
    (settled : world.Settled later id position fill [.closingExecuted id]) (inv : LoopInv settings (id :: ids) world) :
    LoopInv settings ids later := by
  obtain ⟨books, distinct, present⟩ := inv
  rw [List.nodup_cons] at distinct
  have here := present id List.mem_cons_self
  refine ⟨?_, distinct.2, ?_⟩
  · refine settled_inv settings world later id position fill _ ?_ (object_open world id position found here) settled books
    intro happening member
    cases List.mem_singleton.mp member
    rfl
  · intro other member
    rw [openIds, settled_opened world later id position fill _ settled, Dict.mem_keys_erase]
    exact ⟨present other (List.mem_cons_of_mem _ member), fun same => distinct.1 (same ▸ member)⟩

theorem cash_rules (engine : ExecutionEngine β) (paper : engine.paper.accountBalance = none)
    (settings : ExecutionSettings) :
    engine.Rules (Pool.Exclusive (Inv settings) World.Quiet) (LoopInv settings)
      (fun order _ world => order.id ∈ world.openIds) where
  pause _ _ _ inv := inv.1
  fail _ _ inv := inv.1
  rely _ ids world later _ quiet inv :=
    loop_kept settings ids world later (quiet_keys world later quiet) (quiet_inv settings world later quiet) inv
  readyNow _ _ _ present := present
  readyLater _ _ world later present quiet := quiet_keys world later quiet ▸ present
  drop _ _ _ inv := ⟨inv.1, (List.nodup_cons.mp inv.2.1).2, fun id member => inv.2.2 id (List.mem_cons_of_mem _ member)⟩
  take id _ present inv := ⟨inv.1, List.nodup_singleton id, fun other member => List.mem_singleton.mp member ▸ present⟩
  takeAll world inv := ⟨inv.1, world.positions.opened.keys_nodup, fun _ member => member⟩
  quiet ids world later quiet inv :=
    loop_kept settings ids world later (quiet_keys world later quiet) (quiet_inv settings world later quiet) inv
  valued world later valued inv :=
    loop_kept settings [] world later (by rw [openIds, valued.positions, openIds])
      (valued_inv settings world later valued) inv
  touched id ids world later touched inv :=
    loop_kept settings (id :: ids) world later (touched_keys world later id touched)
      (touched_inv settings world later id (inv.2.2 id List.mem_cons_self) touched) inv
  synced world inv := by
    rw [syncBrokerBalance, paper]
    exact inv
  opened world later id position _ _ _ opened inv :=
    no_loop settings later (opened_inv settings world later id position _ _ opened inv.1)
  external world later id position fill found settled inv :=
    no_loop settings later
      (settled_inv settings world later id position fill [] (List.forall_mem_nil _) found settled inv.1)
  finished ids world later order _ position fill _ found _ settled inv :=
    finished_inv settings ids world later order.id position fill found settled inv

theorem fresh_inv (settings : ExecutionSettings) (journal : TradeJournal) (bus : Option EventBus) (broker : β)
    (market : Market) (now : Calendar.Moment) : Inv settings (World.fresh settings journal bus broker market now) := by
  refine ⟨?_, ?_, rfl, rfl, ?_, ?_, ?_, ?_, ?_⟩
  · change settings.initialBalance = settings.initialBalance + 0 - 0
    ring
  · change (0 : ℚ) = 0 + 0
    ring
  · exact (Nat.min_zero _).symm
  · exact List.forall_mem_nil _
  · exact List.forall_mem_nil _
  · exact List.forall_mem_nil _
  · exact List.forall_mem_nil _

-- On the paper path, jobs that run one at a time from a fresh engine conserve
-- the cash, whatever happens around them and between their suspensions.
theorem cash_conserved (settings : ExecutionSettings) (paper : PaperBroker) (hasContext : Bool)
    (journal : TradeJournal) (bus : Option EventBus) (broker : PaperState) (market : Market) (now : Calendar.Moment)
    (events : List (Event PaperState))
    (sequential : Each (ExecutionEngine.run ⟨settings, paper.broker, hasContext⟩) Pool.Sequential
      ⟨World.fresh settings journal bus broker market now, []⟩ events) :
    Always (ExecutionEngine.run ⟨settings, paper.broker, hasContext⟩)
      (fun reached => CashConserved settings reached.state)
      ⟨World.fresh settings journal bus broker market now, []⟩ events := by
  let engine : ExecutionEngine PaperState := ⟨settings, paper.broker, hasContext⟩
  have rules := cash_rules engine rfl settings
  have jobs (job : Job) (world : World PaperState) (inv : Inv settings world) :
      (engine.perform job world).Meets (Pool.Exclusive (Inv settings) World.Quiet) (fun _ later => Inv settings later) :=
    Co.meets_mono _ _ _ _ (fun _ _ kept => kept.1) (perform_meets rules job world (no_loop settings world inv))
  have held := Pool.always_alone engine.perform Disturbance.disturb (Inv settings) World.Quiet Quiet.refl
    (fun _ _ _ => Quiet.trans) jobs (fun change world => disturb_quiet world change)
    (fun world later quiet inv => quiet_inv settings world later quiet inv) _ events rfl
    (fresh_inv settings journal bus broker market now) sequential
  exact ⟨inv_conserved settings _ held.1,
    Run.each_mono _ _ _ (fun _ _ kept => inv_conserved settings _ kept) _ _ held.2⟩

theorem cash_conserved_round_trip :
    Always (ExecutionEngine.run ⟨{}, PaperBroker.midway.broker, false⟩) (fun reached => CashConserved {} reached.state)
      ⟨World.fresh {} {} none {} ⟨fun _ => some ⟨2000, 2001⟩, fun _ => []⟩ 0, []⟩
      [.spawn (.decide ⟨"a", "xauusd", "open_long", true, 80, 1, "ruptura"⟩), .spawn .manage,
        .environment (.market ⟨fun _ => some ⟨2100, 2101⟩, fun _ => []⟩), .spawn .manage] :=
  cash_conserved {} PaperBroker.midway false {} none {} _ 0 _
    ⟨rfl, List.isEmpty_iff.mp (by decide +kernel), trivial, List.isEmpty_iff.mp (by decide +kernel), trivial⟩

example : ((Run.final (ExecutionEngine.run ⟨{}, PaperBroker.midway.broker, false⟩)
    ⟨World.fresh {} {} none {} ⟨fun _ => some ⟨2000, 2001⟩, fun _ => []⟩ 0, []⟩
    [.spawn (.decide ⟨"a", "xauusd", "open_long", true, 80, 1, "ruptura"⟩), .spawn .manage,
      .environment (.market ⟨fun _ => some ⟨2100, 2101⟩, fun _ => []⟩), .spawn .manage]).state.positions.closed.map
        (fun entry => entry.2.exitReason)) = [some .takeProfit] := by decide +kernel

end QuantEngine.CashConservation
