import QuantEngine.Backtesting.InsideTheBar
import QuantEngine.Execution.Flattening
import QuantEngine.Execution.TradeLedger

set_option autoImplicit false

namespace QuantEngine.EveryTrade

open BacktestEngine
open Calendar (Moment)
open Candles (MarketCandle)
open CashConservation (Inv LoopInv closedPositions)
open Decimal (roundTo)
open ExecutionEngine (startClose)
open Flattening (Sized Tradable Quoted Stretch simulated)
open TradeLedger (Booked openings entry row)

variable {σ : Type}

-- The exact amounts, of which the report gives the first six decimals.
def netPnl (world : World PaperState) : ℚ := ((closedPositions world).map Position.realizedPnl).sum

def openCommission (world : World PaperState) : ℚ := (world.openPositions.map Position.commissionPaid).sum

section

variable (backtest : Backtest σ) (candles : List MarketCandle) (source : σ) (now : Moment)

def walked : World PaperState := (backtest.after candles source now candles.length).world

def atEnd : World PaperState := backtest.liquidate (walked backtest candles source now)

structure PointOf (candle : MarketCandle) (world : World PaperState) (point : EquityPoint) : Prop where
  timestamp : point.timestamp = candle.end_
  equity : point.equity = roundTo 6 (backtest.config.initialBalance + netPnl world +
    PortfolioManager.floatingPnl world.openPositions - openCommission world)

-- The positions closed after `index` bars come first among those closed at the
-- end.
structure AccountsFor (result : BacktestResult) : Prop where
  trades : result.trades.map entry = (atEnd backtest candles source now).positions.closed.map row
  opened : (result.trades.map TradeRecord.positionId).Perm (openings (atEnd backtest candles source now))
  once : (openings (atEnd backtest candles source now)).Nodup
  balance : result.finalBalance =
    roundTo 6 (backtest.config.initialBalance + netPnl (atEnd backtest candles source now))
  equity : result.finalEquity = result.finalBalance
  points : result.equityCurve.length = candles.length
  byThen : ∀ index, (backtest.after candles source now index).world.positions.closed <+:
    (atEnd backtest candles source now).positions.closed
  curve : ∀ index candle, candles[index]? = some candle → ∃ point, result.equityCurve[index]? = some point ∧
    PointOf backtest candle (backtest.after candles source now (index + 1)).world point

end

def QuotedAt (world : World PaperState) (id : PositionId) : Prop :=
  ∀ position, world.positions.opened.lookup id = some position →
    ∃ ticker, world.market.tickers position.symbol = some ticker ∧ Tradable ticker

section

variable (backtest : Backtest σ) (base : List (PositionId × Position))

structure Sound (world : World PaperState) : Prop where
  cash : Inv backtest.settings world
  booked : Booked 10000 base world
  sized : Sized world

theorem perform_sound (job : Job) (world : World PaperState) (sound : Sound backtest base world) :
    Sound backtest base (Backtest.perform (backtest.engine.perform job) world) := by
  have rules := TradeLedger.ledger_rules 10000 base backtest.engine rfl backtest.settings
  have met := ExecutionEngine.perform_meets rules job world
    ⟨CashConservation.no_loop _ world sound.cash, sound.booked⟩
  have kept := Co.meets_finish
    (Pool.Exclusive (fun later => Inv backtest.settings later ∧ Booked 10000 base later) World.Quiet) (fun _ => none)
    (fun later => LoopInv backtest.settings [] later ∧ Booked 10000 base later)
    (fun later failed => ⟨CashConservation.no_loop _ later failed.1, failed.2⟩)
    (fun _ later _ => World.Quiet.refl later) _ met
  have operates := Flattening.simulated_operates backtest.paper backtest.settings false
  have stretch := Co.guarantees_finish Stretch operates.trans (fun _ => none) _ world
    (Flattening.simulated_guarantees backtest.paper backtest.settings false job world)
  exact ⟨kept.1.1, kept.2, stretch.sized sound.sized⟩

theorem same_sound (world later : World PaperState) (positions : later.positions = world.positions)
    (journal : later.journal = world.journal) (history : later.history = world.history)
    (ids : later.nextId = world.nextId) (balance : later.portfolio.balance = world.portfolio.balance)
    (commissionPaid : later.portfolio.commissionPaid = world.portfolio.commissionPaid)
    (totalTrades : later.portfolio.totalTrades = world.portfolio.totalTrades) (sound : Sound backtest base world) :
    Sound backtest base later where
  cash := CashConservation.same_books_inv _ world later positions balance commissionPaid totalTrades (by rw [journal])
    (by rw [journal]) (by rw [CashConservation.journaled, history, CashConservation.journaled]) (by rw [ids]) sound.cash
  booked := TradeLedger.booked_same 10000 base world later (by rw [positions])
    (by rw [World.openIds, positions, World.openIds]) (by rw [journal]) (by rw [journal])
    (by rw [openings, history, openings]) sound.booked
  sized := Flattening.sized_carried world later (Flattening.opens_nothing_same world later positions) sound.sized

theorem walk_sound (prices : List ℚ) (replay : Replay σ) (sound : Sound backtest base replay.world) :
    Sound backtest base (prices.foldl backtest.walk replay).world := by
  induction prices generalizing replay with
  | nil => exact sound
  | cons price rest ih =>
      refine ih _ (perform_sound backtest base .manage _ ?_)
      exact same_sound backtest base replay.world _ rfl rfl rfl rfl rfl rfl rfl sound

theorem consult_sound (candles : List MarketCandle) (index : Nat) (replay : Replay σ)
    (sound : Sound backtest base replay.world) : Sound backtest base (backtest.consult candles index replay).world := by
  simp only [Backtest.consult]
  split
  · exact sound
  · rename_i decision decided
    split
    · exact perform_sound backtest base (.decide decision) _ sound
    · exact sound

theorem bar_sound (candles : List MarketCandle) (replay : Replay σ) (entry : MarketCandle × Nat)
    (sound : Sound backtest base replay.world) : Sound backtest base (backtest.bar candles replay entry).world := by
  have opened : Sound backtest base (Backtest.openBar entry.1 replay).world :=
    same_sound backtest base replay.world _ rfl rfl rfl rfl rfl rfl rfl sound
  let walked := (ohlcPath entry.1).foldl backtest.walk (Backtest.openBar entry.1 replay)
  have consulted := consult_sound backtest base candles entry.2 walked (walk_sound backtest base _ _ opened)
  exact same_sound backtest base (backtest.consult candles entry.2 walked).world _ rfl rfl rfl rfl rfl rfl rfl consulted

theorem liquidate_sound (ids : List PositionId) (world : World PaperState) (sound : Sound backtest base world) :
    Sound backtest base
      (ids.foldl (fun world id => Backtest.perform (backtest.engine.closePosition id .manual []) world) world) := by
  induction ids generalizing world with
  | nil => exact sound
  | cons id rest ih => exact ih _ (perform_sound backtest base (.close id .manual []) world sound)

end

section

variable (backtest : Backtest σ) (candles : List MarketCandle) (source : σ) (now : Moment)

theorem after_sound (base : List (PositionId × Position)) (index more : Nat)
    (sound : Sound backtest base (backtest.after candles source now index).world) :
    Sound backtest base (backtest.after candles source now (index + more)).world := by
  induction more with
  | zero => exact sound
  | succ more ih =>
      rw [← Nat.add_assoc, Backtest.after_succ]
      split
      · exact ih
      · exact bar_sound backtest base candles _ _ ih

theorem start_sound : Sound backtest [] (backtest.after candles source now 0).world where
  cash := CashConservation.fresh_inv _ _ _ _ _ _
  booked := ⟨rfl, (Deque.newest_all _ _ (Nat.zero_le _)).symm, List.Perm.nil, List.nodup_nil, List.prefix_refl []⟩
  sized _ _ found := nomatch found

theorem reached_sound (index : Nat) : Sound backtest (backtest.after candles source now index).world.positions.closed
    (backtest.after candles source now index).world := by
  have sound := after_sound backtest candles source now [] 0 index (start_sound backtest candles source now)
  rw [Nat.zero_add] at sound
  exact ⟨sound.cash, sound.booked.rebase, sound.sized⟩

theorem end_sound (index : Nat) : Sound backtest (backtest.after candles source now index).world.positions.closed
    (atEnd backtest candles source now) := by
  refine liquidate_sound backtest _ _ _ ?_
  by_cases within : index ≤ candles.length
  · obtain ⟨more, total⟩ := Nat.exists_eq_add_of_le within
    have sound := after_sound backtest candles source now _ index more (reached_sound backtest candles source now index)
    rwa [← total] at sound
  · have beyond : backtest.after candles source now index = backtest.after candles source now candles.length := by
      rw [Backtest.after, Backtest.after, List.take_of_length_le (Nat.le_of_not_le within),
        List.take_of_length_le (Nat.le_refl _)]
    rw [beyond]
    exact reached_sound backtest candles source now candles.length

end

section

variable (backtest : Backtest σ)

-- A close at once takes the position off the book, or where it has no tradable
-- quote leaves the book alone.
structure ClosedAtOnce (id : PositionId) (world later : World PaperState) : Prop where
  market : later.market = world.market
  openings : openings later = openings world
  quoted : QuotedAt world id → later.positions.opened = world.positions.opened.erase id
  unquoted : ¬ QuotedAt world id → later.positions.opened = world.positions.opened

theorem finish_at_once (order : ExecutionEngine.ClosingOrder) (held : Position) (made : order.For held)
    (positive : 0 < held.quantity) (view : MarketView) (world : World PaperState)
    (found : world.positions.opened.lookup order.id = some held) :
    let later := backtest.engine.finishClose order view world
    openings later = openings world ∧
      (Tradable order.ticker → later.positions.opened = world.positions.opened.erase order.id) ∧
      (¬ Tradable order.ticker → later.positions.opened = world.positions.opened) := by
  intro later
  have object : world.positions.object order.id = some held := by rw [PositionManager.object, found]
  have filled (tradable : Tradable order.ticker) :
      (backtest.engine.closeExecution order held view world).1.fill.isSome = true :=
    Flattening.closing_filled backtest.paper backtest.settings false order held held made positive tradable view world
  have refused (crossed : ¬ Tradable order.ticker) :
      (backtest.engine.closeExecution order held view world).1.fill = none :=
    backtest.paper.execute_refuses _ _ _ _ _ _ _ crossed
  rcases backtest.engine.finish_close_effect order view world held object with ⟨none, quiet⟩ | ⟨fill, some, settled⟩
  · refine ⟨by rw [openings, quiet.history, openings], fun tradable => ?_, fun _ => by rw [quiet.positions]⟩
    rw [none] at filled
    cases filled tradable
  · refine ⟨?_, fun _ => ExecutionEngine.settled_opened world later order.id held fill _ settled, fun crossed => ?_⟩
    · rw [openings, settled.history, List.filterMap_append]
      exact List.append_nil _
    · cases some.symm.trans (refused crossed)

theorem close_at_once (id : PositionId) (reason : ExitReason) (exitReasons : List String) (world : World PaperState)
    (sized : Sized world) (present : id ∈ world.openIds) :
    ClosedAtOnce id world (Backtest.perform (backtest.engine.closePosition id reason exitReasons) world) := by
  obtain ⟨position, found⟩ := Dict.lookup_of_mem_keys _ id present
  have quiet := ExecutionEngine.start_close_quiet id reason exitReasons world
  have steady := ExecutionEngine.start_close_steady id reason exitReasons world
  have history : openings (startClose id reason exitReasons world).2 = openings world := by
    rw [openings, quiet.history, openings]
  cases outcome : (startClose id reason exitReasons world).1 with
  | none =>
      have stopped : Backtest.perform (backtest.engine.closePosition id reason exitReasons) world =
          (startClose id reason exitReasons world).2 := by
        rw [Backtest.perform, ExecutionEngine.closePosition, Task.sync_bind, outcome]
        rfl
      rw [stopped]
      refine ⟨steady.market, history, fun quoted => ?_, fun _ => by rw [quiet.positions]⟩
      obtain ⟨ticker, priced, -⟩ := quoted position found
      cases priced.symm.trans (ExecutionEngine.start_close_idle id reason exitReasons world outcome position found)
  | some order =>
      obtain ⟨rfl, held, there, made, priced⟩ := ExecutionEngine.start_close_for id reason exitReasons world order outcome
      let started := (startClose order.id reason exitReasons world).2
      have finished : Backtest.perform (backtest.engine.closePosition order.id reason exitReasons) world =
          backtest.engine.finishClose order (backtest.engine.candleView order.request.symbol started) started := by
        rw [Backtest.perform, ExecutionEngine.closePosition, Task.sync_bind, outcome]
        rfl
      have still : started.positions.opened.lookup order.id = some held := by
        rw [quiet.positions]
        exact there
      have tradable_iff : QuotedAt world order.id ↔ Tradable order.ticker := by
        constructor
        · intro quoted
          obtain ⟨ticker, same, tradable⟩ := quoted held there
          cases priced.symm.trans same
          exact tradable
        · intro tradable other same
          cases there.symm.trans same
          exact ⟨order.ticker, priced, tradable⟩
      obtain ⟨opened, closes, stays⟩ :=
        finish_at_once backtest order held made (sized order.id held there) _ started still
      rw [finished]
      refine ⟨?_, opened.trans history, fun quoted => ?_, fun unquoted => ?_⟩
      · exact (backtest.engine.finish_close_steady order _ started).market.trans steady.market
      · rw [closes (tradable_iff.mp quoted), quiet.positions]
      · rw [stays (fun tradable => unquoted (tradable_iff.mpr tradable)), quiet.positions]

theorem closed_others (id other : PositionId) (apart : other ≠ id) (world later : World PaperState)
    (closed : ClosedAtOnce id world later) :
    later.positions.opened.lookup other = world.positions.opened.lookup other := by
  by_cases quoted : QuotedAt world id
  · rw [closed.quoted quoted, Dict.lookup_erase, if_neg apart]
  · rw [closed.unquoted quoted]

theorem quoted_others (id other : PositionId) (apart : other ≠ id) (world later : World PaperState)
    (closed : ClosedAtOnce id world later) : QuotedAt later other ↔ QuotedAt world other := by
  rw [QuotedAt, QuotedAt, closed_others id other apart world later closed, closed.market]

-- The forced closes leave what has no tradable quote.
theorem liquidated (base : List (PositionId × Position)) (ids : List PositionId) (world : World PaperState)
    (sound : Sound backtest base world) (distinct : ids.Nodup) (present : ∀ id ∈ ids, id ∈ world.openIds) :
    let final := ids.foldl (fun world id => Backtest.perform (backtest.engine.closePosition id .manual []) world) world
    openings final = openings world ∧
      ∀ id, id ∈ final.openIds ↔ id ∈ world.openIds ∧ (id ∈ ids → ¬ QuotedAt world id) := by
  induction ids generalizing world with
  | nil => simp
  | cons id rest ih =>
      rw [List.nodup_cons] at distinct
      have closed := close_at_once backtest id .manual [] world sound.sized (present id List.mem_cons_self)
      have later : Sound backtest base (Backtest.perform (backtest.engine.closePosition id .manual []) world) :=
        perform_sound backtest base (.close id .manual []) world sound
      have others (other : PositionId) (apart : other ≠ id) :
          other ∈ (Backtest.perform (backtest.engine.closePosition id .manual []) world).openIds ↔
            other ∈ world.openIds := by
        simp only [World.openIds, Dict.mem_keys_iff, closed_others id other apart world _ closed]
      obtain ⟨opened, left⟩ := ih _ later distinct.2 (fun other member =>
        (others other (fun same => distinct.1 (same ▸ member))).mpr (present other (List.mem_cons_of_mem _ member)))
      refine ⟨opened.trans closed.openings, fun other => (left other).trans ?_⟩
      by_cases here : other = id
      · subst here
        by_cases quoted : QuotedAt world other
        · simp [World.openIds, closed.quoted quoted, Dict.mem_keys_erase, quoted]
        · simp [World.openIds, closed.unquoted quoted, distinct.1, quoted]
      · rw [others other here, quoted_others id other here world _ closed]
        simp [here]

end

section

variable (backtest : Backtest σ) (candles : List MarketCandle) (source : σ) (now : Moment)

theorem bar_point (replay : Replay σ) (entry : MarketCandle × Nat) :
    ∃ point, (backtest.bar candles replay entry).equityCurve = replay.equityCurve ++ [point] ∧
      point.timestamp = entry.1.end_ ∧ point.equity = roundTo 6 ((backtest.bar candles replay entry).world.portfolio.equity
        (backtest.bar candles replay entry).world.openPositions) := by
  have walked (prices : List ℚ) (replay : Replay σ) :
      (prices.foldl backtest.walk replay).equityCurve = replay.equityCurve := by
    induction prices generalizing replay with
    | nil => rfl
    | cons price rest ih => exact ih _
  exact ⟨_, congrArg (fun curve => curve ++ [_]) (walked (ohlcPath entry.1) (Backtest.openBar entry.1 replay)), rfl, rfl⟩

theorem point_of (candle : MarketCandle) (world : World PaperState) (base : List (PositionId × Position))
    (sound : Sound backtest base world) (point : EquityPoint) (timestamp : point.timestamp = candle.end_)
    (equity : point.equity = roundTo 6 (world.portfolio.equity world.openPositions)) :
    PointOf backtest candle world point := by
  have conserved := CashConservation.inv_conserved backtest.settings world sound.cash
  refine ⟨timestamp, equity.trans (congrArg (roundTo 6) ?_)⟩
  calc world.portfolio.equity world.openPositions
      = world.portfolio.balance + PortfolioManager.floatingPnl world.openPositions := rfl
    _ = backtest.config.initialBalance + netPnl world - openCommission world +
          PortfolioManager.floatingPnl world.openPositions := by rw [conserved.balance]; rfl
    _ = backtest.config.initialBalance + netPnl world + PortfolioManager.floatingPnl world.openPositions -
          openCommission world := by ring

theorem curve_points (count : Nat) (within : count ≤ candles.length) :
    (backtest.after candles source now count).equityCurve.length = count ∧
      ∀ index candle, index < count → candles[index]? = some candle →
        ∃ point, (backtest.after candles source now count).equityCurve[index]? = some point ∧
          PointOf backtest candle (backtest.after candles source now (index + 1)).world point := by
  induction count with
  | zero => exact ⟨rfl, fun index _ below => absurd below (Nat.not_lt_zero index)⟩
  | succ count ih =>
      obtain ⟨length, points⟩ := ih (Nat.le_of_succ_le within)
      have here : candles[count]? = some candles[count] := List.getElem?_eq_getElem within
      have next := backtest.after_succ candles source now count
      rw [here] at next
      obtain ⟨point, grown, timestamp, equity⟩ :=
        bar_point backtest candles (backtest.after candles source now count) (candles[count], count)
      have curve : (backtest.after candles source now (count + 1)).equityCurve =
          (backtest.after candles source now count).equityCurve ++ [point] := by
        rw [next]
        exact grown
      refine ⟨by rw [curve, List.length_append, length, List.length_singleton], ?_⟩
      intro index candle below found
      rw [curve]
      by_cases last : index = count
      · subst last
        cases here.symm.trans found
        refine ⟨point, by simp [length], ?_⟩
        refine point_of backtest _ _ _ (reached_sound backtest candles source now (index + 1)) point timestamp ?_
        rw [next]
        exact equity
      · have early : index < count := Nat.lt_of_le_of_ne (Nat.le_of_lt_succ below) last
        obtain ⟨old, there, accounted⟩ := points index candle early found
        refine ⟨old, ?_, accounted⟩
        rw [List.getElem?_append_left (early.trans_eq length.symm)]
        exact there

theorem end_book : openings (atEnd backtest candles source now) = openings (walked backtest candles source now) ∧
    ((atEnd backtest candles source now).openIds = [] ↔ Quoted (walked backtest candles source now)) := by
  have sound := reached_sound backtest candles source now candles.length
  obtain ⟨opened, left⟩ := liquidated backtest _ (walked backtest candles source now).openIds
    (walked backtest candles source now) sound (walked backtest candles source now).positions.opened.keys_nodup
    (fun _ member => member)
  refine ⟨opened, ?_⟩
  rw [List.eq_nil_iff_forall_not_mem]
  constructor
  · intro empty id position found
    by_contra unquoted
    have present := Dict.mem_keys_of_lookup _ id position found
    refine empty id ((left id).mpr ⟨present, fun _ quoted => unquoted (quoted position found)⟩)
  · intro quoted id member
    obtain ⟨present, unquoted⟩ := (left id).mp member
    exact unquoted present (quoted id)

theorem trades_fit (fits : (atEnd backtest candles source now).positions.closed.length ≤ 10000) :
    (atEnd backtest candles source now).journal.trades.map entry =
      (atEnd backtest candles source now).positions.closed.map row := by
  have booked := (end_sound backtest candles source now candles.length).booked
  rw [booked.trades, Deque.newest_all _ _ (by rw [List.length_map]; exact fits)]

-- The report accounts for every trade exactly where the journal has room for
-- them all and each position that the data leave open has a tradable quote.
theorem accounts_iff (first : MarketCandle) (rest : List MarketCandle) :
    ∃ result, backtest.runAsync (first :: rest) source = some result ∧
      (AccountsFor backtest (first :: rest) source first.start result ↔
        (openings (walked backtest (first :: rest) source first.start)).length ≤ 10000 ∧
          Quoted (walked backtest (first :: rest) source first.start)) := by
  refine ⟨_, rfl, ?_⟩
  let candles := first :: rest
  let final := atEnd backtest candles source first.start
  have sound := end_sound backtest candles source first.start candles.length
  obtain ⟨opened, flat⟩ := end_book backtest candles source first.start
  have counted : (openings final).length = final.positions.closed.length + final.openIds.length := by
    rw [sound.booked.opened.length_eq, List.length_append, List.length_map]
  constructor
  · intro accounts
    have listed : final.journal.trades.length = final.positions.closed.length := by
      have same := congrArg List.length accounts.trades
      rwa [List.length_map, List.length_map] at same
    have kept : final.journal.trades.length = min 10000 final.positions.closed.length := by
      have same := congrArg List.length sound.booked.trades
      rwa [List.length_map, Deque.newest_length, List.length_map] at same
    have all : final.journal.trades.length = (openings final).length := by
      have same := accounts.opened.length_eq
      rwa [List.length_map] at same
    refine ⟨?_, flat.mp (List.length_eq_zero_iff.mp ?_)⟩
    · rw [← opened]
      change (openings final).length ≤ 10000
      omega
    · change final.openIds.length = 0
      omega
  · rintro ⟨few, quoted⟩
    have empty : final.openIds = [] := flat.mpr quoted
    have nothing : final.openPositions = [] := by
      have none : final.positions.opened.entries = [] := List.map_eq_nil_iff.mp empty
      rw [World.openPositions, Managers.openPositions, Dict.values, none, List.map_nil]
    have fits : final.positions.closed.length ≤ 10000 := by
      rw [← opened] at few
      change (openings final).length ≤ 10000 at few
      omega
    have trades := trades_fit backtest candles source first.start fits
    have balance : final.portfolio.balance = backtest.config.initialBalance + netPnl final := by
      rw [(CashConservation.inv_conserved backtest.settings final sound.cash).balance, nothing]
      exact sub_zero _
    obtain ⟨points, curve⟩ := curve_points backtest candles source first.start candles.length (Nat.le_refl _)
    exact {
      trades := trades
      opened := by
        have ids : final.journal.trades.map TradeRecord.positionId = final.positions.closed.map Prod.fst := by
          have names := congrArg (List.map Prod.fst) trades
          rwa [List.map_map, List.map_map] at names
        have booked := sound.booked.opened
        change (openings final).Perm (final.positions.closed.map Prod.fst ++ final.openIds) at booked
        rw [empty, List.append_nil] at booked
        change (final.journal.trades.map TradeRecord.positionId).Perm (openings final)
        rw [ids]
        exact booked.symm
      once := sound.booked.once
      balance := congrArg (roundTo 6) balance
      equity := by
        have floating : final.portfolio.balance + PortfolioManager.floatingPnl final.openPositions =
            final.portfolio.balance := by
          rw [nothing]
          exact add_zero _
        exact congrArg (roundTo 6) floating
      points := points
      byThen := fun index => (end_sound backtest candles source first.start index).booked.since
      curve := fun index candle found =>
        curve index candle (List.getElem?_eq_some_iff.mp found).1 found }

end

def longRun : Backtest Unit := ⟨{}, PaperBroker.midway, longOnce, { symbol := "BTCUSDT" }⟩

-- The price gaps to zero over the stop. No close is filled there: not the stop,
-- nor the forced one.
def worthless : List MarketCandle := [minute 0 100 100 100 100, minute 1 100 100 0 0]

theorem position_never_listed : ∃ result, longRun.runAsync worthless () = some result ∧
    ¬ AccountsFor longRun worthless () 0 result := by
  refine ⟨_, rfl, fun accounts => ?_⟩
  have same := accounts.opened.length_eq
  have none : (longRun.report worthless (longRun.after worthless () 0 2)).trades.length = 0 := by decide +kernel
  have one : (openings (atEnd longRun worthless () 0)).length = 1 := by decide +kernel
  rw [List.length_map, one] at same
  cases none.symm.trans same

example : (longRun.runAsync [minute 0 100 100 100 100, minute 1 100 100 90 95] ()).map (fun result =>
    (result.trades.map entry, result.finalBalance, result.finalEquity)) =
      some ([(2, -202991137 / 1000000)], 9797008863 / 1000000, 9797008863 / 1000000) := by decide +kernel

end QuantEngine.EveryTrade
