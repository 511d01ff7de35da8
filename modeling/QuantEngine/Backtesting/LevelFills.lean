import QuantEngine.Backtesting.EveryTrade
import QuantEngine.Backtesting.Pass
import QuantEngine.Execution.PaperFills

set_option autoImplicit false

namespace QuantEngine.LevelFills

open BacktestEngine
open Calendar (Moment)
open Candles (MarketCandle)
open Decimal (roundTo)
open ExecutionEngine (startClose)

variable {σ : Type}

-- Slippage and latency move no fill.
def Costless (paper : PaperBroker) : Prop :=
  ∀ state request ticker context, PaperFills.costBps paper state request ticker context = 0

def PastStop (side : PositionSide) (stop price : ℚ) : Prop :=
  match side with
  | .long => price ≤ stop
  | .short => stop ≤ price

def PastTarget (side : PositionSide) (target price : ℚ) : Prop :=
  match side with
  | .long => target ≤ price
  | .short => price ≤ target

instance (side : PositionSide) (stop price : ℚ) : Decidable (PastStop side stop price) := by
  cases side with
  | long => exact inferInstanceAs (Decidable (price ≤ stop))
  | short => exact inferInstanceAs (Decidable (stop ≤ price))

instance (side : PositionSide) (target price : ℚ) : Decidable (PastTarget side target price) := by
  cases side with
  | long => exact inferInstanceAs (Decidable (target ≤ price))
  | short => exact inferInstanceAs (Decidable (price ≤ target))

-- A price at which a position with these levels is closed.
def touches (side : PositionSide) (stop target price : ℚ) : Bool :=
  decide (0 < price ∧ (PastStop side stop price ∨ PastTarget side target price))

-- The first price of the path at a level or beyond one lies on it.
def MeetsLevel (side : PositionSide) (stop target : ℚ) (candle : MarketCandle) : Prop :=
  ∀ price, (ohlcPath candle).find? (touches side stop target) = some price → price = stop ∨ price = target

section

variable (id : PositionId)

-- As far as position `id` goes nothing has happened.
structure Apart (world later : World PaperState) : Prop where
  held : later.positions.opened.lookup id = world.positions.opened.lookup id
  market : later.market = world.market
  trades : ∀ trade ∈ later.journal.trades, trade.positionId = id → trade ∈ world.journal.trades

-- Position `id` has been closed at this price.
structure Left (world later : World PaperState) (reason : ExitReason) (price : ℚ) : Prop where
  gone : later.positions.opened.lookup id = none
  market : later.market = world.market
  trades : ∀ trade ∈ later.journal.trades, trade.positionId = id →
    trade ∈ world.journal.trades ∨ (trade.exitReason = reason ∧ trade.exitPrice = price)

theorem Apart.refl (world : World PaperState) : Apart id world world := ⟨rfl, rfl, fun _ member _ => member⟩

variable {id}

theorem Apart.trans {a b c : World PaperState} (first : Apart id a b) (second : Apart id b c) : Apart id a c where
  held := second.held.trans first.held
  market := second.market.trans first.market
  trades trade member own := first.trades trade (second.trades trade member own) own

theorem Apart.left {a b c : World PaperState} {reason : ExitReason} {price : ℚ} (first : Apart id a b)
    (second : Left id b c reason price) : Left id a c reason price where
  gone := second.gone
  market := second.market.trans first.market
  trades trade member own := (second.trades trade member own).imp_left (fun there => first.trades trade there own)

theorem Left.apart {a b c : World PaperState} {reason : ExitReason} {price : ℚ} (first : Left id a b reason price)
    (second : Apart id b c) : Left id a c reason price where
  gone := second.held.trans first.gone
  market := second.market.trans first.market
  trades trade member own := first.trades trade (second.trades trade member own) own

end

theorem quiet_apart (id : PositionId) (world later : World PaperState) (quiet : world.Quiet later)
    (market : later.market = world.market) : Apart id world later where
  held := by rw [quiet.positions]
  market := market
  trades trade member _ := quiet.trades ▸ member

theorem mem_push_or {α : Type} (limit : Nat) (items : List α) (fresh item : α) (member : item ∈ Deque.push limit items fresh) :
    item ∈ items ∨ item = fresh := by
  have kept := List.mem_of_mem_drop member
  rcases List.mem_append.mp kept with old | new
  · exact .inl old
  · exact .inr (List.mem_singleton.mp new)

section

variable (backtest : Backtest σ) (id : PositionId)

theorem finish_apart (order : ExecutionEngine.ClosingOrder) (apart : id ≠ order.id) (view : MarketView)
    (world : World PaperState) : Apart id world (backtest.engine.finishClose order view world) := by
  have market := (backtest.engine.finish_close_steady order view world).market
  cases found : world.positions.object order.id with
  | none =>
      rw [ExecutionEngine.finishClose, found]
      exact .refl id world
  | some position =>
      rcases backtest.engine.finish_close_effect order view world position found with ⟨-, quiet⟩ | ⟨fill, -, settled⟩
      · exact quiet_apart id world _ quiet market
      · obtain ⟨trade, own, -, trades⟩ := settled.trades
        refine ⟨?_, market, fun other member mine => ?_⟩
        · rw [ExecutionEngine.settled_opened world _ order.id position fill _ settled, Dict.lookup_erase, if_neg apart]
        · rw [trades] at member
          rcases mem_push_or _ _ _ _ member with old | new
          · exact old
          · rw [new, own] at mine
            exact (apart mine.symm).elim

theorem close_apart (other : PositionId) (reason : ExitReason) (apart : id ≠ other) (world : World PaperState) :
    Apart id world (backtest.closeNow other reason world) := by
  have quiet := quiet_apart id world _ (ExecutionEngine.start_close_quiet other reason [] world)
    (ExecutionEngine.start_close_steady other reason [] world).market
  rw [Backtest.closeNow]
  cases outcome : startClose other reason [] world with
  | mk started later =>
      rw [outcome] at quiet
      cases started with
      | none => exact quiet
      | some order =>
          obtain ⟨same, -⟩ := ExecutionEngine.start_close_for other reason [] world order (by rw [outcome])
          exact quiet.trans (finish_apart backtest id order (same ▸ apart) _ later)

theorem mark_apart (other : PositionId) (apart : id ≠ other) (world : World PaperState) :
    Apart id world (backtest.engine.markAndManage other world).2 := by
  have touched := backtest.engine.mark_and_manage_effect other world
  refine ⟨?_, (backtest.engine.mark_and_manage_steady other world).market, fun trade member _ => touched.trades ▸ member⟩
  obtain ⟨f, -, positions⟩ := touched.positions
  rw [positions]
  exact Dict.lookup_modify_other _ _ _ _ apart

theorem manage_apart (other : PositionId) (apart : id ≠ other) (world : World PaperState) :
    Apart id world (backtest.manageNow other world) := by
  have marked := mark_apart backtest id other apart world
  rw [Backtest.manageNow]
  cases outcome : backtest.engine.markAndManage other world with
  | mk priced later =>
      rw [outcome] at marked
      cases priced with
      | false => exact marked
      | true =>
          dsimp only
          cases backtest.exitNow other later with
          | none => exact marked
          | some reason => exact marked.trans (close_apart backtest id other reason apart later)

theorem refresh_apart (world : World PaperState) : Apart id world (ExecutionEngine.refreshRiskState world).2 := by
  have valued := ExecutionEngine.refresh_risk_effect world
  exact ⟨by rw [valued.positions], (ExecutionEngine.refresh_risk_steady world).market,
    fun trade member _ => valued.trades ▸ member⟩

-- A run over other positions.
theorem each_apart (act : PositionId → World PaperState → World PaperState)
    (one : ∀ other world, id ≠ other → Apart id world (act other world)) (ids : List PositionId) (absent : id ∉ ids)
    (world : World PaperState) : Apart id world (ids.foldl (fun world other => act other world) world) := by
  induction ids generalizing world with
  | nil => exact .refl id world
  | cons other rest ih =>
      have apart : id ≠ other := fun same => absent (same ▸ List.mem_cons_self)
      exact (one other world apart).trans (ih (fun member => absent (List.mem_cons_of_mem _ member)) _)

-- Without costs a market order is filled at the price, whatever is known of the
-- market.
theorem fill_price (free : Costless backtest.paper) (state : PaperState) (now : Moment) (request : OrderRequest)
    (market : request.orderType = .market) (price : ℚ) (shown : roundTo 8 price = price) (context : SlippageContext) :
    let execution := (backtest.paper.execute state now request ⟨price, price⟩ (some context) false false).1
    (0 < request.quantity ∧ 0 < price → ∃ fill, execution.fill = some fill ∧ fill.price = price) ∧
      (¬ (0 < request.quantity ∧ 0 < price) → execution.fill = none) := by
  intro execution
  constructor
  · rintro ⟨quantity, positive⟩
    have filled := backtest.paper.execute_fills state now request ⟨price, price⟩ (some context) false market quantity
      positive (le_refl _)
    obtain ⟨fill, found⟩ := Option.isSome_iff_exists.mp filled
    refine ⟨fill, found, ?_⟩
    obtain ⟨-, -, reference, known, made⟩ := backtest.paper.execute_filled _ _ _ _ _ _ _ fill found
    have touch : reference = price := by
      rw [PaperBroker.referencePrice, market] at known
      cases Option.some.inj known
      split
      · rfl
      · rfl
    have cost := free state request ⟨price, price⟩ (some context)
    rw [← Option.some.inj made]
    change roundTo 8 (PaperBroker.applyAdverse reference request.side
      (PaperFills.costBps backtest.paper state request ⟨price, price⟩ (some context))) = price
    rw [cost, touch]
    cases request.side with
    | buy => simp [PaperBroker.applyAdverse, shown]
    | sell => simp [PaperBroker.applyAdverse, shown]
  · intro refused
    by_cases quantity : 0 < request.quantity
    · exact backtest.paper.execute_refuses _ _ _ _ _ _ _ (fun tradable => refused ⟨quantity, tradable.1⟩)
    · simp [execution, PaperBroker.execute, PaperBroker.reject, not_lt.mp quantity]

theorem finish_left (order : ExecutionEngine.ClosingOrder) (view : MarketView) (world : World PaperState)
    (position : Position) (held : world.positions.opened.lookup order.id = some position) (fill : Fill)
    (filled : (backtest.engine.closeExecution order position view world).1.fill = some fill) :
    Left order.id world (backtest.engine.finishClose order view world) order.reason fill.price := by
  have object : world.positions.object order.id = some position := by rw [PositionManager.object, held]
  have market := (backtest.engine.finish_close_steady order view world).market
  refine ⟨?_, market, ?_⟩
  · rcases backtest.engine.finish_close_effect order view world position object with ⟨unfilled, -⟩ | ⟨other, -, settled⟩
    · rw [filled] at unfilled
      cases unfilled
    · rw [ExecutionEngine.settled_opened world _ order.id position other _ settled, Dict.lookup_erase, if_pos rfl]
  · simp only [ExecutionEngine.finishClose, object, filled]
    intro trade member mine
    rw [show ∀ later : World PaperState, (ExecutionEngine.record order.id position fill order.reason
        (if order.exitReasons.isEmpty = true then [order.reason.value] else order.exitReasons) later).journal.trades =
        (later.journal.record _).trades from fun _ => rfl, ExecutionEngine.record_trades,
      (backtest.engine.breaker_quiet _).trades] at member
    rcases mem_push_or _ _ _ _ member with old | new
    · exact .inl old
    · rw [new]
      exact .inr ⟨rfl, rfl⟩

theorem start_here (world : World PaperState) (position : Position)
    (held : world.positions.opened.lookup id = some position) (ticker : Ticker)
    (priced : world.market.tickers position.symbol = some ticker) (reason : ExitReason) :
    ∃ order, (startClose id reason [] world).1 = some order ∧ order.id = id ∧ order.reason = reason ∧
      order.ticker = ticker ∧ order.For position := by
  rw [startClose, held]
  simp only [priced]
  exact ⟨_, rfl, rfl, rfl, rfl, ⟨rfl, rfl, rfl, rfl, rfl⟩⟩

theorem close_here (free : Costless backtest.paper) (world : World PaperState) (position : Position)
    (held : world.positions.opened.lookup id = some position) (price : ℚ) (shown : roundTo 8 price = price)
    (priced : world.market.tickers position.symbol = some ⟨price, price⟩) (reason : ExitReason) :
    (0 < position.quantity ∧ 0 < price → Left id world (backtest.closeNow id reason world) reason price) ∧
      (¬ (0 < position.quantity ∧ 0 < price) → Apart id world (backtest.closeNow id reason world)) := by
  have quiet := ExecutionEngine.start_close_quiet id reason [] world
  have started := quiet_apart id world _ quiet (ExecutionEngine.start_close_steady id reason [] world).market
  obtain ⟨order, outcome, rfl, rfl, ticker, made⟩ := start_here id world position held _ priced reason
  rw [Backtest.closeNow]
  cases split : startClose order.id order.reason [] world with
  | mk first later =>
      rw [split] at started quiet outcome
      cases outcome
      have still : later.positions.opened.lookup order.id = some position := started.held.trans held
      have object : later.positions.object order.id = some position := by rw [PositionManager.object, still]
      let view := backtest.engine.candleView order.request.symbol later
      obtain ⟨fills, refuses⟩ := fill_price backtest free later.broker later.now order.request made.orderType price shown
        (ExecutionEngine.slipContext view position.quantity)
      rw [← ticker, made.quantity] at fills refuses
      constructor
      · intro tradable
        obtain ⟨fill, filled, same⟩ := fills tradable
        exact same ▸ started.left (finish_left backtest order view later position still fill filled)
      · intro refused
        rcases backtest.engine.finish_close_effect order view later position object with ⟨-, nothing⟩ | ⟨fill, filled, -⟩
        · exact started.trans (quiet_apart order.id later _ nothing (backtest.engine.finish_close_steady order view later).market)
        · cases (refuses refused).symm.trans filled

-- A position marked at a price and managed there.
structure Managed (price : ℚ) (position later : Position) : Prop where
  symbol : later.symbol = position.symbol
  side : later.side = position.side
  quantity : later.quantity = position.quantity
  takeProfit : later.takeProfit = position.takeProfit
  markPrice : later.markPrice = price
  stopLoss : later.stopReason = .stopLoss → later.stopLoss = position.stopLoss

theorem Managed.trans {price other : ℚ} {a b c : Position} (first : Managed price a b) (second : Managed other b c)
    (unflagged : c.stopReason = .stopLoss → b.stopReason = .stopLoss) : Managed other a c where
  symbol := second.symbol.trans first.symbol
  side := second.side.trans first.side
  quantity := second.quantity.trans first.quantity
  takeProfit := second.takeProfit.trans first.takeProfit
  markPrice := second.markPrice
  stopLoss plain := (second.stopLoss plain).trans (first.stopLoss (unflagged plain))

theorem break_even_managed (rules : PositionRules) (position : Position) :
    Managed position.markPrice position (position.applyBreakEven rules).1 := by
  rw [Position.applyBreakEven]
  split
  · refine ⟨rfl, rfl, rfl, rfl, rfl, fun plain => ?_⟩
    rw [Position.stopReason] at plain
    split at plain
    · cases plain
    · cases plain
  · exact ⟨rfl, rfl, rfl, rfl, rfl, fun _ => rfl⟩

theorem trailing_managed (rules : PositionRules) (position : Position) (atr : Option ℚ) :
    Managed position.markPrice position (position.applyTrailing rules atr).1 ∧
      ((position.applyTrailing rules atr).1.stopReason = .stopLoss → position.stopReason = .stopLoss) := by
  have still : Managed position.markPrice position position := ⟨rfl, rfl, rfl, rfl, rfl, fun _ => rfl⟩
  rw [Position.applyTrailing]
  cases position.trailingDistance rules atr with
  | none => exact ⟨still, id⟩
  | some distance =>
      dsimp only
      split
      · have flagged (stop : ℚ) : ({ position with stopLoss := some stop, trailingActive := true } : Position).stopReason ≠
            .stopLoss := by
          rw [Position.stopReason, if_pos rfl]
          exact ExitReason.noConfusion
        exact ⟨⟨rfl, rfl, rfl, rfl, rfl, fun plain => (flagged _ plain).elim⟩, fun plain => (flagged _ plain).elim⟩
      · exact ⟨still, id⟩

theorem managed (rules : PositionRules) (position : Position) (atr : Option ℚ) (price : ℚ) :
    Managed price position ((position.updateMark price).manage rules atr).1 := by
  have first := break_even_managed rules (position.updateMark price)
  obtain ⟨second, unflagged⟩ := trailing_managed rules ((position.updateMark price).applyBreakEven rules).1 atr
  have whole := first.trans second unflagged
  exact ⟨whole.symbol, whole.side, whole.quantity, whole.takeProfit, whole.markPrice.trans first.markPrice, whole.stopLoss⟩

theorem mark_here (world : World PaperState) (position : Position) (held : world.positions.opened.lookup id = some position)
    (price : ℚ) (priced : world.market.tickers position.symbol = some ⟨price, price⟩) :
    ∃ later changed, backtest.engine.markAndManage id world = (true, later) ∧
      later.positions.opened.lookup id = some changed ∧ Managed price position changed ∧ later.market = world.market ∧
      later.journal.trades = world.journal.trades := by
  have object : world.positions.object id = some position := by rw [PositionManager.object, held]
  have steady := (backtest.engine.mark_and_manage_steady id world).market
  have trades := (backtest.engine.mark_and_manage_effect id world).trades
  have mark : ExecutionEngine.markPrice position ⟨price, price⟩ = price := by
    rw [ExecutionEngine.markPrice]
    cases position.side with
    | long => rfl
    | short => rfl
  have marked : (world.positions.updateMark id price).opened.lookup id = some (position.updateMark price) :=
    Dict.lookup_modify_here _ _ _ _ held
  have again : (world.positions.updateMark id price).object id = some (position.updateMark price) := by
    rw [PositionManager.object, marked]
  rw [ExecutionEngine.markAndManage, object] at steady trades ⊢
  simp only [priced, mark] at steady trades ⊢
  refine ⟨_, _, rfl, ?_, managed backtest.engine.settings.rules position (backtest.engine.symbolAtr position.symbol world) price,
    steady, trades⟩
  rw [(ExecutionEngine.announce_stops_quiet id position.symbol _ _).positions]
  dsimp only
  rw [PositionManager.manage, again]
  exact Dict.lookup_modify_here _ _ _ _ marked

-- What a pass at one price makes of an open position.
inductive Passed (price : ℚ) (position : Position) (world later : World PaperState) : Prop where
  | kept (changed : Position) (managed : Managed price position changed)
      (held : later.positions.opened.lookup id = some changed) (market : later.market = world.market)
      (trades : ∀ trade ∈ later.journal.trades, trade.positionId = id → trade ∈ world.journal.trades)
      (waits : 0 < changed.quantity ∧ 0 < price → changed.checkExit = none)
  | left (changed : Position) (reason : ExitReason) (managed : Managed price position changed)
      (tradable : 0 < changed.quantity ∧ 0 < price) (left : Left id world later reason price)
      (why : reason = .timeExit ∨ reason = .killSwitch ∨ changed.checkExit = some reason)

theorem Passed.before {price : ℚ} {position : Position} {a b c : World PaperState} (first : Apart id a b)
    (second : Passed id price position b c) : Passed id price position a c := by
  cases second with
  | kept changed managed held market trades waits =>
      exact .kept changed managed held (market.trans first.market)
        (fun trade member own => first.trades trade (trades trade member own) own) waits
  | left changed reason managed tradable left why => exact .left changed reason managed tradable (first.left left) why

theorem Passed.after {price : ℚ} {position : Position} {a b c : World PaperState} (first : Passed id price position a b)
    (second : Apart id b c) : Passed id price position a c := by
  cases first with
  | kept changed managed held market trades waits =>
      exact .kept changed managed (second.held.trans held) (second.market.trans market)
        (fun trade member own => trades trade (second.trades trade member own) own) waits
  | left changed reason managed tradable left why => exact .left changed reason managed tradable (left.apart second) why

theorem manage_here (free : Costless backtest.paper) (world : World PaperState) (position : Position)
    (held : world.positions.opened.lookup id = some position) (price : ℚ) (shown : roundTo 8 price = price)
    (priced : world.market.tickers position.symbol = some ⟨price, price⟩) :
    Passed id price position world (backtest.manageNow id world) := by
  obtain ⟨later, changed, outcome, there, managed, market, trades⟩ := mark_here backtest id world position held price priced
  have marked : ∀ trade ∈ later.journal.trades, trade.positionId = id → trade ∈ world.journal.trades :=
    fun trade member _ => trades ▸ member
  have object : later.positions.object id = some changed := by rw [PositionManager.object, there]
  have still : later.market.tickers changed.symbol = some ⟨price, price⟩ := by rw [market, managed.symbol, priced]
  rw [Backtest.manageNow, outcome]
  dsimp only
  cases exit : backtest.exitNow id later with
  | none =>
      refine .kept changed managed there market marked (fun _ => ?_)
      rw [Backtest.exitNow, object] at exit
      dsimp only at exit
      split at exit
      · cases exit
      · exact exit
  | some reason =>
      obtain ⟨leaves, stays⟩ := close_here backtest id free later changed there price shown still reason
      by_cases tradable : 0 < changed.quantity ∧ 0 < price
      · have left := leaves tradable
        refine .left changed reason managed tradable ⟨left.gone, left.market.trans market, fun trade member own => ?_⟩ ?_
        · exact (left.trades trade member own).imp_left (fun old => marked trade old own)
        · rw [Backtest.exitNow, object] at exit
          dsimp only at exit
          split at exit
          · exact .inl (Option.some.inj exit).symm
          · exact .inr (.inr exit)
      · have nothing := stays tradable
        exact .kept changed managed (nothing.held.trans there) (nothing.market.trans market)
          (fun trade member own => marked trade (nothing.trades trade member own) own) (fun can => (tradable can).elim)

-- Position `id` has its turn once in a run over the open positions.
theorem one_turn (world : World PaperState) (position : Position)
    (held : world.positions.opened.lookup id = some position) :
    ∃ earlier later, world.openIds = earlier ++ id :: later ∧ id ∉ earlier ∧ id ∉ later := by
  have member := Dict.mem_keys_of_lookup _ _ _ held
  obtain ⟨earlier, later, split⟩ := List.append_of_mem member
  have once := world.positions.opened.keys_nodup
  rw [split] at once
  have apart := List.nodup_append.mp once
  exact ⟨earlier, later, split, fun before => apart.2.2 id before id List.mem_cons_self rfl, (List.nodup_cons.mp apart.2.1).1⟩

theorem flatten_passed (free : Costless backtest.paper) (price : ℚ) (shown : roundTo 8 price = price) (position : Position)
    (world managed : World PaperState) (priced : world.market.tickers position.symbol = some ⟨price, price⟩)
    (passed : Passed id price position world managed) :
    Passed id price position world (backtest.flatten managed.openIds managed) := by
  have others := fun (ids : List PositionId) (absent : id ∉ ids) (later : World PaperState) =>
    each_apart id (fun other => backtest.closeNow other .killSwitch)
      (fun other later apart => close_apart backtest id other .killSwitch apart later) ids absent later
  cases passed with
  | left changed reason managed_ tradable left why =>
      have absent := (Dict.lookup_none_iff _ _).mp left.gone
      exact (Passed.left changed reason managed_ tradable left why).after id (others _ absent managed)
  | kept changed managed_ held market trades waits =>
      obtain ⟨earlier, later, split, before, after⟩ := one_turn id managed changed held
      have first := others earlier before managed
      rw [Backtest.flatten, split, List.foldl_append, List.foldl_cons]
      have still := first.held.trans held
      have quoted : (earlier.foldl (fun world other => backtest.closeNow other .killSwitch world) managed).market.tickers
          changed.symbol = some ⟨price, price⟩ := by
        rw [first.market, market, managed_.symbol, priced]
      have old := fun trade member own => trades trade (first.trades trade member own) own
      obtain ⟨leaves, stays⟩ := close_here backtest id free _ changed still price shown quoted .killSwitch
      refine Passed.after id ?_ (others later after _)
      by_cases tradable : 0 < changed.quantity ∧ 0 < price
      · have left := leaves tradable
        refine .left changed .killSwitch managed_ tradable ⟨left.gone, left.market.trans (first.market.trans market), ?_⟩
          (.inr (.inl rfl))
        exact fun trade member own => (left.trades trade member own).imp_left (fun there => old trade there own)
      · have nothing := stays tradable
        refine .kept changed managed_ (nothing.held.trans still) (nothing.market.trans (first.market.trans market)) ?_ waits
        exact fun trade member own => old trade (nothing.trades trade member own) own

theorem pass_here (free : Costless backtest.paper) (world : World PaperState) (position : Position)
    (held : world.positions.opened.lookup id = some position) (price : ℚ) (shown : roundTo 8 price = price)
    (priced : world.market.tickers position.symbol = some ⟨price, price⟩) :
    Passed id price position world (backtest.pass world) := by
  obtain ⟨earlier, later, split, before, after⟩ := one_turn id world position held
  have others := fun (ids : List PositionId) (absent : id ∉ ids) (later : World PaperState) =>
    each_apart id backtest.manageNow (fun other later apart => manage_apart backtest id other apart later) ids absent later
  have first := others earlier before world
  have turn := manage_here backtest id free _ position (first.held.trans held) price shown
    ((congrArg (fun market => market.tickers position.symbol) first.market).trans priced)
  have managed := ((turn.before id first).after id (others later after _)).after id (refresh_apart id _)
  rw [Backtest.pass, split, List.foldl_append, List.foldl_cons]
  rcases ExecutionEngine.refresh_risk_ids ((later.foldl (fun world other => backtest.manageNow other world)
    (backtest.manageNow id (earlier.foldl (fun world other => backtest.manageNow other world) world)))) with none | all
  · rw [none]
    exact managed
  · have listed : (ExecutionEngine.refreshRiskState (later.foldl (fun world other => backtest.manageNow other world)
        (backtest.manageNow id (earlier.foldl (fun world other => backtest.manageNow other world) world)))).2.openIds = _ :=
      congrArg (fun positions => positions.opened.keys) (ExecutionEngine.refresh_risk_effect _).positions
    rw [all]
    have flattened := flatten_passed backtest id free price shown position world _ priced managed
    rwa [listed] at flattened

-- Position `id` is not open, or there is no quote for it.
def Idle (world : World PaperState) : Prop :=
  ∀ position, world.positions.opened.lookup id = some position → world.market.tickers position.symbol = none

theorem Apart.idle {a b : World PaperState} (apart : Apart id a b) (idle : Idle id a) : Idle id b := by
  intro position held
  rw [apart.market]
  exact idle position (apart.held.symm.trans held)

theorem close_idle (reason : ExitReason) (world : World PaperState) (idle : Idle id world) :
    Apart id world (backtest.closeNow id reason world) := by
  have started : startClose id reason [] world = (none, world) := by
    rw [startClose]
    cases held : world.positions.opened.lookup id with
    | none => rfl
    | some position => simp only [idle position held]
  rw [Backtest.closeNow, started]
  exact .refl id world

theorem mark_idle (world : World PaperState) (idle : Idle id world) :
    Apart id world (backtest.engine.markAndManage id world).2 := by
  cases held : world.positions.opened.lookup id with
  | none =>
      have touched := backtest.engine.mark_and_manage_effect id world
      refine ⟨?_, (backtest.engine.mark_and_manage_steady id world).market, fun trade member _ => touched.trades ▸ member⟩
      obtain ⟨f, -, positions⟩ := touched.positions
      rw [positions, PositionManager.modify, Dict.lookup_modify, if_pos rfl, held]
      rfl
  | some position =>
      have object : world.positions.object id = some position := by rw [PositionManager.object, held]
      rw [ExecutionEngine.markAndManage, object]
      simp only [idle position held]
      exact .refl id world

theorem manage_idle (world : World PaperState) (idle : Idle id world) : Apart id world (backtest.manageNow id world) := by
  have marked := mark_idle backtest id world idle
  rw [Backtest.manageNow]
  cases outcome : backtest.engine.markAndManage id world with
  | mk priced later =>
      rw [outcome] at marked
      cases priced with
      | false => exact marked
      | true =>
          dsimp only
          cases backtest.exitNow id later with
          | none => exact marked
          | some reason => exact marked.trans (close_idle backtest id reason later (marked.idle id idle))

theorem each_idle (act : PositionId → World PaperState → World PaperState)
    (one : ∀ other world, Idle id world → Apart id world (act other world)) (ids : List PositionId)
    (world : World PaperState) (idle : Idle id world) :
    Apart id world (ids.foldl (fun world other => act other world) world) := by
  induction ids generalizing world with
  | nil => exact .refl id world
  | cons other rest ih =>
      have first := one other world idle
      exact first.trans (ih _ (first.idle id idle))

theorem pass_idle (world : World PaperState) (idle : Idle id world) : Apart id world (backtest.pass world) := by
  have managed : Apart id world (world.openIds.foldl (fun world other => backtest.manageNow other world) world) := by
    refine each_idle id backtest.manageNow (fun other later still => ?_) _ world idle
    by_cases same : id = other
    · subst same
      exact manage_idle backtest id later still
    · exact manage_apart backtest id other same later
  have refreshed := managed.trans (refresh_apart id _)
  refine refreshed.trans (each_idle id (fun other => backtest.closeNow other .killSwitch) (fun other later still => ?_) _ _
    (refreshed.idle id idle))
  by_cases same : id = other
  · subst same
    exact close_idle backtest id .killSwitch later still
  · exact close_apart backtest id other .killSwitch same later

theorem walk_world (replay : Replay σ) (price : ℚ) : (backtest.walk replay price).world = backtest.pass
    { replay.world with
      market := (replay.market.pushPrice backtest.config.symbol price backtest.config.spreadBps).service } :=
  backtest.pass_done _

theorem walk_quote (spread : backtest.config.spreadBps = 0) (market : HistoricalMarket) (price : ℚ)
    (shown : roundTo 8 price = price) (symbol : String) (own : upper symbol = upper backtest.config.symbol) :
    (market.pushPrice backtest.config.symbol price backtest.config.spreadBps).service.tickers symbol =
      some ⟨price, price⟩ := by
  change (market.tickers.insert (upper backtest.config.symbol) _).lookup (upper symbol) = _
  rw [own, Dict.lookup_insert, if_pos rfl, spread]
  simp [shown]

end

theorem exit_target (position : Position) (target : ℚ) (levels : position.takeProfit = some target)
    (exit : position.checkExit = some .takeProfit) : PastTarget position.side target position.markPrice := by
  rw [Position.checkExit] at exit
  split at exit
  · rw [Position.stopReason] at exit
    split at exit
    · cases exit
    · split at exit
      · cases exit
      · cases exit
  · split at exit
    · rename_i hit
      rw [Position.targetHit, levels] at hit
      cases side : position.side with
      | long => simpa [PastTarget, Position.isLong, side] using hit
      | short => simpa [PastTarget, Position.isLong, side] using hit
    · cases exit

theorem exit_stop (position : Position) (stop : ℚ) (levels : position.stopReason = .stopLoss → position.stopLoss = some stop)
    (exit : position.checkExit = some .stopLoss) : PastStop position.side stop position.markPrice := by
  rw [Position.checkExit] at exit
  split at exit
  · rename_i hit
    rw [Position.stopHit, levels (Option.some.inj exit)] at hit
    cases side : position.side with
    | long => simpa [PastStop, Position.isLong, side] using hit
    | short => simpa [PastStop, Position.isLong, side] using hit
  · split at exit
    · cases exit
    · cases exit

-- Only `checkExit` gives a level as the reason.
theorem level_exit (position : Position) (reason : ExitReason)
    (why : reason = .timeExit ∨ reason = .killSwitch ∨ position.checkExit = some reason)
    (level : reason = .stopLoss ∨ reason = .takeProfit) : position.checkExit = some reason := by
  rcases why with timed | killed | exit
  · rcases level with stop | target
    · cases timed.symm.trans stop
    · cases timed.symm.trans target
  · rcases level with stop | target
    · cases killed.symm.trans stop
    · cases killed.symm.trans target
  · exact exit

theorem no_exit (position : Position) (stop target : ℚ) (stops : position.stopLoss = some stop)
    (targets : position.takeProfit = some target) (exit : position.checkExit = none) :
    ¬ (PastStop position.side stop position.markPrice ∨ PastTarget position.side target position.markPrice) := by
  rw [Position.checkExit] at exit
  split at exit
  · cases exit
  · rename_i missed
    split at exit
    · cases exit
    · rename_i short
      rw [Position.stopHit, stops] at missed
      rw [Position.targetHit, targets] at short
      rw [not_or]
      cases side : position.side with
      | long => simpa [PastStop, PastTarget, Position.isLong, side] using And.intro missed short
      | short => simpa [PastStop, PastTarget, Position.isLong, side] using And.intro missed short

section

variable (backtest : Backtest σ) (id : PositionId) (start : Position) (stop target : ℚ)

-- Along the path position `id` is open and no price so far has touched a level,
-- or it has been closed, and by a level at the first price that touches one.
inductive Tracked (done : List ℚ) (replay : Replay σ) : Prop
  | waiting (held : Position) (found : replay.world.positions.opened.lookup id = some held)
      (symbol : held.symbol = start.symbol) (side : held.side = start.side) (stops : held.stopLoss = some stop)
      (targets : held.takeProfit = some target)
      (untraded : ∀ trade ∈ replay.world.journal.trades, trade.positionId ≠ id)
      (untouched : 0 < held.quantity → done.find? (touches start.side stop target) = none)
  | closed (gone : replay.world.positions.opened.lookup id = none) (reason : ExitReason) (price : ℚ)
      (trades : ∀ trade ∈ replay.world.journal.trades, trade.positionId = id →
        trade.exitReason = reason ∧ trade.exitPrice = price)
      (first : reason = .stopLoss ∨ reason = .takeProfit → done.find? (touches start.side stop target) = some price)
      (byStop : reason = .stopLoss → PastStop start.side stop price)
      (byTarget : reason = .takeProfit → PastTarget start.side target price)

theorem walk_tracked (free : Costless backtest.paper) (spread : backtest.config.spreadBps = 0)
    (own : upper start.symbol = upper backtest.config.symbol) (done : List ℚ) (replay : Replay σ) (price : ℚ)
    (shown : roundTo 8 price = price) (tracked : Tracked id start stop target done replay)
    (still : ∀ held, (backtest.walk replay price).world.positions.opened.lookup id = some held → held.stopLoss = some stop) :
    Tracked id start stop target (done ++ [price]) (backtest.walk replay price) := by
  let quoted : World PaperState := { replay.world with
    market := (replay.market.pushPrice backtest.config.symbol price backtest.config.spreadBps).service }
  have walked : (backtest.walk replay price).world = backtest.pass quoted := walk_world backtest replay price
  cases tracked with
  | closed gone reason exit trades first byStop byTarget =>
      have nothing := pass_idle backtest id quoted (fun position held => nomatch gone.symm.trans held)
      refine .closed (by rw [walked]; exact nothing.held.trans gone) reason exit (fun trade member mine => ?_)
        (fun why => by rw [List.find?_append, first why]; rfl) byStop byTarget
      rw [walked] at member
      exact trades trade (nothing.trades trade member mine) mine
  | waiting held found symbol side stops targets untraded untouched =>
      have quote : quoted.market.tickers held.symbol = some ⟨price, price⟩ :=
        walk_quote backtest spread replay.market price shown held.symbol (symbol ▸ own)
      cases pass_here backtest id free quoted held found price shown quote with
      | kept changed managed there market trades waits =>
          have kept : changed.stopLoss = some stop := still changed (by rw [walked]; exact there)
          have target_kept := managed.takeProfit.trans targets
          have same := managed.side.trans side
          refine .waiting changed (by rw [walked]; exact there) (managed.symbol.trans symbol) same kept target_kept
            (fun trade member mine => ?_) (fun size => ?_)
          · rw [walked] at member
            exact untraded trade (trades trade member mine) mine
          · rw [List.find?_append, untouched (managed.quantity ▸ size), Option.none_or, List.find?_singleton]
            have missed : touches start.side stop target price = false := by
              rw [touches, decide_eq_false_iff_not]
              rintro ⟨positive, hit⟩
              have away := no_exit changed stop target kept target_kept (waits ⟨size, positive⟩)
              rw [same, managed.markPrice] at away
              exact away hit
            rw [missed]
            rfl
      | left changed reason managed tradable left why =>
          have same := managed.side.trans side
          have byStop (plain : reason = .stopLoss) : PastStop start.side stop price := by
            have exit : changed.checkExit = some .stopLoss := plain ▸ level_exit changed reason why (.inl plain)
            have past := exit_stop changed stop (fun unmoved => (managed.stopLoss unmoved).trans stops) exit
            rwa [same, managed.markPrice] at past
          have byTarget (aimed : reason = .takeProfit) : PastTarget start.side target price := by
            have exit : changed.checkExit = some .takeProfit := aimed ▸ level_exit changed reason why (.inr aimed)
            have past := exit_target changed target (managed.takeProfit.trans targets) exit
            rwa [same, managed.markPrice] at past
          refine .closed (by rw [walked]; exact left.gone) reason price (fun trade member mine => ?_) (fun level => ?_)
            byStop byTarget
          · rw [walked] at member
            exact (left.trades trade member mine).resolve_left (fun old => untraded trade old mine)
          · have hit : touches start.side stop target price = true :=
              decide_eq_true ⟨tradable.2, level.imp byStop byTarget⟩
            rw [List.find?_append, untouched (managed.quantity ▸ tradable.1), Option.none_or, List.find?_singleton, hit]
            rfl

theorem path_tracked (free : Costless backtest.paper) (spread : backtest.config.spreadBps = 0)
    (own : upper start.symbol = upper backtest.config.symbol) (prices done : List ℚ) (replay : Replay σ)
    (shown : ∀ price ∈ prices, roundTo 8 price = price) (tracked : Tracked id start stop target done replay)
    (still : ∀ count held, ((prices.take count).foldl backtest.walk replay).world.positions.opened.lookup id = some held →
      held.stopLoss = some stop) :
    Tracked id start stop target (done ++ prices) (prices.foldl backtest.walk replay) := by
  induction prices generalizing done replay with
  | nil => rwa [List.append_nil]
  | cons price rest ih =>
      have onward := ih (done ++ [price]) (backtest.walk replay price)
        (fun other member => shown other (List.mem_cons_of_mem _ member))
        (walk_tracked backtest id start stop target free spread own done replay price (shown price List.mem_cons_self) tracked
          (still 1))
        (fun count => still (count + 1))
      rwa [List.append_assoc] at onward

end

section

variable (backtest : Backtest σ)

-- There are quotes for one symbol.
def OneQuote (market : HistoricalMarket) : Prop :=
  ∀ symbol, symbol ≠ upper backtest.config.symbol → market.tickers.lookup symbol = none

theorem walk_one_quote (prices : List ℚ) (replay : Replay σ) (one : OneQuote backtest replay.market) :
    OneQuote backtest (prices.foldl backtest.walk replay).market := by
  induction prices generalizing replay with
  | nil => exact one
  | cons price rest ih =>
      refine ih _ (fun symbol other => ?_)
      change (replay.market.tickers.insert (upper backtest.config.symbol) _).lookup symbol = none
      rw [Dict.lookup_insert, if_neg other]
      exact one symbol other

theorem reached_one_quote (candles : List MarketCandle) (source : σ) (now : Moment) (index : Nat) :
    OneQuote backtest (backtest.after candles source now index).market := by
  induction index with
  | zero => exact fun symbol _ => rfl
  | succ index ih =>
      rw [Backtest.after_succ]
      split
      · exact ih
      · rename_i candle _
        exact walk_one_quote backtest (ohlcPath candle) _ ih

theorem path_apart (id : PositionId) (position : Position) (other : upper position.symbol ≠ upper backtest.config.symbol)
    (prices : List ℚ) (replay : Replay σ) (one : OneQuote backtest replay.market)
    (held : replay.world.positions.opened.lookup id = some position) :
    ∀ trade ∈ (prices.foldl backtest.walk replay).world.journal.trades, trade.positionId = id →
      trade ∈ replay.world.journal.trades := by
  induction prices generalizing replay with
  | nil => exact fun trade member _ => member
  | cons price rest ih =>
      have quoteless := walk_one_quote backtest [price] replay one
      let quoted : World PaperState := { replay.world with
        market := (replay.market.pushPrice backtest.config.symbol price backtest.config.spreadBps).service }
      have nothing : Apart id quoted (backtest.walk replay price).world := by
        rw [walk_world]
        refine pass_idle backtest id quoted (fun same found => ?_)
        rw [Option.some.inj (found.symm.trans held)]
        exact quoteless (upper position.symbol) other
      exact fun trade member mine => nothing.trades trade (ih _ quoteless (nothing.held.trans held) trade member mine) mine

theorem reached_untraded (candles : List MarketCandle) (source : σ) (now : Moment) (index : Nat) (id : PositionId)
    (present : id ∈ (backtest.after candles source now index).world.openIds) :
    ∀ trade ∈ (backtest.after candles source now index).world.journal.trades, trade.positionId ≠ id := by
  intro trade member mine
  have booked := (EveryTrade.reached_sound backtest candles source now index).booked
  have listed : TradeLedger.entry trade ∈ _ := List.mem_map_of_mem member
  rw [booked.trades] at listed
  obtain ⟨closed, kept, same⟩ := List.mem_map.mp (List.mem_of_mem_drop listed)
  have once := booked.opened.nodup booked.once
  refine (List.nodup_append.mp once).2.2 id ?_ id present rfl
  exact List.mem_map.mpr ⟨closed, kept, (congrArg Prod.fst same).trans mine⟩

end

-- The state after so many points of the path of a bar.
def point (backtest : Backtest σ) (candle : MarketCandle) (replay : Replay σ) (count : Nat) : Replay σ :=
  ((ohlcPath candle).take count).foldl backtest.walk (Backtest.openBar candle replay)

def Between (side : PositionSide) (stop target price : ℚ) : Prop :=
  match side with
  | .long => stop < price ∧ price < target
  | .short => target < price ∧ price < stop

-- An open position with its levels around the open of the next bar, and its stop
-- not moved while the bar goes on.
structure HeldBetween (backtest : Backtest σ) (replay : Replay σ) (candle : MarketCandle) (id : PositionId)
    (position : Position) (stop target : ℚ) : Prop where
  held : replay.world.positions.opened.lookup id = some position
  takeProfit : position.takeProfit = some target
  between : Between position.side stop target candle.open_
  still : ∀ count held, (point backtest candle replay count).world.positions.opened.lookup id = some held →
    held.stopLoss = some stop

-- The trades of the position that the bar has brought.
def exits (backtest : Backtest σ) (candle : MarketCandle) (replay : Replay σ) (id : PositionId) : List TradeRecord :=
  (point backtest candle replay 4).world.journal.trades.filter (fun trade => decide (trade.positionId = id))

-- Whichever level has closed the position, its trade has that price.
def ExitsAtLevel (backtest : Backtest σ) (candle : MarketCandle) (replay : Replay σ) (id : PositionId) (stop target : ℚ) :
    Prop :=
  ∀ trade ∈ exits backtest candle replay id,
    (trade.exitReason = .stopLoss → trade.exitPrice = stop) ∧ (trade.exitReason = .takeProfit → trade.exitPrice = target)

theorem path_length (candle : MarketCandle) : (ohlcPath candle).length = 4 := by
  rw [ohlcPath]
  split
  · rfl
  · rfl

theorem between_apart (side : PositionSide) (stop target open_ price : ℚ) (between : Between side stop target open_)
    (level : price = stop ∨ price = target) :
    (PastStop side stop price → price = stop) ∧ (PastTarget side target price → price = target) := by
  cases side with
  | long =>
      obtain ⟨above, below⟩ := between
      constructor
      · intro (past : price ≤ stop)
        rcases level with here | there
        · exact here
        · linarith
      · intro (past : target ≤ price)
        rcases level with here | there
        · linarith
        · exact there
  | short =>
      obtain ⟨above, below⟩ := between
      constructor
      · intro (past : stop ≤ price)
        rcases level with here | there
        · exact here
        · linarith
      · intro (past : price ≤ target)
        rcases level with here | there
        · linarith
        · exact there

-- A bar that closes the position by one of its levels does so at that level just
-- where its path meets the level.
theorem exits_at_level_iff (backtest : Backtest σ) (free : Costless backtest.paper) (spread : backtest.config.spreadBps = 0)
    (candles : List MarketCandle) (source : σ) (now : Moment) (index : Nat) (candle : MarketCandle)
    (shown : ∀ price ∈ ohlcPath candle, roundTo 8 price = price) (id : PositionId) (position : Position) (stop target : ℚ)
    (held : HeldBetween backtest (backtest.after candles source now index) candle id position stop target)
    (closed : ∃ trade ∈ exits backtest candle (backtest.after candles source now index) id,
      trade.exitReason = .stopLoss ∨ trade.exitReason = .takeProfit) :
    ExitsAtLevel backtest candle (backtest.after candles source now index) id stop target ↔
      MeetsLevel position.side stop target candle := by
  obtain ⟨trade, member, level⟩ := closed
  obtain ⟨listed, mine⟩ := List.mem_filter.mp member
  have whole : (ohlcPath candle).take 4 = ohlcPath candle := List.take_of_length_le (path_length candle).le
  have untraded := reached_untraded backtest candles source now index id (Dict.mem_keys_of_lookup _ _ _ held.held)
  by_cases own : upper position.symbol = upper backtest.config.symbol
  · have opening : Tracked id position stop target [] (Backtest.openBar candle (backtest.after candles source now index)) :=
      .waiting position held.held rfl rfl (held.still 0 position held.held) held.takeProfit untraded (fun _ => rfl)
    have tracked := path_tracked backtest id position stop target free spread own (ohlcPath candle) [] _ shown opening
      held.still
    rw [List.nil_append, ← whole] at tracked
    cases tracked with
    | waiting later found symbol side stops targets none_yet untouched =>
        exact (none_yet trade listed (of_decide_eq_true mine)).elim
    | closed gone reason price trades first byStop byTarget =>
        rw [whole] at first
        have same : ∀ other ∈ exits backtest candle (backtest.after candles source now index) id,
            other.exitReason = reason ∧ other.exitPrice = price := fun other there =>
          trades other (List.mem_filter.mp there).1 (of_decide_eq_true (List.mem_filter.mp there).2)
        obtain ⟨why, paid⟩ := same trade member
        rw [why] at level
        constructor
        · intro exact_ other touched
          rw [Option.some.inj (touched.symm.trans (first level)), ← paid]
          exact level.imp (fun plain => (exact_ trade member).1 (why.trans plain))
            (fun aimed => (exact_ trade member).2 (why.trans aimed))
        · intro meets other there
          obtain ⟨reasonSame, priceSame⟩ := same other there
          obtain ⟨atStop, atTarget⟩ := between_apart position.side stop target candle.open_ price held.between
            (meets price (first level))
          rw [reasonSame, priceSame]
          exact ⟨fun plain => atStop (byStop plain), fun aimed => atTarget (byTarget aimed)⟩
  · have old := path_apart backtest id position own ((ohlcPath candle).take 4) (Backtest.openBar candle _)
      (reached_one_quote backtest candles source now index) held.held trade listed (of_decide_eq_true mine)
    exact (untraded trade old (of_decide_eq_true mine)).elim

def costless : PaperBroker :=
  { PaperBroker.midway with settings := { slippage := { model := "none" }, latency := { enabled := false } } }

theorem costless_free : Costless costless := fun _ _ _ _ => by
  simp [PaperFills.costBps, costless, SlippageEngine.estimateBps, LatencyEngine.sample]

def flat : Backtest Unit := ⟨{}, costless, longOnce, { symbol := "BTCUSDT", spreadBps := 0 }⟩

-- Long from 100 with the stop at 99.5 and the target at 100.75.
def bought : Replay Unit := flat.after [minute 0 100 100 100 100] () 0 1

theorem held_between (candle : MarketCandle) (open_ : candle.open_ = 100)
    (stops : ∀ count : Fin 5, ((point flat candle bought count).world.positions.opened.lookup 2).all
      (fun held => decide (held.stopLoss = some (199 / 2))) = true) :
    ∃ position, position.side = .long ∧ HeldBetween flat bought candle 2 position (199 / 2) (403 / 4) := by
  have present : (bought.world.positions.opened.lookup 2).map (fun position => (position.side, position.takeProfit)) =
      some (.long, some (403 / 4)) := by decide +kernel
  obtain ⟨position, held, levels⟩ := Option.map_eq_some_iff.mp present
  obtain ⟨side, target⟩ := Prod.mk.inj levels
  refine ⟨position, side, held, target, ?_, fun count later found => ?_⟩
  · rw [side, open_]
    constructor
    · norm_num
    · norm_num
  · have whole : (ohlcPath candle).take count = (ohlcPath candle).take (min count 4) := by
      rcases Nat.le_total count 4 with within | beyond
      · rw [Nat.min_eq_left within]
      · have four := path_length candle
        rw [Nat.min_eq_right beyond, List.take_of_length_le (four ▸ beyond), List.take_of_length_le four.le]
    have known := stops ⟨min count 4, by omega⟩
    rw [point, ← whole] at known
    rw [point] at found
    rw [found] at known
    exact of_decide_eq_true known

theorem exits_at_level_iff_met : ExitsAtLevel flat (minute 1 100 100 (199 / 2) 100) bought 2 (199 / 2) (403 / 4) := by
  obtain ⟨position, side, held⟩ := held_between (minute 1 100 100 (199 / 2) 100) rfl (by decide +kernel)
  refine (exits_at_level_iff flat costless_free rfl [minute 0 100 100 100 100] () 0 1 (minute 1 100 100 (199 / 2) 100)
    (by decide +kernel) 2 position (199 / 2) (403 / 4) held (by decide +kernel)).mpr ?_
  intro price touched
  have met : (ohlcPath (minute 1 100 100 (199 / 2) 100)).find? (touches .long (199 / 2) (403 / 4)) = some (199 / 2) := by
    decide +kernel
  rw [side] at touched
  exact .inl (Option.some.inj (touched.symm.trans met))

-- The low of the bar is far below the stop.
theorem filled_below_the_stop : (∃ position, HeldBetween flat bought (minute 1 100 100 90 95) 2 position (199 / 2) (403 / 4)) ∧
    (∃ trade ∈ exits flat (minute 1 100 100 90 95) bought 2, trade.exitReason = .stopLoss ∧ trade.exitPrice = 90) ∧
    ¬ ExitsAtLevel flat (minute 1 100 100 90 95) bought 2 (199 / 2) (403 / 4) := by
  have fill : ∃ trade ∈ exits flat (minute 1 100 100 90 95) bought 2,
      trade.exitReason = .stopLoss ∧ trade.exitPrice = 90 := by decide +kernel
  obtain ⟨position, -, held⟩ := held_between (minute 1 100 100 90 95) rfl (by decide +kernel)
  refine ⟨⟨position, held⟩, fill, fun exact_ => ?_⟩
  obtain ⟨trade, member, reason, price⟩ := fill
  have level := (exact_ trade member).1 reason
  rw [price] at level
  norm_num at level

end QuantEngine.LevelFills
