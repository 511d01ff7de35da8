import QuantEngine.Execution.Tasks

set_option autoImplicit false

namespace QuantEngine

variable {β : Type}

namespace Position

-- A change of marks, stops and metadata only.
structure Keeps (f : Position → Position) : Prop where
  symbol : ∀ position, (f position).symbol = position.symbol
  side : ∀ position, (f position).side = position.side
  quantity : ∀ position, (f position).quantity = position.quantity
  entryPrice : ∀ position, (f position).entryPrice = position.entryPrice
  commissionPaid : ∀ position, (f position).commissionPaid = position.commissionPaid

theorem keeps_all : Keeps (fun position => position) :=
  ⟨fun _ => rfl, fun _ => rfl, fun _ => rfl, fun _ => rfl, fun _ => rfl⟩

theorem keeps_mark (mark : ℚ) : Keeps (fun position => position.updateMark mark) :=
  ⟨fun _ => rfl, fun _ => rfl, fun _ => rfl, fun _ => rfl, fun _ => rfl⟩

theorem keeps_metadata (f : PositionMetadata → PositionMetadata) :
    Keeps (fun position => { position with metadata := f position.metadata }) :=
  ⟨fun _ => rfl, fun _ => rfl, fun _ => rfl, fun _ => rfl, fun _ => rfl⟩

theorem keeps_stop (stop : Position → Option ℚ) (breakEven : Position → Bool) :
    Keeps (fun position => { position with stopLoss := stop position, breakEvenActive := breakEven position }) :=
  ⟨fun _ => rfl, fun _ => rfl, fun _ => rfl, fun _ => rfl, fun _ => rfl⟩

theorem Keeps.comp {f g : Position → Position} (first : Keeps f) (second : Keeps g) :
    Keeps (fun position => g (f position)) where
  symbol position := (second.symbol _).trans (first.symbol position)
  side position := (second.side _).trans (first.side position)
  quantity position := (second.quantity _).trans (first.quantity position)
  entryPrice position := (second.entryPrice _).trans (first.entryPrice position)
  commissionPaid position := (second.commissionPaid _).trans (first.commissionPaid position)

theorem keeps_break_even (rules : PositionRules) : Keeps (fun position => (position.applyBreakEven rules).1) := by
  constructor <;> intro position <;> simp only [applyBreakEven] <;> split <;> rfl

theorem keeps_trailing (rules : PositionRules) (atr : Option ℚ) :
    Keeps (fun position => (position.applyTrailing rules atr).1) := by
  have moved (position : Position) : (position.applyTrailing rules atr).1 = position ∨ ∃ stop,
      (position.applyTrailing rules atr).1 = { position with stopLoss := some stop, trailingActive := true } := by
    simp only [applyTrailing]
    cases position.trailingDistance rules atr with
    | none => exact .inl rfl
    | some distance =>
        dsimp only
        split
        · exact .inr ⟨_, rfl⟩
        · exact .inl rfl
  constructor <;> intro position <;> rcases moved position with same | ⟨stop, same⟩ <;> rw [same]

theorem keeps_manage (rules : PositionRules) (atr : Option ℚ) : Keeps (fun position => (position.manage rules atr).1) :=
  (keeps_break_even rules).comp (keeps_trailing rules atr)

end Position

namespace PositionManager

theorem modify_twice (manager : PositionManager) (id : PositionId) (f g : Position → Position) :
    (manager.modify id f).modify id g = manager.modify id (fun position => g (f position)) := by
  simp only [modify, Dict.modify_modify, List.map_map, PositionManager.mk.injEq, true_and]
  exact List.map_congr_left (fun entry _ => Dict.modify_entry_twice id f g entry)

theorem modify_nothing (manager : PositionManager) (id : PositionId) :
    manager.modify id (fun position => position) = manager := by
  have entry : Dict.modifyEntry id (fun position : Position => position) = (fun entry => entry) := by
    funext entry
    rw [Dict.modifyEntry]
    split <;> rfl
  simp only [modify, Dict.modify, entry, List.map_id']

theorem manage_modifies (manager : PositionManager) (rules : PositionRules) (id : PositionId) (atr : Option ℚ) :
    ∃ f, Position.Keeps f ∧ (manager.manage rules id atr).1 = manager.modify id f := by
  rw [manage]
  cases manager.object id with
  | none => exact ⟨_, Position.keeps_all, (manager.modify_nothing id).symm⟩
  | some position => exact ⟨_, Position.keeps_manage rules atr, rfl⟩

end PositionManager

namespace World

-- What every step of the engine but a balance synchronisation leaves alone.
structure Frame (before after : World β) : Prop where
  memory : after.journal.memoryLimit = before.journal.memoryLimit
  ids : before.nextId ≤ after.nextId
  limits : after.risk.settings = before.risk.settings
  baseline : after.balanceBaselineSet = before.balanceBaselineSet

theorem Frame.refl (world : World β) : world.Frame world := ⟨rfl, Nat.le_refl _, rfl, rfl⟩

theorem Frame.trans {a b c : World β} (first : a.Frame b) (second : b.Frame c) : a.Frame c where
  memory := second.memory.trans first.memory
  ids := Nat.le_trans first.ids second.ids
  limits := second.limits.trans first.limits
  baseline := second.baseline.trans first.baseline

structure Quiet (before after : World β) : Prop extends Frame before after where
  positions : after.positions = before.positions
  portfolio : after.portfolio = before.portfolio
  trades : after.journal.trades = before.journal.trades
  history : after.history = before.history

theorem Quiet.refl (world : World β) : world.Quiet world := ⟨.refl world, rfl, rfl, rfl, rfl⟩

theorem Quiet.trans {a b c : World β} (first : a.Quiet b) (second : b.Quiet c) : a.Quiet c where
  toFrame := first.toFrame.trans second.toFrame
  positions := second.positions.trans first.positions
  portfolio := second.portfolio.trans first.portfolio
  trades := second.trades.trans first.trades
  history := second.history.trans first.history

structure Opened (before after : World β) (id : PositionId) (position : Position)
    (killSwitch circuitBreaker : Bool) : Prop extends Frame before after where
  positions : after.positions = before.positions.add id position
  portfolio : after.portfolio = before.portfolio.onOpenCommission position.commissionPaid
  trades : after.journal.trades = before.journal.trades
  history : after.history = before.history ++ [.opened id killSwitch circuitBreaker]
  fresh : before.nextId ≤ id
  used : id < after.nextId

structure Settled (before after : World β) (id : PositionId) (position : Position) (fill : Fill)
    (executed : List Happening) : Prop extends Frame before after where
  positions : ∃ reason exitReasons now, after.positions =
    (before.positions.close id position fill.price fill.commission reason exitReasons now).2
  portfolio : after.portfolio = before.portfolio.onTradeClosed (position.grossPnl fill.price) fill.commission
  trades : ∃ trade, trade.positionId = id ∧ trade.pnl = Decimal.roundTo 6 (position.grossPnl fill.price -
      (position.commissionPaid + fill.commission)) ∧
    after.journal.trades = Deque.push before.journal.memoryLimit before.journal.trades trade
  history : after.history = before.history ++ (executed ++ [.portfolioSettled id, .riskSettled id, .journaled id])

structure Touched (before after : World β) (id : PositionId) : Prop extends Frame before after where
  positions : ∃ f, Position.Keeps f ∧ after.positions = before.positions.modify id f
  portfolio : after.portfolio = before.portfolio
  trades : after.journal.trades = before.journal.trades
  history : after.history = before.history

-- The equity was taken: the portfolio remembers its floating part and its
-- peak, and a drawdown at the limit has engaged the kill switch.
structure Valued (before after : World β) : Prop extends Frame before after where
  positions : after.positions = before.positions
  portfolio : after.portfolio = (before.portfolio.snapshot before.openPositions before.now).2
  trades : after.journal.trades = before.journal.trades
  history : ∃ killSwitch, after.history = before.history ++
      [.refreshed before.portfolio.peakEquity (before.portfolio.equity before.openPositions) killSwitch] ∧
    (before.risk.drawdownBreached (before.portfolio.snapshot before.openPositions before.now).1.drawdownPct = true →
      killSwitch = true)

theorem Quiet.opened {a b c : World β} {id : PositionId} {position : Position} {killSwitch circuitBreaker : Bool}
    (first : a.Quiet b) (second : b.Opened c id position killSwitch circuitBreaker) :
    a.Opened c id position killSwitch circuitBreaker where
  toFrame := first.toFrame.trans second.toFrame
  positions := first.positions ▸ second.positions
  portfolio := first.portfolio ▸ second.portfolio
  trades := second.trades.trans first.trades
  history := first.history ▸ second.history
  fresh := Nat.le_trans first.ids second.fresh
  used := second.used

theorem Touched.refl (world : World β) (id : PositionId) : world.Touched world id where
  toFrame := .refl world
  positions := ⟨_, Position.keeps_all, (world.positions.modify_nothing id).symm⟩
  portfolio := rfl
  trades := rfl
  history := rfl

theorem Touched.trans {a b c : World β} {id : PositionId} (first : a.Touched b id) (second : b.Touched c id) :
    a.Touched c id := by
  obtain ⟨f, keepsF, changedF⟩ := first.positions
  obtain ⟨g, keepsG, changedG⟩ := second.positions
  exact {
    toFrame := first.toFrame.trans second.toFrame
    positions := ⟨_, keepsF.comp keepsG, by rw [changedG, changedF, PositionManager.modify_twice]⟩
    portfolio := second.portfolio.trans first.portfolio
    trades := second.trades.trans first.trades
    history := second.history.trans first.history }

theorem Quiet.touched {a b : World β} (quiet : a.Quiet b) (id : PositionId) : a.Touched b id where
  toFrame := quiet.toFrame
  positions := quiet.positions ▸ (Touched.refl a id).positions
  portfolio := quiet.portfolio
  trades := quiet.trades
  history := quiet.history

end World

theorem disturb_quiet (world : World β) (change : Disturbance β) : world.Quiet (change.disturb world) := by
  cases change <;> exact ⟨⟨rfl, Nat.le_refl _, rfl, rfl⟩, rfl, rfl, rfl, rfl⟩

namespace ExecutionEngine

open World

variable (engine : ExecutionEngine β)

theorem reject_quiet (symbol : String) (side : OrderSide) (reason : RejectReason) (rule detail : String)
    (world : World β) : world.Quiet (reject symbol side reason rule detail world) :=
  ⟨⟨rfl, Nat.le_add_right _ 2, rfl, rfl⟩, rfl, rfl, rfl, rfl⟩

theorem screen_quiet (decision : DecisionGenerated) (world : World β) :
    world.Quiet (engine.screen decision world).2 := by
  rw [screen]
  cases entrySide decision with
  | none => exact .refl world
  | some side =>
      dsimp only
      split
      · exact .refl world
      · cases entryVeto world with
        | none => exact .refl world
        | some veto => exact reject_quiet _ side _ _ veto world

theorem spec_quiet (symbol : String) (world : World β) : world.Quiet (engine.instrumentSpec symbol world).2 := by
  rw [instrumentSpec]
  cases world.specCache.lookup symbol with
  | some spec => exact .refl world
  | none =>
      dsimp only
      split
      · exact .refl world
      · exact ⟨⟨rfl, Nat.le_refl _, rfl, rfl⟩, rfl, rfl, rfl, rfl⟩

theorem place_order_effect (decision : DecisionGenerated) (plan : EntryPlan) (killSwitch circuitBreaker : Bool)
    (world : World β) :
    world.Quiet (engine.placeOrder decision plan killSwitch circuitBreaker world) ∨
      ∃ id position, position.symbol = plan.symbol ∧
        world.Opened (engine.placeOrder decision plan killSwitch circuitBreaker world) id position killSwitch
          circuitBreaker := by
  have asked := engine.paper.fillsRequest world.broker world.now (entryRequest (.fresh world.nextId) decision plan)
    plan.ticker (some (slipContext plan.view plan.sizing.quantity)) true true
  simp only [placeOrder]
  split
  · exact .inl ⟨⟨rfl, Nat.le_add_right _ 2, rfl, rfl⟩, rfl, rfl, rfl, rfl⟩
  · rename_i fill filled
    refine .inr ⟨world.nextId + 2, entryPosition decision plan fill, (asked fill filled).1, ?_⟩
    exact ⟨⟨rfl, Nat.le_add_right _ 3, rfl, rfl⟩, rfl, rfl, rfl, rfl, Nat.le_add_right _ 2, Nat.lt_succ_self _⟩

structure Admitted (world : World β) (position : Position) (killSwitch circuitBreaker : Bool) : Prop where
  killSwitch : killSwitch = false
  circuitBreaker : circuitBreaker = false
  total : (world.positions.opened.size : Int) < world.risk.settings.maxOpenPositions
  symbol : ((world.positions.opened.entries.filter
    (fun entry => decide (entry.2.symbol = position.symbol))).length : Int) < world.risk.settings.maxPositionsPerSymbol

theorem risk_checked_effect (decision : DecisionGenerated) (plan : EntryPlan) (world : World β) :
    world.Quiet (engine.riskChecked decision plan world) ∨ ∃ id position killSwitch circuitBreaker,
      Admitted world position killSwitch circuitBreaker ∧
        world.Opened (engine.riskChecked decision plan world) id position killSwitch circuitBreaker := by
  have settings := (world.risk.evaluate_frame (riskQuery plan world) world.now).2.2
  have evaluated : world.Quiet { world with risk := (world.risk.evaluateEntry (riskQuery plan world) world.now).2 } :=
    ⟨⟨rfl, Nat.le_refl _, settings, rfl⟩, rfl, rfl, rfl, rfl⟩
  simp only [riskChecked]
  split
  · exact .inl (evaluated.trans (reject_quiet _ _ _ _ _ _))
  · rename_i verdict
    have allowed : (world.risk.evaluateEntry (riskQuery plan world) world.now).1.allowed = true := by
      simpa using verdict
    obtain ⟨kill, breaker, total, symbol⟩ := world.risk.evaluate_allowed _ _ allowed
    rcases engine.place_order_effect decision plan world.risk.killSwitchActive
      (world.risk.circuitBreakerActive world.now) _ with quiet | ⟨id, position, same, opened⟩
    · exact .inl (evaluated.trans quiet)
    · refine .inr ⟨id, position, _, _, ⟨kill, breaker, total, ?_⟩, evaluated.opened opened⟩
      rw [same]
      simpa only [riskQuery, PositionManager.positionsFor, plan.isUpper] using symbol

theorem enter_effect (decision : DecisionGenerated) (entry : Entry) (view : MarketView) (world : World β) :
    world.Quiet (engine.enter decision entry view world) ∨ ∃ id position killSwitch circuitBreaker,
      Admitted world position killSwitch circuitBreaker ∧
        world.Opened (engine.enter decision entry view world) id position killSwitch circuitBreaker := by
  simp only [enter]
  split
  · exact .inl (reject_quiet _ _ _ _ _ _)
  · split
    · exact .inl (reject_quiet _ _ _ _ _ _)
    · have quoted := engine.spec_quiet entry.symbol world
      split
      · exact .inl (quoted.trans (reject_quiet _ _ _ _ _ _))
      · rcases engine.risk_checked_effect decision _ _ with quiet | ⟨id, position, kill, breaker, admitted, opened⟩
        · exact .inl (quoted.trans quiet)
        · refine .inr ⟨id, position, kill, breaker, ?_, quoted.opened opened⟩
          exact ⟨admitted.killSwitch, admitted.circuitBreaker, quoted.positions ▸ quoted.limits ▸ admitted.total,
            quoted.positions ▸ quoted.limits ▸ admitted.symbol⟩

theorem start_close_quiet (id : PositionId) (reason : ExitReason) (exitReasons : List String) (world : World β) :
    world.Quiet (startClose id reason exitReasons world).2 := by
  rw [startClose]
  cases world.positions.opened.lookup id with
  | none => exact .refl world
  | some position =>
      dsimp only
      cases world.market.tickers position.symbol with
      | none => exact .refl world
      | some ticker => exact ⟨⟨rfl, Nat.le_add_right _ 2, rfl, rfl⟩, rfl, rfl, rfl, rfl⟩

structure ClosingOrder.For (order : ClosingOrder) (position : Position) : Prop where
  symbol : order.request.symbol = position.symbol
  side : order.request.side = closeSide position
  quantity : order.request.quantity = position.quantity
  orderType : order.request.orderType = .market
  reduceOnly : order.request.reduceOnly = true

theorem start_close_for (id : PositionId) (reason : ExitReason) (exitReasons : List String) (world : World β)
    (order : ClosingOrder) (started : (startClose id reason exitReasons world).1 = some order) :
    order.id = id ∧ ∃ position, world.positions.opened.lookup id = some position ∧ order.For position ∧
      world.market.tickers position.symbol = some order.ticker := by
  rw [startClose] at started
  cases found : world.positions.opened.lookup id with
  | none =>
      rw [found] at started
      cases started
  | some position =>
      rw [found] at started
      cases priced : world.market.tickers position.symbol with
      | none =>
          simp only [priced] at started
          cases started
      | some ticker =>
          simp only [priced, Option.some.injEq] at started
          subst started
          exact ⟨rfl, position, rfl, ⟨rfl, rfl, rfl, rfl, rfl⟩, priced⟩

theorem start_close_order (id : PositionId) (reason : ExitReason) (exitReasons : List String) (world : World β)
    (order : ClosingOrder) (started : (startClose id reason exitReasons world).1 = some order) :
    order.id = id ∧ id ∈ world.positions.opened.keys := by
  obtain ⟨same, position, found, -⟩ := start_close_for id reason exitReasons world order started
  exact ⟨same, Dict.mem_keys_of_lookup _ _ _ found⟩

theorem start_close_idle (id : PositionId) (reason : ExitReason) (exitReasons : List String) (world : World β)
    (idle : (startClose id reason exitReasons world).1 = none) (position : Position)
    (found : world.positions.opened.lookup id = some position) : world.market.tickers position.symbol = none := by
  rw [startClose, found] at idle
  cases priced : world.market.tickers position.symbol with
  | none => rfl
  | some ticker =>
      simp only [priced] at idle
      cases idle

theorem record_trades (journal : TradeJournal) (trade : TradeRecord) :
    (journal.record trade).trades = Deque.push journal.memoryLimit journal.trades trade := by
  simp only [TradeJournal.record]
  split <;> rfl

theorem breaker_quiet (world : World β) : world.Quiet (engine.announceBreaker world) := by
  have settings := (world.risk.refresh_frame world.now).2.2
  simp only [announceBreaker]
  split <;> exact ⟨⟨rfl, Nat.le_refl _, settings, rfl⟩, rfl, rfl, rfl, rfl⟩

-- Booking and recording a close settles the position once more, open or not.
theorem settle_effect (id : PositionId) (position : Position) (fill : Fill) (reason : ExitReason)
    (exitReasons : List String) (executed : List Happening) (start announced middle : World β)
    (before : { start with history := start.history ++ executed }.Quiet announced)
    (between : (book id position fill reason exitReasons announced).Quiet middle) :
    start.Settled (record id position fill reason exitReasons middle) id position fill executed where
  memory := ((TradeJournal.record_limit _ _).trans between.memory).trans before.memory
  ids := Nat.le_succ_of_le (Nat.le_trans before.ids between.ids)
  limits := between.limits.trans ((RiskManager.trade_closed_settings _ _ _).trans before.limits)
  baseline := between.baseline.trans before.baseline
  positions := ⟨reason, exitReasons, announced.now, by
    rw [show start.positions = announced.positions from before.positions.symm]
    exact between.positions⟩
  portfolio := by
    rw [show start.portfolio = announced.portfolio from before.portfolio.symm]
    exact between.portfolio
  trades := by
    refine ⟨tradeRecord middle.nextId id (position.settled fill.price fill.commission reason exitReasons middle.now)
      fill middle.now, rfl, rfl, (record_trades _ _).trans ?_⟩
    rw [between.memory, between.trades]
    exact congrArg₂ (fun limit trades => Deque.push limit trades _) before.memory before.trades
  history := by
    change middle.history ++ [.journaled id] = _
    rw [between.history]
    change announced.history ++ [.portfolioSettled id] ++ [.riskSettled id] ++ [.journaled id] = _
    rw [before.history]
    simp only [List.append_assoc, List.cons_append, List.nil_append]

-- A close that gets no fill changes nothing; one that gets a fill settles its
-- position, and it does not look whether that is still open.
theorem finish_close_effect (order : ClosingOrder) (view : MarketView) (world : World β) (position : Position)
    (found : world.positions.object order.id = some position) :
    ((engine.closeExecution order position view world).1.fill = none ∧
        world.Quiet (engine.finishClose order view world)) ∨
      ∃ fill, (engine.closeExecution order position view world).1.fill = some fill ∧
        world.Settled (engine.finishClose order view world) order.id position fill [.closingExecuted order.id] := by
  simp only [finishClose, found]
  cases filled : (engine.closeExecution order position view world).1.fill with
  | none => exact .inl ⟨rfl, ⟨rfl, Nat.le_refl _, rfl, rfl⟩, rfl, rfl, rfl, rfl⟩
  | some fill =>
      refine .inr ⟨fill, rfl, ?_⟩
      refine settle_effect order.id position fill order.reason _ [.closingExecuted order.id] world _ _ ?_
        (engine.breaker_quiet _)
      exact ⟨⟨rfl, Nat.le_refl _, rfl, rfl⟩, rfl, rfl, rfl, rfl⟩

theorem external_close_effect (id : PositionId) (position : Position) (world : World β) :
    ∃ fill, world.Settled (settleExternalClose id position world) id position fill [] := by
  refine ⟨_, settle_effect id position _ _ _ [] world world _ ?_ (.refl _)⟩
  exact ⟨⟨rfl, Nat.le_refl _, rfl, rfl⟩, rfl, rfl, rfl, (List.append_nil _).symm⟩

theorem announce_stop_quiet (id : PositionId) (symbol : String) (update : StopUpdate) (world : World β) :
    world.Quiet (announceStop id symbol update world) := by
  simp only [announceStop]
  cases update.kind <;> exact ⟨⟨rfl, Nat.le_refl _, rfl, rfl⟩, rfl, rfl, rfl, rfl⟩

theorem announce_stops_quiet (id : PositionId) (symbol : String) (updates : List StopUpdate) (world : World β) :
    world.Quiet (updates.foldl (fun world update => announceStop id symbol update world) world) := by
  induction updates generalizing world with
  | nil => exact .refl world
  | cons update rest ih => exact (announce_stop_quiet id symbol update world).trans (ih _)

theorem mark_and_manage_effect (id : PositionId) (world : World β) :
    world.Touched (engine.markAndManage id world).2 id := by
  rw [markAndManage]
  cases world.positions.object id with
  | none => exact .refl world id
  | some position =>
      dsimp only
      cases world.market.tickers position.symbol with
      | none => exact .refl world id
      | some ticker =>
          dsimp only
          obtain ⟨f, keeps, changed⟩ := (world.positions.updateMark id (markPrice position ticker)).manage_modifies
            engine.settings.rules id (engine.symbolAtr position.symbol world)
          have managed : world.Touched { world with positions :=
              ((world.positions.updateMark id (markPrice position ticker)).manage engine.settings.rules id
                (engine.symbolAtr position.symbol world)).1 } id := by
            refine ⟨⟨rfl, Nat.le_refl _, rfl, rfl⟩, ⟨_, (Position.keeps_mark (markPrice position ticker)).comp keeps, ?_⟩,
              rfl, rfl, rfl⟩
            exact changed.trans (PositionManager.modify_twice _ _ _ _)
          exact managed.trans ((announce_stops_quiet id position.symbol _ _).touched id)

theorem metadata_touched (id : PositionId) (f : PositionMetadata → PositionMetadata) (world : World β) :
    world.Touched (setMetadata id f world) id :=
  ⟨⟨rfl, Nat.le_refl _, rfl, rfl⟩, ⟨_, Position.keeps_metadata f, rfl⟩, rfl, rfl, rfl⟩

theorem read_regime_effect (id : PositionId) (view : MarketView) (world : World β) :
    world.Touched (engine.readRegime id view world).2 id := by
  rw [readRegime]
  cases world.positions.object id with
  | none => exact .refl world id
  | some position =>
      have noted := metadata_touched id (fun metadata => { metadata with exitRegime := some view.regime }) world
      dsimp only
      split
      · exact noted
      · exact noted.trans (metadata_touched id
          (fun metadata => { metadata with regimeAdverseStreak := some _ }) _)

theorem modify_stop_effect (id : PositionId) (stopLoss : ℚ) (world : World β) :
    world.Touched (modifyStop id stopLoss world) id := by
  rw [modifyStop]
  cases world.positions.get id with
  | none => exact .refl world id
  | some position =>
      exact ⟨⟨rfl, Nat.le_refl _, rfl, rfl⟩,
        ⟨_, Position.keeps_stop (fun _ => some stopLoss) Position.breakEvenActive, rfl⟩, rfl, rfl, rfl⟩

theorem break_even_effect (id : PositionId) (world : World β) : world.Touched (moveBreakEven id world) id := by
  rw [moveBreakEven]
  cases world.positions.get id with
  | none => exact .refl world id
  | some position =>
      exact ⟨⟨rfl, Nat.le_refl _, rfl, rfl⟩,
        ⟨_, Position.keeps_stop (fun position => some position.entryPrice) (fun _ => true), rfl⟩, rfl, rfl, rfl⟩

theorem refresh_risk_effect (world : World β) : world.Valued (refreshRiskState world).2 := by
  let drawdown := (world.portfolio.snapshot world.openPositions world.now).1.drawdownPct
  have equity := RiskManager.update_equity_settings world.risk drawdown
  have engaged := RiskManager.update_equity_breached world.risk drawdown
  simp only [refreshRiskState]
  split
  · exact ⟨⟨rfl, Nat.le_refl _, equity, rfl⟩, rfl, rfl, rfl, _, rfl, engaged⟩
  · split
    · exact ⟨⟨rfl, Nat.le_refl _, equity, rfl⟩, rfl, rfl, rfl, _, rfl, engaged⟩
    · have settings := (RiskManager.status_settings (world.risk.updateEquity drawdown) world.now).trans equity
      exact ⟨⟨rfl, Nat.le_refl _, settings, rfl⟩, rfl, rfl, rfl, _, rfl, engaged⟩

theorem refresh_risk_doomed (world : World β) : (refreshRiskState world).1 =
    if (refreshRiskState world).2.risk.killSwitchActive = true then world.openIds else [] := by
  let risk := world.risk.updateEquity (world.portfolio.snapshot world.openPositions world.now).1.drawdownPct
  have status : (risk.status world.now).2.killSwitchActive = risk.killSwitchActive := (risk.refresh_frame world.now).1
  simp only [refreshRiskState]
  split
  · rename_i off
    rw [if_neg (by simpa using off)]
  · rename_i active
    split
    · rw [if_pos (by simpa using active)]
      rfl
    · have engaged : risk.killSwitchActive = true :=
        Bool.of_not_eq_false (fun off => active ((Bool.not_eq_true' _).mpr off))
      exact (if_pos (status.trans engaged)).symm

theorem refresh_risk_ids (world : World β) :
    (refreshRiskState world).1 = [] ∨ (refreshRiskState world).1 = world.openIds := by
  rw [refresh_risk_doomed]
  split
  · exact .inr rfl
  · exact .inl rfl

end ExecutionEngine

end QuantEngine
