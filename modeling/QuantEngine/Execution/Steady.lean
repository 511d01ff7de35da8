import QuantEngine.Execution.Acceptance
import QuantEngine.Execution.Guarantees

set_option autoImplicit false

namespace QuantEngine

variable {β : Type}

namespace ExecutionEngine

open World

-- What a stretch of a task leaves alone: the prices, and a kill switch that is
-- engaged.
structure Steady (world later : World β) : Prop where
  market : later.market = world.market
  engaged : world.risk.killSwitchActive = true → later.risk.killSwitchActive = true

theorem Steady.refl (world : World β) : Steady world world := ⟨rfl, id⟩

theorem Steady.trans {a b c : World β} (first : Steady a b) (second : Steady b c) : Steady a c :=
  ⟨second.market.trans first.market, fun engaged => second.engaged (first.engaged engaged)⟩

variable (engine : ExecutionEngine β)

theorem screen_steady (decision : DecisionGenerated) (world : World β) :
    Steady world (engine.screen decision world).2 := by
  rw [screen]
  cases entrySide decision with
  | none => exact .refl world
  | some side =>
      dsimp only
      split
      · exact .refl world
      · cases entryVeto world with
        | none => exact .refl world
        | some veto => exact ⟨rfl, id⟩

theorem place_order_steady (decision : DecisionGenerated) (plan : EntryPlan) (killSwitch circuitBreaker : Bool)
    (world : World β) : Steady world (engine.placeOrder decision plan killSwitch circuitBreaker world) := by
  simp only [placeOrder]
  split
  · exact ⟨rfl, id⟩
  · exact ⟨rfl, id⟩

theorem enter_steady (decision : DecisionGenerated) (entry : Entry) (view : MarketView) (world : World β) :
    Steady world (engine.enter decision entry view world) := by
  obtain ⟨cache, same⟩ := engine.spec_cached entry.symbol world
  have evaluated (query : RiskQuery) : Steady world
      { world with specCache := cache, risk := (world.risk.evaluateEntry query world.now).2 } :=
    ⟨rfl, fun engaged => (world.risk.evaluate_frame query world.now).1.trans engaged⟩
  simp only [enter]
  split
  · exact ⟨rfl, id⟩
  · split
    · exact ⟨rfl, id⟩
    · rw [same]
      split
      · exact ⟨rfl, id⟩
      · simp only [riskChecked]
        split
        · exact (evaluated _).trans ⟨rfl, id⟩
        · exact (evaluated _).trans (engine.place_order_steady decision _ _ _ _)

theorem start_close_steady (id : PositionId) (reason : ExitReason) (exitReasons : List String) (world : World β) :
    Steady world (startClose id reason exitReasons world).2 := by
  rw [startClose]
  cases world.positions.opened.lookup id with
  | none => exact .refl world
  | some position =>
      dsimp only
      cases world.market.tickers position.symbol with
      | none => exact .refl world
      | some ticker => exact ⟨rfl, fun engaged => engaged⟩

theorem breaker_steady (world : World β) : Steady world (engine.announceBreaker world) := by
  have switch := (world.risk.refresh_frame world.now).1
  simp only [announceBreaker]
  split <;> exact ⟨rfl, fun engaged => switch.trans engaged⟩

theorem book_steady (id : PositionId) (position : Position) (fill : Fill) (reason : ExitReason)
    (exitReasons : List String) (world : World β) : Steady world (book id position fill reason exitReasons world) :=
  ⟨rfl, fun engaged => (RiskManager.trade_closed_switch _ _ _).trans engaged⟩

theorem record_steady (id : PositionId) (position : Position) (fill : Fill) (reason : ExitReason)
    (exitReasons : List String) (world : World β) : Steady world (record id position fill reason exitReasons world) :=
  ⟨rfl, fun engaged => engaged⟩

theorem finish_close_steady (order : ClosingOrder) (view : MarketView) (world : World β) :
    Steady world (engine.finishClose order view world) := by
  rw [finishClose]
  cases world.positions.object order.id with
  | none => exact .refl world
  | some position =>
      dsimp only
      split
      · exact ⟨rfl, id⟩
      · rename_i fill filled
        refine Steady.trans ?_ (record_steady order.id position fill order.reason _ _)
        refine Steady.trans ?_ (engine.breaker_steady _)
        refine Steady.trans ?_ (book_steady order.id position fill order.reason _ _)
        exact ⟨rfl, fun engaged => engaged⟩

theorem announce_stops_steady (id : PositionId) (symbol : String) (updates : List StopUpdate) (world : World β) :
    Steady world (updates.foldl (fun world update => announceStop id symbol update world) world) := by
  induction updates generalizing world with
  | nil => exact .refl world
  | cons update rest ih =>
      have announced : Steady world (announceStop id symbol update world) := by
        simp only [announceStop]
        cases update.kind <;> exact ⟨rfl, fun engaged => engaged⟩
      exact announced.trans (ih _)

theorem mark_and_manage_steady (id : PositionId) (world : World β) :
    Steady world (engine.markAndManage id world).2 := by
  rw [markAndManage]
  cases world.positions.object id with
  | none => exact .refl world
  | some position =>
      dsimp only
      cases world.market.tickers position.symbol with
      | none => exact .refl world
      | some ticker =>
          refine Steady.trans ?_ (announce_stops_steady id position.symbol _ _)
          exact ⟨rfl, fun engaged => engaged⟩

theorem read_regime_steady (id : PositionId) (view : MarketView) (world : World β) :
    Steady world (engine.readRegime id view world).2 := by
  rw [readRegime]
  cases world.positions.object id with
  | none => exact .refl world
  | some position =>
      dsimp only
      split <;> exact ⟨rfl, fun engaged => engaged⟩

theorem refresh_risk_steady (world : World β) : Steady world (refreshRiskState world).2 := by
  have switch := world.risk.update_equity_switch (world.portfolio.snapshot world.openPositions world.now).1.drawdownPct
  simp only [refreshRiskState]
  split
  · exact ⟨rfl, switch⟩
  · split
    · exact ⟨rfl, switch⟩
    · refine ⟨rfl, fun engaged => ?_⟩
      exact (RiskManager.refresh_frame _ _).1.trans (switch engaged)

theorem act_steady (operation : Operation) (world : World β) : Steady world (engine.act operation world) := by
  cases operation with
  | screen decision => exact engine.screen_steady decision world
  | enter decision entry view => exact engine.enter_steady decision entry view world
  | startClose id reason exitReasons => exact start_close_steady id reason exitReasons world
  | finishClose order view => exact engine.finish_close_steady order view world
  | markAndManage id => exact engine.mark_and_manage_steady id world
  | readRegime id view => exact engine.read_regime_steady id view world
  | refreshRisk => exact refresh_risk_steady world
  | modifyStop id stopLoss =>
      simp only [act, modifyStop]
      split <;> exact ⟨rfl, fun engaged => engaged⟩
  | moveBreakEven id =>
      simp only [act, moveBreakEven]
      split <;> exact ⟨rfl, fun engaged => engaged⟩

end ExecutionEngine

end QuantEngine
