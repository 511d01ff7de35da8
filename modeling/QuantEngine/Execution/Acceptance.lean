import QuantEngine.Execution.Effects

set_option autoImplicit false

namespace QuantEngine

variable {β : Type}

namespace RiskManager

structure Exposed (limits : ExecutionRiskSettings) (query : RiskQuery) : Prop where
  equity : 0 < query.equity
  notional : 0 < query.newNotional
  total : query.symbolExposures.values.sum + query.newNotional ≤ query.equity * limits.maxExposurePct / 100
  symbol : (query.symbolExposures.lookup (upper query.symbol)).getD 0 + query.newNotional ≤
    query.equity * limits.maxSymbolExposurePct / 100

theorem exposure_check_allowed (risk : RiskManager) (query : RiskQuery) (positive : 0 < query.newNotional)
    (allowed : (risk.exposureCheck query).allowed = true) : Exposed risk.settings query := by
  simp only [exposureCheck] at allowed
  split at allowed
  · cases allowed
  · rename_i solvent
    split at allowed
    · cases allowed
    · rename_i total
      split at allowed
      · cases allowed
      · rename_i symbol
        exact ⟨not_le.mp solvent, positive, not_lt.mp total, not_lt.mp symbol⟩

theorem period_rule_refuses (risk : RiskManager) (rule : String) (realized limitPct : ℚ) (check : RiskCheck)
    (found : risk.periodRule rule realized limitPct = some check) : check.allowed = false := by
  simp only [periodRule] at found
  split at found
  · cases found
    rfl
  · cases found

theorem period_check_refuses (risk : RiskManager) (now : Calendar.Moment) (check : RiskCheck)
    (found : risk.periodCheck now = some check) : check.allowed = false := by
  rcases Option.or_eq_some_iff.mp found with daily | ⟨-, later⟩
  · exact period_rule_refuses risk _ _ _ check daily
  · rcases Option.or_eq_some_iff.mp later with weekly | ⟨-, monthly⟩
    · exact period_rule_refuses risk _ _ _ check weekly
    · exact period_rule_refuses risk _ _ _ check monthly

theorem entry_check_exposed (risk : RiskManager) (query : RiskQuery) (now : Calendar.Moment)
    (allowed : (risk.entryCheck query now).allowed = true) : Exposed risk.settings query := by
  simp only [entryCheck] at allowed
  split at allowed
  · cases allowed
  · split at allowed
    · cases allowed
    · split at allowed
      · cases allowed
      · rename_i positive
        split at allowed
        · cases allowed
        · split at allowed
          · cases allowed
          · split at allowed
            · cases allowed
            · cases period : risk.periodCheck now with
              | none =>
                  rw [period] at allowed
                  exact risk.exposure_check_allowed query (not_le.mp positive) allowed
              | some refused =>
                  rw [period] at allowed
                  cases (period_check_refuses risk now refused period).symm.trans allowed

theorem evaluate_exposed (risk : RiskManager) (query : RiskQuery) (now : Calendar.Moment)
    (allowed : (risk.evaluateEntry query now).1.allowed = true) : Exposed risk.settings query := by
  rw [evaluateEntry] at allowed
  split at allowed
  · exact risk.entry_check_exposed query now allowed
  · have checked := (risk.refreshCircuitBreaker now).entry_check_exposed query now allowed
    rwa [(risk.refresh_frame now).2.2] at checked

end RiskManager

namespace ExecutionEngine

open World

variable (engine : ExecutionEngine β)

-- The contract that an entry is sized with; without a spec a lot is one unit.
def contract (symbol : String) (world : World β) : InstrumentSpec :=
  (engine.instrumentSpec symbol world).1.getD InstrumentSpec.defaultSpec

def entryReference (entry : Entry) : ℚ :=
  match entry.side with
  | .buy => entry.ticker.ask
  | .sell => entry.ticker.bid

def entryPlan (decision : DecisionGenerated) (entry : Entry) (view : MarketView) (world : World β) : EntryPlan :=
  engine.plan decision entry view (engine.instrumentSpec entry.symbol world).1 world

structure Accepts (decision : DecisionGenerated) (entry : Entry) (view : MarketView) (world : World β) : Prop where
  spread : (world.risk.checkSpread view.spreadBps).allowed = true
  liquidity : (world.risk.checkLiquidity view.volume).allowed = true
  sized : 0 < (engine.entryPlan decision entry view world).sizing.quantity
  risk : (world.risk.evaluateEntry (riskQuery (engine.entryPlan decision entry view world) world) world.now).1.allowed =
    true

instance decidableAccepts (decision : DecisionGenerated) (entry : Entry) (view : MarketView) (world : World β) :
    Decidable (engine.Accepts decision entry view world) :=
  decidable_of_iff ((world.risk.checkSpread view.spreadBps).allowed = true ∧
      (world.risk.checkLiquidity view.volume).allowed = true ∧
      0 < (engine.entryPlan decision entry view world).sizing.quantity ∧
      (world.risk.evaluateEntry (riskQuery (engine.entryPlan decision entry view world) world) world.now).1.allowed =
        true)
    ⟨fun checks => ⟨checks.1, checks.2.1, checks.2.2.1, checks.2.2.2⟩,
      fun accepts => ⟨accepts.spread, accepts.liquidity, accepts.sized, accepts.risk⟩⟩

theorem spec_cached (symbol : String) (world : World β) :
    ∃ cache, (engine.instrumentSpec symbol world).2 = { world with specCache := cache } := by
  rw [instrumentSpec]
  cases world.specCache.lookup symbol with
  | some spec => exact ⟨_, rfl⟩
  | none =>
      dsimp only
      split
      · exact ⟨_, rfl⟩
      · exact ⟨_, rfl⟩

def cleared (decision : DecisionGenerated) (entry : Entry) (view : MarketView) (world : World β) : World β :=
  { (engine.instrumentSpec entry.symbol world).2 with
    risk := (world.risk.evaluateEntry (riskQuery (engine.entryPlan decision entry view world) world) world.now).2 }

theorem enter_accepted (decision : DecisionGenerated) (entry : Entry) (view : MarketView) (world : World β)
    (accepts : engine.Accepts decision entry view world) :
    engine.enter decision entry view world =
      engine.placeOrder decision (engine.entryPlan decision entry view world) false false
        (engine.cleared decision entry view world) := by
  obtain ⟨spread, liquidity, sized, risk⟩ := accepts
  obtain ⟨kill, breaker, -⟩ := world.risk.evaluate_allowed _ _ risk
  obtain ⟨cache, same⟩ := engine.spec_cached entry.symbol world
  have positive : ¬ (engine.entryPlan decision entry view world).sizing.quantity ≤ 0 := not_le.mpr sized
  rw [entryPlan] at risk positive
  simp only [enter, spread, liquidity, Bool.not_true, Bool.false_eq_true, if_false, if_neg positive, riskChecked,
    cleared, entryPlan, same]
  rw [show riskQuery _ { world with specCache := cache } = riskQuery _ world from rfl, risk, kill, breaker]
  rfl

theorem enter_refused (decision : DecisionGenerated) (entry : Entry) (view : MarketView) (world : World β)
    (refused : ¬ engine.Accepts decision entry view world) :
    world.Quiet (engine.enter decision entry view world) ∧
      (engine.enter decision entry view world).broker = world.broker := by
  obtain ⟨cache, same⟩ := engine.spec_cached entry.symbol world
  have quoted := engine.spec_quiet entry.symbol world
  have settings := (world.risk.evaluate_frame (riskQuery (engine.entryPlan decision entry view world) world) world.now).2.2
  rw [same] at quoted
  by_cases spread : (world.risk.checkSpread view.spreadBps).allowed = true
  · by_cases liquidity : (world.risk.checkLiquidity view.volume).allowed = true
    · by_cases sized : (engine.entryPlan decision entry view world).sizing.quantity ≤ 0
      · rw [entryPlan] at sized
        simp only [enter, spread, liquidity, Bool.not_true, Bool.false_eq_true, if_false, if_pos sized, same]
        exact ⟨quoted.trans (reject_quiet _ _ _ _ _ _), rfl⟩
      · have risk : (world.risk.evaluateEntry (riskQuery (engine.entryPlan decision entry view world) world)
            world.now).1.allowed = false := by
          by_contra allowed
          exact refused ⟨spread, liquidity, not_le.mp sized, Bool.not_eq_false _ ▸ allowed⟩
        rw [entryPlan] at sized risk settings
        simp only [enter, spread, liquidity, Bool.not_true, Bool.false_eq_true, if_false, if_neg sized, riskChecked, same]
        rw [show riskQuery _ { world with specCache := cache } = riskQuery _ world from rfl, risk]
        refine ⟨quoted.trans ?_, rfl⟩
        refine World.Quiet.trans ?_ (reject_quiet _ _ _ _ _ _)
        exact ⟨⟨rfl, Nat.le_refl _, settings, rfl⟩, rfl, rfl, rfl, rfl⟩
    · simp only [enter, spread, Bool.not_eq_true _ ▸ liquidity, Bool.not_true, Bool.not_false, Bool.false_eq_true,
        if_false, if_true]
      exact ⟨reject_quiet _ _ _ _ _ _, rfl⟩
  · simp only [enter, Bool.not_eq_true _ ▸ spread, Bool.not_false, if_true]
    exact ⟨reject_quiet _ _ _ _ _ _, rfl⟩

def entryExecution (decision : DecisionGenerated) (plan : EntryPlan) (world : World β) : BrokerExecution × β :=
  engine.paper.execute world.broker world.now (entryRequest (.fresh world.nextId) decision plan) plan.ticker
    (some (slipContext plan.view plan.sizing.quantity)) true true

theorem place_order_filled (decision : DecisionGenerated) (plan : EntryPlan) (killSwitch circuitBreaker : Bool)
    (world : World β) (fill : Fill) (filled : (engine.entryExecution decision plan world).1.fill = some fill) :
    world.Opened (engine.placeOrder decision plan killSwitch circuitBreaker world) (world.nextId + 2)
      (entryPosition decision plan fill) killSwitch circuitBreaker := by
  rw [entryExecution] at filled
  simp only [placeOrder]
  split
  · rename_i unfilled
    cases filled.symm.trans unfilled
  · rename_i other found
    cases Option.some.inj (filled.symm.trans found)
    exact ⟨⟨rfl, Nat.le_add_right _ 3, rfl, rfl⟩, rfl, rfl, rfl, rfl, Nat.le_add_right _ 2, Nat.lt_succ_self _⟩

theorem place_order_unfilled (decision : DecisionGenerated) (plan : EntryPlan) (killSwitch circuitBreaker : Bool)
    (world : World β) (unfilled : (engine.entryExecution decision plan world).1.fill = none) :
    world.Quiet (engine.placeOrder decision plan killSwitch circuitBreaker world) := by
  rw [entryExecution] at unfilled
  simp only [placeOrder]
  split
  · exact ⟨⟨rfl, Nat.le_add_right _ 2, rfl, rfl⟩, rfl, rfl, rfl, rfl⟩
  · rename_i other found
    cases unfilled.symm.trans found

theorem enter_books (decision : DecisionGenerated) (entry : Entry) (view : MarketView) (world : World β)
    (accepts : engine.Accepts decision entry view world) :
    (engine.enter decision entry view world).positions = world.positions ∨
      ∃ fill, (engine.entryExecution decision (engine.entryPlan decision entry view world)
          (engine.cleared decision entry view world)).1.fill = some fill ∧
        (engine.enter decision entry view world).positions = world.positions.add (world.nextId + 2)
          (entryPosition decision (engine.entryPlan decision entry view world) fill) := by
  obtain ⟨cache, same⟩ := engine.spec_cached entry.symbol world
  have positions : (engine.cleared decision entry view world).positions = world.positions := by
    rw [cleared, same]
  have ids : (engine.cleared decision entry view world).nextId = world.nextId := by rw [cleared, same]
  rw [engine.enter_accepted decision entry view world accepts]
  cases filled : (engine.entryExecution decision (engine.entryPlan decision entry view world)
      (engine.cleared decision entry view world)).1.fill with
  | none =>
      have quiet := engine.place_order_unfilled decision _ false false _ filled
      exact .inl (quiet.positions.trans positions)
  | some fill =>
      have opened := engine.place_order_filled decision _ false false _ fill filled
      refine .inr ⟨fill, rfl, ?_⟩
      rw [opened.positions, positions, ids]

end ExecutionEngine

end QuantEngine
