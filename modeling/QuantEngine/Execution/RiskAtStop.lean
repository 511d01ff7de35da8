import QuantEngine.Execution.Acceptance
import Mathlib.Tactic.LinearCombination

set_option autoImplicit false

namespace QuantEngine.RiskAtStop

open Decimal (roundTo)
open ExecutionEngine PositionSizer

variable {β : Type}

def exact : Nat → ℚ → ℚ := fun _ x => x

def stopPrice (side : PositionSide) (reference distance : ℚ) : ℚ :=
  match side with
  | .long => reference - distance
  | .short => reference + distance

-- What a position of the sized quantity loses at its stop, as the close books
-- it, is what the sizer calls its risk.
def StopCosts (result : SizingResult) (price distance : ℚ) : Prop :=
  ∀ (manager : PositionManager) (id : PositionId) (position : Position) (commission : ℚ) (reason : ExitReason)
    (exitReasons : List String) (now : Calendar.Moment),
    position.quantity = result.quantity → position.entryPrice = price →
      (manager.close id position (stopPrice position.side price distance) commission reason exitReasons now).1 =
        -result.riskAmount

def entered (quantity price : ℚ) : Position :=
  .postInit {
    symbol := "XAUUSD", side := .long, quantity := quantity, initialQuantity := quantity, entryPrice := price
    initialStop := none, stopLoss := none, takeProfit := none, openedAt := 0 }

theorem gross_at_stop (position : Position) (price distance : ℚ) (entered : position.entryPrice = price) :
    position.grossPnl (stopPrice position.side price distance) = -(distance * position.quantity) := by
  rw [Position.grossPnl, Position.directionSign, Position.isLong, entered]
  cases position.side with
  | long =>
      simp only [stopPrice, decide_true, if_true]
      ring
  | short =>
      simp only [stopPrice, reduceCtorEq, decide_false, Bool.false_eq_true, if_false]
      ring

-- Without roundings the loss at the stop is the promised risk exactly where
-- one lot is one unit or there is no distance to lose.
theorem stop_costs_iff (s : SizingSettings) (equity price distance confidence : ℚ) (winRate rewardRisk : Option ℚ)
    (spec : Option InstrumentSpec)
    (traded : 0 < (calculateBy exact s equity price distance confidence winRate rewardRisk spec).quantity) :
    StopCosts (calculateBy exact s equity price distance confidence winRate rewardRisk spec) price distance ↔
      (spec.getD InstrumentSpec.defaultSpec).contractSize = 1 ∨ distance = 0 := by
  have sizes := calculate_sizes exact s equity price distance confidence winRate rewardRisk spec traded
  generalize calculateBy exact s equity price distance confidence winRate rewardRisk spec = result at traded sizes ⊢
  have risk : result.riskAmount =
      result.quantity * (spec.getD InstrumentSpec.defaultSpec).contractSize * distance := by
    rw [sizes.riskAmount, sizes.quantity]
    rfl
  constructor
  · intro costs
    have loss : (entered result.quantity price).grossPnl (stopPrice .long price distance) = -result.riskAmount :=
      costs {} 0 (entered result.quantity price) 0 .stopLoss [] 0 rfl rfl
    have gross : (entered result.quantity price).grossPnl (stopPrice .long price distance) =
        -(distance * result.quantity) := gross_at_stop (entered result.quantity price) price distance rfl
    rw [gross, risk] at loss
    have balanced : result.quantity * (((spec.getD InstrumentSpec.defaultSpec).contractSize - 1) * distance) = 0 := by
      linear_combination loss
    cases mul_eq_zero.mp balanced with
    | inl none => exact absurd none (ne_of_gt traded)
    | inr excess =>
        cases mul_eq_zero.mp excess with
        | inl one => exact .inl (sub_eq_zero.mp one)
        | inr zero => exact .inr zero
  · intro same manager id position commission reason exitReasons now quantity entered
    change position.grossPnl _ = _
    rw [gross_at_stop position price distance entered, quantity, risk]
    cases same with
    | inl one =>
        rw [one]
        ring
    | inr zero =>
        rw [zero]
        ring

def gold : InstrumentSpec := ⟨"XAUUSD", 100, 1 / 100, 1 / 100, 0⟩

theorem stop_costs_iff_unit_lot :
    StopCosts (calculateBy exact {} 10000 2000 300 1 none none none) 2000 300 ↔
      InstrumentSpec.defaultSpec.contractSize = 1 ∨ (300 : ℚ) = 0 :=
  stop_costs_iff {} 10000 2000 300 1 none none none (by decide +kernel)

-- One lot of gold is a hundred ounces: 0.05 lots promise 50 and lose 0.5. No
-- rounding plays a part in it.
theorem gold_costs_less :
    0 < (calculate { maxPositionPct := 100 } 10000 2000 10 1 none none (some gold)).quantity ∧
      ¬ StopCosts (calculate { maxPositionPct := 100 } 10000 2000 10 1 none none (some gold)) 2000 10 ∧
      calculate { maxPositionPct := 100 } 10000 2000 10 1 none none (some gold) =
        calculateBy exact { maxPositionPct := 100 } 10000 2000 10 1 none none (some gold) := by
  refine ⟨by decide +kernel, ?_, by decide +kernel⟩
  intro costs
  have loss := costs {} 0 (entered (calculate { maxPositionPct := 100 } 10000 2000 10 1 none none (some gold)).quantity
    2000) 0 .stopLoss [] 0 rfl rfl
  exact absurd loss (by decide +kernel)

def lotRisk (spec : InstrumentSpec) (distance units : ℚ) : ℚ :=
  spec.units (spec.quantize (units / spec.contractSize)) * distance

def kellyPct (s : SizingSettings) : Option ℚ → Option ℚ → ℚ
  | some winRate, some rewardRisk =>
      if rewardRisk ≤ 0 then s.riskPerTradePct
      else min (100 * (max 0 (winRate - (1 - winRate) / rewardRisk) * s.kellyFraction)) s.riskPerTradePct
  | _, _ => s.riskPerTradePct

def riskPct (s : SizingSettings) (confidence : ℚ) (winRate rewardRisk : Option ℚ) : ℚ :=
  if s.method = "kelly" then kellyPct s winRate rewardRisk
  else if s.method = "dynamic_risk" ∧ confidence < 1 then s.riskPerTradePct * max (1 / 4) confidence
  else s.riskPerTradePct

-- The units that a method asks for: an amount's worth of them, or those that
-- lose its share of the equity over the distance.
def methodUnits (s : SizingSettings) (equity price distance confidence : ℚ) (winRate rewardRisk : Option ℚ) : ℚ :=
  if s.method = "fixed_amount" then s.fixedAmount / price
  else if s.method = "percent" then equity * s.percentOfEquity / 100 / price
  else if distance ≤ 0 then 0
  else equity * riskPct s confidence winRate rewardRisk / 100 / distance

theorem risk_based_units (s : SizingSettings) (equity distance confidence pct : ℚ)
    (share : pct = if confidence < 1 then s.riskPerTradePct * max (1 / 4) confidence else s.riskPerTradePct) :
    (riskBased s equity distance confidence).quantity = if distance ≤ 0 then 0 else equity * pct / 100 / distance := by
  rw [share, riskBased]
  by_cases none : distance ≤ 0
  · rw [if_pos none, if_pos none]
  · rw [if_neg none, if_neg none]
    by_cases unsure : confidence < 1
    · rw [if_pos unsure, if_pos unsure, min_eq_left (le_of_lt unsure)]
    · rw [if_neg unsure, if_neg unsure]

theorem kelly_units (s : SizingSettings) (equity distance : ℚ) (winRate rewardRisk : Option ℚ) :
    (kelly s equity distance winRate rewardRisk).quantity =
      if distance ≤ 0 then 0 else equity * kellyPct s winRate rewardRisk / 100 / distance := by
  have fallback : (riskBased s equity distance 1).quantity =
      if distance ≤ 0 then 0 else equity * s.riskPerTradePct / 100 / distance :=
    risk_based_units s equity distance 1 s.riskPerTradePct (if_neg (lt_irrefl 1)).symm
  cases winRate with
  | none => exact fallback
  | some winRate =>
      cases rewardRisk with
      | none => exact fallback
      | some rewardRisk =>
          simp only [kellyPct, kelly]
          by_cases unrewarded : rewardRisk ≤ 0
          · rw [if_pos (Or.inl unrewarded), if_pos unrewarded]
            exact fallback
          · by_cases none : distance ≤ 0
            · rw [if_pos (Or.inr none), if_pos none]
              exact fallback.trans (if_pos none)
            · have percent (a b : ℚ) : min a (b / 100) = min (100 * a) b / 100 := by
                rw [← min_div_div_right (by norm_num), mul_div_cancel_left₀ a (by norm_num)]
              rw [if_neg (not_or.mpr ⟨unrewarded, none⟩), if_neg unrewarded, if_neg none]
              dsimp only
              rw [percent, ← mul_div_assoc]

theorem sized_units (s : SizingSettings) (equity price distance confidence : ℚ) (winRate rewardRisk : Option ℚ) :
    (sized s equity price distance confidence winRate rewardRisk).quantity =
      methodUnits s equity price distance confidence winRate rewardRisk := by
  rw [sized, methodUnits]
  by_cases amount : s.method = "fixed_amount"
  · rw [if_pos amount, if_pos amount]
    rfl
  · rw [if_neg amount, if_neg amount]
    by_cases percent : s.method = "percent"
    · rw [if_pos percent, if_pos percent]
      rfl
    · rw [if_neg percent, if_neg percent]
      by_cases kellyMethod : s.method = "kelly"
      · rw [if_pos kellyMethod]
        rw [riskPct, if_pos kellyMethod]
        exact kelly_units s equity distance winRate rewardRisk
      · rw [if_neg kellyMethod]
        by_cases dynamic : s.method = "dynamic_risk"
        · rw [if_pos dynamic]
          refine risk_based_units s equity distance confidence _ ?_
          rw [riskPct, if_neg kellyMethod]
          simp only [dynamic, true_and]
        · rw [if_neg dynamic]
          refine risk_based_units s equity distance 1 _ ?_
          rw [riskPct, if_neg kellyMethod, if_neg (fun both => dynamic both.1), if_neg (lt_irrefl 1)]

section

variable (engine : ExecutionEngine β) (decision : DecisionGenerated) (entry : Entry) (view : MarketView)
  (world : World β)

def equity : ℚ := world.portfolio.equity world.openPositions

def distance : ℚ := engine.stopDistance view (entryReference entry)

def orderUnits : ℚ :=
  (engine.contract entry.symbol world).units (engine.entryPlan decision entry view world).sizing.quantity

def hardLimit : ℚ := equity world * world.risk.settings.maxRiskPerTradePct / 100

def askedUnits : ℚ :=
  methodUnits engine.settings.sizing (equity world) (entryReference entry) (distance engine entry view)
    decision.confidence ((engine.perfInputs world).map Prod.fst) ((engine.perfInputs world).map Prod.snd)

def allowedUnits : ℚ := equity world * engine.settings.sizing.maxPositionPct / 100 / entryReference entry

def KeepsHardLimit (units : ℚ) : Prop :=
  lotRisk (engine.contract entry.symbol world) (distance engine entry view) units ≤ hardLimit world

-- The units that the method asks for or those that the position cap allows,
-- whichever are fewer, cut to lots, lose no more than the limit at the stop.
def WithinHardLimit : Prop :=
  if 0 ≤ distance engine entry view then
    KeepsHardLimit engine entry view world (askedUnits engine decision entry view world) ∨
      KeepsHardLimit engine entry view world (allowedUnits engine entry world)
  else
    KeepsHardLimit engine entry view world (askedUnits engine decision entry view world) ∧
      KeepsHardLimit engine entry view world (allowedUnits engine entry world)

theorem lot_risk_min (spec : InstrumentSpec) (distance limit a b : ℚ) (sized : 0 < spec.contractSize) :
    lotRisk spec distance (min a b) ≤ limit ↔
      if 0 ≤ distance then lotRisk spec distance a ≤ limit ∨ lotRisk spec distance b ≤ limit
      else lotRisk spec distance a ≤ limit ∧ lotRisk spec distance b ≤ limit := by
  have units : Monotone (fun units => spec.units (spec.quantize (units / spec.contractSize))) := by
    intro a b le
    exact mul_le_mul_of_nonneg_right (spec.quantize_mono _ _ (div_le_div_of_nonneg_right le (le_of_lt sized)))
      (le_of_lt sized)
  by_cases forward : 0 ≤ distance
  · have risk : Monotone (lotRisk spec distance) := fun a b le => mul_le_mul_of_nonneg_right (units le) forward
    rw [if_pos forward, risk.map_min, min_le_iff]
  · have risk : Antitone (lotRisk spec distance) :=
      fun a b le => mul_le_mul_of_nonpos_right (units le) (le_of_lt (not_le.mp forward))
    rw [if_neg forward, risk.map_min, max_le_iff]

-- An accepted order has a positive notional, so that its lots are cut from a
-- positive amount of units by a positive contract size.
theorem order_lots (accepts : engine.Accepts decision entry view world) :
    0 < (engine.contract entry.symbol world).contractSize ∧
      orderUnits engine decision entry view world * distance engine entry view =
        lotRisk (engine.contract entry.symbol world) (distance engine entry view)
          (min (askedUnits engine decision entry view world) (allowedUnits engine entry world)) := by
  have traded := accepts.sized
  have sizes : Sizes roundTo (engine.contract entry.symbol world) (entryReference entry) (distance engine entry view)
      (applyCaps engine.settings.sizing (askedUnits engine decision entry view world) (equity world)
        (entryReference entry)) (engine.entryPlan decision entry view world).sizing := by
    rw [askedUnits, ← sized_units]
    exact calculate_sizes roundTo _ _ _ _ _ _ _ _ traded
  have notional := (world.risk.evaluate_exposed _ _ accepts.risk).notional
  change 0 < (engine.entryPlan decision entry view world).sizing.notional at notional
  rw [orderUnits]
  generalize engine.contract entry.symbol world = spec at sizes ⊢
  have lots : (engine.entryPlan decision entry view world).sizing.quantity = lotsBy roundTo spec
      (applyCaps engine.settings.sizing (askedUnits engine decision entry view world) (equity world)
        (entryReference entry)) :=
    sizes.quantity.trans (Decimal.round_to_grid 8 _ (spec.quantize_grid _))
  rw [sizes.notional, ← lots] at notional
  have sized : 0 < spec.contractSize := by
    by_contra none
    have loss : spec.units (engine.entryPlan decision entry view world).sizing.quantity * entryReference entry ≤ 0 :=
      mul_nonpos_of_nonpos_of_nonneg
        (mul_nonpos_of_nonneg_of_nonpos (le_of_lt traded) (not_lt.mp none)) (le_of_lt sizes.priced)
    have rounded := Decimal.round_to_mono 4 _ _ loss
    rw [Decimal.round_to_grid 4 0 ⟨0, by simp⟩] at rounded
    exact absurd notional (not_lt.mpr rounded)
  refine ⟨sized, ?_⟩
  rw [lotsBy, if_pos sized] at lots
  have asked : ¬ askedUnits engine decision entry view world ≤ 0 := by
    intro nothing
    rw [applyCaps, if_pos nothing, zero_div, quantizeBy, if_pos (le_refl 0)] at lots
    exact absurd lots (ne_of_gt traded)
  rw [applyCaps, if_neg asked] at lots
  rw [lotRisk, lots]
  rfl

-- An accepted entry keeps the per-trade limit exactly where its sizing
-- happens to: nothing on its way compares the two.
theorem entry_risk_iff (accepts : engine.Accepts decision entry view world) :
    engine.enter decision entry view world =
        engine.placeOrder decision (engine.entryPlan decision entry view world) false false
          (engine.cleared decision entry view world) ∧
      (orderUnits engine decision entry view world * distance engine entry view ≤ hardLimit world ↔
        WithinHardLimit engine decision entry view world) := by
  obtain ⟨sized, risk⟩ := order_lots engine decision entry view world accepts
  refine ⟨engine.enter_accepted decision entry view world accepts, ?_⟩
  rw [risk]
  exact lot_risk_min _ _ _ _ _ sized

end

theorem gold_upper : upper "XAUUSD" = "XAUUSD" := by decide

def goldEntry : Entry := ⟨"XAUUSD", .buy, ⟨1999, 2000⟩, gold_upper⟩

def wideView : MarketView := ⟨some 200, some 10, some 5, "trending", "normal", none, some 2000, "europe"⟩

def goLong : DecisionGenerated := ⟨"a", "XAUUSD", "open_long", true, 80, 1, "ruptura"⟩

def paperWorld : World PaperState := .fresh {} {} none {} ⟨fun _ => some ⟨1999, 2000⟩, fun _ => []⟩ 0

def cautious : ExecutionEngine PaperState :=
  { settings := { sizing := { riskPerTradePct := 1 / 8 } }, paper := PaperBroker.midway.broker }

def daring : ExecutionEngine PaperState :=
  { settings := { sizing := { riskPerTradePct := 2 } }, paper := PaperBroker.midway.broker }

theorem entry_risk_iff_cautious :
    cautious.enter goLong goldEntry wideView paperWorld =
        cautious.placeOrder goLong (cautious.entryPlan goLong goldEntry wideView paperWorld) false false
          (cautious.cleared goLong goldEntry wideView paperWorld) ∧
      (orderUnits cautious goLong goldEntry wideView paperWorld * distance cautious goldEntry wideView ≤
          hardLimit paperWorld ↔ WithinHardLimit cautious goLong goldEntry wideView paperWorld) :=
  entry_risk_iff cautious goLong goldEntry wideView paperWorld (by decide +kernel)

-- Two percent of the equity is sent where the limit is half a percent.
theorem daring_entry_sent :
    daring.Accepts goLong goldEntry wideView paperWorld ∧
      ¬ orderUnits daring goLong goldEntry wideView paperWorld * distance daring goldEntry wideView ≤
        hardLimit paperWorld := by
  constructor
  · decide +kernel
  · decide +kernel

end QuantEngine.RiskAtStop
