import QuantEngine.Execution.Models

set_option autoImplicit false

namespace QuantEngine

open Decimal (fixed general roundTo)

-- The method is free text; what is not named below is sized by fixed risk.
structure SizingSettings where
  method : String := "fixed_risk"
  fixedAmount : ℚ := 100
  percentOfEquity : ℚ := 2
  riskPerTradePct : ℚ := 1 / 2
  atrStopMultiplier : ℚ := 3 / 2
  atrPeriod : Nat := 14
  minStopPct : ℚ := 15 / 100
  minStopSpreadMultiple : ℚ := 8
  rewardRisk : ℚ := 3 / 2
  kellyFraction : ℚ := 1 / 4
  maxPositionPct : ℚ := 20
  minQuantity : ℚ := 0
  deriving DecidableEq

structure SizingResult where
  quantity : ℚ
  method : String
  riskAmount : ℚ
  stopDistance : ℚ
  notional : ℚ
  reason : String
  units : ℚ := 0
  deriving DecidableEq

namespace PositionSizer

structure Sized where
  quantity : ℚ
  riskAmount : ℚ
  reason : String
  deriving DecidableEq

def riskBased (s : SizingSettings) (equity stopDistance confidence : ℚ) : Sized :=
  if stopDistance ≤ 0 then ⟨0, 0, "sin distancia de stop (riesgo indefinido)"⟩
  else
    let pct := if confidence < 1 then s.riskPerTradePct * max (1 / 4) (min confidence 1) else s.riskPerTradePct
    let riskAmount := equity * pct / 100
    ⟨riskAmount / stopDistance, riskAmount,
      "riesgo " ++ fixed 3 pct ++ "% del equity (" ++ fixed 2 riskAmount ++ ")"⟩

-- Without a history it falls back to fixed risk.
def kelly (s : SizingSettings) (equity stopDistance : ℚ) (winRate rewardRisk : Option ℚ) : Sized :=
  let fallback : Sized := { riskBased s equity stopDistance 1 with reason := "Kelly sin historial → riesgo fijo" }
  match winRate, rewardRisk with
  | some winRate, some rewardRisk =>
      if rewardRisk ≤ 0 ∨ stopDistance ≤ 0 then fallback
      else
        let edge := winRate - (1 - winRate) / rewardRisk
        let fraction := min (max 0 edge * s.kellyFraction) (s.riskPerTradePct / 100)
        let riskAmount := equity * fraction
        ⟨riskAmount / stopDistance, riskAmount,
          "Kelly parcial f=" ++ fixed 4 fraction ++ " (W=" ++ fixed 2 winRate ++ ", RR=" ++ fixed 2 rewardRisk ++ ")"⟩
  | _, _ => fallback

def byNotional (notional price stopDistance : ℚ) (reason : String) : Sized :=
  ⟨notional / price, notional / price * stopDistance, reason⟩

def sized (s : SizingSettings) (equity price stopDistance confidence : ℚ) (winRate rewardRisk : Option ℚ) : Sized :=
  if s.method = "fixed_amount" then
    byNotional s.fixedAmount price stopDistance ("monto fijo " ++ fixed 2 s.fixedAmount)
  else if s.method = "percent" then
    byNotional (equity * s.percentOfEquity / 100) price stopDistance (fixed 2 s.percentOfEquity ++ "% del equity")
  else if s.method = "kelly" then kelly s equity stopDistance winRate rewardRisk
  else if s.method = "dynamic_risk" then riskBased s equity stopDistance confidence
  else riskBased s equity stopDistance 1

def applyCaps (s : SizingSettings) (quantity equity price : ℚ) : ℚ :=
  if quantity ≤ 0 then 0 else min quantity (equity * s.maxPositionPct / 100 / price)

-- Units become lots of the symbol, rounded down to its step; a lot below the
-- symbol's minimum is refused, never raised to it.
def calculate (s : SizingSettings) (equity price stopDistance confidence : ℚ) (winRate rewardRisk : Option ℚ)
    (spec : Option InstrumentSpec) : SizingResult :=
  let spec := spec.getD InstrumentSpec.defaultSpec
  let nothing (riskAmount : ℚ) (reason : String) : SizingResult :=
    ⟨0, s.method, riskAmount, stopDistance, 0, reason, 0⟩
  if price ≤ 0 ∨ equity ≤ 0 then nothing 0 "equity/precio no válidos"
  else
    let raw := sized s equity price stopDistance confidence winRate rewardRisk
    let units := applyCaps s raw.quantity equity price
    if units < s.minQuantity then nothing raw.riskAmount "bajo la cantidad mínima"
    else
      let lots := spec.quantize (if spec.contractSize > 0 then units / spec.contractSize else units)
      if !spec.fits lots then
        nothing raw.riskAmount ("el lote mínimo (" ++ Decimal.plain spec.volumeMin ++
          ") no cabe en el riesgo: caben " ++ fixed 4 lots ++ " lotes de " ++
          (if spec.symbol = "" then "el símbolo" else spec.symbol))
      else
        let finalUnits := spec.units lots
        { quantity := roundTo 8 lots
          units := roundTo 8 finalUnits
          method := s.method
          riskAmount := roundTo 4 (finalUnits * stopDistance)
          stopDistance := stopDistance
          notional := roundTo 4 (finalUnits * price)
          reason := raw.reason }

-- The sizer with its way to round to a number of decimals left open.
def quantizeBy (round : Nat → ℚ → ℚ) (spec : InstrumentSpec) (lots : ℚ) : ℚ :=
  if lots ≤ 0 then 0
  else
    let capped := if spec.volumeMax > 0 then min lots spec.volumeMax else lots
    if spec.volumeStep ≤ 0 then round 8 capped
    else round 8 ((Decimal.truncate (capped / spec.volumeStep) : ℚ) * spec.volumeStep)

def lotsBy (round : Nat → ℚ → ℚ) (spec : InstrumentSpec) (units : ℚ) : ℚ :=
  quantizeBy round spec (if spec.contractSize > 0 then units / spec.contractSize else units)

def cappedUnits (s : SizingSettings) (equity price stopDistance confidence : ℚ) (winRate rewardRisk : Option ℚ) : ℚ :=
  applyCaps s (sized s equity price stopDistance confidence winRate rewardRisk).quantity equity price

def calculateBy (round : Nat → ℚ → ℚ) (s : SizingSettings) (equity price stopDistance confidence : ℚ)
    (winRate rewardRisk : Option ℚ) (spec : Option InstrumentSpec) : SizingResult :=
  let spec := spec.getD InstrumentSpec.defaultSpec
  let nothing (riskAmount : ℚ) (reason : String) : SizingResult :=
    ⟨0, s.method, riskAmount, stopDistance, 0, reason, 0⟩
  if price ≤ 0 ∨ equity ≤ 0 then nothing 0 "equity/precio no válidos"
  else
    let raw := sized s equity price stopDistance confidence winRate rewardRisk
    let units := cappedUnits s equity price stopDistance confidence winRate rewardRisk
    if units < s.minQuantity then nothing raw.riskAmount "bajo la cantidad mínima"
    else
      let lots := lotsBy round spec units
      if !spec.fits lots then
        nothing raw.riskAmount ("el lote mínimo (" ++ Decimal.plain spec.volumeMin ++
          ") no cabe en el riesgo: caben " ++ fixed 4 lots ++ " lotes de " ++
          (if spec.symbol = "" then "el símbolo" else spec.symbol))
      else
        { quantity := round 8 lots
          units := round 8 (spec.units lots)
          method := s.method
          riskAmount := round 4 (spec.units lots * stopDistance)
          stopDistance := stopDistance
          notional := round 4 (spec.units lots * price)
          reason := raw.reason }

theorem calculate_rounds (s : SizingSettings) (equity price stopDistance confidence : ℚ)
    (winRate rewardRisk : Option ℚ) (spec : Option InstrumentSpec) :
    calculate s equity price stopDistance confidence winRate rewardRisk spec =
      calculateBy roundTo s equity price stopDistance confidence winRate rewardRisk spec := rfl

-- A result that asks for something: all its amounts come from one lot size.
structure Sizes (round : Nat → ℚ → ℚ) (spec : InstrumentSpec) (price stopDistance units : ℚ) (result : SizingResult) :
    Prop where
  priced : 0 < price
  quantity : result.quantity = round 8 (lotsBy round spec units)
  riskAmount : result.riskAmount = round 4 (spec.units (lotsBy round spec units) * stopDistance)
  notional : result.notional = round 4 (spec.units (lotsBy round spec units) * price)

-- A result that asks for something has passed every check.
theorem calculate_traded (round : Nat → ℚ → ℚ) (s : SizingSettings) (equity price stopDistance confidence : ℚ)
    (winRate rewardRisk : Option ℚ) (spec : Option InstrumentSpec)
    (traded : 0 < (calculateBy round s equity price stopDistance confidence winRate rewardRisk spec).quantity) :
    let own := spec.getD InstrumentSpec.defaultSpec
    let lots := lotsBy round own (cappedUnits s equity price stopDistance confidence winRate rewardRisk)
    0 < price ∧ 0 < equity ∧ own.fits lots = true ∧
      calculateBy round s equity price stopDistance confidence winRate rewardRisk spec =
        { quantity := round 8 lots
          units := round 8 (own.units lots)
          method := s.method
          riskAmount := round 4 (own.units lots * stopDistance)
          stopDistance := stopDistance
          notional := round 4 (own.units lots * price)
          reason := (sized s equity price stopDistance confidence winRate rewardRisk).reason } := by
  intro own lots
  simp only [calculateBy] at traded ⊢
  split at traded
  · exact absurd traded (lt_irrefl 0)
  · rename_i valid
    obtain ⟨priced, funded⟩ := not_or.mp valid
    split at traded
    · exact absurd traded (lt_irrefl 0)
    · split at traded
      · exact absurd traded (lt_irrefl 0)
      · rename_i enough fits
        rw [if_neg valid, if_neg enough, if_neg fits]
        exact ⟨not_le.mp priced, not_le.mp funded, by simpa using fits, rfl⟩

theorem calculate_sizes (round : Nat → ℚ → ℚ) (s : SizingSettings) (equity price stopDistance confidence : ℚ)
    (winRate rewardRisk : Option ℚ) (spec : Option InstrumentSpec)
    (traded : 0 < (calculateBy round s equity price stopDistance confidence winRate rewardRisk spec).quantity) :
    Sizes round (spec.getD InstrumentSpec.defaultSpec) price stopDistance
      (cappedUnits s equity price stopDistance confidence winRate rewardRisk)
      (calculateBy round s equity price stopDistance confidence winRate rewardRisk spec) := by
  obtain ⟨priced, -, -, result⟩ := calculate_traded round s equity price stopDistance confidence winRate rewardRisk spec traded
  rw [result]
  exact ⟨priced, rfl, rfl, rfl⟩

end PositionSizer

namespace InstrumentSpec

theorem quantize_rounds (spec : InstrumentSpec) (lots : ℚ) :
    spec.quantize lots = PositionSizer.quantizeBy roundTo spec lots := rfl

theorem quantize_grid (spec : InstrumentSpec) (lots : ℚ) : Decimal.OnGrid 8 (spec.quantize lots) := by
  simp only [quantize]
  split
  · exact ⟨0, by simp⟩
  · split
    · exact Decimal.round_to_on_grid 8 _
    · exact Decimal.round_to_on_grid 8 _

def capped (spec : InstrumentSpec) (lots : ℚ) : ℚ := if spec.volumeMax > 0 then min lots spec.volumeMax else lots

theorem quantize_capped (spec : InstrumentSpec) (lots : ℚ) :
    spec.quantize lots = if lots ≤ 0 then 0
      else if spec.volumeStep ≤ 0 then roundTo 8 (spec.capped lots)
      else roundTo 8 ((Decimal.truncate (spec.capped lots / spec.volumeStep) : ℚ) * spec.volumeStep) := rfl

theorem capped_pos (spec : InstrumentSpec) (lots : ℚ) (positive : 0 < lots) : 0 < spec.capped lots := by
  rw [capped]
  split
  · rename_i bounded
    exact lt_min positive bounded
  · exact positive

theorem capped_mono (spec : InstrumentSpec) (a b : ℚ) (le : a ≤ b) : spec.capped a ≤ spec.capped b := by
  rw [capped, capped]
  split
  · exact min_le_min_right _ le
  · exact le

theorem quantize_nonneg (spec : InstrumentSpec) (lots : ℚ) : 0 ≤ spec.quantize lots := by
  by_cases none : lots ≤ 0
  · rw [quantize_capped, if_pos none]
  · have positive := capped_pos spec lots (not_le.mp none)
    rw [quantize_capped, if_neg none]
    split
    · exact Decimal.round_to_nonneg 8 _ (le_of_lt positive)
    · rename_i stepped
      have step : 0 < spec.volumeStep := not_le.mp stepped
      have whole := Decimal.truncate_mono 0 _ (le_refl 0) (div_nonneg (le_of_lt positive) (le_of_lt step))
      refine Decimal.round_to_nonneg 8 _ (mul_nonneg ?_ (le_of_lt step))
      exact_mod_cast whole

theorem quantize_mono (spec : InstrumentSpec) (a b : ℚ) (le : a ≤ b) : spec.quantize a ≤ spec.quantize b := by
  by_cases none : a ≤ 0
  · rw [quantize_capped spec a, if_pos none]
    exact quantize_nonneg spec b
  · have some : ¬ b ≤ 0 := fun nothing => none (le_trans le nothing)
    have positive := capped_pos spec a (not_le.mp none)
    have fewer := capped_mono spec a b le
    rw [quantize_capped, quantize_capped, if_neg none, if_neg some]
    split
    · exact Decimal.round_to_mono 8 _ _ fewer
    · rename_i stepped
      have step : 0 < spec.volumeStep := not_le.mp stepped
      have whole := Decimal.truncate_mono _ _ (div_nonneg (le_of_lt positive) (le_of_lt step))
        (div_le_div_of_nonneg_right fewer (le_of_lt step))
      refine Decimal.round_to_mono 8 _ _ (mul_le_mul_of_nonneg_right ?_ (le_of_lt step))
      exact_mod_cast whole

end InstrumentSpec

end QuantEngine
