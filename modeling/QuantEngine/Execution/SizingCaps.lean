import Mathlib.Algebra.Order.Archimedean.Basic
import QuantEngine.Execution.RiskAtStop

set_option autoImplicit false

namespace QuantEngine

open Decimal (roundTo scale NotAbove NotBelow OnGrid)

namespace InstrumentSpec

-- Lots cut down to the instrument, before they are rounded.
def floored (spec : InstrumentSpec) (lots : ℚ) : ℚ :=
  if lots ≤ 0 then 0
  else if spec.volumeStep ≤ 0 then spec.capped lots
  else (Decimal.truncate (spec.capped lots / spec.volumeStep) : ℚ) * spec.volumeStep

theorem quantize_floored (spec : InstrumentSpec) (lots : ℚ) : spec.quantize lots = roundTo 8 (spec.floored lots) := by
  have zero : roundTo 8 0 = 0 := Decimal.round_to_grid 8 0 ⟨0, by simp⟩
  rw [quantize_capped, floored]
  split
  · exact zero.symm
  · split <;> rfl

def Faithful (spec : InstrumentSpec) : Prop :=
  ∀ lots, 0 ≤ lots → spec.quantize lots ≤ lots ∧ spec.quantize (spec.quantize lots) = spec.quantize lots

-- Half a unit of the eighth decimal: what is not above it rounds to zero.
def half : ℚ := 1 / 200000000

-- Every lot size rounds to itself, or none that the instrument takes is larger
-- than half a unit; two steps of half a unit make one that is.
def RoundsDown (spec : InstrumentSpec) : Prop :=
  if spec.volumeStep ≤ 0 then 0 < spec.volumeMax ∧ spec.volumeMax ≤ half
  else OnGrid 8 spec.volumeStep ∨
    0 < spec.volumeMax ∧
      ((⌊spec.volumeMax / spec.volumeStep⌋ : ℚ) * spec.volumeStep ≤ half ∨
        spec.volumeStep = half ∧ spec.volumeMax < 3 * half)

theorem round_zero_iff (x : ℚ) (nonneg : 0 ≤ x) : roundTo 8 x = 0 ↔ x ≤ half := by
  have positive := Decimal.round_to_pos_iff 8 x
  have units : x * scale 8 ≤ 1 / 2 ↔ x ≤ half := by
    rw [scale, half]
    norm_num
    constructor <;> intro le <;> linarith
  rw [← units, ← not_lt, ← positive, not_lt]
  exact ⟨fun zero => zero.le, fun small => le_antisymm small (Decimal.round_to_nonneg 8 x nonneg)⟩

-- Between half a unit and a whole one a number rounds up.
theorem rounds_up (x : ℚ) (above : half < x) (below : x < 2 * half) : x < roundTo 8 x := by
  refine not_le.mp fun down => ?_
  have whole : x * scale 8 < 1 := by
    rw [half] at below
    rw [scale]
    norm_num
    linarith
  have positive : 0 < roundTo 8 x := by
    rw [Decimal.round_to_pos_iff, scale]
    rw [half] at above
    norm_num
    linarith
  have units := mul_le_mul_of_nonneg_right down (Decimal.scale_pos 8).le
  rw [roundTo, div_mul_cancel₀ _ (ne_of_gt (Decimal.scale_pos 8))] at units
  have none : Decimal.roundHalfEven (x * scale 8) < 1 := by exact_mod_cast units.trans_lt whole
  have some : 0 < Decimal.roundHalfEven (x * scale 8) := by
    rw [roundTo, div_pos_iff_of_pos_right (Decimal.scale_pos 8)] at positive
    exact_mod_cast positive
  omega

section

variable (spec : InstrumentSpec)

theorem capped_le (lots : ℚ) : spec.capped lots ≤ lots := by
  rw [capped]
  split
  · exact min_le_left _ _
  · exact le_refl _

theorem capped_within (lots : ℚ) (within : 0 < spec.volumeMax → lots ≤ spec.volumeMax) : spec.capped lots = lots := by
  rw [capped]
  split
  · rename_i bounded
    exact min_eq_left (within bounded)
  · rfl

theorem capped_most (lots : ℚ) (bounded : 0 < spec.volumeMax) : spec.capped lots ≤ spec.volumeMax := by
  rw [capped, if_pos bounded]
  exact min_le_right _ _

theorem none_faithful (none : ∀ lots, spec.quantize lots = 0) : spec.Faithful := by
  intro lots nonneg
  rw [none, none]
  exact ⟨nonneg, rfl⟩

variable (stepped : 0 < spec.volumeStep)
include stepped

theorem floored_steps (lots : ℚ) (positive : 0 < lots) :
    spec.floored lots = (⌊spec.capped lots / spec.volumeStep⌋ : ℚ) * spec.volumeStep := by
  have nonneg := div_nonneg (spec.capped_pos lots positive).le stepped.le
  rw [floored, if_neg (not_le.mpr positive), if_neg (not_le.mpr stepped), Decimal.truncate, if_pos nonneg]

theorem steps_le (x : ℚ) : (⌊x / spec.volumeStep⌋ : ℚ) * spec.volumeStep ≤ x :=
  (le_div_iff₀ stepped).mp (Int.floor_le _)

theorem whole_steps (n : Nat) (within : 0 < spec.volumeMax → n * spec.volumeStep ≤ spec.volumeMax) :
    spec.quantize (n * spec.volumeStep) = roundTo 8 (n * spec.volumeStep) := by
  rw [quantize_floored]
  rcases Nat.eq_zero_or_pos n with rfl | some
  · simp [floored]
  · have positive : 0 < (n : ℚ) * spec.volumeStep := mul_pos (by exact_mod_cast some) stepped
    rw [spec.floored_steps stepped _ positive, spec.capped_within _ within, mul_div_cancel_right₀ _ (ne_of_gt stepped),
      Int.floor_natCast, Int.cast_natCast]

theorem under_step (lots : ℚ) (nonneg : 0 ≤ lots) (under : lots < spec.volumeStep) : spec.quantize lots = 0 := by
  rcases nonneg.lt_or_eq with positive | rfl
  · have less := (spec.capped_le lots).trans_lt under
    have none : ⌊spec.capped lots / spec.volumeStep⌋ = 0 :=
      Int.floor_eq_zero_iff.mpr ⟨div_nonneg (spec.capped_pos lots positive).le stepped.le, (div_lt_one stepped).mpr less⟩
    rw [quantize_floored, spec.floored_steps stepped lots positive, none, Int.cast_zero, zero_mul]
    exact (round_zero_iff 0 (le_refl 0)).mpr (by decide +kernel)
  · rw [quantize_floored, floored, if_pos (le_refl 0)]
    exact (round_zero_iff 0 (le_refl 0)).mpr (by decide +kernel)

-- A lot size on the grid of eight decimals stays a whole number of steps.
theorem grid_faithful (grid : OnGrid 8 spec.volumeStep) : spec.Faithful := by
  intro lots nonneg
  rcases nonneg.lt_or_eq with positive | rfl
  · have whole : 0 ≤ ⌊spec.capped lots / spec.volumeStep⌋ :=
      Int.floor_nonneg.mpr (div_nonneg (spec.capped_pos lots positive).le stepped.le)
    obtain ⟨n, steps⟩ := Int.eq_ofNat_of_zero_le whole
    have fewer : (n : ℚ) * spec.volumeStep ≤ spec.capped lots := by
      have below := spec.steps_le stepped (spec.capped lots)
      rwa [steps, Int.cast_natCast] at below
    have onGrid : roundTo 8 (n * spec.volumeStep) = n * spec.volumeStep := by
      obtain ⟨units, eq⟩ := grid
      refine Decimal.round_to_grid 8 _ ⟨n * units, ?_⟩
      rw [mul_assoc, eq]
      push_cast
      rfl
    have taken : spec.quantize lots = n * spec.volumeStep := by
      rw [quantize_floored, spec.floored_steps stepped lots positive, steps, Int.cast_natCast, onGrid]
    have again := spec.whole_steps stepped n fun bounded => fewer.trans (spec.capped_most lots bounded)
    rw [taken]
    exact ⟨fewer.trans (spec.capped_le lots), again.trans onGrid⟩
  · have none := spec.under_step stepped 0 (le_refl 0) stepped
    rw [none, none]
    exact ⟨le_refl 0, rfl⟩

-- One step within the instrument's lots is at most half a unit, if it is not on the grid.
theorem one_step (faithful : spec.Faithful) (off : ¬ OnGrid 8 spec.volumeStep)
    (within : 0 < spec.volumeMax → spec.volumeStep ≤ spec.volumeMax) : spec.volumeStep ≤ half := by
  have taken : spec.quantize spec.volumeStep = roundTo 8 spec.volumeStep := by
    simpa using spec.whole_steps stepped 1 (by simpa using within)
  obtain ⟨down, again⟩ := faithful spec.volumeStep stepped.le
  rw [taken] at down again
  have less : roundTo 8 spec.volumeStep < spec.volumeStep := by
    refine down.lt_of_ne fun same => off ?_
    rw [← same]
    exact Decimal.round_to_on_grid 8 _
  rw [spec.under_step stepped _ (Decimal.round_to_nonneg 8 _ stepped.le) less] at again
  exact (round_zero_iff _ stepped.le).mp again.symm

-- Steps below half a unit stay below it as long as they are taken, since the
-- next one is below a whole unit and must not round up.
theorem small_steps (faithful : spec.Faithful) (small : spec.volumeStep < half) (n : Nat)
    (within : 0 < spec.volumeMax → n * spec.volumeStep ≤ spec.volumeMax) : n * spec.volumeStep ≤ half := by
  induction n with
  | zero => simp [half]
  | succ n ih =>
      have less : (n : ℚ) * spec.volumeStep ≤ half := ih fun bounded => by
        have more := within bounded
        push_cast at more
        linarith
      refine not_lt.mp fun above => ?_
      have below : ((n + 1 : Nat) : ℚ) * spec.volumeStep < 2 * half := by
        push_cast
        linarith
      have up := rounds_up _ above below
      rw [← spec.whole_steps stepped (n + 1) within] at up
      exact absurd (faithful _ (mul_nonneg (Nat.cast_nonneg _) stepped.le)).1 (not_le.mpr up)

theorem faithful_steps (faithful : spec.Faithful) : spec.RoundsDown := by
  rw [RoundsDown, if_neg (not_le.mpr stepped)]
  refine or_iff_not_imp_left.mpr fun off => ?_
  by_cases reached : 0 < spec.volumeMax → spec.volumeStep ≤ spec.volumeMax
  · rcases (spec.one_step stepped faithful off reached).lt_or_eq with small | same
    · have bounded : 0 < spec.volumeMax := by
        by_contra unbounded
        obtain ⟨n, many⟩ := exists_nat_gt (half / spec.volumeStep)
        have few := spec.small_steps stepped faithful small n fun bounded => absurd bounded unbounded
        exact absurd ((div_lt_iff₀ stepped).mp many) (not_lt.mpr few)
      refine ⟨bounded, .inl ?_⟩
      obtain ⟨n, steps⟩ := Int.eq_ofNat_of_zero_le (Int.floor_nonneg.mpr (div_nonneg bounded.le stepped.le))
      have below := spec.steps_le stepped spec.volumeMax
      rw [steps, Int.cast_natCast] at below ⊢
      exact spec.small_steps stepped faithful small n fun _ => below
    · have three : roundTo 8 ((3 : Nat) * half) = 4 * half := by decide +kernel
      have refused : ¬ (0 < spec.volumeMax → 3 * spec.volumeStep ≤ spec.volumeMax) := by
        intro within
        have up := spec.whole_steps stepped 3 (by simpa using within)
        have down := (faithful ((3 : Nat) * spec.volumeStep) (mul_nonneg (Nat.cast_nonneg _) stepped.le)).1
        rw [up, same, three] at down
        norm_num [half] at down
      obtain ⟨bounded, less⟩ := Classical.not_imp.mp refused
      exact ⟨bounded, .inr ⟨same, by linarith⟩⟩
  · obtain ⟨bounded, less⟩ := Classical.not_imp.mp reached
    have none : ⌊spec.volumeMax / spec.volumeStep⌋ = 0 :=
      Int.floor_eq_zero_iff.mpr ⟨div_nonneg bounded.le stepped.le, (div_lt_one stepped).mpr (not_le.mp less)⟩
    refine ⟨bounded, .inl ?_⟩
    rw [none, Int.cast_zero, zero_mul, half]
    norm_num

theorem few_steps (bounded : 0 < spec.volumeMax)
    (few : (⌊spec.volumeMax / spec.volumeStep⌋ : ℚ) * spec.volumeStep ≤ half) (lots : ℚ) : spec.quantize lots = 0 := by
  by_cases positive : 0 < lots
  · have fewer : ⌊spec.capped lots / spec.volumeStep⌋ ≤ ⌊spec.volumeMax / spec.volumeStep⌋ :=
      Int.floor_mono (div_le_div_of_nonneg_right (spec.capped_most lots bounded) stepped.le)
    have less : (⌊spec.capped lots / spec.volumeStep⌋ : ℚ) * spec.volumeStep ≤ half :=
      (mul_le_mul_of_nonneg_right (by exact_mod_cast fewer) stepped.le).trans few
    have nonneg : 0 ≤ (⌊spec.capped lots / spec.volumeStep⌋ : ℚ) * spec.volumeStep :=
      mul_nonneg (by exact_mod_cast Int.floor_nonneg.mpr (div_nonneg (spec.capped_pos lots positive).le stepped.le)) stepped.le
    rw [quantize_floored, spec.floored_steps stepped lots positive]
    exact (round_zero_iff _ nonneg).mpr less
  · rw [quantize_capped, if_pos (not_lt.mp positive)]

-- Two steps of half a unit make one unit, which is taken only of lots that have it.
theorem two_halves (bounded : 0 < spec.volumeMax) (step : spec.volumeStep = half) (most : spec.volumeMax < 3 * half) :
    spec.Faithful := by
  intro lots nonneg
  by_cases unit : 2 * half ≤ spec.capped lots
  · have positive : 0 < lots := lt_of_lt_of_le (by decide +kernel) (unit.trans (spec.capped_le lots))
    have units : ⌊spec.capped lots / spec.volumeStep⌋ = 2 := by
      rw [Int.floor_eq_iff, step, le_div_iff₀ (by decide +kernel), div_lt_iff₀ (by decide +kernel)]
      push_cast
      exact ⟨unit, by linarith [spec.capped_most lots bounded]⟩
    have taken : spec.quantize lots = 2 * half := by
      rw [quantize_floored, spec.floored_steps stepped lots positive, units, step]
      decide +kernel
    have again := spec.whole_steps stepped 2 fun _ => by
      rw [step]
      exact unit.trans (spec.capped_most lots bounded)
    rw [step] at again
    rw [taken]
    refine ⟨unit.trans (spec.capped_le lots), ?_⟩
    exact again.trans (by decide +kernel)
  · have none : spec.quantize lots = 0 := by
      rcases nonneg.lt_or_eq with positive | rfl
      · have less : ⌊spec.capped lots / spec.volumeStep⌋ ≤ 1 := by
          refine Int.lt_add_one_iff.mp (Int.floor_lt.mpr ?_)
          rw [step, div_lt_iff₀ (by decide +kernel)]
          push_cast
          linarith
        have steps : (⌊spec.capped lots / spec.volumeStep⌋ : ℚ) ≤ 1 := by exact_mod_cast less
        have floor := Int.floor_nonneg.mpr (div_nonneg (spec.capped_pos lots positive).le stepped.le)
        rw [quantize_floored, spec.floored_steps stepped lots positive]
        refine (round_zero_iff _ (mul_nonneg (by exact_mod_cast floor) stepped.le)).mpr ?_
        exact (mul_le_mul_of_nonneg_right steps stepped.le).trans_eq (by rw [step, one_mul])
      · exact spec.under_step stepped 0 (le_refl 0) stepped
    rw [none, spec.under_step stepped 0 (le_refl 0) stepped]
    exact ⟨nonneg, rfl⟩

end

theorem faithful_unstepped (spec : InstrumentSpec) (unstepped : spec.volumeStep ≤ 0) (faithful : spec.Faithful) :
    0 < spec.volumeMax ∧ spec.volumeMax ≤ half := by
  -- three quarters of a unit round up to it
  have taken (lots : ℚ) (above : half < lots) (below : lots < 2 * half) :
      ¬ (0 < spec.volumeMax → lots ≤ spec.volumeMax) := by
    intro within
    have positive : 0 < lots := lt_trans (by decide +kernel) above
    have down := (faithful lots positive.le).1
    rw [quantize_floored, floored, if_neg (not_le.mpr positive), if_pos unstepped, spec.capped_within lots within] at down
    exact absurd down (not_le.mpr (rounds_up lots above below))
  have unit : 0 < half := by decide +kernel
  obtain ⟨bounded, -⟩ := Classical.not_imp.mp (taken (3 / 2 * half) (by linarith) (by linarith))
  refine ⟨bounded, not_lt.mp fun above => ?_⟩
  refine taken (min spec.volumeMax (3 / 2 * half)) (lt_min above (by linarith)) ?_ fun _ => min_le_left _ _
  exact (min_le_right _ _).trans_lt (by linarith)

theorem unstepped_none (spec : InstrumentSpec) (unstepped : spec.volumeStep ≤ 0) (bounded : 0 < spec.volumeMax)
    (small : spec.volumeMax ≤ half) (lots : ℚ) : spec.quantize lots = 0 := by
  by_cases positive : 0 < lots
  · rw [quantize_floored, floored, if_neg (not_le.mpr positive), if_pos unstepped]
    exact (round_zero_iff _ (spec.capped_pos lots positive).le).mpr ((spec.capped_most lots bounded).trans small)
  · rw [quantize_capped, if_pos (not_lt.mp positive)]

theorem faithful_iff (spec : InstrumentSpec) : spec.Faithful ↔ spec.RoundsDown := by
  by_cases unstepped : spec.volumeStep ≤ 0
  · rw [RoundsDown, if_pos unstepped]
    refine ⟨spec.faithful_unstepped unstepped, ?_⟩
    rintro ⟨bounded, small⟩
    exact spec.none_faithful (spec.unstepped_none unstepped bounded small)
  · have stepped := not_le.mp unstepped
    refine ⟨spec.faithful_steps stepped, fun rounds => ?_⟩
    rw [RoundsDown, if_neg unstepped] at rounds
    rcases rounds with grid | ⟨bounded, few | ⟨step, most⟩⟩
    · exact spec.grid_faithful stepped grid
    · exact spec.none_faithful (spec.few_steps stepped bounded few)
    · exact spec.two_halves stepped bounded step most

end InstrumentSpec

namespace SizingCaps

open PositionSizer
open RiskAtStop (exact riskPct kellyPct sized_units)

def riskMethods : List String := ["fixed_risk", "atr", "dynamic_risk", "kelly"]

def cap (s : SizingSettings) (equity : ℚ) : ℚ := equity * s.maxPositionPct / 100

def budget (s : SizingSettings) (equity : ℚ) : ℚ := equity * s.riskPerTradePct / 100

structure WithinCaps (s : SizingSettings) (equity stopDistance : ℚ) (spec : InstrumentSpec) (result : SizingResult) :
    Prop where
  notional : result.notional ≤ cap s equity
  least : spec.volumeMin ≤ result.quantity
  most : 0 < spec.volumeMax → result.quantity ≤ spec.volumeMax
  steps : 0 < spec.volumeStep → ∃ n : Int, result.quantity = n * spec.volumeStep
  risk : s.method ∈ riskMethods → result.units * stopDistance ≤ budget s equity

-- What rounding to eight decimals, and to four for the notional, leaves of the
-- caps of lots that are not rounded.
structure RoundingKeeps (s : SizingSettings) (equity price stopDistance : ℚ) (spec : InstrumentSpec) (lots : ℚ) :
    Prop where
  notional : NotAbove 4 (cap s equity) (spec.units (roundTo 8 lots) * price)
  least : NotBelow 8 spec.volumeMin lots
  most : 0 < spec.volumeMax → NotAbove 8 spec.volumeMax lots
  steps : 0 < spec.volumeStep → ∃ n : Int, NotAbove 8 (n * spec.volumeStep) lots ∧ NotBelow 8 (n * spec.volumeStep) lots
  risk : s.method ∈ riskMethods → NotAbove 8 (budget s equity / stopDistance) (spec.units (roundTo 8 lots))

-- The minimum as `fits` looks at it.
def lenient (spec : InstrumentSpec) : InstrumentSpec := { spec with volumeMin := spec.volumeMin - 1 / 1000000000000 }

section

variable (round : Nat → ℚ → ℚ) (s : SizingSettings) (equity price stopDistance confidence : ℚ)
  (winRate rewardRisk : Option ℚ) (spec : Option InstrumentSpec)

theorem sized_from (traded : 0 < (calculateBy round s equity price stopDistance confidence winRate rewardRisk spec).quantity) :
    0 < equity ∧ (spec.getD InstrumentSpec.defaultSpec).fits (lotsBy round (spec.getD InstrumentSpec.defaultSpec)
        (cappedUnits s equity price stopDistance confidence winRate rewardRisk)) = true ∧
      (calculateBy round s equity price stopDistance confidence winRate rewardRisk spec).units =
        round 8 ((spec.getD InstrumentSpec.defaultSpec).units (lotsBy round (spec.getD InstrumentSpec.defaultSpec)
          (cappedUnits s equity price stopDistance confidence winRate rewardRisk))) := by
  obtain ⟨-, funded, fits, result⟩ := calculate_traded round s equity price stopDistance confidence winRate rewardRisk spec traded
  rw [result]
  exact ⟨funded, fits, rfl⟩

-- A risk method asks for nothing without a distance, and for no more units
-- than lose the budget over it.
theorem risk_units (risky : s.method ∈ riskMethods) (funded : 0 < equity)
    (asked : 0 < (sized s equity price stopDistance confidence winRate rewardRisk).quantity) :
    0 < stopDistance ∧
      (sized s equity price stopDistance confidence winRate rewardRisk).quantity * stopDistance ≤ budget s equity := by
  have unnamed : s.method ≠ "fixed_amount" ∧ s.method ≠ "percent" := by
    constructor <;>
      · intro named
        rw [named] at risky
        exact absurd risky (by decide)
  rw [sized_units, RiskAtStop.methodUnits, if_neg unnamed.1, if_neg unnamed.2] at asked ⊢
  split at asked
  · exact absurd asked (lt_irrefl 0)
  · rename_i far
    have distance : 0 < stopDistance := not_le.mp far
    have share : 0 < riskPct s confidence winRate rewardRisk := by
      have amount := pos_of_mul_pos_left (by simpa [div_eq_mul_inv] using asked) (inv_nonneg.mpr distance.le)
      have percent := pos_of_mul_pos_left amount (by norm_num)
      exact pos_of_mul_pos_right percent funded.le
    have most : riskPct s confidence winRate rewardRisk ≤ s.riskPerTradePct := by
      rw [riskPct] at share ⊢
      split
      · rcases winRate with _ | winRate
        · exact le_refl _
        · rcases rewardRisk with _ | rewardRisk
          · exact le_refl _
          · rw [kellyPct]
            split
            · exact le_refl _
            · exact min_le_right _ _
      · rename_i fixedShare
        rw [if_neg fixedShare] at share
        split
        · rename_i unsure
          rw [if_pos unsure] at share
          have part : 0 < max (1 / 4) confidence := lt_of_lt_of_le (by norm_num) (le_max_left _ _)
          have whole : max (1 / 4) confidence ≤ 1 := max_le (by norm_num) unsure.2.le
          exact mul_le_of_le_one_right (pos_of_mul_pos_left share part.le).le whole
        · exact le_refl _
    refine ⟨distance, ?_⟩
    rw [if_neg far, div_mul_cancel₀ _ (ne_of_gt distance), budget]
    exact div_le_div_of_nonneg_right (mul_le_mul_of_nonneg_left most funded.le) (by norm_num)

theorem exact_lots (spec : InstrumentSpec) (units : ℚ) :
    lotsBy exact spec units = spec.floored (if spec.contractSize > 0 then units / spec.contractSize else units) := rfl

theorem rounded_lots (spec : InstrumentSpec) (units : ℚ) :
    lotsBy roundTo spec units = roundTo 8 (lotsBy exact spec units) := by
  rw [exact_lots, lotsBy, ← InstrumentSpec.quantize_rounds, InstrumentSpec.quantize_floored]

theorem floored_le (spec : InstrumentSpec) (lots : ℚ) (positive : 0 < lots) : spec.floored lots ≤ spec.capped lots := by
  by_cases unstepped : spec.volumeStep ≤ 0
  · rw [InstrumentSpec.floored, if_neg (not_le.mpr positive), if_pos unstepped]
  · rw [spec.floored_steps (not_le.mp unstepped) lots positive]
    exact spec.steps_le (not_le.mp unstepped) _

theorem floored_some (spec : InstrumentSpec) (lots : ℚ) (taken : 0 < spec.floored lots) : 0 < lots := by
  by_contra none
  rw [InstrumentSpec.floored, if_pos (not_lt.mp none)] at taken
  exact lt_irrefl 0 taken

-- Whatever the contract size is, lots are worth no more units than they were cut from.
theorem lots_units (spec : InstrumentSpec) (units : ℚ) (taken : 0 < lotsBy exact spec units) :
    0 < units ∧ spec.units (lotsBy exact spec units) ≤ units := by
  rw [exact_lots] at taken ⊢
  have offered := floored_some spec _ taken
  have fewer := (floored_le spec _ offered).trans (spec.capped_le _)
  rw [InstrumentSpec.units]
  by_cases sized : spec.contractSize > 0
  · rw [if_pos sized] at offered fewer taken ⊢
    exact ⟨(div_pos_iff_of_pos_right sized).mp offered, (le_div_iff₀ sized).mp fewer⟩
  · rw [if_neg sized] at offered taken ⊢
    exact ⟨offered, (mul_nonpos_of_nonneg_of_nonpos taken.le (not_lt.mp sized)).trans offered.le⟩

theorem capped_units
    (some : 0 < cappedUnits s equity price stopDistance confidence winRate rewardRisk) :
    0 < (sized s equity price stopDistance confidence winRate rewardRisk).quantity ∧
      cappedUnits s equity price stopDistance confidence winRate rewardRisk ≤
        (sized s equity price stopDistance confidence winRate rewardRisk).quantity ∧
      cappedUnits s equity price stopDistance confidence winRate rewardRisk ≤ cap s equity / price := by
  rw [cappedUnits, applyCaps] at some ⊢
  split at some
  · exact absurd some (lt_irrefl 0)
  · rename_i asked
    rw [if_neg asked]
    exact ⟨not_le.mp asked, min_le_left _ _, min_le_right _ _⟩

-- Without its rounding the sizer keeps every cap, but for the tolerance of `fits`.
theorem exact_within (traded : 0 < (calculateBy exact s equity price stopDistance confidence winRate rewardRisk spec).quantity) :
    WithinCaps s equity stopDistance (lenient (spec.getD InstrumentSpec.defaultSpec))
      (calculateBy exact s equity price stopDistance confidence winRate rewardRisk spec) := by
  obtain ⟨priced, quantity, -, notional⟩ := calculate_sizes exact s equity price stopDistance confidence winRate rewardRisk
    spec traded
  obtain ⟨funded, fits, finalUnits⟩ := sized_from exact s equity price stopDistance confidence winRate rewardRisk spec traded
  generalize calculateBy exact s equity price stopDistance confidence winRate rewardRisk spec = result
    at traded quantity notional finalUnits ⊢
  generalize spec.getD InstrumentSpec.defaultSpec = contract at quantity notional fits finalUnits ⊢
  rw [exact] at quantity notional finalUnits
  rw [quantity] at traded
  obtain ⟨some, worth⟩ := lots_units contract _ traded
  obtain ⟨asked, fewer, capped⟩ := capped_units s equity price stopDistance confidence winRate rewardRisk some
  have offered := floored_some contract _ traded
  refine ⟨?_, ?_, fun bounded => ?_, fun stepped => ?_, fun risky => ?_⟩
  · rw [notional]
    exact (mul_le_mul_of_nonneg_right (worth.trans capped) priced.le).trans_eq (div_mul_cancel₀ _ (ne_of_gt priced))
  · rw [quantity]
    simpa [InstrumentSpec.fits, lenient] using fits
  · rw [quantity]
    exact (floored_le contract _ offered).trans (contract.capped_most _ bounded)
  · rw [quantity]
    exact ⟨_, contract.floored_steps stepped _ offered⟩
  · obtain ⟨distance, loses⟩ := risk_units s equity price stopDistance confidence winRate rewardRisk risky funded asked
    rw [finalUnits]
    exact (mul_le_mul_of_nonneg_right (worth.trans fewer) distance.le).trans loses

theorem within_iff (traded : 0 < (calculate s equity price stopDistance confidence winRate rewardRisk spec).quantity) :
    WithinCaps s equity stopDistance (spec.getD InstrumentSpec.defaultSpec)
        (calculate s equity price stopDistance confidence winRate rewardRisk spec) ↔
      RoundingKeeps s equity price stopDistance (spec.getD InstrumentSpec.defaultSpec)
        (lotsBy exact (spec.getD InstrumentSpec.defaultSpec)
          (cappedUnits s equity price stopDistance confidence winRate rewardRisk)) := by
  rw [calculate_rounds] at traded ⊢
  obtain ⟨priced, quantity, -, notional⟩ := calculate_sizes roundTo s equity price stopDistance confidence winRate
    rewardRisk spec traded
  obtain ⟨funded, -, finalUnits⟩ := sized_from roundTo s equity price stopDistance confidence winRate rewardRisk spec traded
  generalize calculateBy roundTo s equity price stopDistance confidence winRate rewardRisk spec = result
    at traded quantity notional finalUnits ⊢
  generalize spec.getD InstrumentSpec.defaultSpec = contract at quantity notional finalUnits ⊢
  have twice (x : ℚ) : roundTo 8 (roundTo 8 x) = roundTo 8 x := Decimal.round_to_grid 8 _ (Decimal.round_to_on_grid 8 x)
  rw [rounded_lots] at quantity notional finalUnits
  rw [twice] at quantity
  have some : 0 < cappedUnits s equity price stopDistance confidence winRate rewardRisk := by
    rw [quantity, Decimal.round_to_pos_iff] at traded
    refine (lots_units contract _ ?_).1
    exact pos_of_mul_pos_left (lt_trans (by norm_num) traded) (Decimal.scale_pos 8).le
  have asked := (capped_units s equity price stopDistance confidence winRate rewardRisk some).1
  have distance (risky : s.method ∈ riskMethods) : 0 < stopDistance :=
    (risk_units s equity price stopDistance confidence winRate rewardRisk risky funded asked).1
  have exactly (n : Int) : result.quantity = n * contract.volumeStep ↔
      NotAbove 8 (n * contract.volumeStep) (lotsBy exact contract
          (cappedUnits s equity price stopDistance confidence winRate rewardRisk)) ∧
        NotBelow 8 (n * contract.volumeStep) (lotsBy exact contract
          (cappedUnits s equity price stopDistance confidence winRate rewardRisk)) := by
    rw [quantity, ← Decimal.round_to_le_iff, ← Decimal.le_round_to_iff, ← le_antisymm_iff]
  constructor
  · rintro ⟨notionalLe, least, most, steps, risk⟩
    rw [notional, Decimal.round_to_le_iff] at notionalLe
    rw [quantity, Decimal.le_round_to_iff] at least
    refine ⟨notionalLe, least, fun bounded => ?_, fun stepped => ?_, fun risky => ?_⟩
    · rw [← Decimal.round_to_le_iff, ← quantity]
      exact most bounded
    · exact (steps stepped).imp fun n => (exactly n).mp
    · rw [← Decimal.round_to_le_iff, ← finalUnits, le_div_iff₀ (distance risky)]
      exact risk risky
  · rintro ⟨notionalLe, least, most, steps, risk⟩
    rw [← Decimal.round_to_le_iff, ← notional] at notionalLe
    rw [← Decimal.le_round_to_iff, ← quantity] at least
    refine ⟨notionalLe, least, fun bounded => ?_, fun stepped => ?_, fun risky => ?_⟩
    · rw [quantity, Decimal.round_to_le_iff]
      exact most bounded
    · exact (steps stepped).imp fun n => (exactly n).mpr
    · rw [← le_div_iff₀ (distance risky), finalUnits, Decimal.round_to_le_iff]
      exact risk risky

end

-- The sizing keeps its caps up to its roundings, and quantizing rounds down
-- where no number of steps that an instrument takes rounds up.
theorem sizing_caps_iff (s : SizingSettings) (equity price stopDistance confidence : ℚ) (winRate rewardRisk : Option ℚ)
    (spec : Option InstrumentSpec) :
    ((spec.getD InstrumentSpec.defaultSpec).Faithful ↔ (spec.getD InstrumentSpec.defaultSpec).RoundsDown) ∧
      (∀ lots, lots < 0 → lots < (spec.getD InstrumentSpec.defaultSpec).quantize lots) ∧
      (0 < (calculateBy exact s equity price stopDistance confidence winRate rewardRisk spec).quantity →
        WithinCaps s equity stopDistance (lenient (spec.getD InstrumentSpec.defaultSpec))
          (calculateBy exact s equity price stopDistance confidence winRate rewardRisk spec)) ∧
      (0 < (calculate s equity price stopDistance confidence winRate rewardRisk spec).quantity →
        (WithinCaps s equity stopDistance (spec.getD InstrumentSpec.defaultSpec)
            (calculate s equity price stopDistance confidence winRate rewardRisk spec) ↔
          RoundingKeeps s equity price stopDistance (spec.getD InstrumentSpec.defaultSpec)
            (lotsBy exact (spec.getD InstrumentSpec.defaultSpec)
              (cappedUnits s equity price stopDistance confidence winRate rewardRisk)))) :=
  ⟨InstrumentSpec.faithful_iff _, fun _ negative => negative.trans_le (InstrumentSpec.quantize_nonneg _ _),
    exact_within s equity price stopDistance confidence winRate rewardRisk spec,
    within_iff s equity price stopDistance confidence winRate rewardRisk spec⟩

def fx : InstrumentSpec := ⟨"EURUSD", 100000, 1 / 100, 1 / 100, 50⟩

def wide : SizingSettings := { maxPositionPct := 2000 }

theorem sizing_caps_iff_fx : fx.Faithful ∧
    WithinCaps wide 10000 (1 / 1000) fx (calculate wide 10000 1 (1 / 1000) 1 none none (some fx)) := by
  have stepped : ¬ fx.volumeStep ≤ 0 := by decide +kernel
  have rounds : fx.RoundsDown := by
    rw [InstrumentSpec.RoundsDown, if_neg stepped]
    exact .inl ⟨1000000, by decide +kernel⟩
  obtain ⟨faithful, -, -, within⟩ := sizing_caps_iff wide 10000 1 (1 / 1000) 1 none none (some fx)
  refine ⟨faithful.mpr rounds, (within (by decide +kernel)).mpr ?_⟩
  exact ⟨by decide +kernel, by decide +kernel, fun _ => by decide +kernel, fun _ => ⟨50, by decide +kernel⟩,
    fun _ => by decide +kernel⟩

-- 50 at risk over a distance of 3 is a third of a unit that eight decimals round up.
theorem third_rounded_up :
    0 < (calculate {} 10000 100 3 1 none none none).quantity ∧
      ¬ WithinCaps {} 10000 3 InstrumentSpec.defaultSpec (calculate {} 10000 100 3 1 none none none) ∧
      50 / 3 < InstrumentSpec.defaultSpec.quantize (50 / 3) := by
  refine ⟨by decide +kernel, fun within => ?_, by decide +kernel⟩
  exact absurd (within.risk (by decide)) (by decide +kernel)

end SizingCaps

end QuantEngine
