import Mathlib.Analysis.Real.Sqrt
import QuantEngine.Library.Regression

set_option autoImplicit false

namespace QuantEngine.Research.Stats

open Regression (average spread covariation residual)

variable {K : Type} [Field K]

def mean (values : List K) : K := if values.isEmpty then 0 else values.sum / values.length

def squares (values : List K) : K :=
  let mu := mean values
  (values.map (fun v => (v - mu) ^ 2)).sum

def products (xs ys : List K) : K :=
  let mx := mean xs
  let my := mean ys
  ((xs.zip ys).map (fun pair => (pair.1 - mx) * (pair.2 - my))).sum

def indices (n : Nat) : List K := (List.range n).map Nat.cast

def ssRes (xs equity : List K) : K :=
  let mx := mean xs
  let my := mean equity
  let slopeHat := products xs equity / squares xs
  let intercept := my - slopeHat * mx
  ((xs.zip equity).map (fun pair => (pair.2 - (slopeHat * pair.1 + intercept)) ^ 2)).sum

-- The score before it is clamped.
def fit (xs equity : List K) : K := 1 - ssRes xs equity / squares equity

theorem mean_eq (values : List K) : mean values = average values := by
  cases values with
  | nil => simp [mean, average]
  | cons value values => rfl

theorem squares_eq (values : List K) : squares values = spread values := by rw [squares, mean_eq]; rfl

theorem products_eq (xs ys : List K) : products xs ys = covariation xs ys := by rw [products, mean_eq, mean_eq]; rfl

theorem ss_res_eq (xs equity : List K) : ssRes xs equity = residual xs equity := by
  rw [ssRes, mean_eq, mean_eq, products_eq, squares_eq]
  rfl

theorem fit_eq (xs equity : List K) (same : xs.length = equity.length) (left : spread xs ≠ 0) (right : spread equity ≠ 0) :
    fit xs equity = covariation xs equity ^ 2 / (spread xs * spread equity) := by
  rw [fit, ss_res_eq, squares_eq, Regression.residual_eq xs equity same left]
  field_simp
  ring

theorem indices_length (n : Nat) : (indices n : List K).length = n := by rw [indices, List.length_map, List.length_range]

variable [LinearOrder K]

def pearson (sqrt : K → K) (xs ys : List K) : K :=
  let n := min xs.length ys.length
  if n < 3 then 0
  else
    let xs := xs.take n
    let ys := ys.take n
    let cov := products xs ys
    let vx := squares xs
    let vy := squares ys
    if vx ≤ 0 ∨ vy ≤ 0 then 0 else cov / sqrt (vx * vy)

def equityStability (equity : List K) : K :=
  let n := equity.length
  if n < 3 then 0
  else
    let xs := indices n
    if squares xs ≤ 0 then 0
    else if squares equity ≤ 0 then if ssRes xs equity ≤ 0 then 1 else 0
    else max 0 (min 1 (fit xs equity))

theorem pearson_short (sqrt : K → K) (xs ys : List K) (short : min xs.length ys.length < 3) : pearson sqrt xs ys = 0 :=
  if_pos short

-- On the part that both series cover.
theorem pearson_long (sqrt : K → K) (xs ys : List K) (long : ¬ min xs.length ys.length < 3) :
    let n := min xs.length ys.length
    pearson sqrt xs ys = if spread (xs.take n) ≤ 0 ∨ spread (ys.take n) ≤ 0 then 0
      else covariation (xs.take n) (ys.take n) / sqrt (spread (xs.take n) * spread (ys.take n)) := by
  intro n
  rw [pearson, if_neg long]
  dsimp only
  rw [squares_eq, squares_eq, products_eq]

theorem pearson_comm (sqrt : K → K) (xs ys : List K) : pearson sqrt xs ys = pearson sqrt ys xs := by
  have turned := min_comm xs.length ys.length
  by_cases short : min xs.length ys.length < 3
  · rw [pearson_short sqrt xs ys short, pearson_short sqrt ys xs (turned ▸ short)]
  · rw [pearson_long sqrt xs ys short, pearson_long sqrt ys xs (turned ▸ short), turned, Regression.covariation_comm, mul_comm]
    exact if_congr or_comm rfl rfl

section

variable [IsStrictOrderedRing K]

theorem indices_spread (n : Nat) (long : 3 ≤ n) : 0 < spread (indices n : List K) := by
  have zero : ((0 : Nat) : K) ∈ (indices n : List K) := List.mem_map_of_mem (List.mem_range.mpr (by omega))
  have one : ((1 : Nat) : K) ∈ (indices n : List K) := List.mem_map_of_mem (List.mem_range.mpr (by omega))
  apply Regression.spread_pos _ _ _ zero one
  intro same
  have equal : 0 = 1 := Nat.cast_injective same
  omega

-- A line fits no worse than the average, and no better than exactly.
theorem fit_bounds (xs equity : List K) (same : xs.length = equity.length) (left : 0 < spread xs) (right : 0 < spread equity) :
    0 ≤ fit xs equity ∧ fit xs equity ≤ 1 := by
  rw [fit_eq xs equity same left.ne' right.ne']
  constructor
  · exact div_nonneg (sq_nonneg _) (mul_nonneg left.le right.le)
  · exact (div_le_one (mul_pos left right)).mpr (Regression.covariation_sq_le xs equity same)

-- The clamp does nothing.
theorem stability_is_fit (equity : List K) (long : 3 ≤ equity.length) (right : 0 < spread equity) :
    equityStability equity = fit (indices equity.length) equity := by
  have left : 0 < spread (indices equity.length : List K) := indices_spread equity.length long
  obtain ⟨least, most⟩ := fit_bounds _ equity (indices_length equity.length) left right
  rw [equityStability, if_neg (by omega)]
  dsimp only
  rw [squares_eq, squares_eq, if_neg (not_le.mpr left), if_neg (not_le.mpr right), min_eq_right most, max_eq_right least]

end

-- The numbers of the source are real here.
noncomputable abbrev correlation (xs ys : List ℝ) : ℝ := pearson Real.sqrt xs ys

theorem correlation_abs_le (xs ys : List ℝ) : |correlation xs ys| ≤ 1 := by
  by_cases short : min xs.length ys.length < 3
  · rw [correlation, pearson_short Real.sqrt xs ys short, abs_zero]
    exact zero_le_one
  · rw [correlation, pearson_long Real.sqrt xs ys short]
    split
    · rw [abs_zero]
      exact zero_le_one
    · have same : (xs.take (min xs.length ys.length)).length = (ys.take (min xs.length ys.length)).length := by
        rw [List.length_take, List.length_take]
        omega
      rw [abs_div, abs_of_nonneg (Real.sqrt_nonneg _)]
      apply div_le_one_of_le₀ _ (Real.sqrt_nonneg _)
      exact Real.abs_le_sqrt (Regression.covariation_sq_le _ _ same)

-- A scale leaves only its sign.
theorem correlation_affine (xs ys : List ℝ) (a b : ℝ) (scaled : a ≠ 0) :
    correlation (xs.map (fun x => a * x + b)) ys = a / |a| * correlation xs ys := by
  have length : (xs.map (fun x => a * x + b)).length = xs.length := List.length_map _
  by_cases short : min xs.length ys.length < 3
  · rw [correlation, correlation, pearson_short Real.sqrt xs ys short, mul_zero]
    apply pearson_short
    rw [length]
    exact short
  · rw [correlation, correlation, pearson_long Real.sqrt xs ys short, pearson_long Real.sqrt _ ys (by rw [length]; exact short),
      length, ← List.map_take, Regression.spread_affine, Regression.covariation_affine]
    have square : 0 < a ^ 2 := sq_pos_iff.mpr scaled
    have flat : a ^ 2 * spread (xs.take (min xs.length ys.length)) ≤ 0 ↔ spread (xs.take (min xs.length ys.length)) ≤ 0 := by
      rw [← not_lt, ← not_lt, mul_pos_iff_of_pos_left square]
    rw [if_congr (or_congr_left flat) rfl rfl]
    split
    · rw [mul_zero]
    · rw [mul_assoc, Real.sqrt_mul square.le, Real.sqrt_sq_eq_abs, mul_div_mul_comm]

theorem correlation_sq (xs ys : List ℝ) (same : xs.length = ys.length) (long : 3 ≤ ys.length)
    (left : 0 < spread xs) (right : 0 < spread ys) : fit xs ys = correlation xs ys ^ 2 := by
  have least : min xs.length ys.length = ys.length := by omega
  have whole : xs.take (min xs.length ys.length) = xs := by rw [least, ← same, List.take_length]
  have whole_ : ys.take (min xs.length ys.length) = ys := by rw [least, List.take_length]
  have wide : ¬ (spread xs ≤ 0 ∨ spread ys ≤ 0) := not_or.mpr ⟨not_le.mpr left, not_le.mpr right⟩
  rw [correlation, pearson_long Real.sqrt xs ys (by omega), whole, whole_, if_neg wide, div_pow,
    Real.sq_sqrt (mul_pos left right).le, fit_eq xs ys same left.ne' right.ne']

theorem research_identities :
    (∀ xs ys : List ℝ, correlation xs ys = correlation ys xs ∧ -1 ≤ correlation xs ys ∧ correlation xs ys ≤ 1 ∧
      ∀ a b : ℝ, (0 < a → correlation (xs.map (fun x => a * x + b)) ys = correlation xs ys) ∧
        (a < 0 → correlation (xs.map (fun x => a * x + b)) ys = - correlation xs ys)) ∧
    ∀ equity : List ℝ, 3 ≤ equity.length → (∃ u ∈ equity, ∃ v ∈ equity, u ≠ v) →
      equityStability equity = correlation (indices equity.length) equity ^ 2 ∧
        fit (indices equity.length) equity = correlation (indices equity.length) equity ^ 2 ∧
        0 ≤ fit (indices equity.length) equity ∧ fit (indices equity.length) equity ≤ 1 := by
  constructor
  · intro xs ys
    obtain ⟨least, most⟩ := abs_le.mp (correlation_abs_le xs ys)
    refine ⟨pearson_comm Real.sqrt xs ys, least, most, ?_⟩
    intro a b
    constructor
    · intro up
      rw [correlation_affine xs ys a b up.ne', abs_of_pos up, div_self up.ne', one_mul]
    · intro down
      rw [correlation_affine xs ys a b down.ne, abs_of_neg down, div_neg, div_self down.ne, neg_one_mul]
  · intro equity long moves
    obtain ⟨u, first, v, second, apart⟩ := moves
    have right : 0 < spread equity := Regression.spread_pos equity u v first second apart
    have left : 0 < spread (indices equity.length : List ℝ) := indices_spread equity.length long
    have same : (indices equity.length : List ℝ).length = equity.length := indices_length equity.length
    have squared := correlation_sq _ equity same long left right
    rw [stability_is_fit equity long right]
    exact ⟨squared, squared, fit_bounds _ equity same left right⟩

theorem research_identities_three :
    equityStability ([1, 2, 4] : List ℝ) = correlation (indices 3) [1, 2, 4] ^ 2 ∧
      correlation ([1, 2, 4].map (fun x => -1 * x + 7)) [3, 5, 4] = - correlation [1, 2, 4] [3, 5, 4] := by
  obtain ⟨_, _, _, scaled⟩ := research_identities.1 [1, 2, 4] [3, 5, 4]
  have moves : ∃ u ∈ ([1, 2, 4] : List ℝ), ∃ v ∈ ([1, 2, 4] : List ℝ), u ≠ v := ⟨1, by simp, 2, by simp, by norm_num⟩
  exact ⟨(research_identities.2 [1, 2, 4] (by simp) moves).1, (scaled (-1) 7).2 (by norm_num)⟩

end QuantEngine.Research.Stats
