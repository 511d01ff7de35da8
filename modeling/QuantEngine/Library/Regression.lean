import Mathlib.Algebra.BigOperators.Fin
import Mathlib.Algebra.BigOperators.Ring.List
import Mathlib.Algebra.Order.BigOperators.Group.List
import Mathlib.Algebra.Order.BigOperators.Ring.Finset
import Mathlib.Algebra.Order.Field.Basic
import Mathlib.Data.List.Zip
import Mathlib.Tactic.FieldSimp
import Mathlib.Tactic.Linarith
import Mathlib.Tactic.Ring

set_option autoImplicit false

namespace QuantEngine.Regression

section

variable {K : Type} [Field K]

def average (values : List K) : K := values.sum / values.length

def spread (values : List K) : K := (values.map (fun value => (value - average values) ^ 2)).sum

def covariation (xs ys : List K) : K := ((xs.zip ys).map (fun pair => (pair.1 - average xs) * (pair.2 - average ys))).sum

def slope (xs ys : List K) : K := covariation xs ys / spread xs

-- What the line through the averages with that slope leaves.
def residual (xs ys : List K) : K :=
  ((xs.zip ys).map (fun pair => (pair.2 - (slope xs ys * pair.1 + (average ys - slope xs ys * average xs))) ^ 2)).sum

theorem covariation_comm (xs ys : List K) : covariation xs ys = covariation ys xs := by
  have turned : (ys.zip xs).map (fun pair => (pair.1 - average ys) * (pair.2 - average xs)) =
      (xs.zip ys).map (fun pair => (pair.1 - average xs) * (pair.2 - average ys)) := by
    rw [← List.zip_swap xs ys, List.map_map]
    exact List.map_congr_left (fun pair _ => mul_comm _ _)
  rw [covariation, covariation, turned]

theorem sum_left (xs ys : List K) (same : xs.length = ys.length) (f : K → K) :
    ((xs.zip ys).map (fun pair => f pair.1)).sum = (xs.map f).sum := by
  have firsts : ((xs.zip ys).map (fun pair => f pair.1)) = ((xs.zip ys).map Prod.fst).map f := by rw [List.map_map]; rfl
  rw [firsts, List.map_fst_zip same.le]

theorem sum_right (xs ys : List K) (same : xs.length = ys.length) (f : K → K) :
    ((xs.zip ys).map (fun pair => f pair.2)).sum = (ys.map f).sum := by
  have seconds : ((xs.zip ys).map (fun pair => f pair.2)) = ((xs.zip ys).map Prod.snd).map f := by rw [List.map_map]; rfl
  rw [seconds, List.map_snd_zip same.ge]

-- The least squares line takes the explained part from the spread.
theorem residual_eq (xs ys : List K) (same : xs.length = ys.length) (wide : spread xs ≠ 0) :
    residual xs ys = spread ys - covariation xs ys ^ 2 / spread xs := by
  have expanded : ∀ pair : K × K, (pair.2 - (slope xs ys * pair.1 + (average ys - slope xs ys * average xs))) ^ 2 =
      (pair.2 - average ys) ^ 2 + (-(2 * slope xs ys) * ((pair.1 - average xs) * (pair.2 - average ys)) +
        slope xs ys ^ 2 * (pair.1 - average xs) ^ 2) := by
    intro pair
    ring
  have collected : residual xs ys = spread ys + (-(2 * slope xs ys) * covariation xs ys + slope xs ys ^ 2 * spread xs) := by
    rw [residual, List.map_congr_left (fun pair _ => expanded pair), List.sum_map_add, List.sum_map_add,
      List.sum_map_mul_left, List.sum_map_mul_left, sum_right xs ys same (fun y => (y - average ys) ^ 2),
      sum_left xs ys same (fun x => (x - average xs) ^ 2)]
    rfl
  rw [collected, slope]
  field_simp
  ring

section

variable (xs : List K) (a b : K)

theorem sum_affine : (xs.map (fun x => a * x + b)).sum = a * xs.sum + xs.length * b := by
  rw [List.sum_map_add, List.sum_map_mul_left, List.map_id', List.map_const', List.sum_replicate, nsmul_eq_mul]

variable [CharZero K]

theorem average_affine (some_x : xs ≠ []) : average (xs.map (fun x => a * x + b)) = a * average xs + b := by
  have length : (xs.length : K) ≠ 0 := Nat.cast_ne_zero.mpr (fun none => some_x (List.length_eq_zero_iff.mp none))
  rw [average, average, sum_affine, List.length_map]
  field_simp

theorem centered_affine (x : K) (member : x ∈ xs) :
    a * x + b - average (xs.map (fun x => a * x + b)) = a * (x - average xs) := by
  rw [average_affine xs a b (List.ne_nil_of_mem member)]
  ring

theorem spread_affine : spread (xs.map (fun x => a * x + b)) = a ^ 2 * spread xs := by
  rw [spread, List.map_map, spread, ← List.sum_map_mul_left]
  congr 1
  apply List.map_congr_left
  intro x member
  rw [Function.comp_apply, centered_affine xs a b x member, mul_pow]

theorem covariation_affine (ys : List K) : covariation (xs.map (fun x => a * x + b)) ys = a * covariation xs ys := by
  rw [covariation, List.zip_map_left, List.map_map, covariation, ← List.sum_map_mul_left]
  congr 1
  apply List.map_congr_left
  intro pair member
  have here : pair.1 ∈ xs := (List.of_mem_zip member).1
  rw [Function.comp_apply, ← mul_assoc, ← centered_affine xs a b pair.1 here]
  rfl

end

end

section

variable {K : Type} [Field K] [LinearOrder K] [IsStrictOrderedRing K]

theorem squares_nonneg (values : List K) : ∀ square ∈ values.map (fun value => (value - average values) ^ 2), 0 ≤ square := by
  intro square member
  obtain ⟨value, _, rfl⟩ := List.mem_map.mp member
  exact sq_nonneg _

-- Only a constant series has no spread.
theorem spread_pos (values : List K) (u v : K) (first : u ∈ values) (second : v ∈ values) (apart : u ≠ v) :
    0 < spread values := by
  have off : ∀ value ∈ values, value ≠ average values → 0 < spread values := by
    intro value member away
    have positive : 0 < (value - average values) ^ 2 := sq_pos_iff.mpr (sub_ne_zero.mpr away)
    exact lt_of_lt_of_le positive (List.single_le_sum (squares_nonneg values) _ (List.mem_map_of_mem member))
  by_cases center : u = average values
  · apply off v second
    intro same
    exact apart (center.trans same.symm)
  · exact off u first center

theorem covariation_sq_le (xs ys : List K) (same : xs.length = ys.length) :
    covariation xs ys ^ 2 ≤ spread xs * spread ys := by
  rw [covariation, spread, spread, ← sum_left xs ys same, ← sum_right xs ys same, ← Fin.sum_univ_fun_getElem,
    ← Fin.sum_univ_fun_getElem, ← Fin.sum_univ_fun_getElem]
  exact Finset.sum_mul_sq_le_sq_mul_sq _ _ _

end

end QuantEngine.Regression
