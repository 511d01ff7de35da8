import Mathlib.Algebra.BigOperators.Group.List.Basic
import Mathlib.Analysis.SpecialFunctions.Log.Basic
import Mathlib.Data.List.Sort
import Mathlib.Tactic.FieldSimp
import Mathlib.Tactic.Linarith
import Mathlib.Tactic.Ring

set_option autoImplicit false

namespace QuantEngine.MidRanks

section

variable {α β : Type}

theorem count_sum (holds : β → Bool) (others : List β) :
    (others.map (fun other => if holds other then 1 else 0)).sum = others.countP holds := by
  induction others with
  | nil => rfl
  | cons other others ih => rw [List.map_cons, List.sum_cons, ih, List.countP_cons, add_comm]

-- A sum over pairs, taken from either side.
theorem count_both (holds : α → β → Bool) (items : List α) (others : List β) :
    (items.map (fun item => others.countP (holds item))).sum =
      (others.map (fun other => items.countP (fun item => holds item other))).sum := by
  induction items with
  | nil => simp
  | cons item items ih =>
      have split : (fun other => (item :: items).countP (fun item => holds item other)) =
          fun other => items.countP (fun item => holds item other) + if holds item other then 1 else 0 := by
        funext other
        rw [List.countP_cons]
      rw [List.map_cons, List.sum_cons, ih, split, List.sum_map_add, count_sum, add_comm]

end

variable {α β : Type} [LinearOrder α] [LinearOrder β]

def below (items : List α) (value : α) : Nat := items.countP (fun item => decide (item < value))

def upTo (items : List α) (value : α) : Nat := items.countP (fun item => decide (item ≤ value))

-- The mean of the places that the items equal to `value` take in order, from 1.
def midRank (items : List α) (value : α) : ℚ := ((below items value : ℚ) + (upTo items value : ℚ) + 1) / 2

-- The pairs of an item of each list in which the first is the higher, or both are equal.
def higher (first second : List α) : Nat := (first.map (below second)).sum

def tied (first second : List α) : Nat := (first.map (fun value => second.count value)).sum

@[simp]
theorem below_append (first second : List α) (value : α) :
    below (first ++ second) value = below first value + below second value := List.countP_append

@[simp]
theorem up_to_append (first second : List α) (value : α) :
    upTo (first ++ second) value = upTo first value + upTo second value := List.countP_append

theorem mid_rank_perm (items others : List α) (perm : items.Perm others) : midRank items = midRank others := by
  funext value
  rw [midRank, midRank, below, below, upTo, upTo, perm.countP_eq, perm.countP_eq]

theorem up_to_eq (items : List α) (value : α) : upTo items value = below items value + items.count value := by
  induction items with
  | nil => rfl
  | cons item items ih =>
      rw [upTo, below] at ih ⊢
      rw [List.countP_cons, List.countP_cons, List.count_cons, ih]
      rcases lt_trichotomy item value with less | same | more
      · simp [less, less.le, less.ne]
        omega
      · simp [same]
        omega
      · simp [not_lt.mpr more.le, not_le.mpr more, more.ne']

-- The items equal to `value` stand between the smaller and the larger ones.
theorem mid_rank_block (before block after : List α) (value : α) (low : ∀ item ∈ before, item < value)
    (equal : ∀ item ∈ block, item = value) (high : ∀ item ∈ after, value < item) :
    midRank (before ++ block ++ after) value = ((before.length + (before.length + block.length) + 1 : Nat) : ℚ) / 2 := by
  have first : below before value = before.length ∧ upTo before value = before.length :=
    ⟨List.countP_eq_length.mpr (fun item member => decide_eq_true (low item member)),
      List.countP_eq_length.mpr (fun item member => decide_eq_true (low item member).le)⟩
  have second : below block value = 0 ∧ upTo block value = block.length :=
    ⟨List.countP_eq_zero.mpr (fun item member => by simp [equal item member]),
      List.countP_eq_length.mpr (fun item member => by simp [equal item member])⟩
  have third : below after value = 0 ∧ upTo after value = 0 :=
    ⟨List.countP_eq_zero.mpr (fun item member => by simp [(high item member).le]),
      List.countP_eq_zero.mpr (fun item member => by simp [high item member])⟩
  rw [midRank, below_append, below_append, up_to_append, up_to_append, first.1, first.2, second.1, second.2, third.1, third.2]
  push_cast
  ring

-- Seen from both sides, each pair of items counts twice.
theorem sum_both (items others : List α) :
    (items.map (fun value => below others value + upTo others value)).sum +
      (others.map (fun value => below items value + upTo items value)).sum = 2 * items.length * others.length := by
  induction items with
  | nil => simp [below, upTo]
  | cons item items ih =>
      have one : below others item + upTo others item +
          (others.map (fun value => below [item] value + upTo [item] value)).sum = 2 * others.length := by
        clear ih
        induction others with
        | nil => rfl
        | cons other others ih =>
            simp only [below, upTo, List.countP_cons, List.countP_nil, List.map_cons, List.sum_cons, List.length_cons] at ih ⊢
            rcases lt_trichotomy item other with less | same | more
            · simp [less, less.le, not_lt.mpr less.le, not_le.mpr less] at ih ⊢
              omega
            · simp [same] at ih ⊢
              omega
            · simp [more, more.le, not_lt.mpr more.le, not_le.mpr more] at ih ⊢
              omega
      have split : (others.map (fun value => below (item :: items) value + upTo (item :: items) value)).sum =
          (others.map (fun value => below [item] value + upTo [item] value)).sum +
            (others.map (fun value => below items value + upTo items value)).sum := by
        rw [← List.sum_map_add]
        congr 2
        funext value
        rw [← List.singleton_append, below_append, up_to_append]
        omega
      rw [split, List.map_cons, List.sum_cons, List.length_cons]
      linarith

theorem tied_comm (first second : List α) : tied first second = tied second first := by
  have both := count_both (fun a b : α => b == a) first second
  simpa only [tied, List.count, BEq.comm] using both

theorem higher_flip (first second : List α) :
    higher first second = (second.map (fun value => first.countP (fun item => decide (value < item)))).sum :=
  count_both (fun a b : α => decide (b < a)) first second

-- Only the order of the items counts.
theorem higher_map (change : α → β) (first second : List α)
    (kept : ∀ value ∈ first, ∀ item ∈ second, change item < change value ↔ item < value) :
    higher (first.map change) (second.map change) = higher first second := by
  rw [higher, higher, List.map_map]
  congr 1
  refine List.map_congr_left (fun value member => ?_)
  rw [Function.comp_apply, below, below, List.countP_map]
  exact List.countP_congr (fun item here => by simp [kept value member item here])

theorem higher_anti (change : α → β) (first second : List α)
    (turned : ∀ value ∈ first, ∀ item ∈ second, change item < change value ↔ value < item) :
    higher (first.map change) (second.map change) = higher second first := by
  rw [higher_flip second first, higher, List.map_map]
  congr 1
  refine List.map_congr_left (fun value member => ?_)
  rw [Function.comp_apply, below, List.countP_map]
  exact List.countP_congr (fun item here => by simp [turned value member item here])

theorem tied_map (change : α → β) (first second : List α)
    (kept : ∀ value ∈ first, ∀ item ∈ second, change item = change value ↔ item = value) :
    tied (first.map change) (second.map change) = tied first second := by
  rw [tied, tied, List.map_map]
  congr 1
  refine List.map_congr_left (fun value member => ?_)
  rw [Function.comp_apply, List.count, List.count, List.countP_map]
  exact List.countP_congr (fun item here => by simp [kept value member item here])

theorem higher_perm (first second others rest : List α) (one : first.Perm others) (two : second.Perm rest) :
    higher first second = higher others rest := by
  have same : below second = below rest := funext (fun _ => two.countP_eq _)
  rw [higher, higher, same, (one.map _).sum_eq]

theorem tied_perm (first second others rest : List α) (one : first.Perm others) (two : second.Perm rest) :
    tied first second = tied others rest := by
  have same : (fun value => second.count value) = fun value => rest.count value := funext (fun _ => two.count_eq _)
  rw [tied, tied, same, (one.map _).sum_eq]

theorem twice_higher (first second : List α) :
    (first.map (fun value => below second value + upTo second value)).sum = 2 * higher first second + tied first second := by
  rw [higher, tied]
  induction first with
  | nil => rfl
  | cons value first ih =>
      rw [List.map_cons, List.sum_cons, List.map_cons, List.sum_cons, List.map_cons, List.sum_cons, ih, up_to_eq]
      ring

-- Each pair is won by one side, or tied.
theorem pairs_total (first second : List α) :
    higher first second + tied first second + higher second first = first.length * second.length := by
  have both := sum_both first second
  rw [twice_higher, twice_higher, tied_comm second first] at both
  linarith

-- The mid-ranks of `first` among all: those among themselves, and the pairs won.
theorem mid_rank_sum (first second : List α) :
    (first.map (midRank (first ++ second))).sum =
      (first.length : ℚ) * (first.length + 1) / 2 + ((higher first second : ℚ) + (tied first second : ℚ) / 2) := by
  have own := sum_both first first
  have doubled (values : List α) : (values.map (midRank (first ++ second))).sum * 2 =
      ((values.map (fun value => below first value + upTo first value)).sum +
        (values.map (fun value => below second value + upTo second value)).sum + values.length : Nat) := by
    induction values with
    | nil => simp
    | cons value values ih =>
        rw [List.map_cons, List.sum_cons, List.map_cons, List.sum_cons, List.map_cons, List.sum_cons, List.length_cons,
          add_mul, ih, midRank, below_append, up_to_append]
        push_cast
        ring
  have total := doubled first
  rw [show (first.map (fun value => below first value + upTo first value)).sum = first.length * first.length by linarith,
    twice_higher] at total
  push_cast at total
  linarith

end QuantEngine.MidRanks

namespace QuantEngine.Divergence

-- The share of one cell in the symmetric divergence of two distributions.
noncomputable def cell (p q : ℝ) : ℝ := (q - p) * Real.log (q / p)

noncomputable def divergence (cells : List (ℝ × ℝ)) : ℝ := (cells.map (fun pair => cell pair.1 pair.2)).sum

def Positive (cells : List (ℝ × ℝ)) : Prop := ∀ pair ∈ cells, 0 < pair.1 ∧ 0 < pair.2

theorem cell_pos (p q : ℝ) (first : 0 < p) (second : 0 < q) (apart : p ≠ q) : 0 < cell p q := by
  rcases lt_or_gt_of_ne apart with less | more
  · exact mul_pos (sub_pos.mpr less) (Real.log_pos ((one_lt_div first).mpr less))
  · exact mul_pos_of_neg_of_neg (sub_neg.mpr more) (Real.log_neg (div_pos second first) ((div_lt_one first).mpr more))

theorem cell_same (p : ℝ) : cell p p = 0 := by rw [cell, sub_self, zero_mul]

theorem cell_nonneg (p q : ℝ) (first : 0 < p) (second : 0 < q) : 0 ≤ cell p q := by
  by_cases same : p = q
  · rw [same, cell_same]
  · exact (cell_pos p q first second same).le

theorem divergence_nonneg (cells : List (ℝ × ℝ)) (positive : Positive cells) : 0 ≤ divergence cells := by
  refine List.sum_nonneg (fun share member => ?_)
  obtain ⟨pair, here, rfl⟩ := List.mem_map.mp member
  exact cell_nonneg pair.1 pair.2 (positive pair here).1 (positive pair here).2

-- There is none exactly between equal distributions.
theorem divergence_zero_iff (cells : List (ℝ × ℝ)) (positive : Positive cells) :
    divergence cells = 0 ↔ ∀ pair ∈ cells, pair.1 = pair.2 := by
  induction cells with
  | nil => exact iff_of_true rfl (fun _ member => (nomatch member))
  | cons pair cells ih =>
      obtain ⟨here, rest⟩ := List.forall_mem_cons.mp positive
      have head := cell_nonneg pair.1 pair.2 here.1 here.2
      have tail := divergence_nonneg cells rest
      rw [List.forall_mem_cons, ← ih rest, divergence, List.map_cons, List.sum_cons, ← divergence]
      constructor
      · intro none
        refine ⟨by_contra (fun apart => ?_), by linarith⟩
        linarith [cell_pos pair.1 pair.2 here.1 here.2 apart]
      · rintro ⟨same, zero⟩
        rw [same, cell_same, zero, add_zero]

end QuantEngine.Divergence
