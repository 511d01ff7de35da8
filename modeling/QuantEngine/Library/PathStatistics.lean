import Mathlib.Algebra.BigOperators.Group.List.Basic
import Mathlib.Algebra.Order.Field.Basic
import Mathlib.Algebra.Order.Floor.Ring
import Mathlib.Algebra.Order.SuccPred.PartialSups
import Mathlib.Data.Int.ConditionallyCompleteOrder
import Mathlib.Data.List.GetD
import Mathlib.Data.List.Sort
import Mathlib.Data.Nat.SuccPred
import Mathlib.Order.Bounds.Basic
import Mathlib.Tactic.Linarith
import Mathlib.Tactic.Ring

set_option autoImplicit false

namespace QuantEngine.Falls

variable {K : Type} [Field K]

-- The level after the first `count` changes.
def level (start : K) (changes : List K) (count : Nat) : K := start + (changes.take count).sum

theorem level_zero (start : K) (changes : List K) : level start changes 0 = start := by simp [level]

theorem level_append (start change : K) (changes : List K) (count : Nat) (inside : count ≤ changes.length) :
    level start (changes ++ [change]) count = level start changes count := by
  rw [level, level, List.take_append_of_le_length inside]

theorem level_snoc (start change : K) (changes : List K) :
    level start (changes ++ [change]) (changes.length + 1) = start + changes.sum + change := by
  rw [level, List.take_of_length_le (by simp), List.sum_append, List.sum_singleton, add_assoc]

variable [LinearOrder K]

-- How far below its highest level so far it is then, as a share of that level.
def fall (start : K) (changes : List K) (count : Nat) : K :=
  (partialSups (level start changes) count - level start changes count) / partialSups (level start changes) count

def falls (start : K) (changes : List K) : Set K := {share | ∃ count ≤ changes.length, share = fall start changes count}

theorem peak_append (start change : K) (changes : List K) (count : Nat) (inside : count ≤ changes.length) :
    partialSups (level start (changes ++ [change])) count = partialSups (level start changes) count := by
  rw [partialSups_eq_sup'_range, partialSups_eq_sup'_range]
  refine Finset.sup'_congr _ rfl (fun place member => level_append start change changes place ?_)
  have upto := Finset.mem_range.mp member
  omega

theorem fall_append (start change : K) (changes : List K) (count : Nat) (inside : count ≤ changes.length) :
    fall start (changes ++ [change]) count = fall start changes count := by
  rw [fall, fall, peak_append start change changes count inside, level_append start change changes count inside]

theorem start_le_peak (start : K) (changes : List K) (count : Nat) : start ≤ partialSups (level start changes) count := by
  have held := le_partialSups_of_le (level start changes) (Nat.zero_le count)
  rwa [level_zero] at held

-- One more change adds one more place at which to look.
theorem falls_snoc (start change : K) (changes : List K) :
    falls start (changes ++ [change]) = insert (fall start (changes ++ [change]) (changes.length + 1)) (falls start changes) := by
  ext share
  constructor
  · rintro ⟨count, inside, rfl⟩
    rw [List.length_append, List.length_singleton] at inside
    rcases Nat.le_succ_iff.mp inside with before | last
    · exact Or.inr ⟨count, before, fall_append start change changes count before⟩
    · exact Or.inl (by rw [last])
  · rintro (rfl | ⟨count, inside, rfl⟩)
    · exact ⟨changes.length + 1, by simp, rfl⟩
    · exact ⟨count, by simp; omega, (fall_append start change changes count inside).symm⟩

theorem greatest_snoc (start change deepest : K) (changes : List K) (greatest : IsGreatest (falls start changes) deepest) :
    IsGreatest (falls start (changes ++ [change])) (max (fall start (changes ++ [change]) (changes.length + 1)) deepest) := by
  rw [falls_snoc]
  exact greatest.insert _

end QuantEngine.Falls

namespace QuantEngine.Interpolation

section

variable {V : Type} [Zero V]

-- The items of a list at the integers, the first one before it and the last one after it.
def ladder (items : List V) (place : Int) : V := items.getD (min place.toNat (items.length - 1)) 0

theorem ladder_eq (items : List V) (place : Nat) (inside : place < items.length) : ladder items place = items[place] := by
  rw [ladder, Int.toNat_natCast, min_eq_left (by omega), List.getD_eq_getElem _ _ inside]

theorem ladder_mem (items : List V) (some_ : items ≠ []) (place : Int) : ladder items place ∈ items := by
  have long := List.length_pos_of_ne_nil some_
  rw [ladder, List.getD_eq_getElem _ _ (by omega)]
  exact List.getElem_mem _

theorem ladder_mono [LinearOrder V] (items : List V) (sorted : items.Pairwise (· ≤ ·)) : Monotone (ladder items) := by
  intro first second ordered
  by_cases none : items.length = 0
  · simp [ladder, List.eq_nil_of_length_eq_zero none]
  · rw [ladder, ladder, List.getD_eq_getElem _ _ (by omega), List.getD_eq_getElem _ _ (by omega)]
    have places : min first.toNat (items.length - 1) ≤ min second.toNat (items.length - 1) := by omega
    exact sorted.sortedLE.getElem_le_getElem_of_le places

end

variable {K : Type} [Field K] [LinearOrder K] [IsStrictOrderedRing K] [FloorRing K]

-- The straight lines through the values of `steps` at the integers.
def blend (steps : Int → K) (rank : K) : K := steps ⌊rank⌋ * (1 - Int.fract rank) + steps ⌈rank⌉ * Int.fract rank

theorem blend_int (steps : Int → K) (rank : Int) : blend steps (rank : K) = steps rank := by
  rw [blend, Int.floor_intCast, Int.ceil_intCast, Int.fract_intCast]
  ring

omit [IsStrictOrderedRing K] in
theorem blend_const (steps : Int → K) (value : K) (const : ∀ place, steps place = value) (rank : K) :
    blend steps rank = value := by
  rw [blend, const, const]
  ring

theorem floor_le_blend (steps : Int → K) (mono : Monotone steps) (rank : K) : steps ⌊rank⌋ ≤ blend steps rank := by
  have rise := mul_nonneg (sub_nonneg.mpr (mono (Int.floor_le_ceil rank))) (Int.fract_nonneg rank)
  rw [blend]
  linarith

theorem blend_le_ceil (steps : Int → K) (mono : Monotone steps) (rank : K) : blend steps rank ≤ steps ⌈rank⌉ := by
  have rise := mul_nonneg (sub_nonneg.mpr (mono (Int.floor_le_ceil rank))) (sub_nonneg.mpr (Int.fract_lt_one rank).le)
  rw [blend]
  linarith

theorem blend_mono (steps : Int → K) (mono : Monotone steps) : Monotone (blend steps) := by
  intro first second ordered
  by_cases apart : ⌈first⌉ ≤ ⌊second⌋
  · exact (blend_le_ceil steps mono first).trans ((mono apart).trans (floor_le_blend steps mono second))
  · -- both ranks lie on one line
    have floors := Int.floor_mono ordered
    have ceils := Int.ceil_mono ordered
    have short := Int.ceil_le_floor_add_one first
    have width := Int.ceil_le_floor_add_one second
    have floor : ⌊second⌋ = ⌊first⌋ := by omega
    have ceil : ⌈second⌉ = ⌈first⌉ := by omega
    have further : Int.fract first ≤ Int.fract second := by
      rw [Int.fract, Int.fract, floor]
      exact sub_le_sub_right ordered _
    have rise := mul_le_mul_of_nonneg_left further (sub_nonneg.mpr (mono (Int.floor_le_ceil first)))
    rw [blend, blend, floor, ceil]
    linarith

end QuantEngine.Interpolation
