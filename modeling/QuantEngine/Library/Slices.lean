import Mathlib.Data.List.Basic
import Mathlib.Data.List.TakeWhile

set_option autoImplicit false

namespace QuantEngine.Slices

variable {α : Type}

-- `items[-count:]`: all of them for zero, and a negative count skips the first ones.
def last (count : Int) (items : List α) : List α :=
  if 0 < count then items.drop (items.length - count.toNat) else items.drop (-count).toNat

-- `items[index]`: a negative index counts from the end.
def item (index : Int) (items : List α) : Option α :=
  if 0 ≤ index then items[index.toNat]? else if -index ≤ items.length then items[(items.length + index).toNat]? else none

theorem item_inside (index : Int) (items : List α) (low : 0 ≤ index) (high : index.toNat < items.length) :
    item index items = some items[index.toNat] := by
  rw [item, if_pos low, List.getElem?_eq_getElem high]

theorem last_sublist (count : Int) (items : List α) : List.Sublist (last count items) items := by
  rw [last]
  split
  · exact List.drop_sublist _ items
  · exact List.drop_sublist _ items

theorem last_length (count : Int) (items : List α) (positive : 0 < count) :
    (last count items).length = min count.toNat items.length := by
  rw [last, if_pos positive, List.length_drop]
  omega

theorem last_append (count : Int) (items more : List α) (positive : 0 < count) (enough : count.toNat ≤ more.length) :
    last count (items ++ more) = last count more := by
  rw [last, last, if_pos positive, if_pos positive, List.length_append,
    show items.length + more.length - count.toNat = items.length + (more.length - count.toNat) by omega,
    List.drop_append, List.drop_eq_nil_of_le (by omega), List.nil_append]
  congr 1
  omega

end QuantEngine.Slices

namespace QuantEngine.Streaks

variable {α : Type}

-- How many of the last items in a row satisfy `holds`.
def streak (holds : α → Bool) (history : List α) : Nat := (history.reverse.takeWhile holds).length

def LastHold (holds : α → Bool) (count : Nat) (history : List α) : Prop :=
  ∃ earlier recent, history = earlier ++ recent ∧ recent.length = count ∧ ∀ item ∈ recent, holds item = true

@[simp]
theorem streak_nil (holds : α → Bool) : streak holds [] = 0 := rfl

@[simp]
theorem streak_concat (holds : α → Bool) (history : List α) (item : α) :
    streak holds (history ++ [item]) = if holds item then streak holds history + 1 else 0 := by
  rw [streak, List.reverse_concat, List.takeWhile_cons]
  split
  · rfl
  · rfl

theorem le_streak_iff (holds : α → Bool) (count : Nat) (history : List α) :
    count ≤ streak holds history ↔ LastHold holds count history := by
  constructor
  · intro enough
    let recent := (history.reverse.takeWhile holds).take count
    refine ⟨(history.reverse.drop count).reverse, recent.reverse, ?_, ?_, fun item member => ?_⟩
    · have front : history.reverse.take count = recent := by
        have whole := List.takeWhile_append_dropWhile (p := holds) (l := history.reverse)
        rw [← whole, List.take_append_of_le_length enough]
      rw [← front, ← List.reverse_append, List.take_append_drop, List.reverse_reverse]
    · rw [List.length_reverse, List.length_take_of_le enough]
    · exact List.mem_takeWhile_imp (List.mem_of_mem_take (List.mem_reverse.mp member))
  · rintro ⟨earlier, recent, rfl, rfl, all⟩
    rw [streak, List.reverse_append, List.takeWhile_append_of_pos (fun item member => all item (List.mem_reverse.mp member)),
      List.length_append, List.length_reverse]
    exact Nat.le_add_right _ _

end QuantEngine.Streaks
