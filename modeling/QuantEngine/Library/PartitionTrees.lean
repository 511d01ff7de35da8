import Mathlib.Algebra.BigOperators.Group.List.Basic
import Mathlib.Algebra.Field.Basic
import Mathlib.Algebra.CharZero.Defs
import Mathlib.Tactic.FieldSimp

set_option autoImplicit false

namespace QuantEngine

-- A tree of tests that sends each item to one leaf.
inductive PartitionTree (α K : Type) where
  | leaf (value : K)
  | node (test : α → Bool) (left right : PartitionTree α K)

namespace PartitionTree

variable {α K : Type}

def eval : PartitionTree α K → α → K
  | .leaf value, _ => value
  | .node test left right, item => if test item then left.eval item else right.eval item

-- The answers on the way to the leaf of an item.
def leafOf : PartitionTree α K → α → List Bool
  | .leaf _, _ => []
  | .node test left right, item => if test item then true :: left.leafOf item else false :: right.leafOf item

def depth : PartitionTree α K → Nat
  | .leaf _ => 0
  | .node _ left right => max left.depth right.depth + 1

-- The samples at the leaf of an item.
def together (tree : PartitionTree α K) (samples : List α) (item : α) : List α :=
  samples.filter (fun other => decide (tree.leafOf other = tree.leafOf item))

theorem together_leaf (value : K) (samples : List α) (item : α) : together (.leaf value) samples item = samples := by
  simp [together, leafOf]

theorem together_left (test : α → Bool) (left right : PartitionTree α K) (samples : List α) (item : α) (goes : test item = true) :
    together (.node test left right) samples item = together left (samples.filter test) item := by
  rw [together, together, List.filter_filter]
  refine List.filter_congr (fun other _ => ?_)
  cases answer : test other <;> simp [leafOf, answer, goes]

theorem together_right (test : α → Bool) (left right : PartitionTree α K) (samples : List α) (item : α) (goes : test item = false) :
    together (.node test left right) samples item = together right (samples.filter (fun other => !test other)) item := by
  rw [together, together, List.filter_filter]
  refine List.filter_congr (fun other _ => ?_)
  cases answer : test other <;> simp [leafOf, answer, goes]

section

variable [Field K] (weight : α → K)

def mean (samples : List α) : K := (samples.map weight).sum / samples.length

-- Every leaf holds the mean of the samples that reach it, and there are some.
inductive Fits : List α → PartitionTree α K → Prop
  | leaf (samples : List α) (some_ : samples ≠ []) : Fits samples (.leaf (mean weight samples))
  | node (samples : List α) (test : α → Bool) (left right : PartitionTree α K) (lefts : Fits (samples.filter test) left)
      (rights : Fits (samples.filter (fun item => !test item)) right) : Fits samples (.node test left right)

theorem eval_mean (samples : List α) (tree : PartitionTree α K) (fits : Fits weight samples tree) (item : α) :
    tree.eval item = mean weight (together tree samples item) := by
  induction fits with
  | leaf samples some_ => rw [together_leaf, eval]
  | node samples test left right lefts rights leftIh rightIh =>
      cases goes : test item with
      | true => rw [together_left test left right samples item goes, ← leftIh, eval, if_pos goes]
      | false => rw [together_right test left right samples item goes, ← rightIh, eval, if_neg (by simp [goes])]

theorem sum_parts (value : α → K) (test : α → Bool) (samples : List α) :
    (samples.map value).sum = ((samples.filter test).map value).sum + ((samples.filter (fun item => !test item)).map value).sum := by
  induction samples with
  | nil => simp
  | cons first rest ih =>
      cases goes : test first with
      | true => simp [goes, ih, add_assoc]
      | false => simp [goes, ih, add_left_comm]

-- Together the predictions of the samples come to what the samples do.
theorem sum_eval [CharZero K] (samples : List α) (tree : PartitionTree α K) (fits : Fits weight samples tree) :
    (samples.map tree.eval).sum = (samples.map weight).sum := by
  induction fits with
  | leaf samples some_ =>
      have count : (samples.length : K) ≠ 0 := Nat.cast_ne_zero.mpr (fun none => some_ (List.eq_nil_of_length_eq_zero none))
      have same : samples.map (PartitionTree.leaf (mean weight samples)).eval = List.replicate samples.length (mean weight samples) :=
        List.map_const'
      rw [same, List.sum_replicate, nsmul_eq_mul, mean, mul_div_cancel₀ _ count]
  | node samples test left right lefts rights leftIh rightIh =>
      have first : (samples.filter test).map (PartitionTree.node test left right).eval = (samples.filter test).map left.eval :=
        List.map_congr_left (fun item member => if_pos (List.of_mem_filter member))
      have second : (samples.filter (fun item => !test item)).map (PartitionTree.node test left right).eval =
          (samples.filter (fun item => !test item)).map right.eval := by
        refine List.map_congr_left (fun item member => if_neg ?_)
        have goes := List.of_mem_filter member
        simpa using goes
      rw [sum_parts _ test, first, second, leftIh, rightIh, ← sum_parts]

end

end PartitionTree

end QuantEngine
