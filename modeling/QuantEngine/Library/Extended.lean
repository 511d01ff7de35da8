import Mathlib.Algebra.Order.Field.Rat
import Mathlib.Data.Rat.Sqrt
import QuantEngine.Library.Decimal
import QuantEngine.Library.Json

set_option autoImplicit false

namespace QuantEngine

-- Python's floats as far as a program computes with them. Nothing is assumed
-- of the operations; those that can raise say so. `divNat` is the division by a
-- positive constant.
class Floats (F : Type) extends PyFloat F where
  ofRat : ℚ → F
  add : F → F → F
  sub : F → F → F
  mul : F → F → F
  neg : F → F
  abs : F → F
  div : F → F → Except PyError F
  divNat : F → Nat → F
  exp : F → Except PyError F
  sqrt : F → Except PyError F
  square : F → Except PyError F
  sum : List F → F
  fsum : List F → Except PyError F
  lt : F → F → Bool
  le : F → F → Bool
  eq : F → F → Bool
  isFinite : F → Bool
  round : Nat → F → F
  fixed : Nat → F → String

-- `float("nan")`.
class HasNan (F : Type) where
  nan : F

namespace Floats

variable {F : Type} [Floats F]

-- `max` keeps the first of equals.
def maxOf (first : F) (rest : List F) : F := rest.foldl (fun best item => if lt best item then item else best) first

def minOf (first : F) (rest : List F) : F := rest.foldl (fun best item => if lt item best then item else best) first

end Floats

-- Exact numbers in place of floats: an integer that would round to 2^1024 or
-- beyond, which is no double, raises.
instance exactFloats : PyFloat ℚ where
  ofInt n := if n.natAbs < 16 ^ 256 - 1024 ^ 97 then .ok n else .error .overflow
  ofText text := (Text.parseInt text).map Int.cast
  truncate x := .ok (x.num.tdiv x.den)
  isZero x := decide (x = 0)
  render
    | .null => "None"
    | .bool value => if value then "True" else "False"
    | .int value => toString value
    | .float value => toString value
    | .str text => text
    | .arr _ => "[...]"
    | .obj _ => "{...}"

end QuantEngine

namespace QuantEngine

-- Exact numbers with the three values that are none: nothing overflows, and a
-- rounding error is no part of a result.
inductive Extended where
  | finite (value : ℚ)
  | nan
  | infinite (negative : Bool)
deriving DecidableEq

namespace Extended

def neg : Extended → Extended
  | .finite value => .finite (-value)
  | .nan => .nan
  | .infinite negative => .infinite !negative

def add : Extended → Extended → Extended
  | .finite a, .finite b => .finite (a + b)
  | .nan, _ => .nan
  | _, .nan => .nan
  | .infinite a, .infinite b => if a = b then .infinite a else .nan
  | .infinite a, .finite _ => .infinite a
  | .finite _, .infinite b => .infinite b

def negative : Extended → Bool
  | .finite value => decide (value < 0)
  | .nan => false
  | .infinite negative => negative

def isZero : Extended → Bool
  | .finite value => decide (value = 0)
  | _ => false

def mul (a b : Extended) : Extended :=
  match a, b with
  | .finite a, .finite b => .finite (a * b)
  | .nan, _ => .nan
  | _, .nan => .nan
  | a, b => if a.isZero || b.isZero then .nan else .infinite (a.negative != b.negative)

def div (a b : Extended) : Except PyError Extended :=
  if b.isZero then .error (.other "ZeroDivisionError")
  else match a, b with
    | .finite a, .finite b => .ok (.finite (a / b))
    | .finite _, .infinite _ => .ok (.finite 0)
    | .infinite a, .finite b => .ok (.infinite (a != decide (b < 0)))
    | _, _ => .ok .nan

def le : Extended → Extended → Bool
  | .finite a, .finite b => decide (a ≤ b)
  | .nan, _ => false
  | _, .nan => false
  | .infinite a, .infinite b => a || !b
  | .infinite a, .finite _ => a
  | .finite _, .infinite b => !b

def lt (a b : Extended) : Bool := a.le b && !b.le a

-- Of the values that are not rational only those at zero are given.
def exp : Extended → Except PyError Extended
  | .finite value => if value = 0 then .ok (.finite 1) else .error .overflow
  | .nan => .ok .nan
  | .infinite negative => .ok (if negative then .finite 0 else .infinite false)

def sqrt : Extended → Except PyError Extended
  | .finite value => if value < 0 then .error .value else .ok (.finite (Rat.sqrt value))
  | .nan => .ok .nan
  | .infinite negative => if negative then .error .value else .ok (.infinite false)

def fsum (values : List Extended) : Except PyError Extended :=
  if Extended.infinite true ∈ values ∧ Extended.infinite false ∈ values then .error .value
  else .ok (values.foldl add (.finite 0))

def truncate : Extended → Except PyError Int
  | .finite value => .ok (Decimal.truncate value)
  | .nan => .error .value
  | .infinite _ => .error .overflow

def round (digits : Nat) : Extended → Extended
  | .finite value => .finite (Decimal.roundTo digits value)
  | other => other

def fixed (digits : Nat) : Extended → String
  | .finite value => Decimal.fixed digits value
  | .nan => "nan"
  | .infinite negative => if negative then "-inf" else "inf"

end Extended

instance : Floats Extended where
  ofInt value := .ok (.finite value)
  ofText text := (Text.parseInt text).map (fun value => .finite value)
  truncate := Extended.truncate
  isZero := Extended.isZero
  render _ := ""
  ofRat := .finite
  add := Extended.add
  sub a b := a.add b.neg
  mul := Extended.mul
  neg := Extended.neg
  abs value := if value.negative then value.neg else value
  div := Extended.div
  divNat value number := value.mul (.finite (1 / number))
  exp := Extended.exp
  sqrt := Extended.sqrt
  square value := .ok (value.mul value)
  sum values := values.foldl Extended.add (.finite 0)
  fsum := Extended.fsum
  lt := Extended.lt
  le := Extended.le
  eq a b := a.le b && b.le a
  isFinite value := match value with
    | .finite _ => true
    | _ => false
  round := Extended.round
  fixed := Extended.fixed

instance : HasNan Extended := ⟨.nan⟩

namespace Extended

@[simp] theorem le_finite (a b : ℚ) : (finite a).le (.finite b) = decide (a ≤ b) := rfl

@[simp] theorem lt_finite (a b : ℚ) : (finite a).lt (.finite b) = decide (a < b) := by
  by_cases below : a < b
  · simp [lt, below, below.le]
  · simp [lt, below, le_of_not_gt below]

-- NaN aside, the order is total.
theorem trans_le (a b c : Extended) (first : a.le b = true) (second : b.le c = true) : a.le c = true := by
  cases a <;> cases b <;> cases c <;> simp [le] at first second ⊢ <;> grind

theorem total_le (a b : Extended) (left : a ≠ .nan) (right : b ≠ .nan) : (a.le b || b.le a) = true := by
  cases a <;> cases b <;> simp [le] at left right ⊢ <;> grind

theorem add_neg_finite (a b : ℚ) : (finite a).add (finite b).neg = .finite (a - b) := by
  rw [neg, add, sub_eq_add_neg]

theorem abs_finite (a : ℚ) : Floats.abs (finite a) = .finite |a| := by
  change (if negative (.finite a) then neg (.finite a) else .finite a) = _
  by_cases below : a < 0
  · simp [negative, neg, below, abs_of_neg]
  · simp [negative, below, abs_of_nonneg (le_of_not_gt below)]

theorem min_of_finite (first : ℚ) (rest : List Extended) (finite : ∀ number ∈ rest, ∃ value : ℚ, number = .finite value) :
    ∃ least : ℚ, Floats.minOf (.finite first) rest = .finite least ∧
      ∀ value : ℚ, Extended.finite value ∈ Extended.finite first :: rest → least ≤ value := by
  induction rest generalizing first with
  | nil => exact ⟨first, rfl, fun value member => by simp_all⟩
  | cons item rest ih =>
      obtain ⟨value, rfl⟩ := finite item List.mem_cons_self
      have others := fun number member => finite number (List.mem_cons_of_mem _ member)
      have head : Floats.minOf (.finite first) (.finite value :: rest) = Floats.minOf (.finite (min first value)) rest := by
        have choice : (if Floats.lt (Extended.finite value) (.finite first) then Extended.finite value else .finite first) =
            .finite (min first value) := by
          rcases lt_or_ge value first with below | above
          · rw [min_eq_right below.le]
            exact if_pos ((lt_finite value first).trans (decide_eq_true below))
          · rw [min_eq_left above]
            exact if_neg (by rw [show Floats.lt (Extended.finite value) (.finite first) = _ from lt_finite value first]; simpa using above)
        rw [Floats.minOf, List.foldl_cons, choice]
        rfl
      obtain ⟨least, same, below⟩ := ih (min first value) others
      refine ⟨least, head.trans same, fun other member => ?_⟩
      have smallest := below (min first value) List.mem_cons_self
      rcases List.mem_cons.mp member with here | later
      · rw [Extended.finite.inj here]
        exact smallest.trans (min_le_left first value)
      · rcases List.mem_cons.mp later with next | later
        · rw [Extended.finite.inj next]
          exact smallest.trans (min_le_right first value)
        · exact below other (List.mem_cons_of_mem _ later)

end Extended

end QuantEngine
