import Mathlib.Data.Int.Log
import Mathlib.Data.Rat.Floor
import Mathlib.Tactic.Linarith

set_option autoImplicit false

namespace QuantEngine.Decimal

-- Numbers are exact. Rounding to an integer sends a tie to the even neighbour.
def roundHalfEven (x : ℚ) : Int :=
  let below := ⌊x⌋
  if x - below < 1 / 2 then below
  else if 1 / 2 < x - below then below + 1
  else if below % 2 = 0 then below
  else below + 1

def scale (digits : Nat) : ℚ := ((10 ^ digits : Nat) : ℚ)

def roundTo (digits : Nat) (x : ℚ) : ℚ := (roundHalfEven (x * scale digits) : ℚ) / scale digits

def truncate (x : ℚ) : Int := if 0 ≤ x then ⌊x⌋ else ⌈x⌉

-- The double nearest to a number, for numbers within the range of doubles.
def lastPlace (x : ℚ) : ℚ := 2 ^ (Int.log 2 |x| - 52)

def double (x : ℚ) : ℚ := (roundHalfEven (x / lastPlace x) : ℚ) * lastPlace x

theorem scale_pos (digits : Nat) : 0 < scale digits := by
  have positive : 0 < 10 ^ digits := Nat.pow_pos (by decide)
  rw [scale]
  exact_mod_cast positive

theorem floor_le_round (x : ℚ) : ⌊x⌋ ≤ roundHalfEven x := by
  simp only [roundHalfEven]
  split
  · exact le_refl _
  · split
    · omega
    · split <;> omega

theorem round_le_floor_succ (x : ℚ) : roundHalfEven x ≤ ⌊x⌋ + 1 := by
  simp only [roundHalfEven]
  split
  · omega
  · split
    · exact le_refl _
    · split <;> omega

theorem round_mono (a b : ℚ) (le : a ≤ b) : roundHalfEven a ≤ roundHalfEven b := by
  have floors : ⌊a⌋ ≤ ⌊b⌋ := Int.floor_mono le
  cases lt_or_eq_of_le floors with
    | inl apart => exact le_trans (round_le_floor_succ a) (le_trans (by omega) (floor_le_round b))
    | inr together =>
        by_cases low : a - ⌊a⌋ < 1 / 2
        · have down : roundHalfEven a = ⌊a⌋ := by simp only [roundHalfEven, if_pos low]
          rw [down, together]
          exact floor_le_round b
        · have upB : ¬ b - ⌊b⌋ < 1 / 2 := by
            rw [← together]
            intro high
            exact low (by linarith)
          by_cases tie : 1 / 2 < b - ⌊b⌋
          · have up : roundHalfEven b = ⌊b⌋ + 1 := by simp only [roundHalfEven, if_neg upB, if_pos tie]
            rw [up, ← together]
            exact round_le_floor_succ a
          · have tieA : ¬ 1 / 2 < a - ⌊a⌋ := by
              rw [together]
              intro high
              exact tie (by linarith)
            have halfA : roundHalfEven a = if ⌊a⌋ % 2 = 0 then ⌊a⌋ else ⌊a⌋ + 1 := by
              simp only [roundHalfEven, if_neg low, if_neg tieA]
            have halfB : roundHalfEven b = if ⌊b⌋ % 2 = 0 then ⌊b⌋ else ⌊b⌋ + 1 := by
              simp only [roundHalfEven, if_neg upB, if_neg tie]
            rw [halfA, halfB, together]

theorem round_int (n : Int) : roundHalfEven (n : ℚ) = n := by
  simp [roundHalfEven]

theorem round_near (x : ℚ) : x - 1 / 2 ≤ roundHalfEven x ∧ (roundHalfEven x : ℚ) ≤ x + 1 / 2 := by
  have low := Int.floor_le x
  have high := Int.lt_floor_add_one x
  simp only [roundHalfEven]
  split
  · constructor <;> linarith
  · split
    · push_cast
      constructor <;> linarith
    · split
      · constructor <;> linarith
      · push_cast
        constructor <;> linarith

theorem round_half (n : Int) : roundHalfEven (n + 1 / 2) = if n % 2 = 0 then n else n + 1 := by
  have below : ⌊(n : ℚ) + 1 / 2⌋ = n := Int.floor_eq_iff.mpr ⟨by linarith, by linarith⟩
  have tie : (n : ℚ) + 1 / 2 - n = 1 / 2 := by ring
  simp only [roundHalfEven, below, tie, lt_irrefl, if_false]

-- The numbers that round to at most `n`; the middle above it goes to the even neighbour.
theorem round_le_iff (x : ℚ) (n : Int) : roundHalfEven x ≤ n ↔ x < n + 1 / 2 ∨ (x = n + 1 / 2 ∧ n % 2 = 0) := by
  rcases lt_trichotomy x (n + 1 / 2) with less | tie | more
  · refine iff_of_true ?_ (.inl less)
    have near := (round_near x).2
    have strict : (roundHalfEven x : ℚ) < (n + 1 : Int) := by
      push_cast
      linarith
    have whole : roundHalfEven x < n + 1 := by exact_mod_cast strict
    omega
  · rw [tie, round_half]
    simp only [lt_irrefl, false_or, true_and]
    split <;> omega
  · refine iff_of_false ?_ (by rintro (less | ⟨tie, -⟩) <;> linarith)
    intro within
    have near := (round_near x).1
    have bound : (roundHalfEven x : ℚ) ≤ n := by exact_mod_cast within
    linarith

theorem le_round_iff (x : ℚ) (n : Int) : n ≤ roundHalfEven x ↔ (n : ℚ) - 1 / 2 < x ∨ (x = (n : ℚ) - 1 / 2 ∧ n % 2 = 0) := by
  have middle : ((n - 1 : Int) : ℚ) + 1 / 2 = n - 1 / 2 := by
    push_cast
    ring
  have below := round_le_iff x (n - 1)
  rw [middle] at below
  constructor
  · intro reached
    have above : ¬ roundHalfEven x ≤ n - 1 := by omega
    rw [below, not_or] at above
    rcases (not_lt.mp above.1).lt_or_eq with less | tie
    · exact .inl less
    · refine .inr ⟨tie.symm, ?_⟩
      have parity : ¬ (n - 1) % 2 = 0 := fun even => above.2 ⟨tie.symm, even⟩
      omega
  · intro near
    have above : ¬ roundHalfEven x ≤ n - 1 := by
      rw [below]
      rintro (less | ⟨tie, even⟩)
      · rcases near with more | ⟨same, -⟩ <;> linarith
      · rcases near with more | ⟨-, parity⟩
        · linarith
        · omega
    omega

theorem round_to_mono (digits : Nat) (a b : ℚ) (le : a ≤ b) : roundTo digits a ≤ roundTo digits b := by
  have scaled : a * scale digits ≤ b * scale digits :=
    mul_le_mul_of_nonneg_right le (le_of_lt (scale_pos digits))
  have rounded : (roundHalfEven (a * scale digits) : ℚ) ≤ roundHalfEven (b * scale digits) := by
    exact_mod_cast round_mono _ _ scaled
  exact div_le_div_of_nonneg_right rounded (le_of_lt (scale_pos digits))

-- A number rounds to at most a bound where it reaches no further than the
-- middle above the last multiple of the unit there; a middle goes to the even
-- neighbour.
def NotAbove (digits : Nat) (bound x : ℚ) : Prop :=
  let last := ⌊bound * scale digits⌋
  x * scale digits < last + 1 / 2 ∨ (x * scale digits = last + 1 / 2 ∧ last % 2 = 0)

def NotBelow (digits : Nat) (bound x : ℚ) : Prop :=
  let first := ⌈bound * scale digits⌉
  (first : ℚ) - 1 / 2 < x * scale digits ∨ (x * scale digits = (first : ℚ) - 1 / 2 ∧ first % 2 = 0)

instance decidableNotAbove (digits : Nat) (bound x : ℚ) : Decidable (NotAbove digits bound x) :=
  inferInstanceAs (Decidable (_ ∨ _))

instance decidableNotBelow (digits : Nat) (bound x : ℚ) : Decidable (NotBelow digits bound x) :=
  inferInstanceAs (Decidable (_ ∨ _))

theorem round_to_le_iff (digits : Nat) (x bound : ℚ) : roundTo digits x ≤ bound ↔ NotAbove digits bound x := by
  rw [roundTo, div_le_iff₀ (scale_pos digits), ← Int.le_floor]
  exact round_le_iff _ _

theorem le_round_to_iff (digits : Nat) (x bound : ℚ) : bound ≤ roundTo digits x ↔ NotBelow digits bound x := by
  rw [roundTo, le_div_iff₀ (scale_pos digits), ← Int.ceil_le]
  exact le_round_iff _ _

def OnGrid (digits : Nat) (x : ℚ) : Prop := ∃ n : Int, x * scale digits = n

theorem round_to_grid (digits : Nat) (x : ℚ) (grid : OnGrid digits x) : roundTo digits x = x := by
  obtain ⟨n, eq⟩ := grid
  rw [roundTo, eq, round_int, ← eq]
  exact mul_div_cancel_right₀ x (ne_of_gt (scale_pos digits))

theorem round_to_on_grid (digits : Nat) (x : ℚ) : OnGrid digits (roundTo digits x) :=
  ⟨roundHalfEven (x * scale digits), div_mul_cancel₀ _ (ne_of_gt (scale_pos digits))⟩

theorem round_to_nonneg (digits : Nat) (x : ℚ) (nonneg : 0 ≤ x) : 0 ≤ roundTo digits x := by
  have zero : roundTo digits 0 = 0 := round_to_grid digits 0 ⟨0, by simp⟩
  rw [← zero]
  exact round_to_mono digits 0 x nonneg

theorem round_pos_iff (x : ℚ) : 0 < roundHalfEven x ↔ 1 / 2 < x := by
  constructor
  · intro positive
    by_contra small
    have low := round_mono x (1 / 2) (not_lt.mp small)
    rw [show roundHalfEven (1 / 2) = 0 by decide +kernel] at low
    exact absurd positive (not_lt.mpr low)
  · intro large
    by_cases whole : 1 ≤ x
    · have high := round_mono 1 x whole
      rw [show roundHalfEven 1 = 1 from round_int 1] at high
      omega
    · have below : ⌊x⌋ = 0 := Int.floor_eq_zero_iff.mpr ⟨by linarith, not_le.mp whole⟩
      have up : 1 / 2 < x - (⌊x⌋ : ℚ) := by
        rw [below]
        simpa using large
      simp only [roundHalfEven, if_neg (not_lt.mpr (le_of_lt up)), if_pos up]
      omega

theorem round_to_pos_iff (digits : Nat) (x : ℚ) : 0 < roundTo digits x ↔ 1 / 2 < x * scale digits := by
  rw [roundTo, div_pos_iff_of_pos_right (scale_pos digits), Int.cast_pos, round_pos_iff]

theorem truncate_mono (a b : ℚ) (nonneg : 0 ≤ a) (le : a ≤ b) : truncate a ≤ truncate b := by
  rw [truncate, truncate, if_pos nonneg, if_pos (le_trans nonneg le)]
  exact Int.floor_mono le

theorem last_place_le (x : ℚ) (positive : 0 < x) : 64 * lastPlace x ≤ x := by
  have unit : 0 < lastPlace x := zpow_pos (by norm_num) _
  have least : (2 : ℚ) ^ Int.log 2 |x| ≤ |x| := Int.zpow_log_le_self (by norm_num) (abs_pos.mpr (ne_of_gt positive))
  have split : (2 : ℚ) ^ Int.log 2 |x| = 2 ^ 52 * lastPlace x := by
    rw [lastPlace, zpow_sub₀ (by norm_num)]
    norm_num
    ring
  rw [abs_of_pos positive] at least split
  rw [split] at least
  linarith

theorem double_near (x : ℚ) (positive : 0 < x) : 3 / 4 * x ≤ double x := by
  have unit : 0 < lastPlace x := zpow_pos (by norm_num) _
  have places := last_place_le x positive
  have scaled := mul_le_mul_of_nonneg_right (round_near (x / lastPlace x)).1 unit.le
  rw [sub_mul, div_mul_cancel₀ _ (ne_of_gt unit)] at scaled
  rw [double]
  linarith

-- At least half of a positive number of eight decimals does not round to zero.
theorem partial_pos (x fraction : ℚ) (grid : OnGrid 8 x) (positive : 0 < x) (half : 1 / 2 ≤ fraction) :
    0 < roundTo 8 (double x * fraction) := by
  have least : double (1 / 100000000) * (1 / 2) ≤ double x * fraction := by
    obtain ⟨n, eq⟩ := grid
    have units : x = n / 100000000 := by
      rw [← eq, scale]
      norm_num
    have whole : 0 < n := by
      have scaled : 0 < x * scale 8 := mul_pos positive (scale_pos 8)
      rw [eq] at scaled
      exact_mod_cast scaled
    by_cases one : n = 1
    · rw [units, one, Int.cast_one]
      exact mul_le_mul_of_nonneg_left half (by decide +kernel)
    · have more : (2 : ℚ) ≤ n := by exact_mod_cast (by omega : 2 ≤ n)
      have near := double_near x positive
      have small : double (1 / 100000000) * (1 / 2) ≤ 3 / 4 * (2 / 100000000) * (1 / 2) := by decide +kernel
      have large : 3 / 4 * (2 / 100000000) ≤ double x := by linarith
      have scaled := mul_le_mul large half (by norm_num) (by linarith)
      linarith
  exact lt_of_lt_of_le (by decide +kernel) (round_to_mono 8 _ _ least)

def padLeft (width : Nat) (text : String) : String :=
  String.ofList (List.replicate (width - text.length) '0') ++ text

-- `f"{x:.{digits}f}"`: the sign is the number's own, also where it rounds to 0.
def fixed (digits : Nat) (x : ℚ) : String :=
  let units := (roundHalfEven (x * scale digits)).natAbs
  let sign := if x < 0 then "-" else ""
  let whole := toString (units / 10 ^ digits)
  if digits = 0 then sign ++ whole
  else sign ++ whole ++ "." ++ padLeft digits (toString (units % 10 ^ digits))

def dropTrailing (c : Char) (text : String) : String :=
  String.ofList ((text.toList.reverse.dropWhile (fun d => d == c)).reverse)

def stripZeros (text : String) : String :=
  if text.contains '.' then dropTrailing '.' (dropTrailing '0' text) else text

def exponent (x : ℚ) : Int :=
  if 1 ≤ x then (Nat.log 10 ⌊x⌋.toNat : Int) else -(Nat.clog 10 ⌈1 / x⌉.toNat : Int)

def shift (x : ℚ) (places : Int) : ℚ :=
  if 0 ≤ places then x * scale places.toNat else x / scale (-places).toNat

-- `f"{x:g}"`: six significant digits, trailing zeros dropped, scientific
-- notation outside 1e-4 .. 1e6.
def general (x : ℚ) : String :=
  if x = 0 then "0"
  else
    let sign := if x < 0 then "-" else ""
    let rough := exponent |x|
    let mantissa := (roundHalfEven (shift |x| (5 - rough))).natAbs
    let e := if mantissa = 1000000 then rough + 1 else rough
    let digits := if mantissa = 1000000 then 100000 else mantissa
    if -4 ≤ e ∧ e < 6 then sign ++ stripZeros (fixed (5 - e).toNat (shift digits (e - 5)))
    else
      let expSign := if e < 0 then "-" else "+"
      sign ++ stripZeros (fixed 5 (shift digits (-5))) ++ "e" ++ expSign ++ padLeft 2 (toString e.natAbs)

-- `str(x)` of a number with at most sixteen decimals.
def plain (x : ℚ) : String :=
  let text := stripZeros (fixed 16 x)
  if text.contains '.' then text else text ++ ".0"

example : roundTo 8 (double (1 / 100000000) * (1 / 2)) = 1 / 100000000 := by decide +kernel

example : roundTo 2 (1005 / 1000) = 1 ∧ roundTo 2 (1015 / 1000) = 102 / 100 := by decide +kernel

end QuantEngine.Decimal

-- How far a number is from its double.
namespace QuantEngine.Decimal

theorem last_place_pos (x : ℚ) : 0 < lastPlace x := zpow_pos (by norm_num) _

theorem last_place_split (x : ℚ) : (2 : ℚ) ^ Int.log 2 |x| = 2 ^ 52 * lastPlace x := by
  rw [lastPlace, zpow_sub₀ (by norm_num)]
  norm_num
  ring

theorem last_place_bound (x : ℚ) (positive : 0 < x) : 2 ^ 52 * lastPlace x ≤ x := by
  have least : (2 : ℚ) ^ Int.log 2 |x| ≤ |x| := Int.zpow_log_le_self (by norm_num) (abs_pos.mpr (ne_of_gt positive))
  rwa [last_place_split, abs_of_pos positive] at least

theorem double_zero : double 0 = 0 := by
  rw [double, zero_div, show roundHalfEven 0 = 0 from round_int 0, Int.cast_zero, zero_mul]

-- The error is at most half of the last place.
theorem double_half_place (x : ℚ) : x - lastPlace x / 2 ≤ double x ∧ double x ≤ x + lastPlace x / 2 := by
  have unit := last_place_pos x
  have near := round_near (x / lastPlace x)
  have below := mul_le_mul_of_nonneg_right near.1 unit.le
  have above := mul_le_mul_of_nonneg_right near.2 unit.le
  rw [sub_mul, div_mul_cancel₀ _ (ne_of_gt unit)] at below
  rw [add_mul, div_mul_cancel₀ _ (ne_of_gt unit)] at above
  rw [double]
  constructor
  · linarith
  · linarith

theorem double_error (x : ℚ) (nonneg : 0 ≤ x) : x - x / 2 ^ 53 ≤ double x ∧ double x ≤ x + x / 2 ^ 53 := by
  rcases nonneg.eq_or_lt with zero | positive
  · rw [← zero, double_zero]
    norm_num
  · have half := double_half_place x
    have place : lastPlace x / 2 ≤ x / 2 ^ 53 := by
      have bound := last_place_bound x positive
      rw [le_div_iff₀ (by norm_num)]
      linarith
    constructor
    · linarith
    · linarith

theorem double_nonneg (x : ℚ) (nonneg : 0 ≤ x) : 0 ≤ double x := by
  have error := (double_error x nonneg).1
  have small : x / 2 ^ 53 ≤ x := div_le_self nonneg (by norm_num)
  linarith

-- A whole number of 53 bits is a double.
theorem double_exact (n : Nat) (bits : n < 2 ^ 53) : double n = n := by
  rcases Nat.eq_zero_or_pos n with rfl | positive
  · exact double_zero
  · have log : Int.log 2 |(n : ℚ)| = Nat.log 2 n := by
      rw [abs_of_nonneg (Nat.cast_nonneg n), Int.log_natCast]
    have short : Nat.log 2 n ≤ 52 := Nat.lt_succ_iff.mp (Nat.log_lt_of_lt_pow (by omega) bits)
    have unit := last_place_pos (n : ℚ)
    have places : (n : ℚ) / lastPlace n = ((n * 2 ^ (52 - Nat.log 2 n) : Nat) : Int) := by
      rw [div_eq_iff (ne_of_gt unit), lastPlace, log]
      have split : (2 : ℚ) ^ (52 - Nat.log 2 n) * 2 ^ ((Nat.log 2 n : Int) - 52) = 1 := by
        rw [← zpow_natCast, ← zpow_add₀ (by norm_num)]
        simp [Nat.cast_sub short]
      push_cast
      rw [mul_assoc, split, mul_one]
    rw [double, places, round_int, ← places, div_mul_cancel₀ _ (ne_of_gt unit)]

-- A double lies between the powers of two around its number.
theorem double_between (x : ℚ) (positive : 0 < x) : 2 ^ 52 * lastPlace x ≤ double x ∧ double x ≤ 2 ^ 53 * lastPlace x := by
  have unit := last_place_pos x
  have above : x ≤ 2 ^ 53 * lastPlace x := by
    have next : |x| < (2 : ℚ) ^ (Int.log 2 |x| + 1) := Int.lt_zpow_succ_log_self (by norm_num) _
    rw [zpow_add_one₀ (by norm_num), last_place_split, abs_of_pos positive] at next
    linarith
  have low := round_mono ((2 ^ 52 : Int) : ℚ) (x / lastPlace x) (by rw [le_div_iff₀ unit]; exact_mod_cast last_place_bound x positive)
  have high := round_mono (x / lastPlace x) ((2 ^ 53 : Int) : ℚ) (by rw [div_le_iff₀ unit]; exact_mod_cast above)
  rw [round_int] at low high
  rw [double]
  constructor
  · exact mul_le_mul_of_nonneg_right (by exact_mod_cast low) unit.le
  · exact mul_le_mul_of_nonneg_right (by exact_mod_cast high) unit.le

theorem double_mono (x y : ℚ) (positive : 0 < x) (le : x ≤ y) : double x ≤ double y := by
  have logs : Int.log 2 |x| ≤ Int.log 2 |y| := by
    rw [abs_of_pos positive, abs_of_pos (lt_of_lt_of_le positive le)]
    exact Int.log_mono_right positive le
  rcases logs.eq_or_lt with same | less
  · have places : lastPlace x = lastPlace y := by rw [lastPlace, lastPlace, same]
    rw [double, double, places]
    have unit := last_place_pos y
    have rounded := round_mono _ _ (div_le_div_of_nonneg_right le unit.le)
    exact mul_le_mul_of_nonneg_right (by exact_mod_cast rounded) unit.le
  · have places : 2 * lastPlace x ≤ lastPlace y := by
      rw [lastPlace, lastPlace, mul_comm, ← zpow_add_one₀ (by norm_num)]
      exact zpow_le_zpow_right₀ (by norm_num) (by omega)
    have below := (double_between x positive).2
    have above := (double_between y (lt_of_lt_of_le positive le)).1
    linarith

end QuantEngine.Decimal
