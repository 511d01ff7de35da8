import Mathlib.Tactic.Ring
import Mathlib.Algebra.Order.Ring.Int
import Mathlib.Data.Int.LeastGreatest

set_option autoImplicit false

namespace QuantEngine.Buckets

-- The line of integers cut at increasing points: bucket `k` goes from its own
-- point to the next one.
structure Grid where
  point : Int → Int
  grows : ∀ k, point k < point (k + 1)

def Inside (start stop moment : Int) : Prop := start ≤ moment ∧ moment < stop

instance (start stop moment : Int) : Decidable (Inside start stop moment) := inferInstanceAs (Decidable (_ ∧ _))

namespace Grid

variable (g : Grid)

def IsBucket (start stop : Int) : Prop := ∃ k, start = g.point k ∧ stop = g.point (k + 1)

theorem point_add (k : Int) (count : Nat) : g.point k ≤ g.point (k + count) := by
  induction count with
  | zero => simp
  | succ count ih =>
      have next := g.grows (k + count)
      rw [Int.natCast_succ, ← Int.add_assoc]
      omega

theorem point_le (a b : Int) (order : a ≤ b) : g.point a ≤ g.point b := by
  have more := g.point_add a (b - a).toNat
  rwa [show a + ((b - a).toNat : Int) = b by omega] at more

theorem point_lt_iff (a b : Int) : g.point a < g.point b ↔ a < b := by
  constructor
  · intro before
    by_contra late
    have back := g.point_le b a (by omega)
    omega
  · intro before
    have next := g.grows a
    have later := g.point_le (a + 1) b before
    omega

theorem bucket_nonempty (start stop : Int) (bucket : g.IsBucket start stop) : start < stop := by
  obtain ⟨k, rfl, rfl⟩ := bucket
  exact g.grows k

theorem buckets_apart (start stop later end_ : Int) (first : g.IsBucket start stop) (second : g.IsBucket later end_)
    (before : start < later) : stop ≤ later := by
  obtain ⟨a, rfl, rfl⟩ := first
  obtain ⟨b, rfl, rfl⟩ := second
  have order := (g.point_lt_iff a b).mp before
  exact g.point_le (a + 1) b order

theorem bucket_stop (start stop end_ : Int) (first : g.IsBucket start stop) (second : g.IsBucket start end_) :
    stop = end_ := by
  obtain ⟨a, rfl, rfl⟩ := first
  obtain ⟨b, same, rfl⟩ := second
  have notAbove : ¬ a < b := fun less => by
    have := (g.point_lt_iff a b).mpr less
    omega
  have notBelow : ¬ b < a := fun less => by
    have := (g.point_lt_iff b a).mpr less
    omega
  rw [show a = b by omega]

theorem point_add_le (k : Int) (count : Nat) : g.point k + count ≤ g.point (k + count) := by
  induction count with
  | zero => simp
  | succ count ih =>
      have next := g.grows (k + count)
      rw [Int.natCast_succ, ← Int.add_assoc k count 1]
      omega

-- The points leave every bound behind, so each moment has a bucket.
theorem exists_bucket (moment : Int) : ∃ start stop, g.IsBucket start stop ∧ Inside start stop moment := by
  have below : ∃ k, g.point k ≤ moment := by
    have down := g.point_add_le (-((g.point 0 - moment).toNat : Int)) (g.point 0 - moment).toNat
    rw [neg_add_cancel] at down
    exact ⟨-((g.point 0 - moment).toNat : Int), by omega⟩
  have bounded : ∃ top, ∀ k, g.point k ≤ moment → k ≤ top := by
    refine ⟨(moment - g.point 0).toNat + 1, fun k reached => ?_⟩
    by_contra beyond
    have up := g.point_add_le 0 ((moment - g.point 0).toNat + 1)
    have order := g.point_le (0 + (((moment - g.point 0).toNat + 1 : Nat) : Int)) k (by omega)
    omega
  obtain ⟨k, reached, greatest⟩ := Int.exists_greatest_of_bdd bounded below
  refine ⟨g.point k, g.point (k + 1), ⟨k, rfl, rfl⟩, reached, ?_⟩
  by_contra past
  have less := greatest (k + 1) (by omega)
  omega

theorem same_bucket (start stop later end_ moment : Int) (first : g.IsBucket start stop)
    (second : g.IsBucket later end_) (here : Inside start stop moment) (there : Inside later end_ moment) :
    start = later ∧ stop = end_ := by
  have starts : start = later := by
    by_contra different
    cases lt_or_gt_of_ne different with
    | inl before =>
        have apart := g.buckets_apart start stop later end_ first second before
        exact absurd (lt_of_lt_of_le here.2 (le_trans apart there.1)) (lt_irrefl moment)
    | inr after =>
        have apart := g.buckets_apart later end_ start stop second first after
        exact absurd (lt_of_lt_of_le there.2 (le_trans apart here.1)) (lt_irrefl moment)
  exact ⟨starts, g.bucket_stop start stop end_ first (starts ▸ second)⟩

theorem bucket_after (start stop later end_ moment : Int) (first : g.IsBucket start stop)
    (second : g.IsBucket later end_) (past : stop ≤ moment) (within : moment < end_) : start < later := by
  by_contra notLater
  by_cases same : later = start
  · have stops := g.bucket_stop start end_ stop (same ▸ second) first
    omega
  · have apart := g.buckets_apart later end_ start stop second first (by omega)
    have size := g.bucket_nonempty start stop first
    omega

end Grid

-- Every cut of the coarse grid is a cut of the fine one.
def Refines (fine coarse : Grid) : Prop := ∀ k, ∃ j, coarse.point k = fine.point j

-- A fine bucket lies inside a coarse one or apart from it.
theorem refined_bucket (fine coarse : Grid) (refines : Refines fine coarse) (start stop low high : Int)
    (small : fine.IsBucket start stop) (big : coarse.IsBucket low high) :
    (low ≤ start ∧ stop ≤ high) ∨ stop ≤ low ∨ high ≤ start := by
  obtain ⟨k, rfl, rfl⟩ := small
  obtain ⟨c, rfl, rfl⟩ := big
  obtain ⟨a, lowCut⟩ := refines c
  obtain ⟨b, highCut⟩ := refines (c + 1)
  rw [lowCut, highCut]
  by_cases before : k < a
  · exact Or.inr (Or.inl (fine.point_le (k + 1) a before))
  · by_cases after : b ≤ k
    · exact Or.inr (Or.inr (fine.point_le b k after))
    · exact Or.inl ⟨fine.point_le a k (by omega), fine.point_le (k + 1) b (by omega)⟩

end QuantEngine.Buckets
