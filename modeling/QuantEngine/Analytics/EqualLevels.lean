import Mathlib.Data.List.Perm.Subperm
import Mathlib.Data.List.Permutation
import Mathlib.Tactic.Linarith
import QuantEngine.Analytics.SmartMoney
import QuantEngine.Library.Chains

set_option autoImplicit false

namespace QuantEngine.Analytics

-- At most `tolerancePct` percent of the lower price apart.
def Within (tolerancePct a b : ℚ) : Prop := |a - b| ≤ min a b * tolerancePct / 100

instance (tolerancePct a b : ℚ) : Decidable (Within tolerancePct a b) := inferInstanceAs (Decidable (_ ≤ _))

def lower (a b : SwingPoint) : Prop := a.price ≤ b.price

instance : DecidableRel lower := fun a b => inferInstanceAs (Decidable (a.price ≤ b.price))

instance : Std.Total lower := ⟨fun a b => le_total a.price b.price⟩

instance : IsTrans SwingPoint lower := ⟨fun _ _ _ => le_trans⟩

def ranked (kind : SwingKind) (swings : List SwingPoint) : List SwingPoint :=
  (swings.filter (fun swing => decide (swing.kind = kind))).insertionSort lower

def joinsSwing (tolerancePct : ℚ) (last swing : SwingPoint) : Bool := joins tolerancePct last.price swing.price

-- The swings that a cluster is built from.
def swingClusters (tolerancePct : ℚ) (kind : SwingKind) (swings : List SwingPoint) : List (List SwingPoint) :=
  ((ranked kind swings).splitBy (joinsSwing tolerancePct)).filter (fun group => decide (2 ≤ group.length))

-- In `apart` a swing counts as often as it is listed.
structure Clustered (swings : List SwingPoint) (tolerancePct : ℚ) : Prop where
  built : ∀ rangeHigh rangeLow, equalLevels swings tolerancePct rangeHigh rangeLow =
    [SwingKind.high, SwingKind.low].flatMap (fun kind => (swingClusters tolerancePct kind swings).map
      (fun group => makeEqual kind rangeHigh rangeLow (group.map SwingPoint.price)))
  several : ∀ kind, ∀ group ∈ swingClusters tolerancePct kind swings, 2 ≤ group.length
  alike : ∀ kind, ∀ group ∈ swingClusters tolerancePct kind swings, ∀ swing ∈ group, swing.kind = kind
  close : ∀ kind, ∀ group ∈ swingClusters tolerancePct kind swings,
    group.Pairwise (fun a b => Within tolerancePct a.price b.price)
  apart : List.Subperm
    ([SwingKind.high, SwingKind.low].flatMap (fun kind => (swingClusters tolerancePct kind swings).flatten)) swings
  complete : ∀ swing other, List.Subperm [swing, other] swings → swing.kind = other.kind →
    Within tolerancePct swing.price other.price → ∃ group ∈ swingClusters tolerancePct swing.kind swings, swing ∈ group
  anyOrder : ∀ others, others.Perm swings → ∀ rangeHigh rangeLow,
    equalLevels others tolerancePct rangeHigh rangeLow = equalLevels swings tolerancePct rangeHigh rangeLow

-- No two swings of a kind are out of tolerance with a third between them that is
-- within tolerance of both.
def ToleranceChains (swings : List SwingPoint) (tolerancePct : ℚ) : Prop :=
  ∀ a ∈ swings, ∀ b ∈ swings, ∀ c ∈ swings, a.kind = b.kind → b.kind = c.kind → a.price ≤ b.price → b.price ≤ c.price →
    Within tolerancePct a.price b.price → Within tolerancePct b.price c.price → Within tolerancePct a.price c.price

theorem keep_eq (results : List (List ℚ)) (cluster : List ℚ) :
    keep results cluster = results ++ [cluster].filter (fun group => decide (2 ≤ group.length)) := by
  rw [keep, List.filter_singleton]
  by_cases several : 2 ≤ cluster.length
  · rw [if_pos several, decide_eq_true several]
    rfl
  · rw [if_neg several, decide_eq_false several]
    exact (List.append_nil results).symm

theorem clusters_pass (tolerancePct : ℚ) (points cluster : List ℚ) (results : List (List ℚ)) (filled : cluster ≠ [])
    (linked : cluster.IsChain (fun a b => joins tolerancePct a b = true)) :
    keep (points.foldl (addPrice tolerancePct) (results, cluster)).1
        (points.foldl (addPrice tolerancePct) (results, cluster)).2 =
      results ++ ((cluster ++ points).splitBy (joins tolerancePct)).filter (fun group => decide (2 ≤ group.length)) := by
  induction points generalizing cluster results with
  | nil =>
      rw [List.foldl_nil, List.append_nil, List.splitBy_of_isChain filled linked]
      exact keep_eq results cluster
  | cons price rest ih =>
      obtain ⟨init, last, rfl⟩ := (List.eq_nil_or_concat' cluster).resolve_left filled
      have ends : (init ++ [last]).getLast? = some last := List.getLast?_concat
      by_cases joined : joins tolerancePct last price = true
      · have step : addPrice tolerancePct (results, init ++ [last]) price = (results, init ++ [last] ++ [price]) := by
          simp only [addPrice, ends, joined, if_true]
        have longer : (init ++ [last] ++ [price]).IsChain (fun a b => joins tolerancePct a b = true) := by
          refine List.isChain_append.mpr ⟨linked, List.isChain_singleton _, fun x hx y hy => ?_⟩
          rw [ends, Option.mem_some_iff] at hx
          rw [List.head?_cons, Option.mem_some_iff] at hy
          rwa [← hx, ← hy]
        rw [List.foldl_cons, step, ih _ _ (by simp) longer, List.append_assoc _ [price], List.singleton_append]
      · have step : addPrice tolerancePct (results, init ++ [last]) price = (keep results (init ++ [last]), [price]) := by
          simp only [addPrice, ends, joined, if_false, Bool.false_eq_true]
        have cut : (init ++ [last] ++ price :: rest).splitBy (joins tolerancePct) =
            [init ++ [last]] ++ (price :: rest).splitBy (joins tolerancePct) := by
          rw [List.splitBy_append_cons rest (fun x hx => by
            rw [ends, Option.mem_some_iff] at hx
            rw [← hx]
            exact Bool.eq_false_of_not_eq_true joined), List.splitBy_of_isChain filled linked]
        rw [List.foldl_cons, step, ih _ _ (List.cons_ne_nil _ _) (List.isChain_singleton _), cut, List.filter_append, keep_eq,
          List.append_assoc, List.singleton_append]

-- The single pass splits the sorted prices where neighbours do not join.
theorem clusters_split (tolerancePct : ℚ) (points : List ℚ) :
    clusters tolerancePct points =
      (points.splitBy (joins tolerancePct)).filter (fun group => decide (2 ≤ group.length)) := by
  cases points with
  | nil => rfl
  | cons price rest => exact clusters_pass tolerancePct rest [price] [] (List.cons_ne_nil _ _) (List.isChain_singleton _)

theorem joins_iff (tolerancePct a b : ℚ) (ordered : a ≤ b) : joins tolerancePct a b = true ↔ Within tolerancePct a b := by
  rw [joins, decide_eq_true_iff, Within, min_eq_left ordered, abs_sub_comm]

theorem within_self (tolerancePct a : ℚ) (nonneg : 0 ≤ tolerancePct) (positive : 0 < a) : Within tolerancePct a a := by
  rw [Within, sub_self, abs_zero, min_self]
  exact div_nonneg (mul_nonneg positive.le nonneg) (by norm_num)

theorem within_inside (tolerancePct x u v y : ℚ) (nonneg : 0 ≤ tolerancePct) (before : x ≤ u) (between : u ≤ v)
    (after : v ≤ y) (near : Within tolerancePct x y) : Within tolerancePct u v := by
  rw [Within, min_eq_left (before.trans (between.trans after)), abs_sub_comm,
    abs_of_nonneg (sub_nonneg.mpr (before.trans (between.trans after)))] at near
  rw [Within, min_eq_left between, abs_sub_comm, abs_of_nonneg (sub_nonneg.mpr between)]
  have scaled : x * tolerancePct ≤ u * tolerancePct := mul_le_mul_of_nonneg_right before nonneg
  linarith

theorem ranked_perm (kind : SwingKind) (swings : List SwingPoint) :
    (ranked kind swings).Perm (swings.filter (fun swing => decide (swing.kind = kind))) := List.perm_insertionSort _ _

theorem ranked_sorted (kind : SwingKind) (swings : List SwingPoint) : (ranked kind swings).Pairwise lower :=
  List.pairwise_insertionSort _ _

theorem mem_ranked (kind : SwingKind) (swings : List SwingPoint) (swing : SwingPoint) :
    swing ∈ ranked kind swings ↔ swing ∈ swings ∧ swing.kind = kind := by
  rw [(ranked_perm kind swings).mem_iff, List.mem_filter, decide_eq_true_iff]

theorem points_ranked (kind : SwingKind) (swings : List SwingPoint) :
    pointsOf kind swings = (ranked kind swings).map SwingPoint.price := by
  have sorted : ((ranked kind swings).map SwingPoint.price).Pairwise (· ≤ ·) :=
    List.pairwise_map.mpr (ranked_sorted kind swings)
  refine List.Perm.eq_of_pairwise (fun a b _ _ => le_antisymm) (List.pairwise_insertionSort _ _) sorted ?_
  exact (List.perm_insertionSort _ _).trans ((ranked_perm kind swings).map SwingPoint.price).symm

theorem points_perm (kind : SwingKind) (swings others : List SwingPoint) (same : others.Perm swings) :
    pointsOf kind others = pointsOf kind swings := by
  refine List.Perm.eq_of_pairwise (fun a b _ _ => le_antisymm) (List.pairwise_insertionSort _ _)
    (List.pairwise_insertionSort _ _) ?_
  refine (List.perm_insertionSort _ _).trans (List.Perm.trans ?_ (List.perm_insertionSort _ _).symm)
  exact (same.filter _).map _

theorem points_clusters (tolerancePct : ℚ) (kind : SwingKind) (swings : List SwingPoint) :
    clusters tolerancePct (pointsOf kind swings) =
      (swingClusters tolerancePct kind swings).map (List.map SwingPoint.price) := by
  rw [clusters_split, points_ranked, Chains.split_map, List.filter_map, swingClusters]
  congr 1
  refine List.filter_congr (fun group _ => ?_)
  rw [Function.comp_apply, List.length_map]

theorem cluster_ranked (tolerancePct : ℚ) (kind : SwingKind) (swings group : List SwingPoint)
    (member : group ∈ swingClusters tolerancePct kind swings) :
    group ∈ (ranked kind swings).splitBy (joinsSwing tolerancePct) ∧ 2 ≤ group.length ∧
      List.Sublist group (ranked kind swings) := by
  obtain ⟨there, several⟩ := List.mem_filter.mp member
  refine ⟨there, of_decide_eq_true several, ?_⟩
  have within := List.sublist_flatten_of_mem there
  rwa [List.flatten_splitBy] at within

section

variable (swings : List SwingPoint) (tolerancePct : ℚ) (positive : ∀ swing ∈ swings, 0 < swing.price)
  (nonneg : 0 ≤ tolerancePct)

include nonneg

-- Around a gap nothing is within tolerance.
theorem gap_apart (kind : SwingKind) (x y : SwingPoint)
    (gap : Chains.Gap (joinsSwing tolerancePct) lower (ranked kind swings) x y) : ¬ Within tolerancePct x.price y.price := by
  obtain ⟨u, v, apart, before, between, after, -⟩ := gap
  intro near
  have closer := within_inside tolerancePct _ _ _ _ nonneg before between after near
  rw [joinsSwing, (joins_iff tolerancePct _ _ between).mpr closer] at apart
  cases apart

theorem paired_together (kind : SwingKind) (x y : SwingPoint) (places : List.Sublist [x, y] (ranked kind swings))
    (near : Within tolerancePct x.price y.price) :
    ∃ group ∈ swingClusters tolerancePct kind swings, x ∈ group ∧ y ∈ group := by
  have shared := List.pairwise_iff_forall_sublist.mp
    (Chains.together (joinsSwing tolerancePct) lower (fun a => le_refl a.price) _ (ranked_sorted kind swings)) places
  obtain ⟨group, member, pair⟩ := shared (fun gap => gap_apart swings tolerancePct nonneg kind x y gap near)
  have several : 2 ≤ group.length := pair.length_le
  exact ⟨group, List.mem_filter.mpr ⟨member, decide_eq_true several⟩, pair.subset (by simp), pair.subset (by simp)⟩

theorem in_some_cluster (swing other : SwingPoint) (places : List.Subperm [swing, other] swings)
    (kinds : swing.kind = other.kind) (near : Within tolerancePct swing.price other.price) :
    ∃ group ∈ swingClusters tolerancePct swing.kind swings, swing ∈ group := by
  have filtered := places.filter (fun other => decide (other.kind = swing.kind))
  have both : [swing, other].filter (fun other => decide (other.kind = swing.kind)) = [swing, other] := by
    simp [kinds]
  rw [both, ← (ranked_perm swing.kind swings).subperm_left] at filtered
  obtain ⟨pair, same, within⟩ := filtered
  rcases List.perm_pair.mp same with rfl | rfl
  · obtain ⟨group, member, here, -⟩ := paired_together swings tolerancePct nonneg swing.kind swing other within near
    exact ⟨group, member, here⟩
  · have near : Within tolerancePct other.price swing.price := by
      rwa [Within, abs_sub_comm, min_comm]
    obtain ⟨group, member, -, here⟩ := paired_together swings tolerancePct nonneg swing.kind other swing within near
    exact ⟨group, member, here⟩

include positive

theorem chains_of_close (close : ∀ kind, ∀ group ∈ swingClusters tolerancePct kind swings,
    group.Pairwise (fun a b => Within tolerancePct a.price b.price)) : ToleranceChains swings tolerancePct := by
  intro a ha b hb c hc first second up on ab bc
  have ordered := up.trans on
  rcases ordered.eq_or_lt with level | less
  · rw [← level]
    exact within_self tolerancePct _ nonneg (positive a ha)
  · have member : a ∈ ranked c.kind swings := (mem_ranked _ _ _).mpr ⟨ha, first.trans second⟩
    have member' : c ∈ ranked c.kind swings := (mem_ranked _ _ _).mpr ⟨hc, rfl⟩
    have between : b ∈ ranked c.kind swings := (mem_ranked _ _ _).mpr ⟨hb, second⟩
    have places := Chains.ordered_pair lower (fun a => le_refl a.price) _ (ranked_sorted c.kind swings) a c member member'
      (not_le.mpr less)
    have shared := List.pairwise_iff_forall_sublist.mp
      (Chains.together (joinsSwing tolerancePct) lower (fun a => le_refl a.price) _ (ranked_sorted c.kind swings)) places
    by_cases gap : Chains.Gap (joinsSwing tolerancePct) lower (ranked c.kind swings) a c
    · -- The gap has `b` on one side, so it parts `b` from `a` or from `c`.
      obtain ⟨u, v, apart, before, middle, after, sides⟩ := gap
      have parted : ¬ Within tolerancePct u.price v.price := by
        intro near
        rw [joinsSwing, (joins_iff tolerancePct _ _ middle).mpr near] at apart
        cases apart
      rcases sides b between with low | high
      · exact absurd (within_inside tolerancePct _ _ _ _ nonneg low middle after bc) parted
      · exact absurd (within_inside tolerancePct _ _ _ _ nonneg before middle high ab) parted
    · obtain ⟨group, there, pair⟩ := shared gap
      have kept : group ∈ swingClusters tolerancePct c.kind swings :=
        List.mem_filter.mpr ⟨there, decide_eq_true pair.length_le⟩
      exact List.pairwise_iff_forall_sublist.mp (close c.kind group kept) pair

omit positive nonneg in
theorem close_of_chains (chains : ToleranceChains swings tolerancePct) (kind : SwingKind) (group : List SwingPoint)
    (member : group ∈ swingClusters tolerancePct kind swings) :
    group.Pairwise (fun a b => Within tolerancePct a.price b.price) := by
  obtain ⟨there, -, within⟩ := cluster_ranked tolerancePct kind swings group member
  have ordered := (ranked_sorted kind swings).sublist within
  have listed (swing : SwingPoint) (inside : swing ∈ group) := (mem_ranked kind swings swing).mp (within.subset inside)
  have near := Chains.near_in_group (joinsSwing tolerancePct) lower _ group there ordered (fun a ha b hb c hc up on ab bc => ?_)
  · exact List.Pairwise.imp₂ (fun a b joined below => (joins_iff tolerancePct _ _ below).mp joined) near ordered
  · refine (joins_iff tolerancePct _ _ (le_trans up on)).mpr ?_
    exact chains a (listed a ha).1 b (listed b hb).1 c (listed c hc).1 ((listed a ha).2.trans (listed b hb).2.symm)
      ((listed b hb).2.trans (listed c hc).2.symm) up on ((joins_iff tolerancePct _ _ up).mp ab)
      ((joins_iff tolerancePct _ _ on).mp bc)

omit positive nonneg in
theorem clusters_part (kind : SwingKind) : List.Subperm (swingClusters tolerancePct kind swings).flatten
    (swings.filter (fun swing => decide (swing.kind = kind))) := by
  have within : List.Sublist (swingClusters tolerancePct kind swings).flatten (ranked kind swings) := by
    have kept := (List.filter_sublist (p := fun group => decide (2 ≤ group.length))
      (l := (ranked kind swings).splitBy (joinsSwing tolerancePct))).flatten
    rwa [List.flatten_splitBy] at kept
  exact within.subperm.trans (ranked_perm kind swings).subperm

theorem equal_levels_iff : Clustered swings tolerancePct ↔ ToleranceChains swings tolerancePct := by
  refine ⟨fun clustered => chains_of_close swings tolerancePct positive nonneg clustered.close, fun chains => ?_⟩
  refine ⟨fun rangeHigh rangeLow => ?_, fun kind group member => ?_, fun kind group member swing inside => ?_,
    close_of_chains swings tolerancePct chains, ?_, in_some_cluster swings tolerancePct nonneg,
    fun others same rangeHigh rangeLow => ?_⟩
  · refine List.flatMap_congr (fun kind _ => ?_)
    rw [points_clusters, List.map_map]
    rfl
  · exact (cluster_ranked tolerancePct kind swings group member).2.1
  · have within := (cluster_ranked tolerancePct kind swings group member).2.2
    exact ((mem_ranked kind swings swing).mp (within.subset inside)).2
  · have parts := List.Subperm.append (clusters_part swings tolerancePct .high) (clusters_part swings tolerancePct .low)
    have others : swings.filter (fun swing => decide (swing.kind = .low)) =
        swings.filter (fun swing => !decide (swing.kind = .high)) := by
      refine List.filter_congr (fun swing _ => ?_)
      cases swing.kind with
      | high => rfl
      | low => rfl
    rw [others] at parts
    have all := parts.trans (List.filter_append_perm _ swings).subperm
    simpa using all
  · refine List.flatMap_congr (fun kind _ => ?_)
    rw [points_perm kind swings others same]

end

def swingHigh (index : Nat) (price : ℚ) : SwingPoint := ⟨index, price, .high, index * 60000000, ""⟩

theorem equal_levels_iff_twin : Clustered [swingHigh 3 100, swingHigh 9 (10004 / 100)] (5 / 100) :=
  (equal_levels_iff [swingHigh 3 100, swingHigh 9 (10004 / 100)] (5 / 100) (by decide +kernel) (by norm_num)).mpr (by
    rw [ToleranceChains]
    decide +kernel)

-- Three highs, each 0.04 % above the one before: the outer two are out of
-- tolerance.
theorem chained_highs_cluster :
    ¬ Clustered [swingHigh 3 100, swingHigh 9 (10004 / 100), swingHigh 15 (10008 / 100)] (5 / 100) := by
  intro clustered
  have group : [swingHigh 3 100, swingHigh 9 (10004 / 100), swingHigh 15 (10008 / 100)] ∈
      swingClusters (5 / 100) .high [swingHigh 3 100, swingHigh 9 (10004 / 100), swingHigh 15 (10008 / 100)] := by
    decide +kernel
  have close := clustered.close .high _ group
  revert close
  decide +kernel

end QuantEngine.Analytics
