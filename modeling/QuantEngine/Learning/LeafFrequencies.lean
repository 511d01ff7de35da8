import QuantEngine.Learning.TreeTraining
import QuantEngine.Library.Fallible
import QuantEngine.Library.PartitionTrees
import Mathlib.Data.List.GetD
import Mathlib.Algebra.BigOperators.Ring.Finset

set_option autoImplicit false

namespace QuantEngine.Learning.DecisionTreeModel

open Program

-- Rows of one width, each with a label 0 or 1.
structure Labelled (data : TrainingSet) (width : Nat) : Prop where
  rows : ∀ row ∈ data.x, row.length = width
  labels : data.y.length = data.x.length
  binary : ∀ label ∈ data.y, label = 0 ∨ label = 1

def Inside (data : TrainingSet) (indices : List Nat) : Prop := ∀ i ∈ indices, i < data.x.length

variable (data : TrainingSet) (width : Nat) (labelled : Labelled data width)

def cell (feature i : Nat) : ℚ := (data.x.getD i []).getD feature 0

def label (i : Nat) : Int := data.y.getD i 0

def weight (i : Nat) : ℚ := (label data i : ℚ)

theorem item_at_ok {α : Type} (items : List α) (place : Nat) (default : α) (inside : place < items.length) :
    itemAt items place = .ok (items.getD place default) := by
  rw [itemAt, List.getElem?_eq_getElem inside, List.getD_eq_getElem _ _ inside]

include labelled in
theorem row_width (i : Nat) (inside : i < data.x.length) : (data.x.getD i []).length = width := by
  rw [List.getD_eq_getElem _ _ inside]
  exact labelled.rows _ (List.getElem_mem inside)

include labelled in
theorem column_ok (feature : Nat) (indices : List Nat) (known : feature < width) (inside : Inside data indices) :
    column data feature indices = .ok (indices.map (cell data feature)) := by
  refine Fallible.map_ok _ (cell data feature) indices (fun i member => ?_)
  have row := row_width data width labelled i (inside i member)
  rw [item_at_ok data.x i [] (inside i member)]
  exact item_at_ok _ feature 0 (by rw [row]; exact known)

include labelled in
theorem positives_ok (indices : List Nat) (inside : Inside data indices) :
    positivesOf data indices = .ok (indices.map (label data)).sum := by
  have labels := Fallible.map_ok (itemAt data.y) (label data) indices (fun i member =>
    item_at_ok data.y i 0 (by rw [labelled.labels]; exact inside i member))
  rw [positivesOf, labels]
  rfl

theorem weights_cast (indices : List Nat) : (((indices.map (label data)).sum : Int) : ℚ) = (indices.map (weight data)).sum := by
  rw [Int.cast_list_sum, List.map_map]
  rfl

def lower (feature : Nat) (threshold : ℚ) (i : Nat) : Bool := decide (cell data feature i ≤ threshold)

-- What is known of a chosen split of some indices.
structure Proper (indices : List Nat) (split : Split) : Prop where
  known : split.feature < width
  left : split.left = indices.filter (lower data split.feature split.threshold)
  right : split.right = indices.filter (fun i => !lower data split.feature split.threshold i)
  lefts : split.left ≠ []
  rights : split.right ≠ []
  gain : 0 < split.gain

def ProperBest (indices : List Nat) (best : Option Split) : Prop := ∀ split, best = some split → Proper data width indices split

theorem best_score_nonneg (indices : List Nat) (best : Option Split) (proper : ProperBest data width indices best) :
    0 ≤ bestScore best := by
  cases best with
  | none => exact le_refl _
  | some split => exact (proper split rfl).gain.le

theorem zip_column (indices : List Nat) (value : Nat → ℚ) (keep : ℚ → Bool) :
    ((indices.zip (indices.map value)).filter (fun entry => keep entry.2)).map Prod.fst = indices.filter (fun i => keep (value i)) := by
  induction indices with
  | nil => rfl
  | cons first rest ih =>
      cases kept : keep (value first) with
      | true => simp [kept, ih]
      | false => simp [kept, ih]

include labelled in
theorem weighted_ok (left right : List Nat) (total : Nat) (lefts : Inside data left) (rights : Inside data right) :
    ∃ child, weightedImpurity data left right total = .ok child := by
  rw [weightedImpurity, impurityOf, impurityOf, positives_ok data width labelled left lefts,
    positives_ok data width labelled right rights]
  exact ⟨_, rfl⟩

include labelled in
theorem consider_ok (indices : List Nat) (impurity : ℚ) (feature : Nat) (threshold : ℚ) (best : Option Split)
    (known : feature < width) (inside : Inside data indices) (proper : ProperBest data width indices best) :
    ∃ next, consider data indices impurity feature (indices.map (cell data feature)) best threshold = .ok next ∧
      ProperBest data width indices next := by
  have lefts : ((indices.zip (indices.map (cell data feature))).filter (fun entry => decide (entry.2 ≤ threshold))).map Prod.fst =
      indices.filter (lower data feature threshold) := zip_column indices (cell data feature) (fun value => decide (value ≤ threshold))
  have rights : ((indices.zip (indices.map (cell data feature))).filter (fun entry => decide (threshold < entry.2))).map Prod.fst =
      indices.filter (fun i => !lower data feature threshold i) := by
    rw [zip_column indices (cell data feature) (fun value => decide (threshold < value))]
    refine List.filter_congr (fun i _ => ?_)
    simp [lower, ← not_le]
  obtain ⟨child, weighted⟩ := weighted_ok data width labelled (indices.filter (lower data feature threshold))
    (indices.filter (fun i => !lower data feature threshold i)) indices.length
    (fun i member => inside i (List.mem_of_mem_filter member)) (fun i member => inside i (List.mem_of_mem_filter member))
  rw [consider, lefts, rights]
  by_cases empty : indices.filter (lower data feature threshold) = [] ∨ indices.filter (fun i => !lower data feature threshold i) = []
  · exact ⟨best, if_pos empty, proper⟩
  · simp only [if_neg empty, weighted]
    by_cases better : bestScore best + 1 / 10 ^ 12 < impurity - child
    · refine ⟨_, if_pos better, fun split chosen => ?_⟩
      obtain rfl := Option.some.inj chosen
      have some_ := not_or.mp empty
      have score := best_score_nonneg data width indices best proper
      exact ⟨known, rfl, rfl, some_.1, some_.2, by norm_num at better ⊢; linarith⟩
    · exact ⟨best, if_neg better, proper⟩

variable {Q A σ τ : Type} (model : DecisionTreeModel ℚ)

theorem thresholds_yields (values : List ℚ) : (thresholds model values : Program Q A _).Yields (fun _ => True) := by
  rw [thresholds]
  split
  · exact yields_pure _ _ trivial
  · split
    · exact yields_bind _ _ (fun _ => True) _ (fun _ _ => ⟨rfl, trivial⟩) (fun _ _ => yields_pure _ _ trivial)
    · exact yields_pure _ _ trivial

include labelled in
theorem search_yields (indices : List Nat) (impurity : ℚ) (features : List Nat) (best : Option Split)
    (known : ∀ feature ∈ features, feature < width) (inside : Inside data indices) (proper : ProperBest data width indices best) :
    (searchFeatures model data indices impurity features best : Program Q A _).Yields (ProperBest data width indices) := by
  induction features generalizing best with
  | nil => exact yields_pure _ _ proper
  | cons feature rest ih =>
      have here := known feature List.mem_cons_self
      refine yields_bind _ _ (fun values => values = indices.map (cell data feature)) _
        (yields_of_except _ _ _ (column_ok data width labelled feature indices here inside) rfl) (fun values same => ?_)
      subst same
      refine yields_bind _ _ (fun _ => True) _ (thresholds_yields model _) (fun candidates _ => ?_)
      obtain ⟨next, folded, now⟩ := Fallible.fold_ok (consider data indices impurity feature (indices.map (cell data feature)))
        (ProperBest data width indices) candidates
        (fun held threshold _ => consider_ok data width labelled indices impurity feature threshold held here inside) best proper
      refine yields_bind _ _ (ProperBest data width indices) _ (yields_of_except _ _ _ folded now) (fun found good => ?_)
      exact ih found (fun other member => known other (List.mem_cons_of_mem _ member)) good

-- The tests of the tree on the training rows.
def shape : TreeNode ℚ → PartitionTree Nat ℚ
  | .leaf value => .leaf value
  | .split _ feature threshold left right => .node (lower data feature.toNat threshold) (shape left) (shape right)

def Known : TreeNode ℚ → Prop
  | .leaf _ => True
  | .split _ feature _ left right => 0 ≤ feature ∧ feature.toNat < width ∧ Known left ∧ Known right

theorem indexed_ok (row : List ℚ) (feature : Int) (low : 0 ≤ feature) (high : feature.toNat < row.length) :
    indexed row feature = .ok (row.getD feature.toNat 0) := by
  have inside : ¬ feature < -(row.length : Int) := by omega
  rw [indexed, if_neg (not_lt.mpr low), List.getElem?_eq_getElem high, List.getD_eq_getElem _ _ high]
  exact if_neg inside

include labelled in
-- A training row goes down the tree by the tests that parted the rows.
theorem route_ok (tree : TreeNode ℚ) (known : Known width tree) (i : Nat) (inside : i < data.x.length) :
    tree.route (data.x.getD i []) = .ok ((shape data tree).leafOf i, (shape data tree).eval i) := by
  induction tree with
  | leaf value => rfl
  | split value feature threshold left right leftIh rightIh =>
      obtain ⟨low, high, lefts, rights⟩ := known
      have row := row_width data width labelled i inside
      rw [TreeNode.route, indexed_ok _ feature low (by rw [row]; exact high), shape, PartitionTree.leafOf, PartitionTree.eval]
      change (if cell data feature.toNat i ≤ threshold then _ else _) = _
      by_cases down : cell data feature.toNat i ≤ threshold
      · have goes : lower data feature.toNat threshold i = true := decide_eq_true down
        rw [if_pos down, leftIh lefts, if_pos goes, if_pos goes]
        rfl
      · have goes : ¬ lower data feature.toNat threshold i = true := by simpa [lower] using down
        rw [if_neg down, rightIh rights, if_neg goes, if_neg goes]
        rfl

include labelled in
-- What `build` returns for some indices.
structure Grown (room : Nat) (indices : List Nat) (before : List ℚ) (grown : TreeNode ℚ × List ℚ) : Prop where
  fits : PartitionTree.Fits (weight data) indices (shape data grown.1)
  known : Known width grown.1
  depth : grown.1.depth ≤ room
  length : grown.2.length = before.length
  nonneg : ∀ importance ∈ grown.2, 0 ≤ importance
  more : before.sum ≤ grown.2.sum
  split : grown.1.isLeaf = false → before.sum < grown.2.sum

theorem modify_sum (importances : List ℚ) (place : Nat) (extra : ℚ) (inside : place < importances.length) :
    (importances.modify place (fun held => held + extra)).sum = importances.sum + extra := by
  induction importances generalizing place with
  | nil => exact absurd inside (Nat.not_lt_zero _)
  | cons first rest ih =>
      cases place with
      | zero => simp [add_right_comm]
      | succ place => simp [ih place (Nat.lt_of_succ_lt_succ inside), add_assoc]

theorem modify_nonneg (importances : List ℚ) (place : Nat) (extra : ℚ) (more : 0 ≤ extra)
    (nonneg : ∀ importance ∈ importances, 0 ≤ importance) :
    ∀ importance ∈ importances.modify place (fun held => held + extra), 0 ≤ importance := by
  induction importances generalizing place with
  | nil => simp
  | cons first rest ih =>
      obtain ⟨here, later⟩ := List.forall_mem_cons.mp nonneg
      cases place with
      | zero => exact List.forall_mem_cons.mpr ⟨add_nonneg here more, later⟩
      | succ place => exact List.forall_mem_cons.mpr ⟨here, ih place later⟩

theorem grown_leaf (room : Nat) (indices : List Nat) (before : List ℚ) (some_ : indices ≠ [])
    (nonneg : ∀ importance ∈ before, 0 ≤ importance) :
    Grown data width room indices before (.leaf (PartitionTree.mean (weight data) indices), before) where
  fits := .leaf indices some_
  known := trivial
  depth := Nat.zero_le _
  length := rfl
  nonneg := nonneg
  more := le_refl _
  split := fun inner => nomatch inner

theorem split_gains (indices : List Nat) (before : List ℚ) (split : Split) (proper : Proper data width indices split)
    (long : before.length = width) :
    0 < indices.length * split.gain ∧
      before.sum < (before.modify split.feature (fun held => held + indices.length * split.gain)).sum := by
  have some_ : 0 < indices.length := by
    refine List.length_pos_of_ne_nil (fun none => proper.lefts ?_)
    rw [proper.left, none, List.filter_nil]
  have extra : 0 < indices.length * split.gain := mul_pos (by exact_mod_cast some_) proper.gain
  rw [modify_sum before split.feature _ (by rw [long]; exact proper.known)]
  exact ⟨extra, lt_add_of_pos_right _ extra⟩

theorem grown_split (room : Nat) (indices : List Nat) (before : List ℚ) (value : ℚ) (split : Split)
    (left right : TreeNode ℚ × List ℚ) (proper : Proper data width indices split) (long : before.length = width)
    (lefts : Grown data width room split.left (before.modify split.feature (fun held => held + indices.length * split.gain)) left)
    (rights : Grown data width room split.right left.2 right) :
    Grown data width (room + 1) indices before (.split value split.feature split.threshold left.1 right.1, right.2) where
  fits := by
    refine .node indices _ _ _ ?_ ?_
    · have parted := lefts.fits
      rwa [proper.left] at parted
    · have parted := rights.fits
      rwa [proper.right] at parted
  known := ⟨Int.natCast_nonneg _, proper.known, lefts.known, rights.known⟩
  depth := Nat.succ_le_succ (max_le lefts.depth rights.depth)
  length := by rw [rights.length, lefts.length, List.length_modify]
  nonneg := rights.nonneg
  more := (split_gains data width indices before split proper long).2.le.trans (lefts.more.trans rights.more)
  split := fun _ => (split_gains data width indices before split proper long).2.trans_le (lefts.more.trans rights.more)

theorem node_value (indices : List Nat) (some_ : indices ≠ []) :
    (if indices.length = 0 then 0 else (((indices.map (label data)).sum : Int) : ℚ) / indices.length) =
      PartitionTree.mean (weight data) indices := by
  rw [if_neg (fun none => some_ (List.eq_nil_of_length_eq_zero none)), weights_cast, PartitionTree.mean]

include labelled in
theorem best_split_yields (features : (candidateFeatures model : Program Q A _).Yields (fun chosen => ∀ feature ∈ chosen, feature < width))
    (indices : List Nat) (impurity : ℚ) (inside : Inside data indices) :
    (bestSplit model data indices impurity : Program Q A _).Yields (ProperBest data width indices) :=
  yields_bind _ _ _ _ features (fun _ known =>
    search_yields data width labelled model indices impurity _ none known inside (fun _ none => nomatch none))

include labelled in
theorem build_yields (features : (candidateFeatures model : Program Q A _).Yields (fun chosen => ∀ feature ∈ chosen, feature < width))
    (room : Nat) (before : List ℚ) (indices : List Nat) (depth : Int) (left : (model.maxDepth - depth).toNat = room)
    (some_ : indices ≠ []) (inside : Inside data indices) (long : before.length = width)
    (nonneg : ∀ importance ∈ before, 0 ≤ importance) :
    (build model data before indices depth : Program Q A _).Yields (Grown data width room indices before) := by
  induction room generalizing before indices depth with
  | zero =>
      rw [build]
      refine yields_bind _ _ _ _ (yields_of_except _ _ _ (positives_ok data width labelled indices inside) rfl) (fun positives same => ?_)
      subst same
      rw [dif_pos (Or.inl (by omega)), node_value data indices some_]
      exact yields_pure _ _ (grown_leaf data width 0 indices before some_ nonneg)
  | succ room ih =>
      have leaf := grown_leaf data width (room + 1) indices before some_ nonneg
      rw [build]
      refine yields_bind _ _ _ _ (yields_of_except _ _ _ (positives_ok data width labelled indices inside) rfl) (fun positives same => ?_)
      subst same
      rw [node_value data indices some_]
      dsimp only
      split
      · exact yields_pure _ _ leaf
      · refine yields_bind _ _ _ _ (best_split_yields data width labelled model features indices _ inside) (fun found proper => ?_)
        cases found with
        | none => exact yields_pure _ _ leaf
        | some split =>
            have known := proper split rfl
            have extra := (split_gains data width indices before split known long).1
            have lefts : Inside data split.left := fun i member => inside i (List.mem_of_mem_filter (by rwa [known.left] at member))
            have rights : Inside data split.right := fun i member => inside i (List.mem_of_mem_filter (by rwa [known.right] at member))
            refine yields_bind _ _ _ _ (ih _ split.left (depth + 1) (by omega) known.lefts lefts (by rw [List.length_modify, long])
              (modify_nonneg before _ _ extra.le nonneg)) (fun first grown => ?_)
            refine yields_bind _ _ _ _ (ih first.2 split.right (depth + 1) (by omega) known.rights rights
              (by rw [grown.length, List.length_modify, long]) grown.nonneg) (fun second more => ?_)
            exact yields_pure _ _ (grown_split data width room indices before _ split first second known long grown more)

-- With a column to choose from, or with all of them taken, the candidates are columns.
theorem candidates_yields (columns : model.nFeatures = width) (some_ : 0 < width ∨ 1 ≤ model.maxFeatures) :
    (candidateFeatures model : Program Q A _).Yields (fun chosen => ∀ feature ∈ chosen, feature < width) := by
  have count : model.nFeatures.toNat = width := by omega
  rw [candidateFeatures]
  simp only [count]
  split
  · exact yields_pure _ _ (fun feature member => List.mem_range.mp member)
  · rename_i fewer
    have positive : 0 < width := some_.resolve_right fewer
    have share : model.maxFeatures * width ≤ ((width : Int) : ℚ) := by
      have most := mul_le_mul_of_nonneg_right (not_le.mp fewer).le (Nat.cast_nonneg (α := ℚ) width)
      simpa using most
    have rounded := Decimal.round_mono _ _ share
    rw [Decimal.round_int] at rounded
    have enough : (max 1 (Decimal.roundHalfEven (model.maxFeatures * width))).toNat ≤ (List.range width).length := by
      rw [List.length_range]
      omega
    refine yields_mono _ _ _ (fun chosen found feature member => ?_) (Random.yields_sample (List.range width) _ enough)
    exact List.mem_range.mp (found.2.subset member)

-- The leaf that a row comes to.
def leafOf (root : TreeNode ℚ) (row : List ℚ) : List Bool :=
  match root.route row with
  | .ok found => found.1
  | .error _ => []

def sameLeaf (root : TreeNode ℚ) (x : List (List ℚ)) (i : Nat) : List Nat :=
  (List.range x.length).filter (fun j => decide (leafOf root (x.getD j []) = leafOf root (x.getD i [])))

def shareOfPositives (y : List Int) (places : List Nat) : ℚ :=
  (places.countP (fun i => decide (y.getD i 0 = 1)) : ℚ) / places.length

include labelled in
theorem label_binary (i : Nat) : label data i = 0 ∨ label data i = 1 := by
  by_cases inside : i < data.y.length
  · rw [label, List.getD_eq_getElem _ _ inside]
    exact labelled.binary _ (List.getElem_mem inside)
  · rw [label, List.getD_eq_default _ _ (not_lt.mp inside)]
    exact Or.inl rfl

include labelled in
theorem mean_share (places : List Nat) : PartitionTree.mean (weight data) places = shareOfPositives data.y places := by
  rw [PartitionTree.mean, shareOfPositives]
  congr 1
  induction places with
  | nil => rfl
  | cons i rest ih =>
      have binary := label_binary data width labelled i
      rw [List.map_cons, List.sum_cons, ih, List.countP_cons, weight]
      rcases binary with zero | one
      · have other : ¬ data.y.getD i 0 = 1 := fun one => zero_ne_one (zero.symm.trans one)
        rw [zero, if_neg (by simpa only [decide_eq_true_eq] using other)]
        simp
      · have same : data.y.getD i 0 = 1 := one
        rw [one, if_pos (by simpa only [decide_eq_true_eq] using same)]
        simp [add_comm]

include labelled in
theorem predict_ok (fitted : DecisionTreeModel ℚ) (root : TreeNode ℚ) (held : fitted.root = some root) (ready : fitted.fitted = true)
    (known : Known width root) : predictProba fitted data.x = .ok ((List.range data.x.length).map (shape data root).eval) := by
  have rows : data.x = (List.range data.x.length).map (fun i => data.x.getD i []) := by
    refine List.ext_getElem (by simp) (fun i first second => ?_)
    rw [List.getElem_map, List.getElem_range, List.getD_eq_getElem _ _ first]
  have each_ := Fallible.map_ok (fun i => do
    let found ← root.route (data.x.getD i [])
    pure found.2 : Nat → Except PyError ℚ) (shape data root).eval (List.range data.x.length) (fun i member => by
      rw [route_ok data width labelled root known i (List.mem_range.mp member)]
      rfl)
  rw [predictProba, ensureFitted, held]
  simp only [ready, if_true]
  conv_lhs => rw [rows]
  rw [← each_]
  exact List.mapM_map

include labelled in
theorem together_same (root : TreeNode ℚ) (known : Known width root) (i : Nat) (inside : i < data.x.length) :
    PartitionTree.together (shape data root) (List.range data.x.length) i = sameLeaf root data.x i := by
  have leaf : ∀ j < data.x.length, leafOf root (data.x.getD j []) = (shape data root).leafOf j := by
    intro j member
    rw [leafOf, route_ok data width labelled root known j member]
  refine List.filter_congr (fun j member => ?_)
  rw [leaf j (List.mem_range.mp member), leaf i inside]

theorem normalize_nonneg (values : List ℚ) (nonneg : ∀ value ∈ values, 0 ≤ value) : ∀ value ∈ Numeric.normalize values, 0 ≤ value := by
  rw [Numeric.normalize]
  split
  · intro value member
    obtain ⟨_, _, rfl⟩ := List.mem_map.mp member
    positivity
  · rename_i positive
    intro value member
    obtain ⟨held, there, rfl⟩ := List.mem_map.mp member
    exact div_nonneg (nonneg held there) (not_le.mp positive).le

theorem normalize_sum (values : List ℚ) (positive : 0 < values.sum) : (Numeric.normalize values).sum = 1 := by
  rw [Numeric.normalize, if_neg (not_le.mpr positive)]
  simp only [div_eq_mul_inv]
  rw [List.sum_map_mul_right, List.map_id', mul_inv_cancel₀ positive.ne']

theorem normalize_nil (values : List ℚ) (none : Numeric.normalize values = []) : values = [] := by
  rw [Numeric.normalize] at none
  split at none
  · exact List.map_eq_nil_iff.mp none
  · exact List.map_eq_nil_iff.mp none

-- For each training row, the share of positives among those that come to the same leaf.
def frequencies (root : TreeNode ℚ) : List ℚ :=
  (List.range data.x.length).map (fun i => shareOfPositives data.y (sameLeaf root data.x i))

-- What is said of a tree that was trained on some rows.
structure Trained (model fitted : DecisionTreeModel ℚ) (root : TreeNode ℚ) : Prop where
  held : fitted.root = some root
  predicted : predictProba fitted data.x = .ok (frequencies data root)
  mean : (frequencies data root).sum / data.x.length = shareOfPositives data.y (List.range data.x.length)
  depth : (root.depth : Int) ≤ model.maxDepth
  importances : ∃ importances, featureImportances fitted = .ok importances ∧ (∀ importance ∈ importances, 0 ≤ importance) ∧
    (root.isLeaf = false → importances.sum = 1)

include labelled in
theorem evals_frequencies (root : TreeNode ℚ) (known : Known width root)
    (fits : PartitionTree.Fits (weight data) (List.range data.x.length) (shape data root)) :
    (List.range data.x.length).map (shape data root).eval = frequencies data root := by
  refine List.map_congr_left (fun i member => ?_)
  rw [PartitionTree.eval_mean _ _ _ fits, together_same data width labelled root known i (List.mem_range.mp member),
    mean_share data width labelled]

include labelled in
theorem grown_trained (room : Nat) (before : List ℚ) (grown : TreeNode ℚ × List ℚ) (start : before.sum = 0)
    (deep : (room : Int) ≤ model.maxDepth) (result : Grown data width room (List.range data.x.length) before grown)
    (fitted : DecisionTreeModel ℚ) (root : fitted.root = some grown.1) (ready : fitted.fitted = true)
    (importances : fitted.importances = Numeric.normalize grown.2) : Trained data model fitted grown.1 where
  held := root
  predicted := by
    rw [predict_ok data width labelled fitted grown.1 root ready result.known,
      evals_frequencies data width labelled grown.1 result.known result.fits]
  mean := by
    have total := PartitionTree.sum_eval (weight data) (List.range data.x.length) _ result.fits
    rw [← evals_frequencies data width labelled grown.1 result.known result.fits, total, ← mean_share data width labelled,
      PartitionTree.mean, List.length_range]
  depth := le_trans (by exact_mod_cast result.depth) deep
  importances := by
    have kept := normalize_nonneg grown.2 result.nonneg
    rw [featureImportances, ensureFitted, root]
    simp only [ready, if_true, importances]
    by_cases none : Numeric.normalize grown.2 = []
    · refine ⟨List.replicate fitted.nFeatures.toNat (1 / (fitted.nFeatures : ℚ)), ?_, ?_, fun inner => ?_⟩
      · rw [if_neg (not_not.mpr none)]
        rfl
      · intro importance member
        obtain ⟨some_, rfl⟩ := List.mem_replicate.mp member
        have positive : 0 ≤ fitted.nFeatures := by omega
        exact one_div_nonneg.mpr (by exact_mod_cast positive)
      · have more := result.split inner
        rw [normalize_nil grown.2 none, start] at more
        exact absurd more (lt_irrefl _)
    · refine ⟨Numeric.normalize grown.2, ?_, kept, fun inner => normalize_sum grown.2 ?_⟩
      · rw [if_pos none]
        rfl
      · rw [← start]
        exact result.split inner

-- Whatever is drawn, a tree predicts the share of positives of each of its leaves.
theorem fit_frequencies (x : List (List ℚ)) (y : List Int) (width : Nat) (some_ : x ≠ []) (labelled : Labelled ⟨x, y⟩ width)
    (columns : 0 < width ∨ 1 ≤ model.maxFeatures) (deep : 0 ≤ model.maxDepth) (dice : Dice σ) (oracle : τ → Q → A × τ) (s : σ) (t : τ) :
    ∃ fitted root, ((fit model x y).run dice oracle s t).result = .ok fitted ∧ Trained ⟨x, y⟩ model fitted root := by
  have first : (x.head?.map List.length).getD 0 = width := by
    obtain ⟨row, rest, rfl⟩ := List.exists_cons_of_ne_nil some_
    exact labelled.rows row List.mem_cons_self
  have start : (List.replicate width (0 : ℚ)).sum = 0 := by simp
  have features := candidates_yields (Q := Q) (A := A) width
    { model with nFeatures := width, importances := List.replicate width 0 } rfl columns
  have built := build_yields ⟨x, y⟩ width labelled { model with nFeatures := width, importances := List.replicate width 0 } features
    model.maxDepth.toNat (List.replicate width 0) (List.range x.length) 0 (by simp) (by simpa using some_)
    (fun i member => List.mem_range.mp member) (List.length_replicate) (fun importance member => (List.eq_of_mem_replicate member).ge)
  have trains : (fit model x y : Program Q A _).Yields (fun fitted => ∃ root, Trained ⟨x, y⟩ model fitted root) := by
    rw [fit, first]
    simp only [if_neg some_]
    refine yields_bind _ _ _ _ built (fun grown result => yields_pure _ _ ⟨grown.1, ?_⟩)
    exact grown_trained ⟨x, y⟩ width labelled model model.maxDepth.toNat _ grown start (by omega) result _ rfl rfl rfl
  obtain ⟨fitted, ran, _, root, trained⟩ := run_ensures dice oracle _ _ [] (trains []) s t
  exact ⟨fitted, root, ran, trained⟩

theorem fit_frequencies_pair :
    ∃ fitted root, ((fit ⟨2, 2, 1 / 2, "random", 7, none, [], 0, false⟩ [[0], [1]] [0, 1] : Program Unit Unit _).run Dice.lowest
        (fun t _ => ((), t)) () ()).result = .ok fitted ∧
      Trained ⟨[[0], [1]], [0, 1]⟩ ⟨2, 2, 1 / 2, "random", 7, none, [], 0, false⟩ fitted root :=
  fit_frequencies (Q := Unit) (A := Unit) ⟨2, 2, 1 / 2, "random", 7, none, [], 0, false⟩ [[0], [1]] [0, 1] 1 (by simp)
    ⟨by simp, rfl, by simp⟩ (by simp) (by simp) Dice.lowest (fun t _ => ((), t)) () ()

end QuantEngine.Learning.DecisionTreeModel
