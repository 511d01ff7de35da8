import Mathlib.Data.List.ProdSigma
import QuantEngine.Learning.Drift
import QuantEngine.Library.Decimal
import QuantEngine.Library.MidRanks

set_option autoImplicit false

namespace QuantEngine.Learning

structure ClassificationMetrics where
  samples : Nat
  positives : Int
  accuracy : ℚ
  precision : ℚ
  «recall» : ℚ
  f1 : ℚ
  auc : ℚ
  logLoss : ℚ
  tp : Nat
  tn : Nat
  fp : Nat
  fn : Nat
deriving DecidableEq

-- The figures of `to_dict`.
def ClassificationMetrics.toDict (metrics : ClassificationMetrics) : ClassificationMetrics :=
  { metrics with
    accuracy := Decimal.roundTo 4 metrics.accuracy
    precision := Decimal.roundTo 4 metrics.precision
    «recall» := Decimal.roundTo 4 metrics.«recall»
    f1 := Decimal.roundTo 4 metrics.f1
    auc := Decimal.roundTo 4 metrics.auc
    logLoss := Decimal.roundTo 4 metrics.logLoss }

namespace Metrics

section

variable {α : Type} [LinearOrder α]

-- The indices in the order of their values, each with its value.
def order (values : List α) : List (α × Nat) := values.zipIdx.insertionSort (fun a b => a.1 ≤ b.1)

-- The last place of the equal values that start at place `i`.
def tieEnd (order : List (α × Nat)) (i j : Nat) : Nat :=
  if j + 1 < order.length ∧ order[j + 1]?.map Prod.fst = order[i]?.map Prod.fst then tieEnd order i (j + 1) else j
termination_by order.length - j

theorem le_tie_end (order : List (α × Nat)) (i j : Nat) : j ≤ tieEnd order i j := by
  induction j using tieEnd.induct order i with
  | case1 j more ih =>
      rw [tieEnd, if_pos more]
      omega
  | case2 j last => rw [tieEnd, if_neg last]

def assign (places : List (α × Nat)) (average : ℚ) (ranks : List ℚ) : List ℚ :=
  places.foldl (fun ranks place => ranks.set place.2 average) ranks

def rankFrom (order : List (α × Nat)) (i : Nat) (ranks : List ℚ) : List ℚ :=
  if i < order.length then
    let j := tieEnd order i i
    let average : ℚ := ((i + j : Nat) : ℚ) / 2 + 1
    rankFrom order (j + 1) (assign ((order.take (j + 1)).drop i) average ranks)
  else ranks
termination_by order.length - i
decreasing_by
  have onward := le_tie_end order i i
  omega

def rank (values : List α) : List ℚ := rankFrom (order values) 0 (values.map (fun _ => 0))

def rocAuc (yTrue : List Int) (scores : List α) : ℚ :=
  let positives := yTrue.sum
  let negatives := (yTrue.length : Int) - positives
  if positives = 0 ∨ negatives = 0 then 1 / 2
  else
    let ranked := ((rank scores).zip yTrue).filter (fun entry => decide (entry.2 = 1))
    ((ranked.map Prod.fst).sum - positives * (positives + 1) / 2) / (positives * negatives)

end

section

variable (log : ℚ → ℚ)

-- The loss of one prediction, kept away from certainty.
def entryLoss (y p : ℚ) : ℚ := -(y * Numeric.safeLog log p + (1 - y) * Numeric.safeLog log (1 - p))

def logLoss (yTrue : List Int) (proba : List ℚ) : ℚ :=
  if yTrue = [] then 0
  else
    let losses := (yTrue.zip proba).map (fun entry => entryLoss log entry.1 (min (max entry.2 (1 / 10 ^ 15)) (1 - 1 / 10 ^ 15)))
    losses.sum / yTrue.length

-- `evaluate` of predictions at a threshold. A label other than 0 and 1 counts as
-- a positive that was missed.
def evaluate (yTrue : List Int) (proba : List ℚ) (threshold : ℚ) : ClassificationMetrics :=
  let n := yTrue.length
  let entries := (yTrue.zip proba).map (fun entry => (entry.1, decide (threshold ≤ entry.2)))
  let tp := entries.countP (fun entry => entry.2 && entry.1 == 1)
  let tn := entries.countP (fun entry => !entry.2 && entry.1 == 0)
  let fp := entries.countP (fun entry => entry.2 && entry.1 == 0)
  let fn := entries.length - (tp + tn + fp)
  let accuracy : ℚ := if n = 0 then 0 else ((tp + tn : Nat) : ℚ) / n
  let precision : ℚ := if tp + fp = 0 then 0 else (tp : ℚ) / ((tp + fp : Nat) : ℚ)
  let «recall» : ℚ := if tp + fn = 0 then 0 else (tp : ℚ) / ((tp + fn : Nat) : ℚ)
  { samples := n
    positives := yTrue.sum
    accuracy := accuracy
    precision := precision
    «recall» := «recall»
    f1 := if precision + «recall» = 0 then 0 else 2 * precision * «recall» / (precision + «recall»)
    auc := rocAuc yTrue proba
    logLoss := logLoss log yTrue proba
    tp := tp
    tn := tn
    fp := fp
    fn := fn }

end

end Metrics

end QuantEngine.Learning

namespace QuantEngine.Learning.Metrics

open MidRanks

variable {α : Type}

@[simp]
theorem assign_length (places : List (α × Nat)) (average : ℚ) (ranks : List ℚ) :
    (assign places average ranks).length = ranks.length := by
  induction places generalizing ranks with
  | nil => rfl
  | cons place places ih => rw [assign, List.foldl_cons, ← assign, ih, List.length_set]

theorem assign_other (places : List (α × Nat)) (average : ℚ) (ranks : List ℚ) (index : Nat)
    (absent : index ∉ places.map Prod.snd) : (assign places average ranks)[index]? = ranks[index]? := by
  induction places generalizing ranks with
  | nil => rfl
  | cons place places ih =>
      rw [List.map_cons, List.mem_cons, not_or] at absent
      rw [assign, List.foldl_cons, ← assign, ih _ absent.2, List.getElem?_set_ne (Ne.symm absent.1)]

theorem assign_here (places : List (α × Nat)) (average : ℚ) (ranks : List ℚ) (index : Nat)
    (member : index ∈ places.map Prod.snd) (inside : index < ranks.length) :
    (assign places average ranks)[index]? = some average := by
  induction places generalizing ranks with
  | nil => cases member
  | cons place places ih =>
      rw [assign, List.foldl_cons, ← assign]
      by_cases later : index ∈ places.map Prod.snd
      · exact ih _ later (by rwa [List.length_set])
      · have here := (List.mem_cons.mp member).resolve_right later
        rw [assign_other _ _ _ _ later, here, List.getElem?_set_self (here ▸ inside)]

-- The scores of a class.
def scored (label : Int) (yTrue : List Int) (scores : List α) : List α :=
  ((scores.zip yTrue).filter (fun entry => decide (entry.2 = label))).map Prod.fst

section

variable (yTrue : List Int) (scores : List α) (binary : ∀ y ∈ yTrue, y = 0 ∨ y = 1) (same : yTrue.length = scores.length)

include binary same

theorem scores_split : (scored 1 yTrue scores ++ scored 0 yTrue scores).Perm scores := by
  have both := List.filter_append_perm (fun entry : α × Int => decide (entry.2 = 1)) (scores.zip yTrue)
  have rest : (scores.zip yTrue).filter (fun entry => !decide (entry.2 = 1)) =
      (scores.zip yTrue).filter (fun entry => decide (entry.2 = 0)) := by
    refine List.filter_congr (fun entry member => ?_)
    rcases binary entry.2 (List.of_mem_zip member).2 with zero | one
    · simp [zero]
    · simp [one]
  rw [rest] at both
  have named := both.map Prod.fst
  rwa [List.map_append, List.map_fst_zip (by omega)] at named

theorem positives_eq : yTrue.sum = ((scored 1 yTrue scores).length : Int) := by
  have values : yTrue = (scores.zip yTrue).map Prod.snd := (List.map_snd_zip (by omega)).symm
  have known (entry : α × Int) (member : entry ∈ scores.zip yTrue) := binary entry.2 (List.of_mem_zip member).2
  rw [scored, List.length_map]
  conv_lhs => rw [values]
  generalize scores.zip yTrue = entries at known
  induction entries with
  | nil => rfl
  | cons entry entries ih =>
      have tail := ih (fun other member => known other (List.mem_cons_of_mem _ member))
      rw [List.map_cons, List.sum_cons, tail, List.filter_cons]
      rcases known entry List.mem_cons_self with zero | one
      · simp [zero]
      · simp [one]
        omega

theorem negatives_eq : (yTrue.length : Int) - yTrue.sum = ((scored 0 yTrue scores).length : Int) := by
  have total := (scores_split yTrue scores binary same).length_eq
  rw [List.length_append] at total
  rw [positives_eq yTrue scores binary same]
  omega

end

theorem scored_map {β : Type} (label : Int) (yTrue : List Int) (scores : List α) (change : α → β) :
    scored label yTrue (scores.map change) = (scored label yTrue scores).map change := by
  rw [scored, scored, List.zip_map_left, List.filter_map, List.map_map, List.map_map]
  rfl

theorem scored_perm (label : Int) (yTrue labels : List Int) (scores others : List α)
    (perm : (others.zip labels).Perm (scores.zip yTrue)) : (scored label labels others).Perm (scored label yTrue scores) :=
  (perm.filter _).map _

theorem scored_some (label : Int) (yTrue : List Int) (scores : List α) (same : yTrue.length = scores.length)
    (present : label ∈ yTrue) : scored label yTrue scores ≠ [] := by
  have labels : (scores.zip yTrue).map Prod.snd = yTrue := List.map_snd_zip (by omega)
  rw [← labels] at present
  obtain ⟨entry, member, rfl⟩ := List.mem_map.mp present
  have here : entry.1 ∈ scored entry.2 yTrue scores :=
    List.mem_map_of_mem (List.mem_filter.mpr ⟨member, decide_eq_true rfl⟩)
  exact List.ne_nil_of_mem here

theorem mem_scored (label : Int) (yTrue : List Int) (scores : List α) (score : α) (member : score ∈ scored label yTrue scores) :
    score ∈ scores := by
  obtain ⟨entry, here, rfl⟩ := List.mem_map.mp member
  exact (List.of_mem_zip (List.mem_filter.mp here).1).1

variable [LinearOrder α]

theorem order_perm (values : List α) : (order values).Perm values.zipIdx := List.perm_insertionSort _ _

theorem order_values (values : List α) : ((order values).map Prod.fst).Perm values := by
  have perm := (order_perm values).map Prod.fst
  rwa [List.zipIdx_map_fst] at perm

theorem order_sorted (values : List α) : (order values).Pairwise (fun a b => a.1 ≤ b.1) := by
  have : IsTrans (α × Nat) (fun a b => a.1 ≤ b.1) := ⟨fun _ _ _ => le_trans⟩
  have : Std.Total (fun a b : α × Nat => a.1 ≤ b.1) := ⟨fun a b => le_total a.1 b.1⟩
  exact List.pairwise_insertionSort _ _

theorem order_indices (values : List α) : ((order values).map Prod.snd).Nodup := by
  refine ((order_perm values).map Prod.snd).nodup_iff.mpr ?_
  rw [List.zipIdx_map_snd]
  exact List.nodup_range'

theorem mem_order (values : List α) (value : α) (index : Nat) :
    (value, index) ∈ order values ↔ values[index]? = some value := by
  rw [(order_perm values).mem_iff]
  simp [List.mem_zipIdx_iff_getElem?]

section

variable (order : List (α × Nat))

-- The equal values that the tie loop has passed, and the one it stops before.
structure Tied (i j : Nat) : Prop where
  inside : j < order.length
  equal : ∀ place, i ≤ place → place ≤ j → order[place]?.map Prod.fst = order[i]?.map Prod.fst

theorem tie_end_tied (i j : Nat) (tied : Tied order i j) :
    Tied order i (tieEnd order i j) ∧
      (tieEnd order i j + 1 < order.length → order[tieEnd order i j + 1]?.map Prod.fst ≠ order[i]?.map Prod.fst) := by
  induction j using tieEnd.induct order i with
  | case1 j more ih =>
      rw [tieEnd, if_pos more]
      refine ih ⟨more.1, fun place from_ upto => ?_⟩
      by_cases last : place = j + 1
      · rw [last]
        exact more.2
      · exact tied.equal place from_ (by omega)
  | case2 j last =>
      rw [tieEnd, if_neg last]
      exact ⟨tied, fun inside same => last ⟨inside, same⟩⟩

end

-- All before place `i` have their rank, and what comes later is larger.
structure Ranked (values : List α) (i : Nat) (ranks : List ℚ) : Prop where
  length : ranks.length = values.length
  done : ∀ entry ∈ (order values).take i, ranks[entry.2]? = some (midRank values entry.1)
  apart : ∀ entry ∈ (order values).take i, ∀ other ∈ (order values).drop i, entry.1 < other.1

theorem rank_step (values : List α) (i : Nat) (ranks : List ℚ) (inside : i < (order values).length)
    (ranked : Ranked values i ranks) :
    let j := tieEnd (order values) i i
    Ranked values (j + 1) (assign (((order values).take (j + 1)).drop i) (((i + j : Nat) : ℚ) / 2 + 1) ranks) := by
  intro j
  have start : Tied (order values) i i := ⟨inside, fun place from_ upto => by rw [Nat.le_antisymm upto from_]⟩
  obtain ⟨tied, stops⟩ := tie_end_tied (order values) i i start
  have onward : i ≤ j := le_tie_end (order values) i i
  have within : j < (order values).length := tied.inside
  let value := (order values)[i].1
  let block := ((order values).take (j + 1)).drop i
  have prior : ((order values).take (j + 1)).take i = (order values).take i := by
    rw [List.take_take, min_eq_left (by omega)]
  have front : (order values).take (j + 1) = (order values).take i ++ block := by
    rw [← prior, List.take_append_drop]
  have split : order values = (order values).take i ++ block ++ (order values).drop (j + 1) := by
    rw [← front, List.take_append_drop]
  have equal (entry : α × Nat) (member : entry ∈ block) : entry.1 = value := by
    obtain ⟨place, found⟩ := List.mem_iff_getElem?.mp member
    rw [List.getElem?_drop, List.getElem?_take] at found
    split at found
    · have same := tied.equal (i + place) (by omega) (by omega)
      rw [found, List.getElem?_eq_getElem inside] at same
      exact Option.some.inj same
    · cases found
  have later (entry : α × Nat) (member : entry ∈ (order values).drop (j + 1)) : value < entry.1 := by
    obtain ⟨place, found⟩ := List.mem_iff_getElem?.mp member
    rw [List.getElem?_drop] at found
    obtain ⟨bound, rfl⟩ := List.getElem?_eq_some_iff.mp found
    have sorted := List.pairwise_iff_getElem.mp (order_sorted values)
    have next : j + 1 < (order values).length := by omega
    have above : value < (order values)[j + 1].1 := by
      refine lt_of_le_of_ne (sorted i (j + 1) inside next (by omega)) (fun same => stops next ?_)
      rw [List.getElem?_eq_getElem next, List.getElem?_eq_getElem inside]
      exact congrArg some same.symm
    rcases Nat.eq_zero_or_pos place with zero | positive
    · simpa only [zero, Nat.add_zero] using above
    · exact lt_of_lt_of_le above (sorted (j + 1) (j + 1 + place) next bound (by omega))
  have rest (entry : α × Nat) (member : entry ∈ (order values).drop (j + 1)) : entry ∈ (order values).drop i := by
    have tail : (order values).drop (j + 1) = ((order values).drop i).drop (j + 1 - i) := by
      rw [List.drop_drop]
      congr 1
      omega
    rw [tail] at member
    exact List.mem_of_mem_drop member
  have average : ((i + j : Nat) : ℚ) / 2 + 1 = midRank values value := by
    have before : ((order values).take i).length = i := List.length_take_of_le (by omega)
    have both : block.length = j + 1 - i := by
      rw [List.length_drop, List.length_take_of_le (by omega)]
    rw [← mid_rank_perm _ _ (order_values values), split, List.map_append, List.map_append, mid_rank_block]
    · rw [List.length_map, List.length_map, before, both, show i + (i + (j + 1 - i)) + 1 = i + j + 2 by omega]
      push_cast
      ring
    · intro item member
      obtain ⟨entry, here, rfl⟩ := List.mem_map.mp member
      exact ranked.apart entry here (order values)[i] (List.mem_iff_getElem?.mpr ⟨0, by
        rw [List.getElem?_drop, Nat.add_zero, List.getElem?_eq_getElem inside]⟩)
    · intro item member
      obtain ⟨entry, here, rfl⟩ := List.mem_map.mp member
      exact equal entry here
    · intro item member
      obtain ⟨entry, here, rfl⟩ := List.mem_map.mp member
      exact later entry here
  have distinct := order_indices values
  rw [split, List.map_append, List.map_append] at distinct
  have apart := (List.nodup_append.mp (List.nodup_append.mp distinct).1).2.2
  refine ⟨by rw [assign_length, ranked.length], fun entry member => ?_, fun entry member other after => ?_⟩
  · rw [front] at member
    rcases List.mem_append.mp member with old | new
    · rw [assign_other _ _ _ _ (fun there => apart _ (List.mem_map_of_mem old) _ there rfl)]
      exact ranked.done entry old
    · have there : entry ∈ order values := by
        rw [split]
        exact List.mem_append_left _ (List.mem_append_right _ new)
      have bound := (List.getElem?_eq_some_iff.mp ((mem_order values entry.1 entry.2).mp there)).1
      rw [assign_here _ _ _ _ (List.mem_map_of_mem new) (ranked.length ▸ bound), average, equal entry new]
  · rw [front] at member
    rcases List.mem_append.mp member with old | new
    · exact ranked.apart entry old other (rest other after)
    · rw [equal entry new]
      exact later other after

theorem rank_from_ranked (values : List α) (i : Nat) (ranks : List ℚ) (ranked : Ranked values i ranks) :
    ∃ count, (order values).length ≤ count ∧ Ranked values count (rankFrom (order values) i ranks) := by
  induction i, ranks using rankFrom.induct (order values) with
  | case1 i ranks inside j average ih =>
      rw [rankFrom, if_pos inside]
      exact ih (rank_step values i ranks inside ranked)
  | case2 i ranks beyond =>
      rw [rankFrom, if_neg beyond]
      exact ⟨i, not_lt.mp beyond, ranked⟩

theorem rank_eq (values : List α) : rank values = values.map (midRank values) := by
  have start : Ranked values 0 (values.map (fun _ => (0 : ℚ))) :=
    ⟨List.length_map _, fun _ member => (nomatch member), fun _ member => (nomatch member)⟩
  obtain ⟨count, all, ranked⟩ := rank_from_ranked values 0 _ start
  refine List.ext_getElem? (fun index => ?_)
  rw [List.getElem?_map]
  cases found : values[index]? with
  | none =>
      rw [Option.map_none, List.getElem?_eq_none_iff, rank, ranked.length]
      exact List.getElem?_eq_none_iff.mp found
  | some value =>
      refine ranked.done (value, index) ?_
      rw [List.take_of_length_le all]
      exact (mem_order values value index).mpr found

-- Each score of a positive with each score of a negative.
def pairs (yTrue : List Int) (scores : List α) : List (α × α) := scored 1 yTrue scores ×ˢ scored 0 yTrue scores

def won (yTrue : List Int) (scores : List α) : Nat := (pairs yTrue scores).countP (fun pair => decide (pair.2 < pair.1))

def even (yTrue : List Int) (scores : List α) : Nat := (pairs yTrue scores).countP (fun pair => decide (pair.2 = pair.1))

omit [LinearOrder α] in
theorem pairs_length (yTrue : List Int) (scores : List α) :
    (pairs yTrue scores).length = (scored 1 yTrue scores).length * (scored 0 yTrue scores).length :=
  List.length_product _ _

theorem won_eq (yTrue : List Int) (scores : List α) :
    won yTrue scores = higher (scored 1 yTrue scores) (scored 0 yTrue scores) := by
  simp only [won, pairs, SProd.sprod, List.product, List.countP_flatMap, higher, Function.comp_def, List.countP_map]
  rfl

theorem even_eq (yTrue : List Int) (scores : List α) :
    even yTrue scores = tied (scored 1 yTrue scores) (scored 0 yTrue scores) := by
  simp only [even, pairs, SProd.sprod, List.product, List.countP_flatMap, tied, List.count, Function.comp_def, List.countP_map]
  rfl

section

variable (yTrue : List Int) (scores : List α) (binary : ∀ y ∈ yTrue, y = 0 ∨ y = 1) (same : yTrue.length = scores.length)

include binary same

theorem auc_eq (positive : scored 1 yTrue scores ≠ []) (negative : scored 0 yTrue scores ≠ []) :
    rocAuc yTrue scores = ((won yTrue scores : ℚ) + (even yTrue scores : ℚ) / 2) / (pairs yTrue scores).length := by
  have some_positive : (scored 1 yTrue scores).length ≠ 0 := fun none => positive (List.length_eq_zero_iff.mp none)
  have some_negative : (scored 0 yTrue scores).length ≠ 0 := fun none => negative (List.length_eq_zero_iff.mp none)
  have ranks : (((rank scores).zip yTrue).filter (fun entry => decide (entry.2 = 1))).map Prod.fst =
      (scored 1 yTrue scores).map (midRank (scored 1 yTrue scores ++ scored 0 yTrue scores)) := by
    rw [rank_eq, mid_rank_perm _ _ (scores_split yTrue scores binary same), List.zip_map_left, scored, List.filter_map,
      List.map_map, List.map_map]
    rfl
  simp only [rocAuc]
  rw [negatives_eq yTrue scores binary same, positives_eq yTrue scores binary same, if_neg (by omega), ranks, mid_rank_sum,
    won_eq, even_eq, pairs_length]
  push_cast
  congr 1
  ring

-- It is a share of the pairs.
theorem auc_bounds (positive : scored 1 yTrue scores ≠ []) (negative : scored 0 yTrue scores ≠ []) :
    0 ≤ rocAuc yTrue scores ∧ rocAuc yTrue scores ≤ 1 := by
  have total := pairs_total (scored 1 yTrue scores) (scored 0 yTrue scores)
  rw [← won_eq, ← even_eq, ← pairs_length] at total
  have share : ((won yTrue scores + even yTrue scores : Nat) : ℚ) ≤ ((pairs yTrue scores).length : ℚ) := by
    exact_mod_cast (by omega : won yTrue scores + even yTrue scores ≤ (pairs yTrue scores).length)
  push_cast at share
  have some_won : (0 : ℚ) ≤ won yTrue scores := Nat.cast_nonneg _
  have some_even : (0 : ℚ) ≤ even yTrue scores := Nat.cast_nonneg _
  rw [auc_eq yTrue scores binary same positive negative]
  exact ⟨div_nonneg (by linarith) (Nat.cast_nonneg _), div_le_one_of_le₀ (by linarith) (Nat.cast_nonneg _)⟩

end

section

variable (yTrue : List Int) (scores : List ℚ) (binary : ∀ y ∈ yTrue, y = 0 ∨ y = 1) (same : yTrue.length = scores.length)
  (positive : 1 ∈ yTrue) (negative : 0 ∈ yTrue)

include binary same positive negative

theorem auc_map {β : Type} [LinearOrder β] (change : ℚ → β) (increasing : StrictMonoOn change {score | score ∈ scores}) :
    rocAuc yTrue (scores.map change) = rocAuc yTrue scores := by
  have kept (value : ℚ) (one : value ∈ scored 1 yTrue scores) (item : ℚ) (zero : item ∈ scored 0 yTrue scores) :=
    increasing.lt_iff_lt (mem_scored 0 yTrue scores item zero) (mem_scored 1 yTrue scores value one)
  have apart (value : ℚ) (one : value ∈ scored 1 yTrue scores) (item : ℚ) (zero : item ∈ scored 0 yTrue scores) :=
    increasing.eq_iff_eq (mem_scored 0 yTrue scores item zero) (mem_scored 1 yTrue scores value one)
  have length : yTrue.length = (scores.map change).length := by rw [List.length_map, same]
  rw [auc_eq yTrue (scores.map change) binary length (scored_some 1 yTrue _ length positive)
    (scored_some 0 yTrue _ length negative), auc_eq yTrue scores binary same (scored_some 1 yTrue _ same positive)
    (scored_some 0 yTrue _ same negative), won_eq, won_eq, even_eq, even_eq, pairs_length, pairs_length, scored_map,
    scored_map, higher_map change _ _ kept, tied_map change _ _ apart, List.length_map, List.length_map]

theorem auc_perm (labels : List Int) (others : List ℚ) (length : labels.length = others.length)
    (perm : (others.zip labels).Perm (scores.zip yTrue)) : rocAuc labels others = rocAuc yTrue scores := by
  have classes : labels.Perm yTrue := by
    have named := perm.map Prod.snd
    rwa [List.map_snd_zip (by omega), List.map_snd_zip (by omega)] at named
  have ones := scored_perm 1 yTrue labels scores others perm
  have zeros := scored_perm 0 yTrue labels scores others perm
  rw [auc_eq labels others (fun y member => binary y (classes.mem_iff.mp member)) length
    (scored_some 1 labels _ length (classes.mem_iff.mpr positive)) (scored_some 0 labels _ length (classes.mem_iff.mpr negative)),
    auc_eq yTrue scores binary same (scored_some 1 yTrue _ same positive) (scored_some 0 yTrue _ same negative), won_eq, won_eq,
    even_eq, even_eq, pairs_length, pairs_length, higher_perm _ _ _ _ ones zeros, tied_perm _ _ _ _ ones zeros,
    ones.length_eq, zeros.length_eq]

-- The pairs that were won are lost, and the other way.
theorem auc_neg : rocAuc yTrue (scores.map Neg.neg) = 1 - rocAuc yTrue scores := by
  have length : yTrue.length = (scores.map Neg.neg).length := by rw [List.length_map, same]
  have ones := scored_some 1 yTrue scores same positive
  have zeros := scored_some 0 yTrue scores same negative
  have total := pairs_total (scored 1 yTrue scores) (scored 0 yTrue scores)
  have some_pair : ((scored 1 yTrue scores).length * (scored 0 yTrue scores).length : ℚ) ≠ 0 :=
    mul_ne_zero (Nat.cast_ne_zero.mpr (fun none => ones (List.length_eq_zero_iff.mp none)))
      (Nat.cast_ne_zero.mpr (fun none => zeros (List.length_eq_zero_iff.mp none)))
  have share : ((higher (scored 1 yTrue scores) (scored 0 yTrue scores) : ℚ) + tied (scored 1 yTrue scores) (scored 0 yTrue scores) +
      higher (scored 0 yTrue scores) (scored 1 yTrue scores)) =
        (scored 1 yTrue scores).length * (scored 0 yTrue scores).length := by exact_mod_cast total
  rw [auc_eq yTrue (scores.map Neg.neg) binary length (scored_some 1 yTrue _ length positive)
    (scored_some 0 yTrue _ length negative), auc_eq yTrue scores binary same ones zeros, won_eq, won_eq, even_eq, even_eq,
    pairs_length, pairs_length, scored_map, scored_map, higher_anti Neg.neg _ _ (fun _ _ _ _ => neg_lt_neg_iff),
    tied_map Neg.neg _ _ (fun _ _ _ _ => neg_inj), List.length_map, List.length_map, Nat.cast_mul, eq_sub_iff_add_eq, ← add_div,
    div_eq_one_iff_eq some_pair, ← share]
  ring

theorem mann_whitney :
    rocAuc yTrue scores = ((won yTrue scores : ℚ) + (even yTrue scores : ℚ) / 2) / (pairs yTrue scores).length ∧
      (0 ≤ rocAuc yTrue scores ∧ rocAuc yTrue scores ≤ 1) ∧
      (∀ (β : Type) [LinearOrder β] (change : ℚ → β), StrictMonoOn change {score | score ∈ scores} →
        rocAuc yTrue (scores.map change) = rocAuc yTrue scores) ∧
      (∀ (labels : List Int) (others : List ℚ), labels.length = others.length →
        (others.zip labels).Perm (scores.zip yTrue) → rocAuc labels others = rocAuc yTrue scores) ∧
      rocAuc yTrue (scores.map Neg.neg) = 1 - rocAuc yTrue scores :=
  have ones := scored_some 1 yTrue scores same positive
  have zeros := scored_some 0 yTrue scores same negative
  ⟨auc_eq yTrue scores binary same ones zeros, auc_bounds yTrue scores binary same ones zeros,
    fun _ _ => auc_map yTrue scores binary same positive negative, auc_perm yTrue scores binary same positive negative,
    auc_neg yTrue scores binary same positive negative⟩

end

theorem mann_whitney_tie :
    rocAuc [0, 1, 0, 1] [(1 : ℚ), 2, 2, 3] =
      ((won [0, 1, 0, 1] [(1 : ℚ), 2, 2, 3] : ℚ) + (even [0, 1, 0, 1] [(1 : ℚ), 2, 2, 3] : ℚ) / 2) / 4 :=
  (mann_whitney [0, 1, 0, 1] [1, 2, 2, 3] (by decide) rfl (by decide) (by decide)).1

end QuantEngine.Learning.Metrics
