import Mathlib.Algebra.Order.BigOperators.Group.List
import Mathlib.Data.List.Sort
import QuantEngine.Backtesting.Optimizer
import QuantEngine.Library.Ranking
import QuantEngine.Research.MissingEvidence

set_option autoImplicit false

namespace QuantEngine.Research

open QuantEngine.Backtesting Program MissingEvidence

variable {V σ τ : Type}

-- The statistics of a backtest; of a NaN also which object it is.
structure Statistics where
  values : Dict String Extended
  nans : String → Nat

-- `==` of two mappings, whatever the order of their keys.
def sameItems {ν : Type} (same : String → ν → ν → Bool) (a b : Dict String ν) : Bool :=
  decide (a.size = b.size) && a.entries.all (fun entry => match b.lookup entry.1 with
    | some value => same entry.1 entry.2 value
    | none => false)

-- A NaN is equal to itself only, as the same object.
def Statistics.sameAt (a b : Statistics) (key : String) : Extended → Extended → Bool
  | .nan, .nan => a.nans key == b.nans key
  | x, y => Floats.eq x y

def Statistics.same (a b : Statistics) : Bool := sameItems (a.sameAt b) a.values b.values

-- A point of the front; a record of the search has the same three parts.
structure ParetoPoint (V : Type) where
  params : Params V
  metrics : Statistics
  score : Extended

structure MultiObjectiveResult (V : Type) where
  method : String
  objectives : Dict String Extended
  bestParams : Params V
  bestMetrics : Statistics
  bestScore : Extended
  evaluations : Nat
  paretoFront : List (ParetoPoint V)

namespace ParetoPoint

def dominates (a b : ParetoPoint V) (objectives : Dict String Extended) : Bool :=
  Research.dominates a.metrics.values b.metrics.values objectives

def duplicate [BEq V] (point record : ParetoPoint V) : Bool :=
  point.metrics.same record.metrics && sameItems (fun _ x y => x == y) point.params record.params

end ParetoPoint

-- The seed is with the draws.
structure MultiObjectiveSettings where
  objectives : Dict String ℚ :=
    Dict.empty.insertAll [("profit_factor", 1), ("sharpe", 1), ("expectancy_r", 3 / 4), ("sqn", 1 / 2), ("max_drawdown_pct", -1 / 2)]
  search : GeneticSettings := ⟨20, 12, 3 / 20⟩

namespace MultiObjectiveOptimizer

variable [BEq V]

-- One turn of the loop over the records.
def offer (records : List (ParetoPoint V)) (objectives : Dict String Extended) (front : List (ParetoPoint V))
    (record : ParetoPoint V) : List (ParetoPoint V) :=
  if records.any (fun other => other.dominates record objectives) then front
  else if front.any (fun point => point.duplicate record) then front
  else front ++ [record]

def paretoFront (records : List (ParetoPoint V)) (objectives : Dict String Extended) : List (ParetoPoint V) :=
  (records.foldl (offer records objectives) []).insertionSort (fun a b => b.score.le a.score = true)

-- `max(records, key=score)`: the first of the highest.
def bestRecord (first : ParetoPoint V) (rest : List (ParetoPoint V)) : ParetoPoint V :=
  rest.foldl (fun best record => if best.score.lt record.score then record else best) first

def summarize (objectives : Dict String Extended) : List (ParetoPoint V) → MultiObjectiveResult V
  | [] => ⟨"multi_objective_genetic", objectives, .empty, ⟨.empty, fun _ => 0⟩, .infinite true, 0, []⟩
  | first :: rest =>
      let best := bestRecord first rest
      ⟨"multi_objective_genetic", objectives, best.params, best.metrics, best.score, (first :: rest).length,
        paretoFront (first :: rest) objectives⟩

structure Evaluations (V : Type) where
  memo : List (Genetic.Key V × Statistics) := []
  records : List (ParetoPoint V) := []

-- A backtest gives its statistics or raises.
abbrev Backtest (V α : Type) := Program (Params V) (Except PyError Statistics) α

-- `evaluate`: a set that was scored before is not evaluated again.
def evaluate (objectives : Dict String Extended) (made : Evaluations V) (params : Params V) :
    Backtest V (Extended × Evaluations V) :=
  match made.memo.find? (fun entry => entry.1 == Genetic.key params) with
  | some entry => pure (scalarize entry.2.values objectives, made)
  | none => do
      let answer ← question params
      let metrics ← ofExcept answer
      let score := scalarize metrics.values objectives
      pure (score, ⟨made.memo ++ [(Genetic.key params, metrics)], made.records ++ [⟨params, metrics, score⟩]⟩)

def optimize (settings : MultiObjectiveSettings) (space : ParameterSpace V) : Backtest V (MultiObjectiveResult V) := do
  let ended ← (Genetic.optimize "multi_objective" settings.search space).through (evaluate (weighted settings.objectives)) {}
  pure (summarize (weighted settings.objectives) ended.2.records)

end MultiObjectiveOptimizer

-- Every objective has a number among the metrics.
def Covers (objectives metrics : Dict String Extended) : Prop :=
  ∀ key ∈ objectives.keys, ∃ value : ℚ, metrics.lookup key = some (.finite value)

def direction (weight : Extended) : ℚ := if Floats.le (Floats.ofRat 0) weight then 1 else -1

-- An objective's metric, turned so that more is better.
def oriented (objectives metrics : Dict String Extended) (key : String) : ℚ :=
  match objectives.lookup key, metrics.lookup key with
  | some weight, some value => direction weight * amount key value
  | _, _ => 0

theorem sign_direction (weight : Extended) : sign weight = .finite (direction weight) := by
  rw [sign, direction]
  split <;> rfl

theorem worth_covered (objectives metrics : Dict String Extended) (covers : Covers objectives metrics) (key : String) :
    worth metrics objectives key = if key ∈ objectives.keys then some (.finite (oriented objectives metrics key)) else none := by
  rw [worth, oriented]
  split
  · rename_i present
    obtain ⟨weight, found⟩ := (Dict.mem_keys_iff objectives key).mp present
    obtain ⟨value, measured⟩ := covers key present
    rw [found, measured, Option.bind_some, Option.map_some, sign_direction, transform_amount]
    rfl
  · rename_i absent
    rw [(Dict.lookup_none_iff objectives key).mpr absent]
    rfl

theorem dominates_covered (objectives a b : Dict String Extended) (left : Covers objectives a) (right : Covers objectives b) :
    dominates a b objectives = true ↔
      (∀ key ∈ objectives.keys, oriented objectives b key ≤ oriented objectives a key) ∧
        ∃ key ∈ objectives.keys, oriented objectives b key < oriented objectives a key := by
  have known (metrics : Dict String Extended) (covers : Covers objectives metrics) (key : String) (value : Extended) :
      worth metrics objectives key = some value ↔ key ∈ objectives.keys ∧ .finite (oriented objectives metrics key) = value := by
    rw [worth_covered objectives metrics covers key]
    split <;> simp_all
  rw [dominates_iff]
  constructor
  · intro better
    obtain ⟨all, key, x, y, first, second, less⟩ := better
    obtain ⟨present, rfl⟩ := (known a left key x).mp first
    obtain ⟨-, rfl⟩ := (known b right key y).mp second
    refine ⟨fun other member => ?_, key, present, ?_⟩
    · have least := all other _ _ ((known a left other _).mpr ⟨member, rfl⟩) ((known b right other _).mpr ⟨member, rfl⟩)
      exact of_decide_eq_true least
    · exact of_decide_eq_true ((Extended.lt_finite _ _).symm.trans less)
  · intro better
    obtain ⟨all, key, present, less⟩ := better
    refine ⟨fun other x y first second => ?_, key, _, _, (known a left key _).mpr ⟨present, rfl⟩,
      (known b right key _).mpr ⟨present, rfl⟩, (Extended.lt_finite _ _).trans (decide_eq_true less)⟩
    obtain ⟨member, rfl⟩ := (known a left other x).mp first
    obtain ⟨-, rfl⟩ := (known b right other y).mp second
    exact decide_eq_true (all other member)

theorem dominates_irreflexive (objectives metrics : Dict String Extended) : dominates metrics metrics objectives = false := by
  refine Bool.eq_false_iff.mpr (fun holds => ?_)
  obtain ⟨-, key, x, y, first, second, less⟩ := (dominates_iff metrics metrics objectives).mp holds
  cases first.symm.trans second
  have both : (x.le x && !x.le x) = true := less
  simp at both

theorem dominates_transitive (objectives a b c : Dict String Extended) (first : Covers objectives a) (second : Covers objectives b)
    (third : Covers objectives c) (ab : dominates a b objectives = true) (bc : dominates b c objectives = true) :
    dominates a c objectives = true := by
  obtain ⟨upper, key, present, less⟩ := (dominates_covered objectives a b first second).mp ab
  obtain ⟨lower, -⟩ := (dominates_covered objectives b c second third).mp bc
  refine (dominates_covered objectives a c first third).mpr ⟨fun other member => ?_, key, present, ?_⟩
  · exact le_trans (lower other member) (upper other member)
  · exact lt_of_le_of_lt (lower key present) less

-- A weight and the sign that an objective is turned by point the same way.
theorem counted_oriented (weights : Dict String ℚ) (metrics : Dict String Extended) (covers : Covers (weighted weights) metrics)
    (entry : String × ℚ) (member : entry ∈ weights.entries) :
    counted metrics entry = |entry.2| * oriented (weighted weights) metrics entry.1 := by
  obtain ⟨key, weight⟩ := entry
  have found : (weighted weights).lookup key = some (.finite weight) := by
    rw [weighted, Dict.lookup_map_values, Dict.lookup_of_mem weights key weight member]
    rfl
  obtain ⟨value, measured⟩ := covers key (Dict.mem_keys_of_lookup _ _ _ found)
  have turned : |weight| * direction (.finite weight) = weight := by
    have nonneg : Floats.le (Floats.ofRat 0) (Extended.finite weight) = decide (0 ≤ weight) := rfl
    rw [direction, nonneg]
    by_cases up : 0 ≤ weight
    · rw [if_pos (decide_eq_true up), abs_of_nonneg up, mul_one]
    · rw [if_neg (by simpa using up), abs_of_neg (not_le.mp up), mul_neg_one, neg_neg]
  rw [counted, oriented, found, measured]
  dsimp only
  rw [← mul_assoc, turned]

theorem dominates_scores (weights : Dict String ℚ) (signed : ∀ entry ∈ weights.entries, entry.2 ≠ 0) (a b : Dict String Extended)
    (left : Covers (weighted weights) a) (right : Covers (weighted weights) b)
    (better : dominates a b (weighted weights) = true) : MissingEvidence.score weights b < MissingEvidence.score weights a := by
  obtain ⟨all, key, present, less⟩ := (dominates_covered (weighted weights) a b left right).mp better
  have named (entry : String × ℚ) (member : entry ∈ weights.entries) : entry.1 ∈ (weighted weights).keys :=
    Dict.mem_keys_of_lookup _ _ _ ((Dict.lookup_map_values _ weights entry.1).trans
      (congrArg (Option.map Extended.finite) (Dict.lookup_of_mem weights entry.1 entry.2 member)))
  rw [MissingEvidence.score, MissingEvidence.score, Dict.total, Dict.total]
  refine List.sum_lt_sum _ _ (fun entry member => ?_) ?_
  · rw [counted_oriented weights a left entry member, counted_oriented weights b right entry member]
    exact mul_le_mul_of_nonneg_left (all entry.1 (named entry member)) (abs_nonneg _)
  · obtain ⟨value, found⟩ := (Dict.mem_keys_iff _ _).mp present
    rw [weighted, Dict.lookup_map_values] at found
    obtain ⟨weight, here, -⟩ := Option.map_eq_some_iff.mp found
    have member := Dict.lookup_mem weights key weight here
    refine ⟨(key, weight), member, ?_⟩
    rw [counted_oriented weights a left _ member, counted_oriented weights b right _ member]
    exact mul_lt_mul_of_pos_left less (abs_pos.mpr (signed _ member))

theorem same_items_lookup {ν : Type} (same : String → ν → ν → Bool) (a b : Dict String ν) (alike : sameItems same a b = true)
    (key : String) (value other : ν) (here : a.lookup key = some value) (there : b.lookup key = some other) :
    same key value other = true := by
  rw [sameItems, Bool.and_eq_true, List.all_eq_true] at alike
  have holds := alike.2 (key, value) (Dict.lookup_mem a key value here)
  simpa only [there] using holds

theorem same_number (a b : Statistics) (same : a.same b = true) (key : String) (x y : ℚ)
    (here : a.values.lookup key = some (.finite x)) (there : b.values.lookup key = some (.finite y)) : x = y := by
  have equal : (decide (x ≤ y) && decide (y ≤ x)) = true := same_items_lookup _ _ _ same key _ _ here there
  rw [Bool.and_eq_true, decide_eq_true_eq, decide_eq_true_eq] at equal
  exact le_antisymm equal.1 equal.2

-- The metrics that an objective asks for are the same numbers.
theorem same_covered (objectives : Dict String Extended) (a b : Statistics) (same : a.same b = true)
    (left : Covers objectives a.values) (right : Covers objectives b.values) (key : String) (present : key ∈ objectives.keys) :
    a.values.lookup key = b.values.lookup key := by
  obtain ⟨x, here⟩ := left key present
  obtain ⟨y, there⟩ := right key present
  rw [here, there, same_number a b same key x y here there]

theorem same_oriented (objectives : Dict String Extended) (a b : Statistics) (same : a.same b = true)
    (left : Covers objectives a.values) (right : Covers objectives b.values) (key : String) :
    oriented objectives a.values key = oriented objectives b.values key := by
  rw [oriented, oriented]
  cases found : objectives.lookup key with
  | none => rfl
  | some weight => rw [same_covered objectives a b same left right key (Dict.mem_keys_of_lookup _ _ _ found)]

theorem same_dominates (objectives : Dict String Extended) (a b other : Statistics) (same : a.same b = true)
    (left : Covers objectives a.values) (right : Covers objectives b.values) (beaten : Covers objectives other.values)
    (better : dominates b.values other.values objectives = true) : dominates a.values other.values objectives = true := by
  rw [dominates_covered objectives b.values other.values right beaten] at better
  rw [dominates_covered objectives a.values other.values left beaten]
  simp only [same_oriented objectives a b same left right]
  exact better

theorem same_score (weights : Dict String ℚ) (a b : Statistics) (same : a.same b = true)
    (left : Covers (weighted weights) a.values) (right : Covers (weighted weights) b.values) :
    MissingEvidence.score weights a.values = MissingEvidence.score weights b.values := by
  rw [MissingEvidence.score, MissingEvidence.score, Dict.total, Dict.total]
  refine congrArg List.sum (List.map_congr_left (fun entry member => ?_))
  rw [counted_oriented weights _ left entry member, counted_oriented weights _ right entry member,
    same_oriented (weighted weights) a b same left right]

namespace MultiObjectiveOptimizer

variable (records : List (ParetoPoint V)) (objectives : Dict String Extended)

def Nondominated (record : ParetoPoint V) : Prop :=
  Frontier.Unbeaten (fun a b : ParetoPoint V => a.dominates b objectives = true) records record

theorem dominated_iff (record : ParetoPoint V) :
    records.any (fun other => other.dominates record objectives) = true ↔ ¬ Nondominated records objectives record := by
  rw [List.any_eq_true, Nondominated, Frontier.Unbeaten]
  push Not
  rfl

-- What `max` returns has no higher score beside it, and none as high before it.
theorem best_first (mark : ParetoPoint V → ℚ) (first : ParetoPoint V) (rest : List (ParetoPoint V))
    (marked : ∀ record ∈ first :: rest, record.score = .finite (mark record)) :
    Ranking.FirstLeast (fun record => -mark record) (first :: rest) (bestRecord first rest) := by
  have folded : bestRecord first rest =
      rest.foldl (fun best record => if -mark record < -mark best then record else best) first := by
    rw [bestRecord]
    induction rest generalizing first with
    | nil => rfl
    | cons record rest ih =>
        have higher : first.score.lt record.score = decide (mark first < mark record) := by
          rw [marked first List.mem_cons_self, marked record (by simp), Extended.lt_finite]
        rw [List.foldl_cons, List.foldl_cons, higher, ih]
        · simp only [decide_eq_true_eq, neg_lt_neg_iff]
        · intro other member
          cases List.mem_cons.mp member with
          | inl same =>
              rw [same]
              split
              · exact marked record (by simp)
              · exact marked first List.mem_cons_self
          | inr later => exact marked other (by simp [later])
  rw [folded]
  have alone : Ranking.FirstLeast (fun record => -mark record) [first] first := ⟨[], [], rfl, by simp, by simp⟩
  exact Ranking.first_least_fold _ [first] rest first alone

theorem best_record_mem (first : ParetoPoint V) (rest : List (ParetoPoint V)) : bestRecord first rest ∈ first :: rest := by
  induction rest generalizing first with
  | nil => exact List.mem_cons_self
  | cons record rest ih =>
      rw [bestRecord, List.foldl_cons]
      split
      · exact List.mem_cons_of_mem first (ih record)
      · exact (List.mem_cons.mp (ih first)).elim (fun same => List.mem_cons.mpr (.inl same))
          (fun later => List.mem_cons_of_mem first (List.mem_cons_of_mem record later))

variable [BEq V]

-- A record is on the front itself or as an equal point.
def Represented (front : List (ParetoPoint V)) (record : ParetoPoint V) : Prop :=
  ∃ point ∈ front, point = record ∨ point.duplicate record = true

theorem offer_cases (front : List (ParetoPoint V)) (record : ParetoPoint V) :
    (offer records objectives front record = front ∧
        (¬ Nondominated records objectives record ∨ front.any (fun point => point.duplicate record) = true)) ∨
      (offer records objectives front record = front ++ [record] ∧ Nondominated records objectives record ∧
        front.any (fun point => point.duplicate record) = false) := by
  rw [offer]
  split
  · rename_i beaten
    exact .inl ⟨rfl, .inl ((dominated_iff records objectives record).mp beaten)⟩
  · rename_i free
    have top : Nondominated records objectives record :=
      not_not.mp (fun beaten => free ((dominated_iff records objectives record).mpr beaten))
    split
    · rename_i known
      exact .inl ⟨rfl, .inr known⟩
    · rename_i fresh
      exact .inr ⟨rfl, top, Bool.eq_false_iff.mpr fresh⟩

theorem offer_keeps (front : List (ParetoPoint V)) (record point : ParetoPoint V) (member : point ∈ front) :
    point ∈ offer records objectives front record := by
  cases offer_cases records objectives front record with
  | inl same =>
      rw [same.1]
      exact member
  | inr grown =>
      rw [grown.1]
      exact List.mem_append_left _ member

theorem offered_keeps (rest front : List (ParetoPoint V)) (point : ParetoPoint V) (member : point ∈ front) :
    point ∈ rest.foldl (offer records objectives) front := by
  induction rest generalizing front with
  | nil => exact member
  | cons record rest ih => exact ih _ (offer_keeps records objectives front record point member)

theorem offered_from (rest front : List (ParetoPoint V)) (point : ParetoPoint V)
    (member : point ∈ rest.foldl (offer records objectives) front) :
    point ∈ front ∨ (point ∈ rest ∧ Nondominated records objectives point) := by
  induction rest generalizing front with
  | nil => exact .inl member
  | cons record rest ih =>
      cases ih _ member with
      | inr later => exact .inr ⟨List.mem_cons_of_mem _ later.1, later.2⟩
      | inl now =>
          cases offer_cases records objectives front record with
          | inl same => exact .inl (same.1 ▸ now)
          | inr grown =>
              rw [grown.1, List.mem_append, List.mem_singleton] at now
              cases now with
              | inl before => exact .inl before
              | inr same =>
                  rw [same]
                  exact .inr ⟨List.mem_cons_self, grown.2.1⟩

-- A record that nothing dominates enters the front, unless an equal point is there.
theorem offered_represents (before after front : List (ParetoPoint V)) (record : ParetoPoint V)
    (top : Nondominated records objectives record) :
    let reached := before.foldl (offer records objectives) front
    record ∈ (before ++ record :: after).foldl (offer records objectives) front ∨
      ∃ point ∈ reached, point.duplicate record = true := by
  intro reached
  rw [List.foldl_append, List.foldl_cons]
  cases offer_cases records objectives reached record with
  | inl same =>
      cases same.2 with
      | inl beaten => exact absurd top beaten
      | inr known => exact .inr (List.any_eq_true.mp known)
  | inr grown =>
      refine .inl (offered_keeps records objectives after _ record ?_)
      rw [grown.1]
      exact List.mem_append_right _ (List.mem_singleton_self record)

theorem mem_front (point : ParetoPoint V) :
    point ∈ paretoFront records objectives ↔ point ∈ records.foldl (offer records objectives) [] :=
  (List.perm_insertionSort _ _).mem_iff

theorem front_nondominated (point : ParetoPoint V) (member : point ∈ paretoFront records objectives) :
    point ∈ records ∧ Nondominated records objectives point := by
  cases offered_from records objectives records [] point ((mem_front records objectives point).mp member) with
  | inl nowhere => exact absurd nowhere List.not_mem_nil
  | inr known => exact known

theorem front_represents (record : ParetoPoint V) (member : record ∈ records) (top : Nondominated records objectives record) :
    Represented (paretoFront records objectives) record := by
  obtain ⟨before, after, split⟩ := List.append_of_mem member
  have reached := offered_represents records objectives before after [] record top
  rw [← split] at reached
  cases reached with
  | inl here => exact ⟨record, (mem_front records objectives record).mpr here, .inl rfl⟩
  | inr equal =>
      obtain ⟨point, early, same⟩ := equal
      have kept := offered_keeps records objectives (record :: after) _ point early
      rw [← List.foldl_append, ← split] at kept
      exact ⟨point, (mem_front records objectives point).mpr kept, .inr same⟩

theorem exists_front_above (covered : ∀ record ∈ records, Covers objectives record.metrics.values) (record : ParetoPoint V)
    (member : record ∈ records) :
    Represented (paretoFront records objectives) record ∨
      ∃ point ∈ paretoFront records objectives, point.dominates record objectives = true := by
  have irreflexive (item : ParetoPoint V) : ¬ item.dominates item objectives = true := by
    rw [ParetoPoint.dominates, dominates_irreflexive]
    exact Bool.false_ne_true
  obtain ⟨top, known, unbeaten, above⟩ := Frontier.exists_unbeaten
    (fun a b : ParetoPoint V => a.dominates b objectives = true) records (fun item _ => irreflexive item)
    (fun a here b there c last => dominates_transitive objectives _ _ _ (covered a here) (covered b there) (covered c last))
    record member
  obtain ⟨point, listed, equal⟩ := front_represents records objectives top known unbeaten
  cases above with
  | inl same => exact .inl ⟨point, listed, same ▸ equal⟩
  | inr better =>
      refine .inr ⟨point, listed, ?_⟩
      cases equal with
      | inl same =>
          rw [same]
          exact better
      | inr twin =>
          rw [ParetoPoint.duplicate, Bool.and_eq_true] at twin
          have source := (front_nondominated records objectives point listed).1
          exact same_dominates objectives point.metrics top.metrics record.metrics twin.1 (covered point source) (covered top known)
            (covered record member) better

theorem best_on_front (weights : Dict String ℚ) (signed : ∀ entry ∈ weights.entries, entry.2 ≠ 0) (first : ParetoPoint V)
    (rest : List (ParetoPoint V)) (covered : ∀ record ∈ first :: rest, Covers (weighted weights) record.metrics.values)
    (evaluated : ∀ record ∈ first :: rest, record.score = scalarize record.metrics.values (weighted weights)) :
    (∀ record ∈ first :: rest, record.score.le (bestRecord first rest).score = true) ∧
      bestRecord first rest ∈ paretoFront (first :: rest) (weighted weights) := by
  let mark (record : ParetoPoint V) : ℚ := MissingEvidence.score weights record.metrics.values
  have marked (record : ParetoPoint V) (member : record ∈ first :: rest) : record.score = .finite (mark record) := by
    rw [evaluated record member, scalarize_score]
  have found := best_first mark first rest marked
  generalize bestRecord first rest = best at found
  have known := Ranking.first_least_mem _ _ _ found
  have highest (record : ParetoPoint V) (member : record ∈ first :: rest) : mark record ≤ mark best :=
    neg_le_neg_iff.mp (Ranking.first_least_le _ _ best record found member)
  refine ⟨fun record member => ?_, ?_⟩
  · rw [marked record member, marked best known]
    exact decide_eq_true (highest record member)
  · have top : Nondominated (first :: rest) (weighted weights) best := by
      intro other member better
      have less := dominates_scores weights signed other.metrics.values best.metrics.values (covered other member)
        (covered best known) better
      exact absurd less (not_lt.mpr (highest other member))
    obtain ⟨before, after, split, ahead, -⟩ := found
    have reached := offered_represents (first :: rest) (weighted weights) before after [] best top
    rw [← split] at reached
    refine (mem_front _ _ best).mpr (reached.elim id (fun equal => ?_))
    obtain ⟨point, early, twin⟩ := equal
    rw [ParetoPoint.duplicate, Bool.and_eq_true] at twin
    cases offered_from _ _ before [] point early with
    | inl nowhere => exact absurd nowhere List.not_mem_nil
    | inr earlier =>
        have member : point ∈ first :: rest := by
          rw [split]
          exact List.mem_append_left _ earlier.1
        have same : mark point = mark best := same_score weights _ _ twin.1 (covered point member) (covered best known)
        have below : -mark best < -mark point := ahead point earlier.1
        rw [same] at below
        exact absurd below (lt_irrefl _)

-- What a backtest measures for the standard objectives.
def measured (profitFactor drawdown : ℚ) : ParetoPoint Unit :=
  let metrics : Statistics := ⟨Dict.empty.insertAll [("profit_factor", .finite profitFactor), ("sharpe", .finite 1),
    ("expectancy_r", .finite (1 / 5)), ("sqn", .finite 2), ("max_drawdown_pct", .finite drawdown)], fun _ => 0⟩
  ⟨.empty, metrics, scalarize metrics.values (weighted ({} : MultiObjectiveSettings).objectives)⟩

theorem measured_covers (profitFactor drawdown : ℚ) :
    Covers (weighted ({} : MultiObjectiveSettings).objectives) (measured profitFactor drawdown).metrics.values := by
  intro key present
  have named : key ∈ ["profit_factor", "sharpe", "expectancy_r", "sqn", "max_drawdown_pct"] := present
  have listed : (measured profitFactor drawdown).metrics.values.entries = [("profit_factor", .finite profitFactor), ("sharpe", .finite 1),
      ("expectancy_r", .finite (1 / 5)), ("sqn", .finite 2), ("max_drawdown_pct", .finite drawdown)] := rfl
  have found (value : ℚ) (member : (key, .finite value) ∈ (measured profitFactor drawdown).metrics.values.entries) :
      ∃ value : ℚ, (measured profitFactor drawdown).metrics.values.lookup key = some (.finite value) :=
    ⟨value, Dict.lookup_of_mem _ key _ member⟩
  rw [listed] at found
  simp only [List.mem_cons, List.not_mem_nil, or_false] at named
  obtain rfl | rfl | rfl | rfl | rfl := named
  · exact found profitFactor (by simp)
  · exact found 1 (by simp)
  · exact found (1 / 5) (by simp)
  · exact found 2 (by simp)
  · exact found drawdown (by simp)

theorem standard_signed : ∀ entry ∈ ({} : MultiObjectiveSettings).objectives.entries, entry.2 ≠ 0 := by
  intro entry member
  have listed : entry ∈ [("profit_factor", (1 : ℚ)), ("sharpe", 1), ("expectancy_r", 3 / 4), ("sqn", 1 / 2),
    ("max_drawdown_pct", -1 / 2)] := member
  simp only [List.mem_cons, List.not_mem_nil, or_false] at listed
  obtain rfl | rfl | rfl | rfl | rfl := listed <;> norm_num

section

variable (dice : Dice σ) (oracle : τ → Params V → Except PyError Statistics × τ)

-- No parameters are backtested twice.
def Once (asked : List (Params V × Except PyError Statistics)) : Prop :=
  asked.Pairwise (fun earlier later => (Genetic.key earlier.1 == Genetic.key later.1) = false)

-- What the closure of `evaluate` keeps of the backtests so far.
structure Accounted (made : Evaluations V) (asked : List (Params V × Except PyError Statistics)) : Prop where
  answered : asked = made.records.map (fun record => (record.params, .ok record.metrics))
  known : made.memo.map Prod.fst = made.records.map (fun record => Genetic.key record.params)
  once : Once asked

theorem once_next (made : Evaluations V) (asked : List (Params V × Except PyError Statistics)) (accounted : Accounted made asked)
    (params : Params V) (fresh : made.memo.find? (fun entry => entry.1 == Genetic.key params) = none)
    (answer : Except PyError Statistics) : Once (asked ++ [(params, answer)]) := by
  refine List.pairwise_append.mpr ⟨accounted.once, List.pairwise_singleton _ _, ?_⟩
  intro earlier member later last
  rw [accounted.answered] at member
  obtain ⟨record, listed, rfl⟩ := List.mem_map.mp member
  have stored : Genetic.key record.params ∈ made.memo.map Prod.fst := by
    rw [accounted.known]
    exact List.mem_map_of_mem listed
  obtain ⟨entry, inside, same⟩ := List.mem_map.mp stored
  rw [List.mem_singleton.mp last, ← same]
  exact Bool.eq_false_of_not_eq_true (List.find?_eq_none.mp fresh entry inside)

def Settled {α : Type} (asked : List (Params V × Except PyError Statistics))
    (outcome : Outcome (Params V) (Except PyError Statistics) (α × Evaluations V) σ τ) : Prop :=
  Once (asked ++ outcome.asked) ∧ ∀ value, outcome.result = .ok value → Accounted value.2 (asked ++ outcome.asked)

theorem through_settled (objectives : Dict String Extended) {α : Type} (search : Search V α) (made : Evaluations V)
    (asked : List (Params V × Except PyError Statistics)) (accounted : Accounted made asked) (s : σ) (t : τ) :
    Settled asked ((search.through (evaluate objectives) made).run dice oracle s t) := by
  induction search generalizing made asked s t with
  | done value =>
      rw [Settled, through, run, List.append_nil]
      exact ⟨accounted.once, fun _ same => Except.ok.inj same ▸ accounted⟩
  | raised error =>
      refine ⟨(List.append_nil asked).symm ▸ accounted.once, fun _ never => ?_⟩
      cases never
  | index bound resume ih => exact ih _ made asked accounted _ t
  | unit resume ih => exact ih _ made asked accounted _ t
  | normal resume ih => exact ih _ made asked accounted _ t
  | ask params resume ih =>
      rw [through, evaluate]
      cases fresh : made.memo.find? (fun entry => entry.1 == Genetic.key params) with
      | some entry => exact ih _ made asked accounted s t
      | none =>
          have once := once_next made asked accounted params fresh (oracle t params).1
          change let later := (((ofExcept (oracle t params).1).bind _).bind _).run dice oracle s (oracle t params).2
            Settled asked { later with asked := (params, (oracle t params).1) :: later.asked }
          cases given : (oracle t params).1 with
          | error raised =>
              rw [given] at once
              refine ⟨once, fun _ never => ?_⟩
              cases never
          | ok metrics =>
              rw [given] at once
              have next : Accounted ⟨made.memo ++ [(Genetic.key params, metrics)],
                  made.records ++ [⟨params, metrics, scalarize metrics.values objectives⟩]⟩ (asked ++ [(params, .ok metrics)]) :=
                ⟨by rw [accounted.answered, List.map_append]; rfl, by rw [List.map_append, List.map_append, accounted.known]; rfl, once⟩
              have later := ih (scalarize metrics.values objectives) _ _ next s (oracle t params).2
              rw [Settled, List.append_assoc] at later
              exact later

-- Whatever is drawn and answered, nothing is backtested twice, and all that a
-- search reports was backtested, the best point with it.
theorem backtests_accounted (settings : MultiObjectiveSettings) (space : ParameterSpace V) (s : σ) (t : τ) :
    let outcome := (optimize settings space).run dice oracle s t
    outcome.asked.Pairwise (fun earlier later => (Genetic.key earlier.1 == Genetic.key later.1) = false) ∧
      ∀ result, outcome.result = .ok result → result.evaluations = outcome.asked.length ∧
        (outcome.asked ≠ [] → (result.bestParams, .ok result.bestMetrics) ∈ outcome.asked) ∧
        ∀ point ∈ result.paretoFront, (point.params, .ok point.metrics) ∈ outcome.asked := by
  intro outcome
  obtain ⟨once, accounted⟩ := through_settled dice oracle (weighted settings.objectives)
    (Genetic.optimize "multi_objective" settings.search space) {} [] ⟨rfl, rfl, List.Pairwise.nil⟩ s t
  have ended := run_map dice oracle ((Genetic.optimize "multi_objective" settings.search space).through
    (evaluate (weighted settings.objectives)) {}) (fun ended => summarize (weighted settings.objectives) ended.2.records) s t
  change outcome = _ at ended
  rw [ended]
  refine ⟨once, ?_⟩
  intro result returned
  generalize run dice oracle _ s t = searched at accounted returned ⊢
  cases answered : searched.result with
  | error raised =>
      rw [answered] at returned
      cases returned
  | ok value =>
      have asked := (accounted value answered).answered
      rw [answered] at returned
      cases returned
      rw [List.nil_append] at asked
      dsimp only
      rw [asked]
      cases value.2.records with
      | nil => exact ⟨rfl, fun some_ => absurd rfl some_, List.forall_mem_nil _⟩
      | cons first rest =>
          refine ⟨(List.length_map _).symm, fun _ => List.mem_map.mpr ⟨_, best_record_mem first rest, rfl⟩, ?_⟩
          exact fun point member => List.mem_map.mpr ⟨point, (front_nondominated (first :: rest) _ point member).1, rfl⟩

end

end MultiObjectiveOptimizer

end QuantEngine.Research
