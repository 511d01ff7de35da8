import Mathlib.Algebra.Order.Field.Basic
import Mathlib.Data.List.Sort
import QuantEngine.Library.Decimal
import QuantEngine.Library.MidRanks

set_option autoImplicit false

namespace QuantEngine.Learning.Numeric

variable {K : Type} [LinearOrder K]

def clamp (value low high : K) : K := if value < low then low else if high < value then high else value

theorem clamp_bounds (value low high : K) (ordered : low ≤ high) : low ≤ clamp value low high ∧ clamp value low high ≤ high := by
  rw [clamp]
  split
  · exact ⟨le_refl _, ordered⟩
  · rename_i above
    split
    · exact ⟨ordered, le_refl _⟩
    · rename_i below
      exact ⟨not_lt.mp above, not_lt.mp below⟩

variable [Field K]

-- `log` stands for `math.log`.
def safeLog (log : K → K) (value : K) : K := log (if 1 / 10 ^ 12 < value then value else 1 / 10 ^ 12)

def giniImpurity (positives total : K) : K :=
  if total = 0 then 0
  else
    let p := positives / total
    2 * p * (1 - p)

def normalize (values : List K) : List K :=
  let total := values.sum
  if total ≤ 0 then values.map (fun _ => 1 / (values.length : K)) else values.map (fun value => value / total)

end QuantEngine.Learning.Numeric

namespace QuantEngine.Learning.Drift

open Decimal (roundHalfEven)
open Numeric (safeLog)

variable {α K : Type} [LinearOrder α]

def edgeIndex (n bins i : Nat) : Nat := min (n - 1) (roundHalfEven ((i : ℚ) / bins * n)).toNat

def quantileEdges (values : List α) (bins : Nat) : List α :=
  let ordered := values.insertionSort (· ≤ ·)
  let edges := (List.range' 1 (bins - 1)).filterMap (fun i => ordered[edgeIndex ordered.length bins i]?)
  edges.dedup.insertionSort (· ≤ ·)

-- The first edge that is not below the value, or one past the last.
def place (edges : List α) (value : α) : Nat := edges.findIdx (fun edge => decide (value ≤ edge))

def binCounts (values edges : List α) : List Nat :=
  values.foldl (fun counts value => counts.modify (place edges value) (· + 1)) (List.replicate (edges.length + 1) 0)

variable [Field K] [LinearOrder K]

def binFractions (values edges : List α) : List K :=
  let total : Nat := if values.length = 0 then 1 else values.length
  (binCounts values edges).map (fun count : Nat => (count : K) / (total : K))

def populationStabilityIndex (log : K → K) (reference current : List α) (bins : Nat) : K :=
  if reference.length < bins ∨ current = [] then 0
  else
    let edges := quantileEdges reference bins
    if edges = [] then 0
    else
      ((binFractions reference edges).zip (binFractions current edges)).foldl (fun psi pair =>
        let refF : K := max pair.1 (1 / 10 ^ 6)
        let curF : K := max pair.2 (1 / 10 ^ 6)
        psi + (curF - refF) * safeLog log (curF / refF)) 0

end QuantEngine.Learning.Drift

namespace QuantEngine.Learning.Drift

open Divergence

variable {α : Type} [LinearOrder α]

theorem bin_counts_from (edges values : List α) (counts : List Nat) (k : Nat) :
    (values.foldl (fun counts value => counts.modify (place edges value) (· + 1)) counts)[k]? =
      counts[k]?.map (· + values.countP (fun value => decide (place edges value = k))) := by
  induction values generalizing counts with
  | nil => simp
  | cons value values ih =>
      rw [List.foldl_cons, ih, List.getElem?_modify, List.countP_cons]
      by_cases here : place edges value = k
      · cases counts[k]? with
        | none => simp [here]
        | some count =>
            simp [here]
            omega
      · simp [here]

theorem bin_counts_eq (values edges : List α) : binCounts values edges =
    (List.range (edges.length + 1)).map (fun k => values.countP (fun value => decide (place edges value = k))) := by
  refine List.ext_getElem? (fun k => ?_)
  rw [binCounts, bin_counts_from, List.getElem?_map, List.getElem?_replicate]
  by_cases inside : k < edges.length + 1
  · simp [inside]
  · simp [inside]

noncomputable def share (values edges : List α) (k : Nat) : ℝ :=
  (values.countP (fun value => decide (place edges value = k)) : ℝ) / (values.length : ℝ)

-- The shares of a bin, as they are compared.
noncomputable def cells (reference current edges : List α) : List (ℝ × ℝ) :=
  (List.range (edges.length + 1)).map (fun k =>
    (max (share reference edges k) (1 / 10 ^ 6), max (share current edges k) (1 / 10 ^ 6)))

theorem bin_fractions_eq (values edges : List α) (some_value : values ≠ []) :
    (binFractions values edges : List ℝ) = (List.range (edges.length + 1)).map (share values edges) := by
  have length : values.length ≠ 0 := fun none => some_value (List.length_eq_zero_iff.mp none)
  simp only [binFractions, bin_counts_eq, List.map_map, if_neg length]
  rfl

theorem share_bounds (values edges : List α) (k : Nat) : 0 ≤ share values edges k ∧ share values edges k ≤ 1 := by
  have within : (values.countP (fun value => decide (place edges value = k)) : ℝ) ≤ (values.length : ℝ) := by
    exact_mod_cast List.countP_le_length
  exact ⟨div_nonneg (Nat.cast_nonneg _) (Nat.cast_nonneg _), div_le_one_of_le₀ within (Nat.cast_nonneg _)⟩

theorem share_one_iff (values edges : List α) (some_value : values ≠ []) (k : Nat) :
    share values edges k = 1 ↔ ∀ value ∈ values, place edges value = k := by
  have length : (values.length : ℝ) ≠ 0 := Nat.cast_ne_zero.mpr (fun none => some_value (List.length_eq_zero_iff.mp none))
  rw [share, div_eq_one_iff_eq length, Nat.cast_inj, List.countP_eq_length]
  simp

theorem full_share (values edges : List α) (some_value : values ≠ []) (k : Nat) (all : ∀ value ∈ values, place edges value = k) :
    max (share values edges k) (1 / 10 ^ 6) = 1 := by
  rw [(share_one_iff values edges some_value k).mpr all]
  norm_num

theorem part_share (values edges : List α) (some_value : values ≠ []) (k : Nat) (value : α) (member : value ∈ values)
    (elsewhere : place edges value ≠ k) : max (share values edges k) (1 / 10 ^ 6) ≠ 1 := by
  have less : share values edges k < 1 := by
    refine lt_of_le_of_ne (share_bounds values edges k).2 (fun one => elsewhere ?_)
    exact (share_one_iff values edges some_value k).mp one value member
  exact ne_of_lt (max_lt less (by norm_num))

theorem share_zero (values edges : List α) (k other : Nat) (apart : k ≠ other) (all : ∀ value ∈ values, place edges value = other) :
    share values edges k = 0 := by
  have none : values.countP (fun value => decide (place edges value = k)) = 0 :=
    List.countP_eq_zero.mpr (fun value member => by simpa [all value member] using apart.symm)
  rw [share, none, Nat.cast_zero, zero_div]

theorem cells_positive (reference current edges : List α) : Positive (cells reference current edges) := by
  intro pair member
  obtain ⟨k, -, rfl⟩ := List.mem_map.mp member
  have floor : (0 : ℝ) < 1 / 10 ^ 6 := by norm_num
  exact ⟨lt_of_lt_of_le floor (le_max_right _ _), lt_of_lt_of_le floor (le_max_right _ _)⟩

-- Neither argument of the logarithm is near its floor.
theorem safe_log_eq (p q : ℝ) (within : p ≤ 1) : Numeric.safeLog Real.log (max q (1 / 10 ^ 6) / max p (1 / 10 ^ 6)) =
    Real.log (max q (1 / 10 ^ 6) / max p (1 / 10 ^ 6)) := by
  have above : (1 : ℝ) / 10 ^ 12 < max q (1 / 10 ^ 6) / max p (1 / 10 ^ 6) := by
    have low : (1 : ℝ) / 10 ^ 6 ≤ max q (1 / 10 ^ 6) := le_max_right _ _
    have high : max p (1 / 10 ^ 6) ≤ 1 := max_le within (by norm_num)
    have positive : (0 : ℝ) < max p (1 / 10 ^ 6) := lt_of_lt_of_le (by norm_num) (le_max_right _ _)
    rw [lt_div_iff₀ positive]
    nlinarith
  rw [Numeric.safeLog, if_pos above]

theorem fold_sum {β : Type} (f : β → ℝ) (items : List β) (start : ℝ) :
    items.foldl (fun total item => total + f item) start = start + (items.map f).sum := by
  induction items generalizing start with
  | nil => simp
  | cons item items ih => rw [List.foldl_cons, ih, List.map_cons, List.sum_cons, add_assoc]

theorem psi_eq (reference current : List α) (bins : Nat) (enough : bins ≤ reference.length) (some_reference : reference ≠ [])
    (some_current : current ≠ []) (some_edge : quantileEdges reference bins ≠ []) :
    populationStabilityIndex Real.log reference current bins =
      divergence (cells reference current (quantileEdges reference bins)) := by
  simp only [populationStabilityIndex]
  rw [if_neg (by simp [enough, some_current]), if_neg some_edge, bin_fractions_eq _ _ some_reference,
    bin_fractions_eq _ _ some_current, List.zip_map', fold_sum, zero_add, divergence, cells, List.map_map, List.map_map]
  congr 1
  refine List.map_congr_left (fun k _ => ?_)
  simp only [Function.comp_apply]
  rw [safe_log_eq _ _ (share_bounds reference _ k).2, cell]

noncomputable abbrev psi (reference current : List α) (bins : Nat) : ℝ :=
  populationStabilityIndex Real.log reference current bins

def lowestEdge (reference : List α) (bins : Nat) : Option α :=
  (reference.insertionSort (· ≤ ·))[edgeIndex reference.length bins 1]?

def Above (values others : List α) : Prop := ∀ value ∈ values, ∀ other ∈ others, other < value

-- No value is above the lowest edge: the reference lies in one bin.
def Flat (reference : List α) (bins : Nat) : Prop := ∀ edge ∈ lowestEdge reference bins, ∀ value ∈ reference, value ≤ edge

structure Detects (reference current : List α) (bins : Nat) : Prop where
  nonneg : 0 ≤ psi reference current bins
  same : current.Perm reference → psi reference current bins = 0
  unordered : ∀ others rest, others.Perm reference → rest.Perm current → psi others rest bins = psi reference current bins
  shifted : Above current reference ∨ Above reference current → 0 < psi reference current bins

theorem edge_index_mono (n bins i j : Nat) (le : i ≤ j) : edgeIndex n bins i ≤ edgeIndex n bins j := by
  have scaled : (i : ℚ) / bins * n ≤ (j : ℚ) / bins * n := by
    have : (i : ℚ) ≤ j := by exact_mod_cast le
    gcongr
  exact min_le_min (le_refl _) (Int.toNat_le_toNat (Decimal.round_mono _ _ scaled))

theorem sorted_perm (values others : List α) (perm : values.Perm others) :
    values.insertionSort (· ≤ ·) = others.insertionSort (· ≤ ·) := by
  refine List.Perm.eq_of_pairwise (fun a b _ _ => le_antisymm) (List.pairwise_insertionSort _ _)
    (List.pairwise_insertionSort _ _) ?_
  exact ((List.perm_insertionSort _ _).trans perm).trans (List.perm_insertionSort _ _).symm

theorem edges_perm (values others : List α) (bins : Nat) (perm : values.Perm others) :
    quantileEdges values bins = quantileEdges others bins := by
  rw [quantileEdges, quantileEdges, sorted_perm values others perm]

theorem share_perm (values others edges : List α) (k : Nat) (perm : values.Perm others) :
    share values edges k = share others edges k := by
  rw [share, share, perm.countP_eq, perm.length_eq]

theorem mem_edges (reference : List α) (bins : Nat) (edge : α) : edge ∈ quantileEdges reference bins ↔
    ∃ i, 1 ≤ i ∧ i < bins ∧ (reference.insertionSort (· ≤ ·))[edgeIndex reference.length bins i]? = some edge := by
  rw [quantileEdges, List.mem_insertionSort, List.mem_dedup, List.mem_filterMap, List.length_insertionSort]
  constructor
  · rintro ⟨i, inside, found⟩
    rw [List.mem_range'_1] at inside
    exact ⟨i, inside.1, by omega, found⟩
  · rintro ⟨i, low, high, found⟩
    exact ⟨i, List.mem_range'_1.mpr ⟨low, by omega⟩, found⟩

theorem edge_known (reference : List α) (bins : Nat) (edge : α) (member : edge ∈ quantileEdges reference bins) :
    edge ∈ reference := by
  obtain ⟨i, -, -, found⟩ := (mem_edges reference bins edge).mp member
  exact (List.mem_insertionSort _).mp (List.mem_of_getElem? found)

section

variable (reference current : List α) (bins : Nat) (two : 2 ≤ bins) (enough : bins ≤ reference.length)

include two enough

theorem lowest_some : ∃ edge, lowestEdge reference bins = some edge := by
  have inside : edgeIndex reference.length bins 1 < (reference.insertionSort (· ≤ ·)).length := by
    rw [List.length_insertionSort, edgeIndex]
    omega
  exact ⟨_, List.getElem?_eq_getElem inside⟩

-- The edges in order begin with the lowest.
omit enough in
theorem edges_lowest (edge : α) (lowest : lowestEdge reference bins = some edge) :
    ∃ rest, quantileEdges reference bins = edge :: rest := by
  have member : edge ∈ quantileEdges reference bins := (mem_edges reference bins edge).mpr ⟨1, le_refl _, two, lowest⟩
  have least (other : α) (here : other ∈ quantileEdges reference bins) : edge ≤ other := by
    obtain ⟨i, low, -, found⟩ := (mem_edges reference bins other).mp here
    obtain ⟨first, rfl⟩ := List.getElem?_eq_some_iff.mp lowest
    obtain ⟨second, rfl⟩ := List.getElem?_eq_some_iff.mp found
    have sorted := List.pairwise_iff_getElem.mp (List.pairwise_insertionSort (· ≤ ·) reference)
    rcases Nat.eq_or_lt_of_le (edge_index_mono reference.length bins 1 i low) with same | less
    · exact le_of_eq (by congr 1)
    · exact sorted _ _ first second less
  have sorted : (quantileEdges reference bins).Pairwise (· ≤ ·) := List.pairwise_insertionSort _ _
  cases split : quantileEdges reference bins with
  | nil =>
      rw [split] at member
      cases member
  | cons head rest =>
      rw [split] at member sorted least
      have below : head ≤ edge := by
        rcases List.mem_cons.mp member with same | later
        · exact le_of_eq same.symm
        · exact (List.pairwise_cons.mp sorted).1 edge later
      exact ⟨rest, by rw [le_antisymm below (least head List.mem_cons_self)]⟩

omit enough in
theorem place_zero_iff (edge : α) (lowest : lowestEdge reference bins = some edge) (value : α) :
    place (quantileEdges reference bins) value = 0 ↔ value ≤ edge := by
  obtain ⟨rest, split⟩ := edges_lowest reference bins two edge lowest
  rw [split, place, List.findIdx_cons]
  by_cases below : value ≤ edge
  · simp [below]
  · simp [below]

end

theorem place_past_iff (edges : List α) (value : α) : place edges value = edges.length ↔ ∀ edge ∈ edges, edge < value := by
  rw [place, List.findIdx_eq_length]
  simp

section

variable (reference current : List α) (bins : Nat) (two : 2 ≤ bins) (enough : bins ≤ reference.length)
  (some_current : current ≠ [])

include two enough some_current

theorem psi_divergence :
    psi reference current bins = divergence (cells reference current (quantileEdges reference bins)) := by
  obtain ⟨edge, lowest⟩ := lowest_some reference bins two enough
  obtain ⟨rest, split⟩ := edges_lowest reference bins two edge lowest
  refine psi_eq reference current bins enough (List.ne_nil_of_length_pos (by omega)) some_current ?_
  rw [split]
  exact List.cons_ne_nil _ _

theorem psi_nonneg : 0 ≤ psi reference current bins := by
  rw [psi_divergence reference current bins two enough some_current]
  exact divergence_nonneg _ (cells_positive _ _ _)

theorem psi_zero_iff : psi reference current bins = 0 ↔ ∀ k ≤ (quantileEdges reference bins).length,
    max (share reference (quantileEdges reference bins) k) (1 / 10 ^ 6) =
      max (share current (quantileEdges reference bins) k) (1 / 10 ^ 6) := by
  rw [psi_divergence reference current bins two enough some_current, divergence_zero_iff _ (cells_positive _ _ _)]
  simp [cells]

theorem psi_unordered (others rest : List α) (one : others.Perm reference) (two_ : rest.Perm current) :
    psi others rest bins = psi reference current bins := by
  have some_rest : rest ≠ [] := fun none => some_current (List.nil_perm.mp (none ▸ two_))
  rw [psi_divergence reference current bins two enough some_current,
    psi_divergence others rest bins two (by rwa [one.length_eq]) some_rest, cells, cells, edges_perm others reference bins one]
  simp only [share_perm others reference _ _ one, share_perm rest current _ _ two_]

-- Past the last edge lies only a part of the reference.
theorem above_detected (above : Above current reference) : 0 < psi reference current bins := by
  refine lt_of_le_of_ne (psi_nonneg reference current bins two enough some_current) (fun zero => ?_)
  obtain ⟨edge, lowest⟩ := lowest_some reference bins two enough
  obtain ⟨rest, split⟩ := edges_lowest reference bins two edge lowest
  have known : edge ∈ reference := edge_known reference bins edge (by simp [split])
  have elsewhere : place (quantileEdges reference bins) edge ≠ (quantileEdges reference bins).length := by
    rw [(place_zero_iff reference bins two edge lowest edge).mpr (le_refl _), split]
    exact (Nat.succ_ne_zero _).symm
  have past (value : α) (member : value ∈ current) :
      place (quantileEdges reference bins) value = (quantileEdges reference bins).length :=
    (place_past_iff _ value).mpr (fun other here => above value member other (edge_known reference bins other here))
  have last := (psi_zero_iff reference current bins two enough some_current).mp zero.symm _ (le_refl _)
  rw [full_share current _ some_current _ past] at last
  exact part_share reference _ (List.ne_nil_of_mem known) _ edge known elsewhere last

-- All values below the reference share the first bin with a flat one.
theorem below_detected_iff (below : Above reference current) : 0 < psi reference current bins ↔ ¬ Flat reference bins := by
  obtain ⟨edge, lowest⟩ := lowest_some reference bins two enough
  obtain ⟨rest, split⟩ := edges_lowest reference bins two edge lowest
  have known : edge ∈ reference := edge_known reference bins edge (by simp [split])
  have some_reference := List.ne_nil_of_mem known
  have first (value : α) (member : value ∈ current) : place (quantileEdges reference bins) value = 0 :=
    (place_zero_iff reference bins two edge lowest value).mpr (below edge known value member).le
  have flat : Flat reference bins ↔ ∀ value ∈ reference, place (quantileEdges reference bins) value = 0 := by
    simp only [Flat, lowest, Option.mem_some_iff, forall_eq', place_zero_iff reference bins two edge lowest]
  rw [lt_iff_le_and_ne, and_iff_right (psi_nonneg reference current bins two enough some_current), ne_comm, not_iff_not.symm,
    not_not, not_not, psi_zero_iff reference current bins two enough some_current, flat]
  constructor
  · intro equal value member
    by_contra elsewhere
    refine part_share reference _ some_reference 0 value member elsewhere ?_
    rw [equal 0 (Nat.zero_le _), full_share current _ some_current 0 first]
  · intro all k _
    by_cases zero : k = 0
    · rw [zero, full_share reference _ some_reference 0 all, full_share current _ some_current 0 first]
    · rw [share_zero reference _ k 0 zero all, share_zero current _ k 0 zero first]

theorem detects_iff : Detects reference current bins ↔ ¬ (Above reference current ∧ Flat reference bins) := by
  constructor
  · rintro detects ⟨below, flat⟩
    exact (below_detected_iff reference current bins two enough some_current below).mp (detects.shifted (.inr below)) flat
  · intro apart
    refine ⟨psi_nonneg reference current bins two enough some_current, fun same => ?_,
      psi_unordered reference current bins two enough some_current, fun shift => ?_⟩
    · refine (psi_zero_iff reference current bins two enough some_current).mpr (fun k _ => ?_)
      rw [share_perm current reference _ k same]
    · rcases shift with above | below
      · exact above_detected reference current bins two enough some_current above
      · exact (below_detected_iff reference current bins two enough some_current below).mpr (fun flat => apart ⟨below, flat⟩)

end

theorem detects_iff_spread : Detects [(1 : ℚ), 2] [0] 2 ↔ ¬ (Above [(1 : ℚ), 2] [0] ∧ Flat [(1 : ℚ), 2] 2) :=
  detects_iff [1, 2] [0] 2 (le_refl _) (le_refl _) (List.cons_ne_nil _ _)

-- A constant feature drops from 1 to 0.
theorem constant_undetected : psi (List.replicate 10 (1 : ℚ)) [0] 10 = 0 ∧ Above (List.replicate 10 (1 : ℚ)) [0] ∧
    ¬ Detects (List.replicate 10 (1 : ℚ)) [0] 10 := by
  have below : Above (List.replicate 10 (1 : ℚ)) [0] := by
    intro value member other here
    rw [List.eq_of_mem_replicate member, List.mem_singleton.mp here]
    norm_num
  have flat : Flat (List.replicate 10 (1 : ℚ)) 10 := by
    intro edge lowest value member
    have known := (List.mem_insertionSort _).mp (List.mem_of_getElem? lowest)
    rw [List.eq_of_mem_replicate known, List.eq_of_mem_replicate member]
  have silent := mt (below_detected_iff (List.replicate 10 (1 : ℚ)) [0] 10 (by decide) (by decide) (List.cons_ne_nil _ _) below).mp
    (not_not.mpr flat)
  have nonneg := psi_nonneg (List.replicate 10 (1 : ℚ)) [0] 10 (by decide) (by decide) (List.cons_ne_nil _ _)
  exact ⟨le_antisymm (not_lt.mp silent) nonneg, below, fun detects => silent (detects.shifted (.inr below))⟩

end QuantEngine.Learning.Drift
