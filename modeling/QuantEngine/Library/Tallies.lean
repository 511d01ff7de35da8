import Mathlib.Algebra.BigOperators.Group.List.Basic
import Mathlib.Algebra.BigOperators.Ring.List
import Mathlib.Algebra.Order.BigOperators.Group.List
import Mathlib.Algebra.Order.Field.Basic
import Mathlib.Algebra.Order.Ring.Abs
import Mathlib.Data.List.Basic
import Mathlib.Tactic.Linarith
import Mathlib.Tactic.Ring

set_option autoImplicit false

namespace QuantEngine.Merging

variable {β M : Type}

-- The summary of a nonempty list: its items merged from the left.
def combine (merge : β → β → β) : List β → Option β
  | [] => none
  | first :: rest => some (rest.foldl merge first)

section

variable (merge : β → β → β)

theorem combine_snoc (items : List β) (total last : β) (summary : combine merge items = some total) :
    combine merge (items ++ [last]) = some (merge total last) := by
  cases items with
  | nil => cases summary
  | cons first rest =>
      cases summary
      simp only [List.cons_append, combine, List.foldl_append, List.foldl_cons, List.foldl_nil]

theorem combine_holds (P : β → Prop) (keeps : ∀ a b, P a → P b → P (merge a b)) (items : List β) (total : β)
    (summary : combine merge items = some total) (all : ∀ item ∈ items, P item) : P total := by
  cases items with
  | nil => cases summary
  | cons first rest =>
      cases summary
      have held := all first List.mem_cons_self
      have later : ∀ item ∈ rest, P item := fun item member => all item (List.mem_cons_of_mem first member)
      clear all
      induction rest generalizing first with
      | nil => exact held
      | cons second rest ih =>
          exact ih (merge first second) (keeps first second held (later second List.mem_cons_self))
            (fun item member => later item (List.mem_cons_of_mem second member))

theorem combine_any (P : β → Prop) (either : ∀ a b, P (merge a b) ↔ P a ∨ P b) (items : List β) (total : β)
    (summary : combine merge items = some total) : P total ↔ ∃ item ∈ items, P item := by
  cases items with
  | nil => cases summary
  | cons first rest =>
      cases summary
      induction rest generalizing first with
      | nil => simp
      | cons second rest ih =>
          rw [List.foldl_cons, ih (merge first second)]
          simp only [List.exists_mem_cons_iff, either, or_assoc]

theorem combine_sum [AddMonoid M] (f : β → M) (additive : ∀ a b, f (merge a b) = f a + f b) (items : List β)
    (total : β) (summary : combine merge items = some total) : f total = (items.map f).sum := by
  cases items with
  | nil => cases summary
  | cons first rest =>
      cases summary
      induction rest generalizing first with
      | nil => simp
      | cons second rest ih =>
          have step := ih (merge first second)
          rw [List.map_cons, List.sum_cons, additive] at step
          rw [List.foldl_cons, step, List.map_cons, List.map_cons, List.sum_cons, List.sum_cons, add_assoc]

variable (assoc : ∀ a b c, merge (merge a b) c = merge a (merge b c))

include assoc

theorem foldl_merge (first second : β) (rest : List β) :
    rest.foldl merge (merge first second) = merge first (rest.foldl merge second) := by
  induction rest generalizing second with
  | nil => rfl
  | cons third rest ih => rw [List.foldl_cons, List.foldl_cons, assoc, ih]

theorem combine_append (left right : List β) (a b : β) (ofLeft : combine merge left = some a)
    (ofRight : combine merge right = some b) : combine merge (left ++ right) = some (merge a b) := by
  cases left with
  | nil => cases ofLeft
  | cons first rest =>
      cases right with
      | nil => cases ofRight
      | cons second others =>
          cases ofLeft
          cases ofRight
          rw [List.cons_append, combine, List.foldl_append, List.foldl_cons, foldl_merge merge assoc]

theorem combine_groups (groups : List (List β × β)) (each : ∀ group ∈ groups, combine merge group.1 = some group.2) :
    combine merge (groups.flatMap Prod.fst) = combine merge (groups.map Prod.snd) := by
  induction groups with
  | nil => rfl
  | cons group rest ih =>
      have here := each group List.mem_cons_self
      have later := ih (fun other member => each other (List.mem_cons_of_mem group member))
      cases rest with
      | nil =>
          rw [List.flatMap_cons, List.flatMap_nil, List.append_nil, here]
          rfl
      | cons next others =>
          rw [List.flatMap_cons, List.map_cons]
          rw [List.map_cons] at later ⊢
          rw [combine_append merge assoc group.1 _ group.2 _ here later, combine, List.foldl_cons,
            foldl_merge merge assoc]

end

end QuantEngine.Merging

namespace QuantEngine.Scatter

section

variable {M : Type} [AddCommMonoid M]

-- One amount added at one place of a grid.
def deposit (grid : List M) (entry : Nat × M) : List M := grid.modify entry.1 (· + entry.2)

def scatter (grid : List M) (entries : List (Nat × M)) : List M := entries.foldl deposit grid

theorem deposit_length (grid : List M) (entry : Nat × M) : (deposit grid entry).length = grid.length :=
  List.length_modify _ _ _

theorem scatter_length (grid : List M) (entries : List (Nat × M)) : (scatter grid entries).length = grid.length := by
  induction entries generalizing grid with
  | nil => rfl
  | cons entry rest ih => rw [scatter, List.foldl_cons, ← scatter, ih, deposit_length]

theorem deposit_sum (grid : List M) (entry : Nat × M) (inside : entry.1 < grid.length) :
    (deposit grid entry).sum = grid.sum + entry.2 := by
  obtain ⟨place, amount⟩ := entry
  induction grid generalizing place with
  | nil => cases inside
  | cons value rest ih =>
      cases place with
      | zero =>
          rw [deposit, List.modify_zero_cons, List.sum_cons, List.sum_cons, add_right_comm]
      | succ place =>
          have onward := ih place (Nat.lt_of_succ_lt_succ inside)
          rw [deposit] at onward ⊢
          rw [List.modify_succ_cons, List.sum_cons, List.sum_cons, onward, add_assoc]

-- What is deposited inside the grid is all there.
theorem scatter_sum (grid : List M) (entries : List (Nat × M)) (inside : ∀ entry ∈ entries, entry.1 < grid.length) :
    (scatter grid entries).sum = grid.sum + (entries.map Prod.snd).sum := by
  induction entries generalizing grid with
  | nil => rw [List.map_nil, List.sum_nil, add_zero]; rfl
  | cons entry rest ih =>
      have later (other : Nat × M) (member : other ∈ rest) : other.1 < (deposit grid entry).length := by
        rw [deposit_length]
        exact inside other (List.mem_cons_of_mem _ member)
      rw [scatter, List.foldl_cons, ← scatter, ih _ later, deposit_sum grid entry (inside entry List.mem_cons_self),
        List.map_cons, List.sum_cons, add_assoc]

end

section

variable {K : Type} [LinearOrder K]

-- A number held between two bounds.
def clamp (low high x : K) : K := max low (min high x)

theorem clamp_below (low high x : K) (ordered : low ≤ high) (below : x ≤ low) : clamp low high x = low := by
  rw [clamp, min_eq_right (below.trans ordered), max_eq_left below]

theorem clamp_above (low high x : K) (ordered : low ≤ high) (above : high ≤ x) : clamp low high x = high := by
  rw [clamp, min_eq_left above, max_eq_right ordered]

end

section

variable {K : Type} [Field K] [LinearOrder K] [IsStrictOrderedRing K]

theorem deposit_nonneg (grid : List K) (entry : Nat × K) (positive : 0 ≤ entry.2) (nonneg : ∀ value ∈ grid, 0 ≤ value) :
    ∀ value ∈ deposit grid entry, 0 ≤ value := by
  intro value member
  obtain ⟨place, found⟩ := List.mem_iff_getElem?.mp member
  rw [deposit, List.getElem?_modify] at found
  obtain ⟨old, there, rfl⟩ := Option.map_eq_some_iff.mp found
  have before := nonneg old (List.mem_of_getElem? there)
  split
  · exact add_nonneg before positive
  · exact before

theorem scatter_nonneg (grid : List K) (entries : List (Nat × K)) (positive : ∀ entry ∈ entries, 0 ≤ entry.2)
    (nonneg : ∀ value ∈ grid, 0 ≤ value) : ∀ value ∈ scatter grid entries, 0 ≤ value := by
  induction entries generalizing grid with
  | nil => exact nonneg
  | cons entry rest ih =>
      refine ih _ (fun other member => positive other (List.mem_cons_of_mem _ member)) ?_
      exact deposit_nonneg grid entry (positive entry List.mem_cons_self) nonneg

-- What two intervals share, as a difference of the clamped ends of one of them.
theorem overlap_clamp (low high a b : K) (ordered : low ≤ high) (upward : a ≤ b) :
    max 0 (min high b - max low a) = clamp low high b - clamp low high a := by
  rcases le_total b low with left | right
  · rw [clamp_below low high b ordered left, clamp_below low high a ordered (upward.trans left), sub_self,
      min_eq_right (left.trans ordered), max_eq_left (upward.trans left)]
    exact max_eq_left (sub_nonpos.mpr left)
  · rcases le_total high a with beyond | before
    · rw [clamp_above low high a ordered beyond, clamp_above low high b ordered (beyond.trans upward), sub_self,
        min_eq_left (beyond.trans upward), max_eq_right (ordered.trans beyond)]
      exact max_eq_left (sub_nonpos.mpr beyond)
    · have first : clamp low high b = min high b := by
        rw [clamp]
        exact max_eq_right (le_min ordered right)
      have second : clamp low high a = max low a := by rw [clamp, min_eq_right before]
      rw [first, second]
      exact max_eq_right (sub_nonneg.mpr (max_le (le_min ordered right) (le_min before upward)))

-- Cells side by side share with an interval what lies between their outer ends.
theorem overlap_sum (low high : K) (ordered : low ≤ high) (edge : Nat → K) (upward : Monotone edge) (first count : Nat) :
    ((List.range' first count).map (fun i => max 0 (min high (edge (i + 1)) - max low (edge i)))).sum =
      clamp low high (edge (first + count)) - clamp low high (edge first) := by
  induction count generalizing first with
  | zero => rw [List.range'_zero, List.map_nil, List.sum_nil, Nat.add_zero, sub_self]
  | succ count ih =>
      rw [List.range'_succ, List.map_cons, List.sum_cons, ih, overlap_clamp _ _ _ _ ordered (upward (Nat.le_succ first)),
        Nat.add_right_comm, Nat.add_assoc, add_comm, sub_add_sub_cancel]

end

end QuantEngine.Scatter

namespace QuantEngine.Tallies

variable {α β K : Type}

-- The voters of one camp: what they weigh together, and their points, each
-- taken as often as the voter weighs.
@[ext]
structure Camp (K : Type) where
  mass : K
  points : K

@[ext]
structure Poll (K : Type) where
  fore : Camp K
  against : Camp K

section Sums

variable [CommRing K]

def camp (weight points : α → K) (voters : List α) : Camp K where
  mass := (voters.map weight).sum
  points := (voters.map (fun voter => points voter * weight voter)).sum

-- A voter that neither predicate holds of is in no camp.
def poll (fore against : α → Bool) (weight points : α → K) (voters : List α) : Poll K where
  fore := camp weight points (voters.filter fore)
  against := camp weight points (voters.filter against)

def Camp.scale (c : K) (camp : Camp K) : Camp K := ⟨c * camp.mass, c * camp.points⟩

namespace Poll

def total (poll : Poll K) : K := poll.fore.mass + poll.against.mass

def lead (poll : Poll K) : K := poll.fore.points - poll.against.points

def swap (poll : Poll K) : Poll K := ⟨poll.against, poll.fore⟩

def scale (c : K) (poll : Poll K) : Poll K := ⟨poll.fore.scale c, poll.against.scale c⟩

@[simp]
theorem swap_total (poll : Poll K) : poll.swap.total = poll.total := add_comm _ _

@[simp]
theorem swap_lead (poll : Poll K) : poll.swap.lead = -poll.lead := (neg_sub _ _).symm

@[simp]
theorem scale_total (c : K) (poll : Poll K) : (poll.scale c).total = c * poll.total := (mul_add _ _ _).symm

@[simp]
theorem scale_lead (c : K) (poll : Poll K) : (poll.scale c).lead = c * poll.lead := (mul_sub _ _ _).symm

end Poll

theorem camp_perm (weight points : α → K) (voters others : List α) (perm : voters.Perm others) :
    camp weight points voters = camp weight points others :=
  Camp.ext (perm.map _).sum_eq (perm.map _).sum_eq

-- The order of the voters does not count.
theorem poll_perm (fore against : α → Bool) (weight points : α → K) (voters others : List α) (perm : voters.Perm others) :
    poll fore against weight points voters = poll fore against weight points others :=
  Poll.ext (camp_perm weight points _ _ (perm.filter fore)) (camp_perm weight points _ _ (perm.filter against))

theorem camp_map (weight points : α → K) (change : β → α) (voters : List β) :
    camp weight points (voters.map change) = camp (weight ∘ change) (points ∘ change) voters := by
  simp only [camp, List.map_map]
  rfl

-- Voters that all change camp and keep their weight and points swap the poll.
theorem poll_swapped (fore against : α → Bool) (weight points : α → K) (change : α → α) (voters : List α)
    (toAgainst : fore ∘ change = against) (toFore : against ∘ change = fore) (sameWeight : weight ∘ change = weight)
    (samePoints : points ∘ change = points) :
    poll fore against weight points (voters.map change) = (poll fore against weight points voters).swap := by
  simp only [poll, Poll.swap, List.filter_map, camp_map, toAgainst, toFore, sameWeight, samePoints]

theorem camp_scaled (c : K) (weight points : α → K) (voters : List α) :
    camp (fun voter => c * weight voter) points voters = (camp weight points voters).scale c := by
  apply Camp.ext
  · exact List.sum_map_mul_left voters weight c
  · simp only [camp, Camp.scale, mul_left_comm _ c, List.sum_map_mul_left]

theorem poll_scaled (c : K) (fore against : α → Bool) (weight points : α → K) (voters : List α) :
    poll fore against (fun voter => c * weight voter) points voters = (poll fore against weight points voters).scale c := by
  simp only [poll, Poll.scale, camp_scaled]

end Sums

section Bounds

variable [CommRing K] [LinearOrder K] [IsStrictOrderedRing K]

structure Camp.Within (top : K) (camp : Camp K) : Prop where
  mass : 0 ≤ camp.mass
  points : 0 ≤ camp.points
  below : camp.points ≤ top * camp.mass

structure Poll.Within (top : K) (poll : Poll K) : Prop where
  fore : poll.fore.Within top
  against : poll.against.Within top

theorem camp_within (top : K) (weight points : α → K) (voters : List α) (nonneg : ∀ voter ∈ voters, 0 ≤ weight voter)
    (bounded : ∀ voter, 0 ≤ points voter ∧ points voter ≤ top) : (camp weight points voters).Within top where
  mass := List.sum_nonneg (List.forall_mem_map.mpr nonneg)
  points := List.sum_nonneg (List.forall_mem_map.mpr
    (fun voter member => mul_nonneg (bounded voter).1 (nonneg voter member)))
  below := by
    rw [camp, ← List.sum_map_mul_left]
    exact List.sum_le_sum (fun voter member => mul_le_mul_of_nonneg_right (bounded voter).2 (nonneg voter member))

theorem poll_within (top : K) (fore against : α → Bool) (weight points : α → K) (voters : List α)
    (nonneg : ∀ voter, 0 ≤ weight voter) (bounded : ∀ voter, 0 ≤ points voter ∧ points voter ≤ top) :
    (poll fore against weight points voters).Within top where
  fore := camp_within top weight points _ (fun voter _ => nonneg voter) bounded
  against := camp_within top weight points _ (fun voter _ => nonneg voter) bounded

-- Whoever leads, the lead is no more than the points of one camp alone.
theorem lead_within (top : K) (poll : Poll K) (within : poll.Within top) : |poll.lead| ≤ top * poll.total := by
  have fore := within.fore
  have against := within.against
  rw [Poll.total, mul_add, abs_le, Poll.lead]
  constructor
  · linarith [fore.points, fore.below, against.below]
  · linarith [against.points, fore.below, against.below]

end Bounds

end QuantEngine.Tallies
