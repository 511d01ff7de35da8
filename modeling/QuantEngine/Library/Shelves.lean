import QuantEngine.Library.Dict
import Mathlib.Algebra.Order.Group.Multiset
import Mathlib.Data.Multiset.Filter

set_option autoImplicit false

namespace QuantEngine

-- A dictionary of lists, a missing key being an empty list.
abbrev Shelves (κ α : Type) := Dict κ (List α)

namespace Shelves

variable {κ α : Type}

def shelf [DecidableEq κ] (d : Shelves κ α) (key : κ) : List α := (d.lookup key).getD []

def bag (entry : κ × List α) : Multiset α := entry.2

-- What the shelves hold together, each item as often as it is there.
def contents (d : Shelves κ α) : Multiset α := Dict.total bag d

def sift (p : α → Bool) (d : Shelves κ α) : Shelves κ α :=
  ⟨d.entries.map (fun entry => (entry.1, entry.2.filter p)), by
    rw [List.map_map]
    exact d.unique⟩

theorem bag_filter (p : α → Bool) (key : κ) (items : List α) :
    bag (key, items.filter p) = (bag (key, items)).filter (fun item => p item = true) := by
  have coerced := Multiset.filter_coe (fun item => p item = true) items
  simp only [Bool.decide_eq_true] at coerced
  exact coerced.symm

theorem contents_sift (p : α → Bool) (d : Shelves κ α) :
    contents (sift p d) = (contents d).filter (fun item => p item = true) := by
  simp only [contents, Dict.total, sift, List.map_map]
  induction d.entries with
  | nil => rfl
  | cons entry rest ih =>
      rw [List.map_cons, List.sum_cons, ih, List.map_cons, List.sum_cons, Multiset.filter_add, ← bag_filter]
      rfl

theorem contents_values (d : Shelves κ α) : contents d = (d.values.flatten : Multiset α) := by
  simp only [contents, Dict.total, Dict.values]
  induction d.entries with
  | nil => rfl
  | cons entry rest ih =>
      rw [List.map_cons, List.sum_cons, ih]
      rfl

theorem mem_bags (entries : List (κ × List α)) (item : α) :
    item ∈ (entries.map bag).sum ↔ ∃ entry ∈ entries, item ∈ entry.2 := by
  induction entries with
  | nil =>
      exact ⟨fun held => absurd held (Multiset.notMem_zero item), fun held => absurd held.choose_spec.1 List.not_mem_nil⟩
  | cons entry rest ih =>
      rw [List.map_cons, List.sum_cons, Multiset.mem_add, ih, List.exists_mem_cons_iff]
      exact or_congr_left Multiset.mem_coe

variable [DecidableEq κ]

theorem shelf_insert (d : Shelves κ α) (key other : κ) (items : List α) :
    shelf (d.insert key items) other = if other = key then items else shelf d other := by
  rw [shelf, Dict.lookup_insert]
  by_cases here : other = key
  · rw [if_pos here, if_pos here]
    rfl
  · rw [if_neg here, if_neg here]
    rfl

theorem shelf_erase (d : Shelves κ α) (key other : κ) :
    shelf (d.erase key) other = if other = key then [] else shelf d other := by
  rw [shelf, Dict.lookup_erase]
  by_cases here : other = key
  · rw [if_pos here, if_pos here]
    rfl
  · rw [if_neg here, if_neg here]
    rfl

theorem shelf_sift (p : α → Bool) (d : Shelves κ α) (key : κ) : shelf (sift p d) key = (shelf d key).filter p := by
  rw [shelf, shelf]
  cases found : d.lookup key with
  | none =>
      have absent : (sift p d).lookup key = none := by
        rw [Dict.lookup_none_iff, Dict.keys, sift, List.map_map]
        exact (Dict.lookup_none_iff d key).mp found
      rw [absent]
      rfl
  | some items =>
      have kept : (sift p d).lookup key = some (items.filter p) :=
        Dict.lookup_of_mem _ key _ (List.mem_map.mpr ⟨(key, items), Dict.lookup_mem d key items found, rfl⟩)
      rw [kept]
      rfl

theorem contents_erase (d : Shelves κ α) (key : κ) : contents d = (shelf d key : Multiset α) + contents (d.erase key) := by
  rw [shelf]
  cases found : d.lookup key with
  | none =>
      have same : d.erase key = d := by
        apply Dict.ext_entries
        refine List.filter_eq_self.mpr (fun entry member => decide_eq_true (fun here => ?_))
        exact (Dict.lookup_none_iff d key).mp found (List.mem_map.mpr ⟨entry, member, here⟩)
      rw [same]
      exact (zero_add _).symm
  | some items => exact Dict.total_erase bag d key items found

theorem contents_insert (d : Shelves κ α) (key : κ) (items : List α) :
    contents (d.insert key items) + (shelf d key : Multiset α) = contents d + (items : Multiset α) := by
  have erased : (d.insert key items).erase key = d.erase key := by
    by_cases present : key ∈ d.keys
    · simp only [Dict.insert, dif_pos present, Dict.entries_erase_modify]
    · apply Dict.ext_entries
      simp [Dict.erase, Dict.entries_insert_fresh d key items present]
  rw [contents_erase (d.insert key items) key, erased, shelf_insert, if_pos rfl, contents_erase d key]
  rw [add_comm (items : Multiset α), add_comm _ (shelf d key : Multiset α), add_assoc]

theorem mem_contents (d : Shelves κ α) (item : α) : item ∈ contents d ↔ ∃ key, item ∈ shelf d key := by
  constructor
  · intro held
    obtain ⟨entry, member, inside⟩ := (mem_bags d.entries item).mp held
    refine ⟨entry.1, ?_⟩
    rw [shelf, Dict.lookup_of_mem d entry.1 entry.2 member]
    exact inside
  · intro held
    obtain ⟨key, inside⟩ := held
    rw [contents_erase d key]
    exact Multiset.mem_add.mpr (.inl inside)

end Shelves

end QuantEngine
