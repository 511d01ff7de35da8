import Mathlib.Algebra.BigOperators.Group.List.Basic
import Mathlib.Data.List.Nodup

set_option autoImplicit false

namespace QuantEngine

-- An insertion-ordered dictionary. Inserting at a key that is present
-- replaces the value in place; a new key goes to the end.
structure Dict (κ ν : Type) where
  entries : List (κ × ν)
  unique : (entries.map Prod.fst).Nodup

namespace Dict

variable {κ ν M : Type}

def empty : Dict κ ν := ⟨[], List.nodup_nil⟩

def keys (d : Dict κ ν) : List κ := d.entries.map Prod.fst

def values (d : Dict κ ν) : List ν := d.entries.map Prod.snd

def size (d : Dict κ ν) : Nat := d.entries.length

theorem keys_nodup (d : Dict κ ν) : d.keys.Nodup := d.unique

theorem ext_entries (a b : Dict κ ν) (same : a.entries = b.entries) : a = b := by
  cases a
  cases b
  cases same
  rfl

theorem entry_unique (d : Dict κ ν) (key : κ) (a b : ν) (left : (key, a) ∈ d.entries)
    (right : (key, b) ∈ d.entries) : a = b :=
  congrArg Prod.snd (List.inj_on_of_nodup_map d.unique left right rfl)

def total [AddCommMonoid M] (f : κ × ν → M) (d : Dict κ ν) : M := (d.entries.map f).sum

theorem filter_total (p : κ × ν → Bool) (d : Dict κ ν) :
    (d.entries.filter p).length = d.total (fun entry => if p entry then 1 else 0) := by
  rw [total]
  induction d.entries with
  | nil => rfl
  | cons head tail ih =>
      by_cases here : p head = true
      · simp [here, ih, Nat.add_comm]
      · simp [here, ih]

theorem size_total (d : Dict κ ν) : d.size = d.total (fun _ => 1) := by
  simp [size, total]

theorem map_values_unique (f : ν → M) (d : Dict κ ν) :
    ((d.entries.map (fun entry => (entry.1, f entry.2))).map Prod.fst).Nodup := by
  rw [List.map_map]
  exact d.unique

def mapValues (f : ν → M) (d : Dict κ ν) : Dict κ M :=
  ⟨d.entries.map (fun entry => (entry.1, f entry.2)), map_values_unique f d⟩

variable [DecidableEq κ]

def lookup (d : Dict κ ν) (key : κ) : Option ν :=
  (d.entries.find? (fun entry => decide (entry.1 = key))).map Prod.snd

def contains (d : Dict κ ν) (key : κ) : Bool := decide (key ∈ d.keys)

def modifyEntry (key : κ) (f : ν → ν) (entry : κ × ν) : κ × ν :=
  if entry.1 = key then (entry.1, f entry.2) else entry

theorem modify_entry_key (key : κ) (f : ν → ν) (entry : κ × ν) :
    (modifyEntry key f entry).1 = entry.1 := by
  rw [modifyEntry]
  split <;> rfl

def modify (d : Dict κ ν) (key : κ) (f : ν → ν) : Dict κ ν :=
  ⟨d.entries.map (modifyEntry key f), by
    have sameKeys : Prod.fst ∘ modifyEntry key f = (Prod.fst : κ × ν → κ) := funext (modify_entry_key key f)
    rw [List.map_map, sameKeys]
    exact d.unique⟩

def erase (d : Dict κ ν) (key : κ) : Dict κ ν :=
  ⟨d.entries.filter (fun entry => decide (entry.1 ≠ key)),
    d.unique.sublist (List.filter_sublist.map Prod.fst)⟩

def insert (d : Dict κ ν) (key : κ) (value : ν) : Dict κ ν :=
  if fresh : key ∈ d.keys then d.modify key (fun _ => value)
  else ⟨d.entries ++ [(key, value)], by
    rw [List.map_append]
    refine List.Nodup.append d.unique (List.nodup_singleton key) ?_
    exact List.disjoint_singleton.mpr fresh⟩

theorem keys_modify (d : Dict κ ν) (key : κ) (f : ν → ν) : (d.modify key f).keys = d.keys := by
  simp only [keys, modify, List.map_map]
  exact List.map_congr_left (fun entry _ => modify_entry_key key f entry)

theorem keys_insert_fresh (d : Dict κ ν) (key : κ) (value : ν) (fresh : key ∉ d.keys) :
    (d.insert key value).keys = d.keys ++ [key] := by
  simp only [insert, dif_neg fresh]
  simp [keys]

theorem entries_insert_fresh (d : Dict κ ν) (key : κ) (value : ν) (fresh : key ∉ d.keys) :
    (d.insert key value).entries = d.entries ++ [(key, value)] := by
  simp only [insert, dif_neg fresh]

theorem mem_keys_insert (d : Dict κ ν) (key other : κ) (value : ν) :
    other ∈ (d.insert key value).keys ↔ other = key ∨ other ∈ d.keys := by
  by_cases present : key ∈ d.keys
  · simp only [insert, present, dif_pos, keys_modify]
    exact ⟨Or.inr, fun either => either.elim (fun same => same ▸ present) id⟩
  · rw [keys_insert_fresh d key value present]
    simp [or_comm]

theorem mem_keys_erase (d : Dict κ ν) (key other : κ) :
    other ∈ (d.erase key).keys ↔ other ∈ d.keys ∧ other ≠ key := by
  simp only [keys, erase, List.mem_map, List.mem_filter, decide_eq_true_eq]
  constructor
  · rintro ⟨entry, ⟨member, different⟩, rfl⟩
    exact ⟨⟨entry, member, rfl⟩, different⟩
  · rintro ⟨⟨entry, member, rfl⟩, different⟩
    exact ⟨entry, ⟨member, different⟩, rfl⟩

theorem keys_erase_perm (d : Dict κ ν) (key : κ) (present : key ∈ d.keys) : d.keys.Perm (key :: (d.erase key).keys) := by
  have gone : key ∉ (d.erase key).keys := fun member => ((mem_keys_erase d key key).mp member).2 rfl
  refine (List.perm_ext_iff_of_nodup d.keys_nodup (List.nodup_cons.mpr ⟨gone, (d.erase key).keys_nodup⟩)).mpr ?_
  intro other
  rw [List.mem_cons, mem_keys_erase]
  by_cases here : other = key
  · simp [here, present]
  · simp [here]

theorem lookup_mem (d : Dict κ ν) (key : κ) (value : ν) (found : d.lookup key = some value) :
    (key, value) ∈ d.entries := by
  obtain ⟨entry, search, rfl⟩ := Option.map_eq_some_iff.mp found
  have same : entry.1 = key := by simpa using List.find?_some search
  have member := List.mem_of_find?_eq_some search
  rw [← same]
  exact member

theorem mem_keys_of_lookup (d : Dict κ ν) (key : κ) (value : ν) (found : d.lookup key = some value) :
    key ∈ d.keys :=
  List.mem_map.mpr ⟨(key, value), lookup_mem d key value found, rfl⟩

theorem lookup_none_iff (d : Dict κ ν) (key : κ) : d.lookup key = none ↔ key ∉ d.keys := by
  simp only [lookup, Option.map_eq_none_iff, List.find?_eq_none, decide_eq_true_eq, keys, List.mem_map]
  exact ⟨fun none ⟨entry, member, same⟩ => none entry member same,
    fun absent entry member same => absent ⟨entry, member, same⟩⟩

theorem lookup_of_mem_keys (d : Dict κ ν) (key : κ) (present : key ∈ d.keys) :
    ∃ value, d.lookup key = some value := by
  cases search : d.lookup key with
  | none => exact absurd present ((lookup_none_iff d key).mp search)
  | some value => exact ⟨value, rfl⟩

theorem lookup_of_mem (d : Dict κ ν) (key : κ) (value : ν) (member : (key, value) ∈ d.entries) :
    d.lookup key = some value := by
  obtain ⟨found, search⟩ := lookup_of_mem_keys d key (List.mem_map.mpr ⟨_, member, rfl⟩)
  rw [search, entry_unique d key found value (lookup_mem d key found search) member]

theorem lookup_map_values (f : ν → M) (d : Dict κ ν) (key : κ) : (d.mapValues f).lookup key = (d.lookup key).map f := by
  rw [lookup, mapValues, List.find?_map, lookup, Option.map_map, Option.map_map]
  rfl

theorem mem_keys_iff (d : Dict κ ν) (key : κ) : key ∈ d.keys ↔ ∃ value, d.lookup key = some value :=
  ⟨lookup_of_mem_keys d key, fun ⟨value, found⟩ => mem_keys_of_lookup d key value found⟩

-- The values, as found under the keys.
theorem lookups_of_keys (d : Dict κ ν) : d.keys.filterMap d.lookup = d.values := by
  rw [keys, List.filterMap_map, values, ← List.filterMap_eq_map]
  exact List.filterMap_congr (fun entry member => lookup_of_mem d entry.1 entry.2 member)

section Totals

variable [AddCommMonoid M]

theorem total_insert_fresh (f : κ × ν → M) (d : Dict κ ν) (key : κ) (value : ν) (fresh : key ∉ d.keys) :
    (d.insert key value).total f = d.total f + f (key, value) := by
  simp [total, entries_insert_fresh d key value fresh]

theorem total_modify (f : κ × ν → M) (d : Dict κ ν) (key : κ) (g : ν → ν)
    (same : ∀ value, f (key, g value) = f (key, value)) : (d.modify key g).total f = d.total f := by
  simp only [total, modify, List.map_map]
  congr 1
  apply List.map_congr_left
  rintro ⟨other, value⟩ _
  by_cases here : other = key
  · subst other
    simp [modifyEntry, same]
  · simp [modifyEntry, here]

theorem sum_filter_split (f : κ × ν → M) (entries : List (κ × ν)) (key : κ) (value : ν)
    (unique : (entries.map Prod.fst).Nodup) (member : (key, value) ∈ entries) :
    (entries.map f).sum =
      f (key, value) + ((entries.filter (fun entry => decide (entry.1 ≠ key))).map f).sum := by
  induction entries with
  | nil => cases member
  | cons head tail ih =>
      rw [List.map_cons, List.nodup_cons] at unique
      by_cases here : head.1 = key
      · have headEq : head = (key, value) := by
          cases List.mem_cons.mp member with
            | inl same => exact same.symm
            | inr later => exact absurd (List.mem_map.mpr ⟨_, later, here.symm⟩) unique.1
        have rest : tail.filter (fun entry => decide (entry.1 ≠ key)) = tail := by
          apply List.filter_eq_self.mpr
          intro entry later
          apply decide_eq_true
          intro same
          exact unique.1 (List.mem_map.mpr ⟨entry, later, same.trans here.symm⟩)
        simp only [List.filter_cons, ne_eq, not_true_eq_false, decide_false, Bool.false_eq_true,
          if_false, List.map_cons, List.sum_cons, headEq]
        rw [show tail.filter (fun entry => decide (¬ entry.1 = key)) = tail from rest]
      · have later : (key, value) ∈ tail := by
          cases List.mem_cons.mp member with
            | inl same => exact absurd (congrArg Prod.fst same).symm here
            | inr later => exact later
        simp only [List.filter_cons, here, ne_eq, not_false_eq_true, decide_true, if_true,
          List.map_cons, List.sum_cons]
        rw [ih unique.2 later]
        exact add_left_comm _ _ _

theorem total_erase (f : κ × ν → M) (d : Dict κ ν) (key : κ) (value : ν)
    (found : d.lookup key = some value) : d.total f = f (key, value) + (d.erase key).total f :=
  sum_filter_split f d.entries key value d.unique (lookup_mem d key value found)

end Totals

theorem lookup_modify_here (d : Dict κ ν) (key : κ) (f : ν → ν) (value : ν)
    (found : d.lookup key = some value) : (d.modify key f).lookup key = some (f value) := by
  apply lookup_of_mem
  refine List.mem_map.mpr ⟨(key, value), lookup_mem d key value found, ?_⟩
  simp [modifyEntry]

theorem entries_erase_modify (d : Dict κ ν) (key : κ) (f : ν → ν) :
    ((d.modify key f).erase key) = d.erase key := by
  apply ext_entries
  simp only [erase, modify]
  induction d.entries with
  | nil => rfl
  | cons head tail ih =>
      by_cases here : head.1 = key
      · simp only [List.map_cons, List.filter_cons, modify_entry_key, here, ne_eq, not_true_eq_false,
          decide_false, Bool.false_eq_true, if_false]
        exact ih
      · simp only [List.map_cons, List.filter_cons, modify_entry_key, here, ne_eq, not_false_eq_true,
          decide_true, if_true]
        rw [ih]
        simp [modifyEntry, here]

theorem lookup_modify_other (d : Dict κ ν) (key other : κ) (f : ν → ν) (apart : other ≠ key) :
    (d.modify key f).lookup other = d.lookup other := by
  cases found : d.lookup other with
  | none =>
      rw [lookup_none_iff] at found ⊢
      rwa [keys_modify]
  | some value =>
      apply lookup_of_mem
      refine List.mem_map.mpr ⟨(other, value), lookup_mem d other value found, ?_⟩
      simp [modifyEntry, apart]

theorem lookup_modify (d : Dict κ ν) (key other : κ) (f : ν → ν) :
    (d.modify key f).lookup other = if other = key then (d.lookup other).map f else d.lookup other := by
  by_cases here : other = key
  · subst here
    rw [if_pos rfl]
    cases found : d.lookup other with
    | some value => exact lookup_modify_here d other f value found
    | none =>
        rw [lookup_none_iff] at found
        exact (lookup_none_iff _ _).mpr (by rwa [keys_modify])
  · rw [if_neg here, lookup_modify_other d key other f here]

theorem lookup_modify_old (d : Dict κ ν) (key other : κ) (f : ν → ν) (value : ν)
    (found : (d.modify key f).lookup other = some value) : ∃ old, d.lookup other = some old ∧ (value = f old ∨ value = old) := by
  rw [lookup_modify] at found
  split at found
  · obtain ⟨old, present, rfl⟩ := Option.map_eq_some_iff.mp found
    exact ⟨old, present, .inl rfl⟩
  · exact ⟨value, found, .inr rfl⟩

-- What a change leaves alone is as it was, value by value.
theorem values_modify (d : Dict κ ν) (key : κ) (f : ν → ν) (g : ν → M) (same : ∀ value, g (f value) = g value) :
    (d.modify key f).values.map g = d.values.map g := by
  simp only [values, modify, List.map_map]
  refine List.map_congr_left (fun entry _ => ?_)
  rw [Function.comp, Function.comp, Function.comp, modifyEntry]
  split
  · exact same entry.2
  · rfl

theorem modify_entry_twice (key : κ) (f g : ν → ν) (entry : κ × ν) :
    modifyEntry key g (modifyEntry key f entry) = modifyEntry key (fun value => g (f value)) entry := by
  by_cases here : entry.1 = key
  · simp [modifyEntry, here]
  · simp [modifyEntry, here]

theorem modify_modify (d : Dict κ ν) (key : κ) (f g : ν → ν) :
    (d.modify key f).modify key g = d.modify key (fun value => g (f value)) := by
  refine ext_entries _ _ ?_
  simp only [modify, List.map_map]
  exact List.map_congr_left (fun entry _ => modify_entry_twice key f g entry)

theorem lookup_insert (d : Dict κ ν) (key other : κ) (value : ν) :
    (d.insert key value).lookup other = if other = key then some value else d.lookup other := by
  by_cases present : key ∈ d.keys
  · simp only [insert, dif_pos present]
    by_cases here : other = key
    · subst other
      obtain ⟨old, found⟩ := lookup_of_mem_keys d key present
      rw [lookup_modify_here d key _ old found, if_pos rfl]
    · rw [if_neg here, lookup_modify_other d key other _ here]
  · by_cases here : other = key
    · subst other
      rw [if_pos rfl]
      apply lookup_of_mem
      rw [entries_insert_fresh d key value present]
      exact List.mem_append_right _ (List.mem_singleton.mpr rfl)
    · rw [if_neg here]
      simp only [lookup, entries_insert_fresh d key value present, List.find?_append]
      cases search : d.entries.find? (fun entry => decide (entry.1 = other)) with
      | some entry => rfl
      | none => simp [List.find?, Ne.symm here]

theorem lookup_erase (d : Dict κ ν) (key other : κ) :
    (d.erase key).lookup other = if other = key then none else d.lookup other := by
  by_cases here : other = key
  · rw [if_pos here, lookup_none_iff, mem_keys_erase]
    exact fun both => both.2 here
  · rw [if_neg here]
    cases found : d.lookup other with
    | none =>
        rw [lookup_none_iff] at found ⊢
        rw [mem_keys_erase]
        exact fun both => found both.1
    | some value =>
        apply lookup_of_mem
        refine List.mem_filter.mpr ⟨lookup_mem d other value found, ?_⟩
        exact decide_eq_true here

theorem entries_of_key (d : Dict κ ν) (key : κ) :
    d.entries.filter (fun entry => decide (entry.1 = key)) = (d.lookup key).toList.map (fun value => (key, value)) := by
  obtain ⟨entries, unique⟩ := d
  rw [lookup]
  dsimp only
  induction entries with
  | nil => rfl
  | cons entry rest ih =>
      obtain ⟨fresh, uniqueRest⟩ := List.nodup_cons.mp unique
      by_cases here : entry.1 = key
      · have none : rest.filter (fun other => decide (other.1 = key)) = [] := by
          refine List.filter_eq_nil_iff.mpr (fun other member same => fresh ?_)
          have matched : other.1 = key := by simpa using same
          rw [here, ← matched]
          exact List.mem_map_of_mem member
        rw [List.filter_cons_of_pos (by simpa using here), none, List.find?_cons_of_pos (by simpa using here), ← here]
        rfl
      · rw [List.filter_cons_of_neg (by simpa using here), List.find?_cons_of_neg (by simpa using here)]
        exact ih uniqueRest

def filter (d : Dict κ ν) (p : κ × ν → Bool) : Dict κ ν :=
  ⟨d.entries.filter p, d.unique.sublist (List.filter_sublist.map Prod.fst)⟩

theorem lookup_filter (d : Dict κ ν) (p : κ × ν → Bool) (key : κ) :
    (d.filter p).lookup key = (d.lookup key).filter (fun value => p (key, value)) := by
  cases found : d.lookup key with
  | none =>
      have absent := (lookup_none_iff d key).mp found
      refine (lookup_none_iff _ key).mpr (fun present => absent ?_)
      obtain ⟨entry, member, same⟩ := List.mem_map.mp present
      exact List.mem_map.mpr ⟨entry, (List.mem_filter.mp member).1, same⟩
  | some value =>
      have member := lookup_mem d key value found
      by_cases kept : p (key, value) = true
      · rw [Option.filter_some, if_pos kept]
        exact lookup_of_mem _ key value (List.mem_filter.mpr ⟨member, kept⟩)
      · rw [Option.filter_some, if_neg kept]
        refine (lookup_none_iff _ key).mpr (fun present => kept ?_)
        obtain ⟨entry, left, same⟩ := List.mem_map.mp present
        obtain ⟨inside, passes⟩ := List.mem_filter.mp left
        have value' : (key, entry.2) ∈ d.entries := by
          rw [← same]
          exact inside
        rw [← entry_unique d key entry.2 value value' member, ← same]
        exact passes

theorem keys_insert_present (d : Dict κ ν) (key : κ) (value : ν) (present : key ∈ d.keys) :
    (d.insert key value).keys = d.keys := by
  simp only [insert, dif_pos present, keys_modify]

-- What a key held before goes out of a total as the new value comes in.
theorem total_insert_over [AddCommMonoid M] (f : κ × ν → M) (d : Dict κ ν) (key : κ) (old value : ν)
    (found : d.lookup key = some old) : (d.insert key value).total f + f (key, old) = d.total f + f (key, value) := by
  have present : key ∈ d.keys := mem_keys_of_lookup d key old found
  have before := total_erase f d key old found
  have after := total_erase f (d.insert key value) key value (by rw [lookup_insert, if_pos rfl])
  have same : (d.insert key value).erase key = d.erase key := by
    simp only [insert, dif_pos present, entries_erase_modify]
  rw [same] at after
  rw [before, after, add_right_comm, add_comm (f (key, value)) (f (key, old)), add_right_comm (f (key, old)) (f (key, value))]

theorem total_insert_le (f : κ × ν → Nat) (d : Dict κ ν) (key : κ) (value : ν) :
    (d.insert key value).total f ≤ d.total f + f (key, value) := by
  by_cases present : key ∈ d.keys
  · obtain ⟨old, found⟩ := lookup_of_mem_keys d key present
    have moved := total_insert_over f d key old value found
    omega
  · exact Nat.le_of_eq (total_insert_fresh f d key value present)

theorem total_erase_le (f : κ × ν → Nat) (d : Dict κ ν) (key : κ) : (d.erase key).total f ≤ d.total f := by
  by_cases present : key ∈ d.keys
  · obtain ⟨value, found⟩ := lookup_of_mem_keys d key present
    rw [total_erase f d key value found]
    exact Nat.le_add_left _ _
  · have same : d.erase key = d := by
      apply ext_entries
      refine List.filter_eq_self.mpr ?_
      intro entry member
      apply decide_eq_true
      intro here
      exact present (List.mem_map.mpr ⟨entry, member, here⟩)
    exact Nat.le_of_eq (congrArg (total f) same)

theorem ext_lookup (a b : Dict κ ν) (order : a.keys = b.keys) (same : ∀ key, a.lookup key = b.lookup key) :
    a = b := by
  apply ext_entries
  apply List.ext_getElem
  · have lengths := congrArg List.length order
    simpa only [keys, List.length_map] using lengths
  · intro index left right
    have keysEq : a.entries[index].1 = b.entries[index].1 := by
      have pointwise := congrArg (fun list => list[index]?) order
      simpa [keys, List.getElem?_eq_getElem left, List.getElem?_eq_getElem right] using pointwise
    have found := lookup_of_mem a a.entries[index].1 a.entries[index].2 (List.getElem_mem left)
    have found' := lookup_of_mem b b.entries[index].1 b.entries[index].2 (List.getElem_mem right)
    rw [same, keysEq, found'] at found
    exact Prod.ext keysEq (Option.some.inj found).symm

def insertAll (d : Dict κ ν) (fresh : List (κ × ν)) : Dict κ ν :=
  fresh.foldl (fun d entry => d.insert entry.1 entry.2) d

theorem keys_insert_all (d : Dict κ ν) (fresh : List (κ × ν)) (present : ∀ entry ∈ fresh, entry.1 ∈ d.keys) :
    (d.insertAll fresh).keys = d.keys := by
  induction fresh generalizing d with
  | nil => rfl
  | cons entry rest ih =>
      have here := keys_insert_present d entry.1 entry.2 (present entry List.mem_cons_self)
      have step := ih (d.insert entry.1 entry.2)
        (fun other member => here ▸ present other (List.mem_cons_of_mem _ member))
      exact step.trans here

theorem mem_keys_insert_all (d : Dict κ ν) (fresh : List (κ × ν)) (key : κ) :
    key ∈ (d.insertAll fresh).keys ↔ key ∈ d.keys ∨ key ∈ fresh.map Prod.fst := by
  induction fresh generalizing d with
  | nil => simp [insertAll]
  | cons entry rest ih =>
      refine (ih (d.insert entry.1 entry.2)).trans ?_
      rw [mem_keys_insert, List.map_cons, List.mem_cons]
      exact ⟨fun h => h.elim (fun h => h.elim (fun h => .inr (.inl h)) .inl) (fun h => .inr (.inr h)),
        fun h => h.elim (fun h => .inl (.inr h)) (fun h => h.elim (fun h => .inl (.inl h)) .inr)⟩

theorem lookup_insert_all (a b : Dict κ ν) (fresh : List (κ × ν)) (key : κ)
    (same : key ∉ fresh.map Prod.fst → a.lookup key = b.lookup key) :
    (a.insertAll fresh).lookup key = (b.insertAll fresh).lookup key := by
  induction fresh generalizing a b with
  | nil => exact same (by simp)
  | cons entry rest ih =>
      apply ih (a.insert entry.1 entry.2) (b.insert entry.1 entry.2)
      intro later
      rw [lookup_insert, lookup_insert]
      by_cases here : key = entry.1
      · simp only [if_pos here]
      · simp only [if_neg here]
        apply same
        rw [List.map_cons, List.mem_cons]
        exact fun either => either.elim here later

theorem lookup_insert_all_other (d : Dict κ ν) (fresh : List (κ × ν)) (key : κ)
    (other : key ∉ fresh.map Prod.fst) : (d.insertAll fresh).lookup key = d.lookup key := by
  induction fresh generalizing d with
  | nil => rfl
  | cons entry rest ih =>
      rw [List.map_cons, List.mem_cons, not_or] at other
      refine (ih (d.insert entry.1 entry.2) other.2).trans ?_
      rw [lookup_insert, if_neg other.1]

theorem mem_entries_insert (d : Dict κ ν) (key : κ) (value : ν) (entry : κ × ν)
    (member : entry ∈ (d.insert key value).entries) : entry ∈ d.entries ∨ entry = (key, value) := by
  have found := lookup_of_mem _ entry.1 entry.2 member
  rw [lookup_insert] at found
  by_cases here : entry.1 = key
  · rw [if_pos here] at found
    exact .inr (Prod.ext here (Option.some.inj found).symm)
  · rw [if_neg here] at found
    exact .inl (lookup_mem d entry.1 entry.2 found)

theorem mem_entries_insert_all (d : Dict κ ν) (fresh : List (κ × ν)) (entry : κ × ν)
    (member : entry ∈ (d.insertAll fresh).entries) : entry ∈ d.entries ∨ entry ∈ fresh := by
  induction fresh generalizing d with
  | nil => exact .inl member
  | cons head rest ih =>
      cases ih (d.insert head.1 head.2) member with
        | inl old =>
            cases mem_entries_insert d head.1 head.2 entry old with
              | inl before => exact .inl before
              | inr same => exact .inr (List.mem_cons.mpr (.inl same))
        | inr later => exact .inr (List.mem_cons_of_mem _ later)

-- A key that always comes with one value has it in the end.
theorem lookup_built (fresh : List (κ × ν)) (key : κ) (value : ν) (present : key ∈ fresh.map Prod.fst)
    (same : ∀ entry ∈ fresh, entry.1 = key → entry.2 = value) : ((empty : Dict κ ν).insertAll fresh).lookup key = some value := by
  have listed := (mem_keys_insert_all empty fresh key).mpr (.inr present)
  obtain ⟨stored, found⟩ := (mem_keys_iff _ key).mp listed
  cases mem_entries_insert_all empty fresh (key, stored) (lookup_mem _ key stored found) with
  | inl old => exact nomatch old
  | inr own => exact found.trans (congrArg some (same (key, stored) own rfl))

theorem entries_insert_all_fresh (d : Dict κ ν) (fresh : List (κ × ν)) (apart : (d.keys ++ fresh.map Prod.fst).Nodup) :
    (d.insertAll fresh).entries = d.entries ++ fresh := by
  induction fresh generalizing d with
  | nil => exact (List.append_nil _).symm
  | cons entry rest ih =>
      have absent : entry.1 ∉ d.keys := fun present =>
        (List.nodup_append.mp apart).2.2 _ present _ List.mem_cons_self rfl
      have later : ((d.insert entry.1 entry.2).keys ++ rest.map Prod.fst).Nodup := by
        rw [keys_insert_fresh d entry.1 entry.2 absent, List.append_assoc]
        exact apart
      exact (ih _ later).trans (by rw [entries_insert_fresh d entry.1 entry.2 absent, List.append_assoc]; rfl)

-- A dictionary is built again from its entries.
theorem rebuilt (d : Dict κ ν) : (empty : Dict κ ν).insertAll d.entries = d :=
  ext_entries _ _ (entries_insert_all_fresh empty d.entries d.unique)

theorem insert_all_twice (d : Dict κ ν) (fresh : List (κ × ν)) :
    (d.insertAll fresh).insertAll fresh = d.insertAll fresh := by
  apply ext_lookup
  · apply keys_insert_all
    intro entry member
    exact (mem_keys_insert_all d fresh entry.1).mpr (.inr (List.mem_map.mpr ⟨entry, member, rfl⟩))
  · intro key
    apply lookup_insert_all
    exact lookup_insert_all_other d fresh key

theorem insert_same (d : Dict κ ν) (key : κ) (value : ν) (found : d.lookup key = some value) :
    d.insert key value = d := by
  apply ext_lookup
  · exact keys_insert_present d key value (mem_keys_of_lookup d key value found)
  · intro other
    rw [lookup_insert]
    by_cases here : other = key
    · rw [if_pos here, here, found]
    · rw [if_neg here]

theorem insert_insert (d : Dict κ ν) (key : κ) (first second : ν) :
    (d.insert key first).insert key second = d.insert key second := by
  apply ext_lookup
  · rw [keys_insert_present _ key second ((mem_keys_insert d key key first).mpr (.inl rfl))]
    by_cases present : key ∈ d.keys
    · rw [keys_insert_present d key first present, keys_insert_present d key second present]
    · rw [keys_insert_fresh d key first present, keys_insert_fresh d key second present]
  · intro other
    simp only [lookup_insert]
    by_cases here : other = key
    · rw [if_pos here, if_pos here]
    · rw [if_neg here, if_neg here, if_neg here]

theorem insert_all_own (d : Dict κ ν) (fresh : List (κ × ν)) (own : ∀ entry ∈ fresh, entry ∈ d.entries) :
    d.insertAll fresh = d := by
  induction fresh with
  | nil => rfl
  | cons entry rest ih =>
      have same : d.insert entry.1 entry.2 = d :=
        insert_same d entry.1 entry.2 (lookup_of_mem d _ _ (own entry List.mem_cons_self))
      calc d.insertAll (entry :: rest) = (d.insert entry.1 entry.2).insertAll rest := rfl
        _ = d.insertAll rest := by rw [same]
        _ = d := ih (fun other member => own other (List.mem_cons_of_mem _ member))

section Tally

variable {α : Type} [AddCommMonoid M]

-- Each item is added to the running total of its key.
def tallyFrom (key : α → κ) (amount : α → M) (d : Dict κ M) (items : List α) : Dict κ M :=
  items.foldl (fun d item => d.insert (key item) ((d.lookup (key item)).getD 0 + amount item)) d

theorem total_bump (d : Dict κ M) (key : κ) (amount : M) :
    (d.insert key ((d.lookup key).getD 0 + amount)).values.sum = d.values.sum + amount := by
  have values (d : Dict κ M) : d.values.sum = d.total Prod.snd := rfl
  rw [values, values]
  by_cases present : key ∈ d.keys
  · obtain ⟨old, found⟩ := lookup_of_mem_keys d key present
    have before := total_erase Prod.snd d key old found
    have after := total_erase Prod.snd (d.insert key ((d.lookup key).getD 0 + amount)) key _
      (by rw [lookup_insert, if_pos rfl])
    have same : (d.insert key ((d.lookup key).getD 0 + amount)).erase key = d.erase key := by
      simp only [insert, dif_pos present, entries_erase_modify]
    rw [after, same, before, found]
    exact add_right_comm _ _ _
  · have absent := (lookup_none_iff d key).mpr present
    rw [total_insert_fresh Prod.snd d key _ present, absent]
    exact congrArg (d.total Prod.snd + ·) (zero_add amount)

theorem tally_total (key : α → κ) (amount : α → M) (d : Dict κ M) (items : List α) :
    (tallyFrom key amount d items).values.sum = d.values.sum + (items.map amount).sum := by
  induction items generalizing d with
  | nil => exact (add_zero _).symm
  | cons item rest ih =>
      refine (ih (d.insert (key item) ((d.lookup (key item)).getD 0 + amount item))).trans ?_
      rw [total_bump, List.map_cons, List.sum_cons, add_assoc]

theorem tally_lookup (key : α → κ) (amount : α → M) (d : Dict κ M) (items : List α) (wanted : κ) :
    ((tallyFrom key amount d items).lookup wanted).getD 0 =
      (d.lookup wanted).getD 0 + ((items.filter (fun item => decide (key item = wanted))).map amount).sum := by
  induction items generalizing d with
  | nil => exact (add_zero _).symm
  | cons item rest ih =>
      refine (ih (d.insert (key item) ((d.lookup (key item)).getD 0 + amount item))).trans ?_
      rw [lookup_insert]
      by_cases here : key item = wanted
      · rw [if_pos here.symm, List.filter_cons_of_pos (by simpa using here), List.map_cons, List.sum_cons, here]
        exact add_assoc _ _ _
      · rw [if_neg (Ne.symm here), List.filter_cons_of_neg (by simpa using here)]

end Tally

end Dict

end QuantEngine
