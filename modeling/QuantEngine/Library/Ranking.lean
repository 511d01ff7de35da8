import Mathlib.Data.Finset.Card
import Mathlib.Data.Finset.Max
import Mathlib.Data.List.Sort
import Mathlib.Data.Set.Finite.Basic
import Mathlib.Order.RelClasses
import Mathlib.Order.WellFounded

set_option autoImplicit false

namespace QuantEngine.Ranking

variable {α β : Type} [LinearOrder β]

-- The rank of an item is the number of items that come before it; the best
-- items of a set are those of a rank below a limit.
def rank (place : α → β) (items : Finset α) (item : α) : Nat :=
  (items.filter (fun other => place other < place item)).card

def best (place : α → β) (limit : Nat) (items : Finset α) : Finset α :=
  items.filter (fun item => rank place items item < limit)

theorem mem_best (place : α → β) (limit : Nat) (items : Finset α) (item : α) :
    item ∈ best place limit items ↔ item ∈ items ∧ rank place items item < limit := Finset.mem_filter

theorem rank_mono_items (place : α → β) (few many : Finset α) (within : few ⊆ many) (item : α) :
    rank place few item ≤ rank place many item :=
  Finset.card_le_card (Finset.filter_subset_filter _ within)

theorem rank_mono_item (place : α → β) (items : Finset α) (a b : α) (le : place a ≤ place b) :
    rank place items a ≤ rank place items b := by
  refine Finset.card_le_card ?_
  intro other member
  obtain ⟨here, before⟩ := Finset.mem_filter.mp member
  exact Finset.mem_filter.mpr ⟨here, lt_of_lt_of_le before le⟩

theorem rank_least (place : α → β) (items : Finset α) (first : α)
    (least : ∀ other ∈ items, ¬ place other < place first) : rank place items first = 0 := by
  rw [rank, Finset.card_eq_zero, Finset.filter_eq_empty_iff]
  exact least

-- The first of the least items of a list: what a stable sort puts in front.
def FirstLeast (place : α → β) (items : List α) (item : α) : Prop :=
  ∃ before after, items = before ++ item :: after ∧ (∀ other ∈ before, place item < place other) ∧
    ∀ other ∈ after, place item ≤ place other

theorem first_least_mem (place : α → β) (items : List α) (item : α) (first : FirstLeast place items item) :
    item ∈ items := by
  obtain ⟨before, after, rfl, -, -⟩ := first
  exact List.mem_append_right _ List.mem_cons_self

theorem first_least_le (place : α → β) (items : List α) (item other : α) (first : FirstLeast place items item)
    (member : other ∈ items) : place item ≤ place other := by
  obtain ⟨before, after, rfl, ahead, behind⟩ := first
  cases List.mem_append.mp member with
  | inl early => exact le_of_lt (ahead other early)
  | inr later =>
      cases List.mem_cons.mp later with
      | inl same => exact le_of_eq (congrArg place same.symm)
      | inr after => exact behind other after

theorem first_least_snoc (place : α → β) (items : List α) (best next : α) (first : FirstLeast place items best) :
    FirstLeast place (items ++ [next]) (if place next < place best then next else best) := by
  obtain ⟨before, after, split, ahead, behind⟩ := first
  by_cases lower : place next < place best
  · rw [if_pos lower]
    refine ⟨items, [], rfl, fun other member => ?_, fun other member => absurd member List.not_mem_nil⟩
    exact lt_of_lt_of_le lower (first_least_le place items best other ⟨before, after, split, ahead, behind⟩ member)
  · rw [if_neg lower]
    refine ⟨before, after ++ [next], ?_, ahead, fun other member => ?_⟩
    · rw [split, List.append_assoc, List.cons_append]
    · cases List.mem_append.mp member with
      | inl known => exact behind other known
      | inr last =>
          rw [List.mem_singleton.mp last]
          exact not_lt.mp lower

-- A scan that changes its choice only for a lower item ends with the first of the least.
theorem first_least_fold (place : α → β) (items rest : List α) (best : α) (first : FirstLeast place items best) :
    FirstLeast place (items ++ rest) (rest.foldl (fun best item => if place item < place best then item else best) best) := by
  induction rest generalizing items best with
  | nil =>
      rw [List.append_nil]
      exact first
  | cons item rest ih =>
      have longer := ih (items ++ [item]) _ (first_least_snoc place items best item first)
      rw [List.append_assoc] at longer
      exact longer

theorem first_least_cons_iff (place : α → β) (head item : α) (rest : List α) :
    FirstLeast place (head :: rest) item ↔
      (item = head ∧ ∀ other ∈ rest, place item ≤ place other) ∨
        (place item < place head ∧ FirstLeast place rest item) := by
  constructor
  · rintro ⟨before, after, split, ahead, behind⟩
    cases before with
    | nil =>
        obtain ⟨rfl, rfl⟩ := List.cons.inj split
        exact .inl ⟨rfl, behind⟩
    | cons first before =>
        obtain ⟨rfl, rest⟩ := List.cons.inj split
        exact .inr ⟨ahead head List.mem_cons_self, before, after, rest,
          fun other member => ahead other (List.mem_cons_of_mem _ member), behind⟩
  · rintro (⟨rfl, behind⟩ | ⟨first, before, after, rfl, ahead, behind⟩)
    · exact ⟨[], rest, rfl, fun _ member => (nomatch member), behind⟩
    · refine ⟨head :: before, after, rfl, ?_, behind⟩
      exact List.forall_mem_cons.mpr ⟨first, ahead⟩

theorem head_sorted_iff (place : α → β) (items : List α) (item : α) :
    (items.insertionSort (fun a b => place a ≤ place b)).head? = some item ↔ FirstLeast place items item := by
  induction items generalizing item with
  | nil =>
      refine ⟨fun none => (nomatch none), ?_⟩
      rintro ⟨before, after, split, -⟩
      cases before <;> cases split
  | cons head rest ih =>
      rw [List.insertionSort_cons, first_least_cons_iff]
      cases sorted : rest.insertionSort (fun a b => place a ≤ place b) with
      | nil =>
          have empty : rest = [] := by
            have length := List.length_insertionSort (fun a b => place a ≤ place b) rest
            rw [sorted] at length
            exact List.length_eq_zero_iff.mp length.symm
          subst empty
          constructor
          · intro same
            exact .inl ⟨(Option.some.inj same).symm, fun _ member => (nomatch member)⟩
          · rintro (⟨rfl, -⟩ | ⟨-, first⟩)
            · rfl
            · exact (nomatch first_least_mem place [] item first)
      | cons least others =>
          have here : FirstLeast place rest least := (ih least).mp (by rw [sorted]; rfl)
          have unique (other : α) (first : FirstLeast place rest other) : other = least := by
            have found := (ih other).mpr first
            rw [sorted] at found
            exact (Option.some.inj found).symm
          by_cases before : place head ≤ place least
          · rw [List.orderedInsert, if_pos before]
            constructor
            · intro same
              cases Option.some.inj same
              exact .inl ⟨rfl, fun other member => le_trans before (first_least_le place rest least other here member)⟩
            · rintro (⟨rfl, -⟩ | ⟨first, later⟩)
              · rfl
              · exact absurd before (not_le.mpr (unique item later ▸ first))
          · rw [List.orderedInsert, if_neg before]
            constructor
            · intro same
              cases Option.some.inj same
              exact .inr ⟨not_le.mp before, here⟩
            · rintro (⟨rfl, behind⟩ | ⟨-, later⟩)
              · exact absurd (behind least (first_least_mem place rest least here)) before
              · exact congrArg some (unique item later).symm

variable [DecidableEq α]

theorem rank_same (place : α → β) (few many : Finset α) (within : few ⊆ many) (item : α)
    (nothing : ∀ lost ∈ many \ few, ¬ place lost < place item) : rank place many item = rank place few item := by
  refine Nat.le_antisymm (Finset.card_le_card ?_) (rank_mono_items place few many within item)
  intro other member
  obtain ⟨here, before⟩ := Finset.mem_filter.mp member
  refine Finset.mem_filter.mpr ⟨?_, before⟩
  by_contra absent
  exact nothing other (Finset.mem_sdiff.mpr ⟨here, absent⟩) before

-- The best of a part are the best of the whole exactly where every item that
-- the part leaves out still has enough items of the part before it.
theorem best_part_iff (place : α → β) (limit : Nat) (part whole : Finset α) (within : part ⊆ whole) :
    best place limit part = best place limit whole ↔ ∀ lost ∈ whole \ part, limit ≤ rank place part lost := by
  constructor
  · intro same lost member
    by_contra near
    let ahead := (whole \ part).filter (fun other => place other ≤ place lost)
    have some : ahead.Nonempty := ⟨lost, Finset.mem_filter.mpr ⟨member, le_refl _⟩⟩
    obtain ⟨first, inAhead, least⟩ := Finset.exists_min_image ahead place some
    obtain ⟨out, before⟩ := Finset.mem_filter.mp inAhead
    have ranked : rank place whole first = rank place part first := by
      refine rank_same place part whole within first ?_
      intro other outside earlier
      have inside : other ∈ ahead :=
        Finset.mem_filter.mpr ⟨outside, le_trans (le_of_lt earlier) before⟩
      exact absurd (least other inside) (not_le.mpr earlier)
    have close : rank place whole first < limit := by
      rw [ranked]
      exact lt_of_le_of_lt (rank_mono_item place part first lost before) (not_le.mp near)
    have kept : first ∈ best place limit part := by
      rw [same]
      exact (mem_best place limit whole first).mpr ⟨(Finset.mem_sdiff.mp out).1, close⟩
    exact (Finset.mem_sdiff.mp out).2 ((mem_best place limit part first).mp kept).1
  · intro far
    ext item
    rw [mem_best, mem_best]
    constructor
    · rintro ⟨here, near⟩
      refine ⟨within here, ?_⟩
      rw [rank_same place part whole within item]
      · exact near
      · intro lost outside earlier
        have behind := le_trans (far lost outside) (rank_mono_item place part lost item (le_of_lt earlier))
        exact absurd near (not_lt.mpr behind)
    · rintro ⟨here, near⟩
      have inside : item ∈ part := by
        by_contra absent
        have behind := far item (Finset.mem_sdiff.mpr ⟨here, absent⟩)
        exact absurd (lt_of_le_of_lt (rank_mono_items place part whole within item) near) (not_lt.mpr behind)
      exact ⟨inside, lt_of_le_of_lt (rank_mono_items place part whole within item) near⟩

theorem rank_insert (place : α → β) (items : Finset α) (first item : α) (fresh : first ∉ items)
    (before : place first < place item) : rank place (insert first items) item = rank place items item + 1 := by
  rw [rank, Finset.filter_insert, if_pos before, Finset.card_insert_of_notMem]
  · rfl
  · exact fun member => fresh (Finset.mem_filter.mp member).1

theorem mem_take_iff (place : α → β) (limit : Nat) (items : List α)
    (sorted : items.Pairwise (fun a b => place a < place b)) (item : α) :
    item ∈ items.take limit ↔ item ∈ best place limit items.toFinset := by
  rw [mem_best, List.mem_toFinset]
  induction items generalizing limit with
  | nil => simp
  | cons first rest ih =>
      obtain ⟨ahead, later⟩ := List.pairwise_cons.mp sorted
      cases limit with
      | zero => simp
      | succ limit =>
          rw [List.take_succ_cons, List.mem_cons, List.mem_cons, List.toFinset_cons]
          have fresh : first ∉ rest.toFinset := by
            rw [List.mem_toFinset]
            exact fun member => absurd (ahead first member) (lt_irrefl _)
          by_cases here : item = first
          · subst item
            have none : rank place (insert first rest.toFinset) first = 0 := by
              refine rank_least place _ first ?_
              intro other member
              cases Finset.mem_insert.mp member with
              | inl same => exact same ▸ lt_irrefl _
              | inr behind => exact not_lt.mpr (le_of_lt (ahead other (List.mem_toFinset.mp behind)))
            simp [none]
          · simp only [here, false_or]
            rw [ih limit later]
            constructor
            · rintro ⟨member, near⟩
              refine ⟨member, ?_⟩
              rw [rank_insert place _ first item fresh (ahead item member)]
              exact Nat.succ_lt_succ near
            · rintro ⟨member, near⟩
              refine ⟨member, ?_⟩
              rw [rank_insert place _ first item fresh (ahead item member)] at near
              exact Nat.lt_of_succ_lt_succ near

omit [DecidableEq α] in
-- `max(items, key=score)`, when the scores are such that the order is total on them.
theorem fold_highest {σ : Type} (le : σ → σ → Bool) (p : σ → Prop) (trans : ∀ a b c, le a b = true → le b c = true → le a c = true)
    (total : ∀ a b, p a → p b → le a b || le b a) (score : α → σ) (first : α) (rest : List α)
    (all : ∀ item ∈ first :: rest, p (score item)) (best : α)
    (found : rest.foldl (fun best item => if le (score best) (score item) && !le (score item) (score best) then item else best)
      first = best) : best ∈ first :: rest ∧ ∀ item ∈ first :: rest, le (score item) (score best) = true := by
  induction rest generalizing first with
  | nil =>
      obtain rfl : first = best := found
      have own := total _ _ (all first List.mem_cons_self) (all first List.mem_cons_self)
      exact ⟨List.mem_cons_self, fun item member => by rw [List.mem_singleton.mp member]; simpa using own⟩
  | cons next rest ih =>
      rw [List.foldl_cons] at found
      have head := all first List.mem_cons_self
      have second := all next (List.mem_cons_of_mem _ List.mem_cons_self)
      have later := fun item member => all item (List.mem_cons_of_mem _ (List.mem_cons_of_mem _ member))
      by_cases higher : (le (score first) (score next) && !le (score next) (score first)) = true
      · rw [if_pos higher] at found
        obtain ⟨member, highest⟩ := ih next (List.forall_mem_cons.mpr ⟨second, later⟩) found
        refine ⟨List.mem_cons_of_mem _ member, List.forall_mem_cons.mpr ⟨?_, highest⟩⟩
        exact trans _ _ _ (by simp_all) (highest next List.mem_cons_self)
      · rw [if_neg higher] at found
        obtain ⟨member, highest⟩ := ih first (List.forall_mem_cons.mpr ⟨head, later⟩) found
        have lower : le (score next) (score first) = true := by
          have either := total _ _ head second
          cases one : le (score first) (score next) with
          | false => simpa [one] using either
          | true => simpa [one] using higher
        have top := highest first List.mem_cons_self
        refine ⟨?_, List.forall_mem_cons.mpr ⟨top, List.forall_mem_cons.mpr ⟨trans _ _ _ lower top, ?_⟩⟩⟩
        · rcases List.mem_cons.mp member with rfl | inner
          · exact List.mem_cons_self
          · exact List.mem_cons_of_mem _ (List.mem_cons_of_mem _ inner)
        · exact fun item inner => highest item (List.mem_cons_of_mem _ inner)

omit [DecidableEq α] in
-- An order that is total and transitive only on some items sorts these.
theorem sorted_where (le : α → α → Bool) (p : α → Prop) [DecidablePred p]
    (trans : ∀ a b c, le a b = true → le b c = true → le a c = true) (total : ∀ a b, p a → p b → le a b || le b a)
    (items : List α) (all : ∀ item ∈ items, p item) : (items.mergeSort le).Pairwise (fun a b => le a b = true) := by
  let leLast (a b : α) : Bool := !decide (p b) || (decide (p a) && le a b)
  have same : items.mergeSort leLast = items.mergeSort le := by
    have mapped := List.map_mergeSort (r := leLast) (s := le) (f := fun item => item) (l := items)
      (fun a left b right => by simp [leLast, all a left, all b right])
    simpa using mapped
  have lastTrans (a b c : α) (first : leLast a b = true) (second : leLast b c = true) : leLast a c = true := by
    simp only [leLast, Bool.or_eq_true, Bool.not_eq_true', decide_eq_false_iff_not, Bool.and_eq_true, decide_eq_true_iff]
      at first second ⊢
    rcases second with out | ⟨inB, lower⟩
    · exact .inl out
    · rcases first with out | ⟨inA, higher⟩
      · exact (out inB).elim
      · exact .inr ⟨inA, trans a b c higher lower⟩
  have lastTotal (a b : α) : (leLast a b || leLast b a) = true := by
    by_cases inA : p a
    · by_cases inB : p b
      · simpa [leLast, inA, inB] using total a b inA inB
      · simp [leLast, inB]
    · simp [leLast, inA]
  have sorted := List.pairwise_mergeSort lastTrans lastTotal items
  rw [same] at sorted
  refine sorted.imp_of_mem (fun left right before => ?_)
  have inA := all _ (List.mem_mergeSort.mp left)
  have inB := all _ (List.mem_mergeSort.mp right)
  simpa [leLast, inA, inB] using before

end QuantEngine.Ranking

namespace QuantEngine.Frontier

variable {α : Type}

def Unbeaten (better : α → α → Prop) (items : List α) (item : α) : Prop := ∀ other ∈ items, ¬ better other item

-- Up from any item of a finite list the way ends at one that nothing beats.
theorem exists_unbeaten (better : α → α → Prop) (items : List α) (irreflexive : ∀ item ∈ items, ¬ better item item)
    (transitive : ∀ a ∈ items, ∀ b ∈ items, ∀ c ∈ items, better a b → better b c → better a c) (start : α) (member : start ∈ items) :
    ∃ top ∈ items, Unbeaten better items top ∧ (top = start ∨ better top start) := by
  let above (a b : {item : α // item ∈ items}) : Prop := better a.1 b.1
  have finite : Finite {item : α // item ∈ items} := List.finite_toSet items
  have strict : Std.Irrefl above := ⟨fun item => irreflexive item.1 item.2⟩
  have chained : IsTrans _ above := ⟨fun a b c => transitive a.1 a.2 b.1 b.2 c.1 c.2⟩
  have founded : WellFounded above := Finite.wellFounded_of_trans_of_irrefl above
  have climb (item : {item : α // item ∈ items}) :
      ∃ top ∈ items, Unbeaten better items top ∧ (top = item.1 ∨ better top item.1) := by
    induction item using founded.induction with
    | _ item ih =>
        by_cases beaten : ∃ other ∈ items, better other item.1
        · obtain ⟨other, here, beats⟩ := beaten
          obtain ⟨top, there, unbeaten, reached⟩ := ih ⟨other, here⟩ beats
          refine ⟨top, there, unbeaten, .inr ?_⟩
          cases reached with
          | inl same =>
              rw [same]
              exact beats
          | inr higher => exact transitive top there other here item.1 item.2 higher beats
        · exact ⟨item.1, item.2, fun other here beats => beaten ⟨other, here, beats⟩, .inl rfl⟩
  exact climb ⟨start, member⟩

end QuantEngine.Frontier
