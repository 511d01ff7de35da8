import Mathlib.Data.List.SplitBy
import Mathlib.Data.List.Pairwise

set_option autoImplicit false

namespace QuantEngine.Chains

variable {α : Type} (near : α → α → Bool) (le : α → α → Prop)

-- Two neighbours that are not near, with `x` on one side and `y` on the other.
def Gap (items : List α) (x y : α) : Prop := ∃ u v, near u v = false ∧ le x u ∧ le u v ∧ le v y ∧
  (∀ z ∈ items, le z u ∨ le v z)

theorem sublist_pair (groups : List (List α)) (first second : List α) (both : List.Sublist [first, second] groups) :
    ∃ before rest, groups = before ++ first :: rest ∧ second ∈ rest := by
  induction groups with
  | nil => cases both
  | cons group rest ih =>
      rcases List.sublist_cons_iff.mp both with later | ⟨others, same, within⟩
      · obtain ⟨before, after, whole, there⟩ := ih later
        exact ⟨group :: before, after, by rw [whole]; rfl, there⟩
      · obtain ⟨rfl, rfl⟩ := List.cons.inj same
        exact ⟨[], rest, rfl, List.singleton_sublist.mp within⟩

theorem ordered_pair (refl : ∀ a, le a a) (items : List α) (sorted : items.Pairwise le) (x y : α) (left : x ∈ items)
    (right : y ∈ items) (below : ¬ le y x) : List.Sublist [x, y] items := by
  obtain ⟨before, after, rfl⟩ := List.append_of_mem left
  obtain ⟨-, -, across⟩ := List.pairwise_append.mp sorted
  rcases List.mem_append.mp right with early | late
  · exact absurd (across y early x List.mem_cons_self) below
  · rcases List.mem_cons.mp late with rfl | later
    · exact absurd (refl y) below
    · exact ((List.singleton_sublist.mpr later).cons_cons x).trans (List.sublist_append_right before _)

-- Between two groups of a sorted list there is a gap.
theorem gap_between (refl : ∀ a, le a a) (items : List α) (sorted : items.Pairwise le) (first second : List α)
    (both : List.Sublist [first, second] (items.splitBy near)) (x y : α) (left : x ∈ first) (right : y ∈ second) :
    Gap near le items x y := by
  obtain ⟨before, rest, whole, there⟩ := sublist_pair _ first second both
  have chained := List.isChain_getLast_head_splitBy near items
  have total := List.flatten_splitBy near items
  rw [whole] at chained total
  cases rest with
  | nil => cases there
  | cons next others =>
      obtain ⟨some, other, apart⟩ := (List.isChain_cons_cons.mp (List.isChain_append.mp chained).2.1).1
      obtain ⟨init, u, rfl⟩ := (List.eq_nil_or_concat' first).resolve_left some
      obtain ⟨v, tail, rfl⟩ := List.exists_cons_of_ne_nil other
      rw [List.getLast_append_singleton, List.head_cons] at apart
      let before' := before.flatten ++ init
      let after := tail ++ others.flatten
      have split : items = before' ++ u :: v :: after := by
        rw [← total]
        simp [before', after]
      rw [split, List.pairwise_append] at sorted
      obtain ⟨-, later, across⟩ := sorted
      obtain ⟨fromU, fromV⟩ := List.pairwise_cons.mp later
      have upTo (z : α) (member : z ∈ before' ++ [u]) : le z u := by
        rcases List.mem_append.mp member with early | here
        · exact across z early u List.mem_cons_self
        · rw [List.mem_singleton.mp here]
          exact refl u
      have onward (z : α) (member : z ∈ v :: after) : le v z := by
        rcases List.mem_cons.mp member with rfl | late
        · exact refl z
        · exact (List.pairwise_cons.mp fromV).1 z late
      refine ⟨u, v, apart, upTo x ?_, fromU v List.mem_cons_self, onward y ?_, fun z member => ?_⟩
      · simp only [before', List.mem_append] at left ⊢
        tauto
      · rcases List.mem_cons.mp there with rfl | later
        · simp only [after, List.mem_cons, List.mem_append] at right ⊢
          tauto
        · exact List.mem_cons_of_mem _ (List.mem_append_right _ (List.mem_flatten_of_mem later right))
      · rw [split] at member
        rcases List.mem_append.mp member with early | late
        · exact .inl (upTo z (List.mem_append_left _ early))
        · rcases List.mem_cons.mp late with rfl | later
          · exact .inl (refl z)
          · exact .inr (onward z later)

-- Two places of the list whose items have no gap between them share a group.
theorem together (refl : ∀ a, le a a) (items : List α) (sorted : items.Pairwise le) :
    items.Pairwise (fun x y => ¬ Gap near le items x y → ∃ group ∈ items.splitBy near, List.Sublist [x, y] group) := by
  have places : (items.splitBy near).flatten.Pairwise
      (fun x y => ¬ Gap near le items x y → ∃ group ∈ items.splitBy near, List.Sublist [x, y] group) := by
    rw [List.pairwise_flatten]
    constructor
    · intro group member
      exact List.pairwise_iff_forall_sublist.mpr (fun pair _ => ⟨group, member, pair⟩)
    · refine List.pairwise_iff_forall_sublist.mpr (fun {first second} both x left y right closed => ?_)
      exact absurd (gap_between near le refl items sorted first second both x y left right) closed
  rwa [List.flatten_splitBy] at places

-- Neighbours in a group are near; where nearness chains upwards, so are any two.
theorem near_in_group (items group : List α) (member : group ∈ items.splitBy near) (ordered : group.Pairwise le)
    (chains : ∀ a ∈ group, ∀ b ∈ group, ∀ c ∈ group, le a b → le b c → near a b = true → near b c = true → near a c = true) :
    group.Pairwise (fun a b => near a b = true) := by
  have linked := List.isChain_of_mem_splitBy member
  clear member
  induction group with
  | nil => exact List.Pairwise.nil
  | cons first rest ih =>
      obtain ⟨least, ordered⟩ := List.pairwise_cons.mp ordered
      have others := ih ordered (fun a ha b hb c hc => chains a (List.mem_cons_of_mem _ ha) b (List.mem_cons_of_mem _ hb) c
        (List.mem_cons_of_mem _ hc)) linked.tail
      refine List.pairwise_cons.mpr ⟨fun later there => ?_, others⟩
      cases rest with
      | nil => cases there
      | cons next more =>
          have step := (List.isChain_cons_cons.mp linked).1
          rcases List.mem_cons.mp there with rfl | beyond
          · exact step
          · exact chains first List.mem_cons_self next (List.mem_cons_of_mem _ List.mem_cons_self) later
              (List.mem_cons_of_mem _ there) (least next List.mem_cons_self) ((List.pairwise_cons.mp ordered).1 later beyond)
              step ((List.pairwise_cons.mp others).1 later beyond)

theorem split_map {β : Type} (f : α → β) (near : β → β → Bool) (items : List α) :
    (items.map f).splitBy near = (items.splitBy (fun a b => near (f a) (f b))).map (List.map f) := by
  refine List.splitBy_eq_iff.mpr ⟨?_, ?_, ?_, ?_⟩
  · rw [← List.map_flatten, List.flatten_splitBy]
  · intro member
    obtain ⟨group, there, empty⟩ := List.mem_map.mp member
    rw [List.map_eq_nil_iff.mp empty] at there
    exact List.nil_notMem_splitBy _ items there
  · intro group member
    obtain ⟨source, there, rfl⟩ := List.mem_map.mp member
    exact (List.isChain_map f).mpr (List.isChain_of_mem_splitBy there)
  · refine (List.isChain_map _).mpr ((List.isChain_getLast_head_splitBy _ items).imp ?_)
    rintro a b ⟨some, other, apart⟩
    refine ⟨by simpa using some, by simpa using other, ?_⟩
    rw [List.getLast_map, List.head_map]
    exact apart

end QuantEngine.Chains
