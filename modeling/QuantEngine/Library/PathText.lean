import Mathlib.Data.List.Infix

set_option autoImplicit false

namespace QuantEngine.PathText

variable {α : Type}

-- Names one after another, each behind a separator that none of them has.
def spell (sep : α) (names : List (List α)) : List α := names.flatMap (fun name => sep :: name)

theorem spell_cons (sep : α) (name : List α) (names : List (List α)) :
    spell sep (name :: names) = sep :: (name ++ spell sep names) := rfl

-- The texts go on where the first of the paths ends, within one name.
def Lookalike (short long : List (List α)) : Prop :=
  ∃ above last other below, short = above ++ [last] ∧ long = above ++ other :: below ∧ last <+: other ∧ last ≠ other

theorem lookalike_cons (name : List α) (short long : List (List α)) (named : short ≠ []) :
    Lookalike (name :: short) (name :: long) ↔ Lookalike short long := by
  constructor
  · rintro ⟨above, last, other, below, first, second, starts, apart⟩
    cases above with
    | nil => exact absurd (List.cons.inj first).2 named
    | cons head above =>
        exact ⟨above, last, other, below, (List.cons.inj first).2, (List.cons.inj second).2, starts, apart⟩
  · rintro ⟨above, last, other, below, rfl, rfl, starts, apart⟩
    exact ⟨name :: above, last, other, below, rfl, rfl, starts, apart⟩

theorem lookalike_single (name other : List α) (rest : List (List α)) :
    Lookalike [name] (other :: rest) ↔ name <+: other ∧ name ≠ other := by
  constructor
  · rintro ⟨above, last, next, below, first, second, starts, apart⟩
    cases above with
    | nil =>
        cases first
        cases second
        exact ⟨starts, apart⟩
    | cons head above =>
        have short := (List.cons.inj first).2
        simp at short
  · rintro ⟨starts, apart⟩
    exact ⟨[], name, other, rest, rfl, rfl, starts, apart⟩

theorem lookalike_empty (short : List (List α)) : ¬ Lookalike short [] := by
  rintro ⟨above, last, other, below, -, second, -⟩
  cases above <;> cases second

theorem lookalike_differ (name other : List α) (short long : List (List α)) (apart : name ≠ other) (named : short ≠ []) :
    ¬ Lookalike (name :: short) (other :: long) := by
  rintro ⟨above, last, next, below, first, second, -⟩
  cases above with
  | nil => exact named (List.cons.inj first).2
  | cons head above => exact apart ((List.cons.inj first).1.trans (List.cons.inj second).1.symm)

theorem name_within (sep : α) (name other rest : List α) (plain : sep ∉ name)
    (rest_starts : rest = [] ∨ ∃ more, rest = sep :: more) :
    name <+: other ++ rest ↔ name <+: other := by
  constructor
  · intro starts
    induction name generalizing other with
    | nil => exact List.nil_prefix
    | cons letter name ih =>
        cases other with
        | nil =>
            rcases rest_starts with rfl | ⟨more, rfl⟩
            · exact starts
            · have same := (List.cons_prefix_cons.mp starts).1
              exact absurd (same ▸ List.mem_cons_self) plain
        | cons other_letter other =>
            obtain ⟨same, later⟩ := List.cons_prefix_cons.mp starts
            exact List.cons_prefix_cons.mpr ⟨same, ih other (fun member => plain (List.mem_cons_of_mem _ member)) later⟩
  · exact fun starts => starts.trans (List.prefix_append other rest)

theorem name_then (sep : α) (name other more rest : List α) (plain : sep ∉ name) (other_plain : sep ∉ other)
    (rest_starts : rest = [] ∨ ∃ later, rest = sep :: later) :
    name ++ sep :: more <+: other ++ rest ↔ name = other ∧ sep :: more <+: rest := by
  constructor
  · intro starts
    induction name generalizing other with
    | nil =>
        cases other with
        | nil => exact ⟨rfl, starts⟩
        | cons letter other => exact absurd ((List.cons_prefix_cons.mp starts).1 ▸ List.mem_cons_self) other_plain
    | cons letter name ih =>
        cases other with
        | nil =>
            rcases rest_starts with rfl | ⟨later, rfl⟩
            · simp at starts
            · exact absurd ((List.cons_prefix_cons.mp starts).1 ▸ List.mem_cons_self) plain
        | cons other_letter other =>
            obtain ⟨same, after⟩ := List.cons_prefix_cons.mp starts
            obtain ⟨names, more⟩ := ih other (fun member => plain (List.mem_cons_of_mem _ member))
              (fun member => other_plain (List.mem_cons_of_mem _ member)) after
            exact ⟨congrArg₂ List.cons same names, more⟩
  · rintro ⟨rfl, starts⟩
    exact (List.prefix_append_right_inj name).mpr starts

theorem spell_starts (sep : α) (names : List (List α)) : spell sep names = [] ∨ ∃ more, spell sep names = sep :: more := by
  cases names with
  | nil => exact .inl rfl
  | cons name names => exact .inr ⟨name ++ spell sep names, rfl⟩

-- Where one text begins another, so does one path the other, or the second goes
-- on within the last name of the first.
theorem spell_prefix (sep : α) (short long : List (List α)) (plain : ∀ name ∈ short, sep ∉ name)
    (long_plain : ∀ name ∈ long, sep ∉ name) : spell sep short <+: spell sep long ↔ short <+: long ∨ Lookalike short long := by
  induction short generalizing long with
  | nil => simp [spell]
  | cons name short ih =>
      cases long with
      | nil => simp [spell, lookalike_empty]
      | cons other long =>
          have here := plain name List.mem_cons_self
          have there := long_plain other List.mem_cons_self
          have starts := spell_starts sep long
          rw [spell_cons, spell_cons, List.cons_prefix_cons]
          cases short with
          | nil =>
              rw [show spell sep ([] : List (List α)) = [] from rfl, List.append_nil, name_within sep name other _ here starts,
                lookalike_single, List.cons_prefix_cons]
              by_cases same : name = other
              · simp [same]
              · simp [same]
          | cons next short =>
              rw [spell_cons, name_then sep name other _ _ here there starts, List.cons_prefix_cons]
              have later := ih long (fun name member => plain name (List.mem_cons_of_mem _ member))
                (fun name member => long_plain name (List.mem_cons_of_mem _ member))
              rw [spell_cons] at later
              rw [later]
              by_cases same : name = other
              · rw [same, lookalike_cons other (next :: short) long (List.cons_ne_nil _ _)]
                simp
              · simp [same, lookalike_differ name other (next :: short) long same (List.cons_ne_nil _ _)]

end QuantEngine.PathText
