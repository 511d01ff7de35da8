import Mathlib.Data.List.Basic

set_option autoImplicit false

-- Loops over steps that may fail.
namespace QuantEngine.Fallible

variable {ε α β σ : Type}

theorem map_ok (f : α → Except ε β) (g : α → β) (items : List α) (each_ : ∀ item ∈ items, f item = .ok (g item)) :
    items.mapM f = .ok (items.map g) := by
  induction items with
  | nil => rfl
  | cons item rest ih =>
      rw [List.mapM_cons, each_ item List.mem_cons_self, ih (fun other member => each_ other (List.mem_cons_of_mem _ member))]
      rfl

-- A step that succeeds and keeps the invariant does so all along.
theorem fold_ok (step : σ → α → Except ε σ) (invariant : σ → Prop) (items : List α)
    (kept : ∀ state, ∀ item ∈ items, invariant state → ∃ next, step state item = .ok next ∧ invariant next) (state : σ)
    (holds : invariant state) : ∃ final, items.foldlM step state = .ok final ∧ invariant final := by
  induction items generalizing state with
  | nil => exact ⟨state, rfl, holds⟩
  | cons item rest ih =>
      obtain ⟨next, stepped, now⟩ := kept state item List.mem_cons_self holds
      rw [List.foldlM_cons, stepped]
      exact ih (fun state other member => kept state other (List.mem_cons_of_mem _ member)) next now

theorem then_ok_iff (result : Except ε α) (f : α → Except ε β) (value : β) :
    (result >>= f) = .ok value ↔ ∃ given, result = .ok given ∧ f given = .ok value := by
  cases result with
  | error error => exact iff_of_false (fun same => nomatch same) (fun ⟨_, same, _⟩ => nomatch same)
  | ok given =>
      constructor
      · intro same
        exact ⟨given, rfl, same⟩
      · rintro ⟨other, same, later⟩
        rwa [← Except.ok.inj same] at later

theorem then_error_iff (result : Except ε α) (f : α → Except ε β) (error : ε) :
    (result >>= f) = .error error ↔ result = .error error ∨ ∃ given, result = .ok given ∧ f given = .error error := by
  cases result with
  | error other =>
      constructor
      · intro same
        exact .inl (congrArg Except.error (Except.error.inj same))
      · rintro (same | ⟨_, same, -⟩)
        · rw [Except.error.inj same]
          rfl
        · exact nomatch same
  | ok given =>
      constructor
      · intro same
        exact .inr ⟨given, rfl, same⟩
      · rintro (same | ⟨other, same, later⟩)
        · exact nomatch same
        · rwa [← Except.ok.inj same] at later

theorem map_ok_iff (f : α → Except ε β) (items : List α) :
    (∃ results, items.mapM f = .ok results) ↔ ∀ item ∈ items, ∃ result, f item = .ok result := by
  induction items with
  | nil => exact iff_of_true ⟨[], rfl⟩ (fun item member => nomatch member)
  | cons item rest ih =>
      rw [List.forall_mem_cons, ← ih, List.mapM_cons]
      constructor
      · rintro ⟨results, mapped⟩
        obtain ⟨result, first, later⟩ := (then_ok_iff _ _ _).mp mapped
        obtain ⟨others, rested, -⟩ := (then_ok_iff _ _ _).mp later
        exact ⟨⟨result, first⟩, others, rested⟩
      · rintro ⟨⟨result, first⟩, others, rested⟩
        exact ⟨result :: others, by rw [first, rested]; rfl⟩

-- An error is that of the first item that fails.
theorem map_error_iff (f : α → Except ε β) (items : List α) (error : ε) : items.mapM f = .error error ↔
    ∃ before item after, items = before ++ item :: after ∧ (∀ other ∈ before, ∃ result, f other = .ok result) ∧
      f item = .error error := by
  constructor
  · intro failed
    induction items with
    | nil => exact nomatch failed
    | cons item rest ih =>
        rw [List.mapM_cons] at failed
        cases first : f item with
        | error other =>
            rw [first] at failed
            obtain rfl := Except.error.inj failed
            exact ⟨[], item, rest, rfl, by simp, first⟩
        | ok result =>
            rw [first] at failed
            cases later : rest.mapM f with
            | ok results =>
                rw [later] at failed
                exact nomatch failed
            | error other =>
                rw [later] at failed
                obtain rfl := Except.error.inj failed
                obtain ⟨before, culprit, after, rfl, passed, raised⟩ := ih later
                refine ⟨item :: before, culprit, after, rfl, fun other member => ?_, raised⟩
                rcases List.mem_cons.mp member with rfl | inside
                · exact ⟨result, first⟩
                · exact passed other inside
  · rintro ⟨before, item, after, rfl, passed, raised⟩
    induction before with
    | nil => rw [List.nil_append, List.mapM_cons, raised]; rfl
    | cons first rest ih =>
        obtain ⟨result, ok⟩ := passed first List.mem_cons_self
        rw [List.cons_append, List.mapM_cons, ok, ih (fun other member => passed other (List.mem_cons_of_mem first member))]
        rfl

theorem map_all_iff (f : α → Except ε β) (items : List α) (results : List β) :
    items.mapM f = .ok results ↔ items.map f = results.map .ok := by
  induction items generalizing results with
  | nil =>
      cases results with
      | nil => exact iff_of_true rfl rfl
      | cons result others => exact iff_of_false (fun same => nomatch same) (fun same => nomatch same)
  | cons item rest ih =>
      rw [List.mapM_cons, then_ok_iff]
      constructor
      · rintro ⟨result, first, later⟩
        obtain ⟨others, rested, same⟩ := (then_ok_iff _ _ _).mp later
        obtain rfl := Except.ok.inj same
        rw [List.map_cons, List.map_cons, first, (ih others).mp rested]
      · intro same
        cases results with
        | nil => exact nomatch same
        | cons result others =>
            obtain ⟨first, rested⟩ := List.cons.inj same
            exact ⟨result, first, (then_ok_iff _ _ _).mpr ⟨others, (ih others).mpr rested, rfl⟩⟩

-- What every error of a step is, the error of the loop is.
theorem fold_raises (step : σ → α → Except ε σ) (kind : ε → Prop)
    (raises : ∀ state item error, step state item = .error error → kind error) (items : List α) (state : σ) (error : ε)
    (failed : items.foldlM step state = .error error) : kind error := by
  induction items generalizing state with
  | nil => exact nomatch failed
  | cons item rest ih =>
      rw [List.foldlM_cons] at failed
      rcases (then_error_iff _ _ _).mp failed with first | ⟨next, -, later⟩
      · exact raises state item error first
      · exact ih next later

-- A loop whose steps fail by themselves first does them all.
theorem fold_map (f : α → Except ε β) (put : σ → β → σ) (items : List α) (state : σ) :
    items.foldlM (fun state item => (f item).map (put state)) state = (items.mapM f).map (fun results => results.foldl put state) := by
  induction items generalizing state with
  | nil => rfl
  | cons item rest ih =>
      rw [List.foldlM_cons, List.mapM_cons]
      cases f item with
      | error error => rfl
      | ok result =>
          refine (ih (put state result)).trans ?_
          cases rest.mapM f with
          | error error => rfl
          | ok results => rfl

end QuantEngine.Fallible
