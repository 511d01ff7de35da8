set_option autoImplicit false

namespace QuantEngine.Run

variable {σ α : Type}

-- A run is a start state and the finite list of actions taken from it. `Each`
-- says that a condition on the state before a step and the action taken there
-- holds at every step of the run.
def Each (step : σ → α → σ) (ok : σ → α → Prop) : σ → List α → Prop
  | _, [] => True
  | s, action :: rest => ok s action ∧ Each step ok (step s action) rest

def final (step : σ → α → σ) (s : σ) (actions : List α) : σ := actions.foldl step s

def Always (step : σ → α → σ) (P : σ → Prop) (s : σ) (actions : List α) : Prop :=
  P s ∧ Each step (fun t action => P (step t action)) s actions

def Along (step : σ → α → σ) (R : σ → σ → Prop) (s : σ) (actions : List α) : Prop :=
  Each step (fun t action => R t (step t action)) s actions

instance decidableEach (step : σ → α → σ) (ok : σ → α → Prop) [∀ s a, Decidable (ok s a)] :
    ∀ s actions, Decidable (Each step ok s actions)
  | _, [] => inferInstanceAs (Decidable True)
  | s, action :: rest =>
      have := decidableEach step ok (step s action) rest
      inferInstanceAs (Decidable (ok s action ∧ Each step ok (step s action) rest))

theorem each_of_all (step : σ → α → σ) (ok : σ → α → Prop) (all : ∀ s action, ok s action) (s : σ)
    (actions : List α) : Each step ok s actions := by
  induction actions generalizing s with
  | nil => trivial
  | cons action rest ih => exact ⟨all s action, ih (step s action)⟩

theorem each_of_mem (step : σ → α → σ) (ok : α → Prop) (s : σ) (actions : List α) (all : ∀ action ∈ actions, ok action) :
    Each step (fun _ action => ok action) s actions := by
  induction actions generalizing s with
  | nil => trivial
  | cons action rest ih =>
      exact ⟨all action List.mem_cons_self,
        ih (step s action) (fun other member => all other (List.mem_cons_of_mem _ member))⟩

theorem each_mono (step : σ → α → σ) (p q : σ → α → Prop) (implies : ∀ s action, p s action → q s action)
    (s : σ) (actions : List α) (met : Each step p s actions) : Each step q s actions := by
  induction actions generalizing s with
  | nil => trivial
  | cons action rest ih => exact ⟨implies s action met.1, ih (step s action) met.2⟩

theorem each_and (step : σ → α → σ) (p q : σ → α → Prop) (s : σ) (actions : List α) (first : Each step p s actions)
    (second : Each step q s actions) : Each step (fun s action => p s action ∧ q s action) s actions := by
  induction actions generalizing s with
  | nil => trivial
  | cons action rest ih => exact ⟨⟨first.1, second.1⟩, ih (step s action) first.2 second.2⟩

theorem each_append (step : σ → α → σ) (ok : σ → α → Prop) (s : σ) (first second : List α) :
    Each step ok s (first ++ second) ↔ Each step ok s first ∧ Each step ok (final step s first) second := by
  induction first generalizing s with
  | nil => exact ⟨fun all => ⟨trivial, all⟩, And.right⟩
  | cons action rest ih => exact (and_congr_right (fun _ => ih (step s action))).trans and_assoc.symm

theorem final_preserved (step : σ → α → σ) (Inv : σ → Prop) (keeps : ∀ s action, Inv s → Inv (step s action))
    (s : σ) (actions : List α) (start : Inv s) : Inv (final step s actions) := by
  induction actions generalizing s with
  | nil => exact start
  | cons action rest ih => exact ih (step s action) (keeps s action start)

theorem always_of_along (step : σ → α → σ) (R : σ → σ → Prop) (P : σ → Prop) (carries : ∀ a b, R a b → P a → P b)
    (s : σ) (actions : List α) (start : P s) (related : Along step R s actions) : Always step P s actions := by
  refine ⟨start, ?_⟩
  induction actions generalizing s with
  | nil => trivial
  | cons action rest ih =>
      have next := carries s (step s action) related.1 start
      exact ⟨next, ih (step s action) next related.2⟩

theorem always_mono (step : σ → α → σ) (P Q : σ → Prop) (implies : ∀ s, P s → Q s) (s : σ) (actions : List α)
    (always : Always step P s actions) : Always step Q s actions :=
  ⟨implies s always.1, each_mono step _ _ (fun t action => implies (step t action)) s actions always.2⟩

theorem final_of_along (step : σ → α → σ) (R : σ → σ → Prop) (refl : ∀ a, R a a) (trans : ∀ a b c, R a b → R b c → R a c)
    (s : σ) (actions : List α) (related : Along step R s actions) : R s (final step s actions) := by
  induction actions generalizing s with
  | nil => exact refl s
  | cons action rest ih => exact trans _ _ _ related.1 (ih (step s action) related.2)

theorem always_final (step : σ → α → σ) (P : σ → Prop) (s : σ) (actions : List α) (always : Always step P s actions) :
    P (final step s actions) := by
  obtain ⟨now, later⟩ := always
  induction actions generalizing s with
  | nil => exact now
  | cons action rest ih => exact ih (step s action) later.1 later.2

theorem each_of_invariant (step : σ → α → σ) (ok p : σ → α → Prop) (Inv : σ → Prop)
    (keeps : ∀ s action, Inv s → ok s action → Inv (step s action))
    (gives : ∀ s action, Inv s → ok s action → p s action)
    (s : σ) (actions : List α) (start : Inv s) (admissible : Each step ok s actions) :
    Each step p s actions := by
  induction actions generalizing s with
  | nil => trivial
  | cons action rest ih =>
      exact ⟨gives s action start admissible.1,
        ih (step s action) (keeps s action start admissible.1) admissible.2⟩

theorem always_of_invariant (step : σ → α → σ) (ok : σ → α → Prop) (Inv P : σ → Prop)
    (keeps : ∀ s action, Inv s → ok s action → Inv (step s action))
    (gives : ∀ s, Inv s → P s) (s : σ) (actions : List α) (start : Inv s)
    (admissible : Each step ok s actions) : Always step P s actions :=
  ⟨gives s start, each_of_invariant step ok _ Inv keeps
    (fun t action inv allowed => gives _ (keeps t action inv allowed)) s actions start admissible⟩

-- The exact condition of a run: where an admissible step from an invariant
-- state meets `p` exactly when it meets `q`, and a step that meets `q` keeps
-- the invariant, the runs that meet `p` at every step are those that meet `q`.
theorem each_iff_where (step : σ → α → σ) (ok p q : σ → α → Prop) (Inv : σ → Prop)
    (same : ∀ s action, Inv s → ok s action → (p s action ↔ q s action))
    (keeps : ∀ s action, Inv s → ok s action → q s action → Inv (step s action))
    (s : σ) (actions : List α) (start : Inv s) (admissible : Each step ok s actions) :
    Each step p s actions ↔ Each step q s actions := by
  induction actions generalizing s with
  | nil => exact Iff.rfl
  | cons action rest ih =>
      constructor
      · rintro ⟨now, later⟩
        have met := (same s action start admissible.1).mp now
        exact ⟨met, (ih (step s action) (keeps s action start admissible.1 met) admissible.2).mp later⟩
      · rintro ⟨now, later⟩
        exact ⟨(same s action start admissible.1).mpr now,
          (ih (step s action) (keeps s action start admissible.1 now) admissible.2).mpr later⟩

theorem each_iff (step : σ → α → σ) (p q : σ → α → Prop) (Inv : σ → Prop)
    (same : ∀ s action, Inv s → (p s action ↔ q s action))
    (keeps : ∀ s action, Inv s → q s action → Inv (step s action))
    (s : σ) (actions : List α) (start : Inv s) :
    Each step p s actions ↔ Each step q s actions :=
  each_iff_where step (fun _ _ => True) p q Inv (fun t action inv _ => same t action inv)
    (fun t action inv _ met => keeps t action inv met) s actions start (each_of_all step _ (fun _ _ => trivial) s actions)

theorem always_iff_where (step : σ → α → σ) (ok : σ → α → Prop) (P : σ → Prop) (q : σ → α → Prop) (Inv : σ → Prop)
    (gives : ∀ s, Inv s → P s)
    (same : ∀ s action, Inv s → ok s action → (P (step s action) ↔ q s action))
    (keeps : ∀ s action, Inv s → ok s action → q s action → Inv (step s action))
    (s : σ) (actions : List α) (start : Inv s) (admissible : Each step ok s actions) :
    Always step P s actions ↔ Each step q s actions := by
  rw [Always, each_iff_where step ok _ q Inv same keeps s actions start admissible]
  exact ⟨And.right, fun met => ⟨gives s start, met⟩⟩

theorem always_iff (step : σ → α → σ) (P : σ → Prop) (q : σ → α → Prop) (Inv : σ → Prop)
    (gives : ∀ s, Inv s → P s)
    (same : ∀ s action, Inv s → (P (step s action) ↔ q s action))
    (keeps : ∀ s action, Inv s → q s action → Inv (step s action))
    (s : σ) (actions : List α) (start : Inv s) :
    Always step P s actions ↔ Each step q s actions := by
  rw [Always, each_iff step _ q Inv same keeps s actions start]
  exact ⟨And.right, fun met => ⟨gives s start, met⟩⟩

-- What is never undone holds at the end of the runs in which it came about.
theorem final_iff_happened (step : σ → α → σ) (Inv P : σ → Prop) (Q : σ → α → Prop)
    (keeps : ∀ s action, Inv s → Inv (step s action)) (comes : ∀ s action, Inv s → (P (step s action) ↔ P s ∨ Q s action))
    (s : σ) (actions : List α) (start : Inv s) :
    P (final step s actions) ↔
      P s ∨ ∃ before action after, actions = before ++ action :: after ∧ Q (final step s before) action := by
  induction actions generalizing s with
  | nil => simp [final]
  | cons head rest ih =>
      apply (ih (step s head) (keeps s head start)).trans
      rw [comes s head start, or_assoc]
      apply or_congr_right
      constructor
      · intro happened
        cases happened with
        | inl now => exact ⟨[], head, rest, rfl, now⟩
        | inr later =>
            obtain ⟨before, action, after, split, here⟩ := later
            exact ⟨head :: before, action, after, by rw [split, List.cons_append], here⟩
      · intro happened
        obtain ⟨before, action, after, split, here⟩ := happened
        cases before with
        | nil =>
            cases split
            exact .inl here
        | cons first others =>
            cases split
            exact .inr ⟨others, action, after, rfl, here⟩

end QuantEngine.Run
