import QuantEngine.Library.Coroutine

set_option autoImplicit false

namespace QuantEngine

variable {σ τ ι α β γ δ : Type}

-- Two tasks in lockstep: from states that `R` relates they stop at the same
-- places, resumed alike they go on so, and they end in related states with
-- values that `V` relates.
def Co.Lockstep (R : σ → σ → Prop) (V : α → β → Prop) : Co σ τ ι α → Co σ τ ι β → Prop
  | .done left value, .done right other => V value other ∧ R left right
  | .raised left, .raised right => R left right
  | .await left point resume, .await right place again => point = place ∧ R left right ∧
      ∀ first second input, R first second → (resume first input).Lockstep R V (again second input)
  | _, _ => False

def Task.Lockstep (R : σ → σ → Prop) (V : α → β → Prop) (first : Task σ τ ι α) (second : Task σ τ ι β) : Prop :=
  ∀ left right, R left right → (first left).Lockstep R V (second right)

namespace Co

theorem lockstep_bind (R : σ → σ → Prop) (V : α → β → Prop) (W : γ → δ → Prop) (first : Co σ τ ι α) (second : Co σ τ ι β)
    (next : σ → α → Co σ τ ι γ) (other : σ → β → Co σ τ ι δ) (start : first.Lockstep R V second)
    (rest : ∀ left right value also, V value also → R left right → (next left value).Lockstep R W (other right also)) :
    (first.bind next).Lockstep R W (second.bind other) := by
  induction first generalizing second with
  | done left value =>
      cases second with
      | done right also => exact rest left right value also start.1 start.2
      | raised right => exact start.elim
      | await right place again => exact start.elim
  | raised left =>
      cases second with
      | done right also => exact start.elim
      | raised right => exact start
      | await right place again => exact start.elim
  | await left point resume ih =>
      cases second with
      | done right also => exact start.elim
      | raised right => exact start.elim
      | await right place again =>
          exact ⟨start.1, start.2.1, fun a b input related => ih a input (again b input) (start.2.2 a b input related)⟩

theorem lockstep_finish (R : σ → σ → Prop) (V : α → β → Prop) (answer : τ → ι) (first : Co σ τ ι α) (second : Co σ τ ι β)
    (together : first.Lockstep R V second) : R (first.finish answer) (second.finish answer) := by
  induction first generalizing second with
  | done left value =>
      cases second with
      | done right also => exact together.2
      | raised right => exact together.elim
      | await right place again => exact together.elim
  | raised left =>
      cases second with
      | done right also => exact together.elim
      | raised right => exact together
      | await right place again => exact together.elim
  | await left point resume ih =>
      cases second with
      | done right also => exact together.elim
      | raised right => exact together.elim
      | await right place again =>
          obtain ⟨rfl, states, later⟩ := together
          exact ih left (answer point) (again right (answer point)) (later left right (answer point) states)

end Co

namespace Task

variable (R : σ → σ → Prop)

theorem lockstep_pure (V : α → β → Prop) (value : α) (other : β) (related : V value other) :
    Lockstep R V (pure value : Task σ τ ι α) (pure other) := fun _ _ states => ⟨related, states⟩

theorem lockstep_sync (V : α → β → Prop) (f : σ → α × σ) (g : σ → β × σ)
    (step : ∀ left right, R left right → V (f left).1 (g right).1 ∧ R (f left).2 (g right).2) :
    Lockstep R V (sync f : Task σ τ ι α) (sync g) := step

theorem lockstep_modify (f g : σ → σ) (step : ∀ left right, R left right → R (f left) (g right)) :
    Lockstep R Eq (modify f : Task σ τ ι Unit) (modify g) := fun left right related => ⟨rfl, step left right related⟩

theorem lockstep_raise (V : α → β → Prop) : Lockstep R V (raise : Task σ τ ι α) raise := fun _ _ related => related

theorem lockstep_suspend (point : τ) : Lockstep R Eq (suspend point : Task σ τ ι ι) (suspend point) :=
  fun _ _ related => ⟨rfl, related, fun _ _ _ later => ⟨rfl, later⟩⟩

theorem lockstep_seq (V : α → β → Prop) (W : γ → δ → Prop) (first : Task σ τ ι α) (second : Task σ τ ι β)
    (next : α → Task σ τ ι γ) (other : β → Task σ τ ι δ) (start : Lockstep R V first second)
    (rest : ∀ value also, V value also → Lockstep R W (next value) (other also)) :
    Lockstep R W (first >>= next) (second >>= other) :=
  fun left right related => Co.lockstep_bind R V W _ _ _ _ (start left right related)
    (fun a b value also values states => rest value also values a b states)

theorem lockstep_read (W : γ → δ → Prop) (next : σ → Task σ τ ι γ) (other : σ → Task σ τ ι δ)
    (rest : ∀ left right, R left right → Lockstep R W (next left) (other right)) :
    Lockstep R W (get >>= next) (get >>= other) := fun left right related => rest left right related left right related

theorem lockstep_each (body : α → Task σ τ ι Unit) (step : ∀ item, Lockstep R Eq (body item) (body item))
    (items : List α) : Lockstep R Eq (each body items) (each body items) := by
  induction items with
  | nil => exact lockstep_pure R Eq () () rfl
  | cons item rest ih => exact lockstep_seq R Eq Eq (body item) (body item) _ _ (step item) (fun _ _ _ => ih)

end Task

end QuantEngine
