import Mathlib.Algebra.Order.Field.Rat
import Mathlib.Data.List.Perm.Subperm
import Mathlib.Tactic.Linarith
import QuantEngine.Library.Json

set_option autoImplicit false

namespace QuantEngine

-- A number that `random()` may give; rounding makes both ends possible.
structure UnitDraw where
  value : ℚ
  nonneg : 0 ≤ value
  atMostOne : value ≤ 1

-- A program that draws random numbers and asks an oracle.
inductive Program (Q A α : Type) where
  | done (value : α)
  | raised (error : PyError)
  | index (bound : Nat) (resume : Fin (bound + 1) → Program Q A α)
  | unit (resume : UnitDraw → Program Q A α)
  | normal (resume : ℚ → Program Q A α)
  | ask (query : Q) (resume : A → Program Q A α)

-- What answers the draws, from one state to the next.
structure Dice (σ : Type) where
  index : σ → (bound : Nat) → Fin (bound + 1) × σ
  unit : σ → UnitDraw × σ
  normal : σ → ℚ × σ

-- Every draw comes out lowest.
def Dice.lowest : Dice Unit where
  index _ _ := (0, ())
  unit _ := (⟨0, le_refl _, zero_le_one⟩, ())
  normal _ := (0, ())

structure Outcome (Q A α σ τ : Type) where
  asked : List (Q × A)
  result : Except PyError α
  dice : σ
  oracle : τ

namespace Program

variable {Q A R B α β γ σ τ ω : Type}

def bind : Program Q A α → (α → Program Q A β) → Program Q A β
  | .done value, next => next value
  | .raised error, _ => .raised error
  | .index bound resume, next => .index bound (fun draw => (resume draw).bind next)
  | .unit resume, next => .unit (fun draw => (resume draw).bind next)
  | .normal resume, next => .normal (fun draw => (resume draw).bind next)
  | .ask query resume, next => .ask query (fun answer => (resume answer).bind next)

instance : Monad (Program Q A) where
  pure value := .done value
  bind program next := program.bind next

def ofExcept : Except PyError α → Program Q A α
  | .ok value => .done value
  | .error error => .raised error

def question (query : Q) : Program Q A A := .ask query .done

-- `[body(item) for item in items]`.
def each (body : α → Program Q A β) : List α → Program Q A (List β)
  | [] => pure []
  | item :: rest => do
      let value ← body item
      let values ← each body rest
      pure (value :: values)

-- `for _ in range(count): state = body(state)`.
def iterate (body : α → Program Q A α) : Nat → α → Program Q A α
  | 0, state => pure state
  | count + 1, state => do
      let next ← body state
      iterate body count next

-- The questions of one program are put to another, which carries a state.
def through (handle : τ → Q → Program R B (A × τ)) : Program Q A α → τ → Program R B (α × τ)
  | .done value, t => .done (value, t)
  | .raised error, _ => .raised error
  | .index bound resume, t => .index bound (fun draw => (resume draw).through handle t)
  | .unit resume, t => .unit (fun draw => (resume draw).through handle t)
  | .normal resume, t => .normal (fun draw => (resume draw).through handle t)
  | .ask query resume, t => (handle t query).bind (fun answer => (resume answer.1).through handle answer.2)

def run (dice : Dice σ) (oracle : τ → Q → A × τ) : Program Q A α → σ → τ → Outcome Q A α σ τ
  | .done value, s, t => ⟨[], .ok value, s, t⟩
  | .raised error, s, t => ⟨[], .error error, s, t⟩
  | .index bound resume, s, t => (resume (dice.index s bound).1).run dice oracle (dice.index s bound).2 t
  | .unit resume, s, t => (resume (dice.unit s).1).run dice oracle (dice.unit s).2 t
  | .normal resume, s, t => (resume (dice.normal s).1).run dice oracle (dice.normal s).2 t
  | .ask query resume, s, t =>
      let answer := oracle t query
      let later := (resume answer.1).run dice oracle s answer.2
      { later with asked := (query, answer.1) :: later.asked }

theorem run_bind (dice : Dice σ) (oracle : τ → Q → A × τ) (program : Program Q A α) (next : α → Program Q A β) (value : α)
    (s : σ) (t : τ) (result : (program.run dice oracle s t).result = .ok value) :
    ((program >>= next).run dice oracle s t).result =
      ((next value).run dice oracle (program.run dice oracle s t).dice (program.run dice oracle s t).oracle).result := by
  change ((program.bind next).run dice oracle s t).result = _
  induction program generalizing s t with
  | done held => rw [show held = value from Except.ok.inj result]; rfl
  | raised error => exact nomatch result
  | index bound resume ih => exact ih _ _ t result
  | unit resume ih => exact ih _ _ t result
  | normal resume ih => exact ih _ _ t result
  | ask query resume ih => exact ih _ s _ result

theorem run_map (dice : Dice σ) (oracle : τ → Q → A × τ) (program : Program Q A α) (f : α → β) (s : σ) (t : τ) :
    (program >>= fun value => pure (f value)).run dice oracle s t =
      { program.run dice oracle s t with result := (program.run dice oracle s t).result.map f } := by
  change (program.bind (fun value => .done (f value))).run dice oracle s t = _
  induction program generalizing s t with
  | done value => rfl
  | raised error => rfl
  | index bound resume ih => exact ih _ _ t
  | unit resume ih => exact ih _ _ t
  | normal resume ih => exact ih _ _ t
  | ask query resume ih => rw [bind, run, ih, run]

-- Whatever is drawn and answered, the program comes to an end, and `post` holds
-- of all that was asked and of the value.
def Ensures (post : List (Q × A) → α → Prop) : Program Q A α → List (Q × A) → Prop
  | .done value, log => post log value
  | .raised _, _ => False
  | .index _ resume, log => ∀ draw, (resume draw).Ensures post log
  | .unit resume, log => ∀ draw, (resume draw).Ensures post log
  | .normal resume, log => ∀ draw, (resume draw).Ensures post log
  | .ask query resume, log => ∀ answer, (resume answer).Ensures post (log ++ [(query, answer)])

theorem run_ensures (dice : Dice σ) (oracle : τ → Q → A × τ) (post : List (Q × A) → α → Prop) (program : Program Q A α)
    (log : List (Q × A)) (ensures : program.Ensures post log) (s : σ) (t : τ) :
    ∃ value, (program.run dice oracle s t).result = .ok value ∧ post (log ++ (program.run dice oracle s t).asked) value := by
  induction program generalizing log s t with
  | done value => exact ⟨value, rfl, by simpa [run, Ensures] using ensures⟩
  | raised error => exact ensures.elim
  | index bound resume ih => exact ih _ log (ensures _) _ t
  | unit resume ih => exact ih _ log (ensures _) _ t
  | normal resume ih => exact ih _ log (ensures _) _ t
  | ask query resume ih =>
      obtain ⟨value, result, holds⟩ := ih _ _ (ensures (oracle t query).1) s (oracle t query).2
      refine ⟨value, result, ?_⟩
      rwa [List.append_assoc] at holds

theorem ensures_bind (post : List (Q × A) → β → Prop) (program : Program Q A α) (next : α → Program Q A β)
    (log : List (Q × A)) :
    (program >>= next).Ensures post log ↔ program.Ensures (fun later value => (next value).Ensures post later) log := by
  change (program.bind next).Ensures post log ↔ _
  induction program generalizing log with
  | done value => rfl
  | raised error => rfl
  | index bound resume ih => exact forall_congr' (fun draw => ih draw log)
  | unit resume ih => exact forall_congr' (fun draw => ih draw log)
  | normal resume ih => exact forall_congr' (fun draw => ih draw log)
  | ask query resume ih => exact forall_congr' (fun answer => ih answer _)

theorem ensures_mono (post weaker : List (Q × A) → α → Prop) (program : Program Q A α) (log : List (Q × A))
    (implied : ∀ later value, post later value → weaker later value) (ensures : program.Ensures post log) :
    program.Ensures weaker log := by
  induction program generalizing log with
  | done value => exact implied log value ensures
  | raised error => exact ensures
  | index bound resume ih => exact fun draw => ih draw log (ensures draw)
  | unit resume ih => exact fun draw => ih draw log (ensures draw)
  | normal resume ih => exact fun draw => ih draw log (ensures draw)
  | ask query resume ih => exact fun answer => ih answer _ (ensures answer)

@[simp]
theorem ensures_pure (post : List (Q × A) → α → Prop) (value : α) (log : List (Q × A)) :
    (pure value : Program Q A α).Ensures post log ↔ post log value := Iff.rfl

-- One round keeps the invariant, so any number of them does.
theorem ensures_iterate (invariant : List (Q × A) → α → Prop) (body : α → Program Q A α)
    (kept : ∀ log state, invariant log state → (body state).Ensures invariant log) (count : Nat) (log : List (Q × A))
    (state : α) (holds : invariant log state) : (iterate body count state).Ensures invariant log := by
  induction count generalizing log state with
  | zero => exact holds
  | succ count ih =>
      rw [iterate, ensures_bind]
      exact ensures_mono _ _ _ _ (fun later next now => ih later next now) (kept log state holds)

-- The invariant is about the items that were done, all that was asked and the
-- values so far.
theorem ensures_each (invariant : List α → List (Q × A) → List β → Prop) (body : α → Program Q A β) (items : List α)
    (kept : ∀ before log values, ∀ item ∈ items, invariant before log values →
      (body item).Ensures (fun later value => invariant (before ++ [item]) later (values ++ [value])) log)
    (before : List α) (log : List (Q × A)) (values : List β) (holds : invariant before log values) :
    (each body items).Ensures (fun later others => invariant (before ++ items) later (values ++ others)) log := by
  induction items generalizing before log values with
  | nil => simpa [each] using holds
  | cons item rest ih =>
      rw [each, ensures_bind]
      refine ensures_mono _ _ _ _ (fun later value now => ?_) (kept before log values item List.mem_cons_self holds)
      rw [ensures_bind]
      have kept' := fun before log values other member => kept before log values other (List.mem_cons_of_mem item member)
      refine ensures_mono _ _ _ _ (fun last others all => ?_) (ih kept' (before ++ [item]) later (values ++ [value]) now)
      rw [List.append_assoc, List.append_assoc] at all
      exact all

-- Nothing is asked, and the value satisfies `post`.
def Yields (program : Program Q A α) (post : α → Prop) : Prop :=
  ∀ log, program.Ensures (fun later value => later = log ∧ post value) log

theorem yields_pure (value : α) (post : α → Prop) (holds : post value) : (pure value : Program Q A α).Yields post :=
  fun _ => ⟨rfl, holds⟩

theorem yields_of_except (value : Except PyError α) (held : α) (post : α → Prop) (ok : value = .ok held) (holds : post held) :
    (ofExcept value : Program Q A α).Yields post := by
  rw [ok]
  exact yields_pure held post holds

theorem yields_bind (program : Program Q A α) (next : α → Program Q A β) (middle : α → Prop) (post : β → Prop)
    (first : program.Yields middle) (second : ∀ value, middle value → (next value).Yields post) :
    (program >>= next).Yields post := by
  intro log
  rw [ensures_bind]
  refine ensures_mono _ _ _ _ (fun later value now => ?_) (first log)
  obtain ⟨rfl, holds⟩ := now
  exact second value holds later

theorem yields_mono (program : Program Q A α) (post weaker : α → Prop) (implied : ∀ value, post value → weaker value)
    (yields : program.Yields post) : program.Yields weaker :=
  fun log => ensures_mono _ _ _ _ (fun _ value now => ⟨now.1, implied value now.2⟩) (yields log)

theorem yields_each (body : α → Program Q A β) (post : α → β → Prop) (items : List α)
    (each_ : ∀ item ∈ items, (body item).Yields (post item)) :
    (each body items).Yields (fun values => List.Forall₂ post items values) := by
  induction items with
  | nil => exact yields_pure _ _ .nil
  | cons item rest ih =>
      refine yields_bind _ _ (post item) _ (each_ item List.mem_cons_self) (fun value holds => ?_)
      refine yields_bind _ _ (List.Forall₂ post rest) _ (ih (fun other member => each_ other (List.mem_cons_of_mem _ member)))
        (fun values all => ?_)
      exact yields_pure _ _ (.cons holds all)

theorem yields_each_all (body : α → Program Q A β) (post : β → Prop) (items : List α)
    (each_ : ∀ item ∈ items, (body item).Yields post) :
    (each body items).Yields (fun values => values.length = items.length ∧ ∀ value ∈ values, post value) := by
  induction items with
  | nil => exact yields_pure _ _ ⟨rfl, fun _ member => nomatch member⟩
  | cons item rest ih =>
      refine yields_bind _ _ post _ (each_ item List.mem_cons_self) (fun value holds => ?_)
      refine yields_bind _ _ _ _ (ih (fun other member => each_ other (List.mem_cons_of_mem _ member))) (fun values all => ?_)
      exact yields_pure _ _ ⟨by rw [List.length_cons, List.length_cons, all.1], List.forall_mem_cons.mpr ⟨holds, all.2⟩⟩

theorem yields_iterate (invariant : α → Prop) (body : α → Program Q A α)
    (kept : ∀ state, invariant state → (body state).Yields invariant) (count : Nat) (state : α) (holds : invariant state) :
    (iterate body count state).Yields invariant := by
  induction count generalizing state with
  | zero => exact yields_pure _ _ holds
  | succ count ih => exact yields_bind _ _ invariant _ (kept state holds) (fun next now => ih next now)

end Program

end QuantEngine

-- Python's `random.Random`.
namespace QuantEngine.Random

open Program

variable {Q A α : Type}

-- A draw from 0 to `bound - 1`.
def randbelow (bound : Nat) : Program Q A Nat :=
  match bound with
  | 0 => .raised .value
  | bound + 1 => .index bound (fun draw => .done draw.val)

def random : Program Q A ℚ := .unit (fun draw => .done draw.value)

def uniform (low high : ℚ) : Program Q A ℚ := .unit (fun draw => .done (low + (high - low) * draw.value))

def gauss (mu sigma : ℚ) : Program Q A ℚ := .normal (fun z => .done (mu + z * sigma))

def randint (low high : Int) : Program Q A Int := do
  let draw ← randbelow (high - low + 1).toNat
  pure (low + draw)

def choice (items : List α) : Program Q A α :=
  match items with
  | [] => .raised (.other "IndexError")
  | first :: rest => .index rest.length (fun draw => .done ((first :: rest).get draw))

-- From the last place down to the second, each item changes places with one not after it.
def shuffleFrom : Nat → Array α → Program Q A (Array α)
  | 0, x => pure x
  | i + 1, x => do
      let j ← randbelow (i + 2)
      shuffleFrom i (x.swapIfInBounds (i + 1) j)

def shuffle (items : List α) : Program Q A (List α) := do
  let mixed ← shuffleFrom (items.length - 1) items.toArray
  pure mixed.toList

-- Different items, one after the other.
def sample (population : List α) : Nat → Program Q A (List α)
  | 0 => pure []
  | count + 1 => do
      let j ← randbelow population.length
      match population[j]? with
      | none => .raised .value
      | some item => do
          let rest ← sample (population.eraseIdx j) count
          pure (item :: rest)

theorem yields_randbelow (bound : Nat) (positive : 0 < bound) :
    (randbelow bound : Program Q A Nat).Yields (fun draw => draw < bound) := by
  obtain ⟨bound, rfl⟩ := Nat.exists_eq_add_of_lt positive
  intro log draw
  exact ⟨rfl, by simpa using draw.isLt⟩

theorem yields_random : (random : Program Q A ℚ).Yields (fun value => 0 ≤ value ∧ value ≤ 1) :=
  fun _ draw => ⟨rfl, draw.nonneg, draw.atMostOne⟩

theorem yields_uniform (low high : ℚ) (ordered : low ≤ high) :
    (uniform low high : Program Q A ℚ).Yields (fun value => low ≤ value ∧ value ≤ high) := by
  intro log draw
  have width : 0 ≤ high - low := sub_nonneg.mpr ordered
  have above : 0 ≤ (high - low) * draw.value := mul_nonneg width draw.nonneg
  have below : (high - low) * draw.value ≤ (high - low) * 1 := mul_le_mul_of_nonneg_left draw.atMostOne width
  exact ⟨rfl, by linarith, by linarith⟩

theorem yields_gauss (mu sigma : ℚ) : (gauss mu sigma : Program Q A ℚ).Yields (fun _ => True) := fun _ _ => ⟨rfl, trivial⟩

theorem yields_randint (low high : Int) (ordered : low ≤ high) :
    (randint low high : Program Q A Int).Yields (fun value => low ≤ value ∧ value ≤ high) := by
  refine yields_bind _ _ _ _ (yields_randbelow _ (by omega)) (fun draw less => ?_)
  exact yields_pure _ _ ⟨by omega, by omega⟩

theorem yields_choice (items : List α) (some_ : items ≠ []) :
    (choice items : Program Q A α).Yields (fun value => value ∈ items) := by
  cases items with
  | nil => exact absurd rfl some_
  | cons first rest => exact fun _ draw => ⟨rfl, List.getElem_mem _⟩

theorem swap_if_perm (x : Array α) (i j : Nat) : (x.swapIfInBounds i j).toList.Perm x.toList := by
  rw [Array.swapIfInBounds]
  split
  · split
    · exact (Array.swap_perm _ _).toList
    · exact List.Perm.refl _
  · exact List.Perm.refl _

theorem yields_shuffle_from (i : Nat) (x : Array α) :
    (shuffleFrom i x : Program Q A (Array α)).Yields (fun mixed => mixed.toList.Perm x.toList) := by
  induction i generalizing x with
  | zero => exact yields_pure _ _ (List.Perm.refl _)
  | succ i ih =>
      refine yields_bind _ _ _ _ (yields_randbelow (i + 2) (by omega)) (fun j _ => ?_)
      exact yields_mono _ _ _ (fun mixed perm => perm.trans (swap_if_perm x _ _)) (ih _)

theorem yields_shuffle (items : List α) :
    (shuffle items : Program Q A (List α)).Yields (fun mixed => mixed.Perm items) :=
  yields_bind _ _ _ _ (yields_shuffle_from _ items.toArray) (fun _ perm => yields_pure _ _ perm)

theorem yields_sample (population : List α) (count : Nat) (enough : count ≤ population.length) :
    (sample population count : Program Q A (List α)).Yields
      (fun chosen => chosen.length = count ∧ List.Subperm chosen population) := by
  induction count generalizing population with
  | zero => exact yields_pure _ _ ⟨rfl, List.nil_subperm⟩
  | succ count ih =>
      refine yields_bind _ _ _ _ (yields_randbelow population.length (by omega)) (fun j less => ?_)
      simp only [List.getElem?_eq_getElem less]
      have fewer : count ≤ (population.eraseIdx j).length := by rw [List.length_eraseIdx_of_lt less]; omega
      refine yields_bind _ _ _ _ (ih _ fewer) (fun rest found => yields_pure _ _ ⟨by simp [found.1], ?_⟩)
      exact ((List.subperm_cons _).mpr found.2).trans (List.getElem_cons_eraseIdx_perm less).subperm

end QuantEngine.Random
