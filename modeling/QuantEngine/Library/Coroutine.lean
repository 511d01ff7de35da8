import QuantEngine.Library.Run

set_option autoImplicit false

namespace QuantEngine

-- A cooperative task over a shared state. It runs without interruption up to
-- its next suspension point, where it hands the state back and waits for an
-- input; other tasks and the environment may change the state in between.
-- `raised` is an exception that left the task, with the state it left behind.
inductive Co (σ τ ι α : Type) where
  | done (state : σ) (value : α)
  | raised (state : σ)
  | await (state : σ) (point : τ) (resume : σ → ι → Co σ τ ι α)

def Task (σ τ ι α : Type) := σ → Co σ τ ι α

variable {σ τ ι α β : Type}

def Co.bind : Co σ τ ι α → (σ → α → Co σ τ ι β) → Co σ τ ι β
  | .done state value, next => next state value
  | .raised state, _ => .raised state
  | .await state point resume, next =>
      .await state point (fun later input => (resume later input).bind next)

-- The task run to its end by one that waits for it, each of its waits answered
-- in turn and nothing else done meanwhile.
def Co.finish (answer : τ → ι) : Co σ τ ι α → σ
  | .done state _ => state
  | .raised state => state
  | .await state point resume => (resume state (answer point)).finish answer

-- One run of a task, given what goes on at each of its waits: its stretches,
-- each with the state it finds and the state it leaves, and its value.
def Co.run (around : τ → σ → σ × ι) : Co σ τ ι α → σ → List (σ × σ) × Option α
  | .done state value, start => ([(start, state)], some value)
  | .raised state, start => ([(start, state)], none)
  | .await state point resume, start =>
      let later := around point state
      let rest := (resume later.1 later.2).run around later.1
      ((start, state) :: rest.1, rest.2)

namespace Task

instance : Monad (Task σ τ ι) where
  pure value := fun state => .done state value
  bind task next := fun state => (task state).bind (fun later value => next value later)

def get : Task σ τ ι σ := fun state => .done state state

-- A stretch of code with no suspension point in it.
def sync (f : σ → α × σ) : Task σ τ ι α := fun state => .done (f state).2 (f state).1

def modify (f : σ → σ) : Task σ τ ι Unit := fun state => .done (f state) ()

def raise : Task σ τ ι α := fun state => .raised state

def suspend (point : τ) : Task σ τ ι ι := fun state => .await state point (fun later input => .done later input)

theorem sync_bind (f : σ → α × σ) (next : α → Task σ τ ι β) (state : σ) :
    ((sync f : Task σ τ ι α) >>= next) state = next (f state).1 (f state).2 := rfl

-- The loop `for item in items: body(item)` over a list fixed at its start.
def each (body : α → Task σ τ ι Unit) : List α → Task σ τ ι Unit
  | [] => pure ()
  | item :: rest => do
      body item
      each body rest

end Task

-- What a task promises at its suspension points and when it raises, and what
-- it relies on about the state and the input it is resumed with.
structure Contract (σ τ ι : Type) where
  pause : τ → σ → Prop
  rely : τ → σ → σ → ι → Prop
  fail : σ → Prop

def Co.Meets (contract : Contract σ τ ι) (post : α → σ → Prop) : Co σ τ ι α → Prop
  | .done state value => post value state
  | .raised state => contract.fail state
  | .await state point resume => contract.pause point state ∧
      ∀ later input, contract.rely point state later input → (resume later input).Meets contract post

namespace Co

theorem meets_bind (contract : Contract σ τ ι) (post : β → σ → Prop) (task : Co σ τ ι α)
    (next : σ → α → Co σ τ ι β) :
    (task.bind next).Meets contract post ↔
      task.Meets contract (fun value state => (next state value).Meets contract post) := by
  induction task with
  | done state value => exact Iff.rfl
  | raised state => exact Iff.rfl
  | await state point resume ih =>
      simp only [bind, Meets]
      exact and_congr_right (fun _ => forall_congr' (fun later => forall_congr' (fun input =>
        imp_congr_right (fun _ => ih later input))))

theorem bind_done (task : Co σ τ ι α) : task.bind (fun state value => .done state value) = task := by
  induction task with
  | done state value => rfl
  | raised state => rfl
  | await state point resume ih =>
      rw [bind]
      congr 1
      funext later input
      exact ih later input

-- A wait that nothing happens in is within the contract.
theorem meets_finish (contract : Contract σ τ ι) (answer : τ → ι) (Inv : σ → Prop)
    (fail : ∀ state, contract.fail state → Inv state)
    (rely : ∀ point state, contract.pause point state → contract.rely point state state (answer point))
    (task : Co σ τ ι α) (met : task.Meets contract (fun _ state => Inv state)) : Inv (task.finish answer) := by
  induction task with
  | done state value => exact met
  | raised state => exact fail state met
  | await state point resume ih => exact ih state (answer point) (met.2 state (answer point) (rely point state met.1))

-- Each wait has its answer, nothing happens in it, and the task does not raise.
def Undisturbed (answer : τ → ι) : Contract σ τ ι where
  pause _ _ := True
  rely point before after input := after = before ∧ input = answer point
  fail _ := False

theorem meets_undisturbed (answer : τ → ι) (Inv : σ → Prop) (task : Co σ τ ι α)
    (met : task.Meets (Undisturbed answer) (fun _ state => Inv state)) : Inv (task.finish answer) :=
  meets_finish (Undisturbed answer) answer Inv (fun _ => False.elim) (fun _ _ _ => ⟨rfl, rfl⟩) task met

theorem meets_mono (contract : Contract σ τ ι) (post weaker : α → σ → Prop) (task : Co σ τ ι α)
    (implies : ∀ value state, post value state → weaker value state)
    (met : task.Meets contract post) : task.Meets contract weaker := by
  induction task with
  | done state value => exact implies value state met
  | raised state => exact met
  | await state point resume ih =>
      exact ⟨met.1, fun later input relied => ih later input (met.2 later input relied)⟩

end Co

namespace Task

theorem meets_seq (contract : Contract σ τ ι) (post : β → σ → Prop) (task : Task σ τ ι α)
    (next : α → Task σ τ ι β) (state : σ) :
    ((task >>= next) state).Meets contract post ↔
      (task state).Meets contract (fun value later => (next value later).Meets contract post) :=
  Co.meets_bind contract post (task state) (fun later value => next value later)

theorem meets_get (contract : Contract σ τ ι) (post : σ → σ → Prop) (state : σ) :
    ((get : Task σ τ ι σ) state).Meets contract post ↔ post state state := Iff.rfl

theorem meets_sync (contract : Contract σ τ ι) (post : α → σ → Prop) (f : σ → α × σ) (state : σ) :
    ((sync f : Task σ τ ι α) state).Meets contract post ↔ post (f state).1 (f state).2 := Iff.rfl

theorem meets_modify (contract : Contract σ τ ι) (post : Unit → σ → Prop) (f : σ → σ) (state : σ) :
    ((modify f : Task σ τ ι Unit) state).Meets contract post ↔ post () (f state) := Iff.rfl

theorem meets_suspend (contract : Contract σ τ ι) (post : ι → σ → Prop) (point : τ) (state : σ) :
    ((suspend point : Task σ τ ι ι) state).Meets contract post ↔
      contract.pause point state ∧
        ∀ later input, contract.rely point state later input → post input later := Iff.rfl

-- The loop rule. The invariant speaks about the items still to be visited.
theorem each_meets (contract : Contract σ τ ι) (body : α → Task σ τ ι Unit) (inv : List α → σ → Prop)
    (step : ∀ item rest state, inv (item :: rest) state →
      (body item state).Meets contract (fun _ later => inv rest later))
    (items : List α) (state : σ) (start : inv items state) :
    (each body items state).Meets contract (fun _ later => inv [] later) := by
  induction items generalizing state with
  | nil => exact start
  | cons item rest ih =>
      rw [each, meets_seq]
      exact Co.meets_mono contract _ _ _ (fun _ later kept => ih later kept) (step item rest state start)

end Task

-- The guarantee of a task: each of its uninterrupted stretches is a step of the
-- relation, from the state it finds to the state it leaves.
def Co.Guarantees (R : σ → σ → Prop) : Co σ τ ι α → σ → Prop
  | .done state _, start => R start state
  | .raised state, start => R start state
  | .await state _ resume, start => R start state ∧
      ∀ later input, (resume later input).Guarantees R later

def Task.Guarantees (R : σ → σ → Prop) (task : Task σ τ ι α) : Prop := ∀ state, (task state).Guarantees R state

namespace Co

theorem guarantees_after (R : σ → σ → Prop) (trans : ∀ a b c, R a b → R b c → R a c) (task : Co σ τ ι α)
    (a b : σ) (first : R a b) (guaranteed : task.Guarantees R b) : task.Guarantees R a := by
  cases task with
  | done state value => exact trans a b state first guaranteed
  | raised state => exact trans a b state first guaranteed
  | await state point resume => exact ⟨trans a b state first guaranteed.1, guaranteed.2⟩

theorem guarantees_bind (R : σ → σ → Prop) (trans : ∀ a b c, R a b → R b c → R a c) (task : Co σ τ ι α)
    (next : σ → α → Co σ τ ι β) (start : σ) (first : task.Guarantees R start)
    (rest : ∀ state value, (next state value).Guarantees R state) : (task.bind next).Guarantees R start := by
  induction task generalizing start with
  | done state value => exact guarantees_after R trans _ start state first (rest state value)
  | raised state => exact first
  | await state point resume ih =>
      exact ⟨first.1, fun later input => ih later input later (first.2 later input)⟩

theorem guarantees_finish (R : σ → σ → Prop) (trans : ∀ a b c, R a b → R b c → R a c) (answer : τ → ι)
    (task : Co σ τ ι α) (start : σ) (guaranteed : task.Guarantees R start) : R start (task.finish answer) := by
  induction task generalizing start with
  | done state value => exact guaranteed
  | raised state => exact guaranteed
  | await state point resume ih =>
      exact trans start state _ guaranteed.1 (ih state (answer point) state (guaranteed.2 state (answer point)))

-- An invariant that the relation carries over is met at every suspension and at
-- the end, where whatever the task is resumed in has it again.
theorem meets_of_guarantees (contract : Contract σ τ ι) (R : σ → σ → Prop) (Inv : σ → Prop)
    (carries : ∀ a b, R a b → Inv a → Inv b) (pause : ∀ point state, Inv state → contract.pause point state)
    (fail : ∀ state, Inv state → contract.fail state)
    (rely : ∀ point state later input, contract.rely point state later input → Inv state → Inv later)
    (task : Co σ τ ι α) (start : σ) (guaranteed : task.Guarantees R start) (inv : Inv start) :
    task.Meets contract (fun _ state => Inv state) := by
  induction task generalizing start with
  | done state value => exact carries start state guaranteed inv
  | raised state => exact fail state (carries start state guaranteed inv)
  | await state point resume ih =>
      have kept := carries start state guaranteed.1 inv
      refine ⟨pause point state kept, ?_⟩
      intro later input relied
      exact ih later input later (guaranteed.2 later input) (rely point state later input relied kept)

end Co

namespace Task

section

variable (R : σ → σ → Prop)

theorem guarantees_pure (refl : ∀ state, R state state) (value : α) :
    (pure value : Task σ τ ι α).Guarantees R := fun state => refl state

theorem guarantees_sync (f : σ → α × σ) (step : ∀ state, R state (f state).2) :
    (sync f : Task σ τ ι α).Guarantees R := fun state => step state

theorem guarantees_modify (f : σ → σ) (step : ∀ state, R state (f state)) :
    (modify f : Task σ τ ι Unit).Guarantees R := fun state => step state

theorem guarantees_raise (refl : ∀ state, R state state) : (raise : Task σ τ ι α).Guarantees R :=
  fun state => refl state

theorem guarantees_suspend (refl : ∀ state, R state state) (point : τ) :
    (suspend point : Task σ τ ι ι).Guarantees R := fun state => ⟨refl state, fun later _ => refl later⟩

theorem guarantees_seq (trans : ∀ a b c, R a b → R b c → R a c) (task : Task σ τ ι α) (next : α → Task σ τ ι β)
    (first : task.Guarantees R) (rest : ∀ value, (next value).Guarantees R) : (task >>= next).Guarantees R :=
  fun state => Co.guarantees_bind R trans (task state) _ state (first state) (fun later value => rest value later)

theorem guarantees_read (next : σ → Task σ τ ι β) (rest : ∀ state, (next state).Guarantees R) :
    (get >>= next : Task σ τ ι β).Guarantees R := fun state => rest state state

theorem guarantees_each (refl : ∀ state, R state state) (trans : ∀ a b c, R a b → R b c → R a c)
    (body : α → Task σ τ ι Unit) (step : ∀ item, (body item).Guarantees R) (items : List α) :
    (each body items).Guarantees R := by
  induction items with
  | nil => exact guarantees_pure R refl ()
  | cons item rest ih => exact guarantees_seq R trans (body item) _ (step item) (fun _ => ih)

end

end Task

structure Suspended (σ τ ι : Type) where
  point : τ
  resume : σ → ι → Co σ τ ι Unit

structure Pool (σ τ ι : Type) where
  state : σ
  waiting : List (Suspended σ τ ι)

-- The scheduler starts a job, resumes one of the suspended tasks, or lets the
-- environment act.
inductive Action (ρ ι ε : Type) where
  | spawn (job : ρ)
  | resume (index : Nat) (input : ι)
  | environment (change : ε)

def Action.inside {ρ ε : Type} : Action ρ ι ε → Bool
  | .environment _ => false
  | _ => true

namespace Pool

variable {ρ ε : Type}

def settle (waiting : List (Suspended σ τ ι)) : Co σ τ ι Unit → Pool σ τ ι
  | .done state _ => ⟨state, waiting⟩
  | .raised state => ⟨state, waiting⟩
  | .await state point resume => ⟨state, waiting ++ [⟨point, resume⟩]⟩

def step (perform : ρ → Task σ τ ι Unit) (disturb : ε → σ → σ) (pool : Pool σ τ ι) :
    Action ρ ι ε → Pool σ τ ι
  | .spawn job => settle pool.waiting (perform job pool.state)
  | .resume index input =>
      match pool.waiting[index]? with
      | none => pool
      | some task => settle (pool.waiting.eraseIdx index) (task.resume pool.state input)
  | .environment change => { pool with state := disturb change pool.state }

-- Tasks that share the state keep a common invariant: each may rely on it when
-- it is resumed, and on the condition its suspension point is resumed under.
def Sharing (Inv : σ → Prop) (resumable : τ → ι → σ → Prop) : Contract σ τ ι where
  pause _ state := Inv state
  rely point _ later input := Inv later ∧ resumable point input later
  fail state := Inv state

def Safe (Inv : σ → Prop) (resumable : τ → ι → σ → Prop) (pool : Pool σ τ ι) : Prop :=
  Inv pool.state ∧ ∀ task ∈ pool.waiting, ∀ later input, Inv later → resumable task.point input later →
    (task.resume later input).Meets (Sharing Inv resumable) (fun _ state => Inv state)

-- A step is admissible when the task it resumes is resumed under its condition.
def Admissible (resumable : τ → ι → σ → Prop) (pool : Pool σ τ ι) : Action ρ ι ε → Prop
  | .resume index input => ∀ task, pool.waiting[index]? = some task → resumable task.point input pool.state
  | _ => True

theorem settle_safe (Inv : σ → Prop) (resumable : τ → ι → σ → Prop) (waiting : List (Suspended σ τ ι))
    (task : Co σ τ ι Unit) (met : task.Meets (Sharing Inv resumable) (fun _ state => Inv state))
    (others : ∀ other ∈ waiting, ∀ later input, Inv later → resumable other.point input later →
      (other.resume later input).Meets (Sharing Inv resumable) (fun _ state => Inv state)) :
    Safe Inv resumable (settle waiting task) := by
  cases task with
  | done state value => exact ⟨met, others⟩
  | raised state => exact ⟨met, others⟩
  | await state point resume =>
      refine ⟨met.1, ?_⟩
      intro other member later input inv allowed
      cases List.mem_append.mp member with
        | inl old => exact others other old later input inv allowed
        | inr fresh =>
            cases List.mem_singleton.mp fresh
            exact met.2 later input ⟨inv, allowed⟩

theorem step_safe (perform : ρ → Task σ τ ι Unit) (disturb : ε → σ → σ) (Inv : σ → Prop)
    (resumable : τ → ι → σ → Prop)
    (jobs : ∀ job state, Inv state →
      (perform job state).Meets (Sharing Inv resumable) (fun _ later => Inv later))
    (outside : ∀ change state, Inv state → Inv (disturb change state))
    (pool : Pool σ τ ι) (action : Action ρ ι ε) (safe : Safe Inv resumable pool)
    (admissible : Admissible resumable pool action) :
    Safe Inv resumable (step perform disturb pool action) := by
  cases action with
  | spawn job => exact settle_safe Inv resumable pool.waiting _ (jobs job pool.state safe.1) safe.2
  | environment change => exact ⟨outside change pool.state safe.1, safe.2⟩
  | resume index input =>
      simp only [step]
      cases found : pool.waiting[index]? with
      | none => exact safe
      | some task =>
          apply settle_safe
          · exact safe.2 task (List.mem_of_getElem? found) pool.state input safe.1 (admissible task found)
          · exact fun other member => safe.2 other (List.mem_of_mem_eraseIdx member)

-- From an idle pool, the invariant that the tasks share holds in every state
-- of an admissible run.
theorem always_safe (perform : ρ → Task σ τ ι Unit) (disturb : ε → σ → σ) (Inv : σ → Prop)
    (resumable : τ → ι → σ → Prop)
    (jobs : ∀ job state, Inv state →
      (perform job state).Meets (Sharing Inv resumable) (fun _ later => Inv later))
    (outside : ∀ change state, Inv state → Inv (disturb change state))
    (pool : Pool σ τ ι) (actions : List (Action ρ ι ε)) (idle : pool.waiting = []) (start : Inv pool.state)
    (admissible : Run.Each (step perform disturb) (Admissible resumable) pool actions) :
    Run.Always (step perform disturb) (fun reached => Inv reached.state) pool actions := by
  refine Run.always_of_invariant _ (Admissible resumable) (Safe Inv resumable) _ ?_ (fun _ safe => safe.1)
    pool actions ⟨start, ?_⟩ admissible
  · exact fun reached action => step_safe perform disturb Inv resumable jobs outside reached action
  · rw [idle]
    exact List.forall_mem_nil _

def Guaranteed (R : σ → σ → Prop) (pool : Pool σ τ ι) : Prop :=
  ∀ task ∈ pool.waiting, ∀ later input, (task.resume later input).Guarantees R later

def Starts (ok : σ → ρ → Prop) (pool : Pool σ τ ι) : Action ρ ι ε → Prop
  | .spawn job => ok pool.state job
  | _ => True

theorem settle_guaranteed (R : σ → σ → Prop) (waiting : List (Suspended σ τ ι)) (task : Co σ τ ι Unit) (start : σ)
    (guaranteed : task.Guarantees R start)
    (others : ∀ other ∈ waiting, ∀ later input, (other.resume later input).Guarantees R later) :
    R start (settle waiting task).state ∧ Guaranteed R (settle waiting task) := by
  cases task with
  | done state value => exact ⟨guaranteed, others⟩
  | raised state => exact ⟨guaranteed, others⟩
  | await state point resume =>
      refine ⟨guaranteed.1, ?_⟩
      intro other member
      cases List.mem_append.mp member with
        | inl old => exact others other old
        | inr fresh =>
            cases List.mem_singleton.mp fresh
            exact guaranteed.2

theorem step_guaranteed (perform : ρ → Task σ τ ι Unit) (disturb : ε → σ → σ) (R : σ → σ → Prop)
    (ok : σ → ρ → Prop) (refl : ∀ state, R state state)
    (jobs : ∀ job state, ok state job → (perform job state).Guarantees R state)
    (pool : Pool σ τ ι) (action : Action ρ ι ε) (guaranteed : Guaranteed R pool) (starts : Starts ok pool action) :
    (action.inside = true → R pool.state (step perform disturb pool action).state) ∧
      Guaranteed R (step perform disturb pool action) := by
  cases action with
  | spawn job =>
      have settled := settle_guaranteed R pool.waiting _ pool.state (jobs job pool.state starts) guaranteed
      exact ⟨fun _ => settled.1, settled.2⟩
  | environment change => exact ⟨fun inside => (nomatch inside), guaranteed⟩
  | resume index input =>
      simp only [step]
      cases found : pool.waiting[index]? with
      | none => exact ⟨fun _ => refl pool.state, guaranteed⟩
      | some task =>
          have settled := settle_guaranteed R (pool.waiting.eraseIdx index) _ pool.state
            (guaranteed task (List.mem_of_getElem? found) pool.state input)
            (fun other member => guaranteed other (List.mem_of_mem_eraseIdx member))
          exact ⟨fun _ => settled.1, settled.2⟩

theorem each_guaranteed (perform : ρ → Task σ τ ι Unit) (disturb : ε → σ → σ) (R : σ → σ → Prop)
    (ok : σ → ρ → Prop) (refl : ∀ state, R state state)
    (jobs : ∀ job state, ok state job → (perform job state).Guarantees R state)
    (pool : Pool σ τ ι) (actions : List (Action ρ ι ε)) (idle : pool.waiting = [])
    (starts : Run.Each (step perform disturb) (Starts ok) pool actions) :
    Run.Each (step perform disturb) (fun reached action =>
      action.inside = true → R reached.state (step perform disturb reached action).state) pool actions := by
  have stepped (reached : Pool σ τ ι) (action : Action ρ ι ε) :=
    step_guaranteed perform disturb R ok refl jobs reached action
  refine Run.each_of_invariant _ (Starts ok) _ (Guaranteed R) ?_ ?_ pool actions ?_ starts
  · exact fun reached action guaranteed allowed => (stepped reached action guaranteed allowed).2
  · exact fun reached action guaranteed allowed => (stepped reached action guaranteed allowed).1
  · rw [Guaranteed, idle]
    exact List.forall_mem_nil _

theorem along_guaranteed (perform : ρ → Task σ τ ι Unit) (disturb : ε → σ → σ) (R : σ → σ → Prop)
    (ok : σ → ρ → Prop) (refl : ∀ state, R state state)
    (jobs : ∀ job state, ok state job → (perform job state).Guarantees R state)
    (outside : ∀ change state, R state (disturb change state))
    (pool : Pool σ τ ι) (actions : List (Action ρ ι ε)) (idle : pool.waiting = [])
    (starts : Run.Each (step perform disturb) (Starts ok) pool actions) :
    Run.Along (step perform disturb) (fun before after => R before.state after.state) pool actions := by
  refine Run.each_mono _ _ _ ?_ pool actions (each_guaranteed perform disturb R ok refl jobs pool actions idle starts)
  intro reached action inside
  cases action with
  | spawn job => exact inside rfl
  | resume index input => exact inside rfl
  | environment change => exact outside change reached.state

-- One task at a time: a job starts only when no other task is suspended, and
-- between its suspension and its resumption only the environment acts, which
-- leaves a part of the state alone.
def Exclusive (Inv : σ → Prop) (untouched : σ → σ → Prop) : Contract σ τ ι where
  pause _ state := Inv state
  rely _ state later _ := untouched state later
  fail state := Inv state

def Sequential (pool : Pool σ τ ι) : Action ρ ι ε → Prop
  | .spawn _ => pool.waiting = []
  | _ => True

def Alone (Inv : σ → Prop) (untouched : σ → σ → Prop) (pool : Pool σ τ ι) : Prop :=
  Inv pool.state ∧ (pool.waiting = [] ∨ ∃ task start, pool.waiting = [task] ∧
    untouched start pool.state ∧ ∀ later input, untouched start later →
      (task.resume later input).Meets (Exclusive Inv untouched) (fun _ state => Inv state))

theorem settle_alone (Inv : σ → Prop) (untouched : σ → σ → Prop) (refl : ∀ state, untouched state state)
    (task : Co σ τ ι Unit) (met : task.Meets (Exclusive Inv untouched) (fun _ state => Inv state)) :
    Alone Inv untouched (settle [] task) := by
  cases task with
  | done state value => exact ⟨met, .inl rfl⟩
  | raised state => exact ⟨met, .inl rfl⟩
  | await state point resume =>
      exact ⟨met.1, .inr ⟨⟨point, resume⟩, state, rfl, refl state, met.2⟩⟩

theorem step_alone (perform : ρ → Task σ τ ι Unit) (disturb : ε → σ → σ) (Inv : σ → Prop)
    (untouched : σ → σ → Prop) (refl : ∀ state, untouched state state)
    (trans : ∀ a b c, untouched a b → untouched b c → untouched a c)
    (jobs : ∀ job state, Inv state →
      (perform job state).Meets (Exclusive Inv untouched) (fun _ later => Inv later))
    (outside : ∀ change state, untouched state (disturb change state))
    (stable : ∀ state later, untouched state later → Inv state → Inv later)
    (pool : Pool σ τ ι) (action : Action ρ ι ε) (alone : Alone Inv untouched pool)
    (sequential : Sequential pool action) : Alone Inv untouched (step perform disturb pool action) := by
  obtain ⟨inv, tasks⟩ := alone
  cases action with
  | spawn job =>
      simp only [step, show pool.waiting = [] from sequential]
      exact settle_alone Inv untouched refl _ (jobs job pool.state inv)
  | environment change =>
      have moved := outside change pool.state
      refine ⟨stable _ _ moved inv, ?_⟩
      rcases tasks with idle | ⟨task, start, busy, since, met⟩
      · exact .inl idle
      · exact .inr ⟨task, start, busy, trans _ _ _ since moved, met⟩
  | resume index input =>
      simp only [step]
      rcases tasks with idle | ⟨task, start, busy, since, met⟩
      · rw [idle]
        exact ⟨inv, .inl idle⟩
      · cases index with
        | zero =>
            simp only [busy, List.getElem?_cons_zero, List.eraseIdx_cons_zero]
            exact settle_alone Inv untouched refl _ (met pool.state input since)
        | succ index =>
            simp only [busy, List.getElem?_cons_succ, List.getElem?_nil]
            exact ⟨inv, .inr ⟨task, start, busy, since, met⟩⟩

theorem always_alone (perform : ρ → Task σ τ ι Unit) (disturb : ε → σ → σ) (Inv : σ → Prop)
    (untouched : σ → σ → Prop) (refl : ∀ state, untouched state state)
    (trans : ∀ a b c, untouched a b → untouched b c → untouched a c)
    (jobs : ∀ job state, Inv state →
      (perform job state).Meets (Exclusive Inv untouched) (fun _ later => Inv later))
    (outside : ∀ change state, untouched state (disturb change state))
    (stable : ∀ state later, untouched state later → Inv state → Inv later)
    (pool : Pool σ τ ι) (actions : List (Action ρ ι ε)) (idle : pool.waiting = []) (start : Inv pool.state)
    (sequential : Run.Each (step perform disturb) Sequential pool actions) :
    Run.Always (step perform disturb) (fun reached => Inv reached.state) pool actions :=
  Run.always_of_invariant _ Sequential (Alone Inv untouched) _
    (fun reached action => step_alone perform disturb Inv untouched refl trans jobs outside stable reached action)
    (fun _ alone => alone.1) pool actions ⟨start, .inl idle⟩ sequential

end Pool

-- Tasks that count on where the others wait: the invariant speaks about the
-- state and the points of all that are suspended, this one's own among them.
-- Each uninterrupted stretch is moreover a step of the relation.
def Co.Keeps (Inv : σ → List τ → Prop) (R : σ → σ → Prop) : Co σ τ ι α → σ → List τ → Prop
  | .done state _, start, others => R start state ∧ Inv state others
  | .raised state, start, others => R start state ∧ Inv state others
  | .await state point resume, start, others => R start state ∧ Inv state (point :: others) ∧
      ∀ later input rest, Inv later (point :: rest) → (resume later input).Keeps Inv R later rest

def Task.Keeps (Inv : σ → List τ → Prop) (R : σ → σ → Prop) (task : Task σ τ ι α) : Prop :=
  ∀ state others, Inv state others → (task state).Keeps Inv R state others

namespace Co

theorem keeps_after (Inv : σ → List τ → Prop) (R : σ → σ → Prop) (trans : ∀ a b c, R a b → R b c → R a c)
    (task : Co σ τ ι α) (a b : σ) (others : List τ) (first : R a b) (kept : task.Keeps Inv R b others) :
    task.Keeps Inv R a others := by
  cases task with
  | done state value => exact ⟨trans a b state first kept.1, kept.2⟩
  | raised state => exact ⟨trans a b state first kept.1, kept.2⟩
  | await state point resume => exact ⟨trans a b state first kept.1, kept.2⟩

theorem keeps_mono (Inv : σ → List τ → Prop) (R S : σ → σ → Prop) (implies : ∀ a b, R a b → S a b) (task : Co σ τ ι α)
    (start : σ) (others : List τ) (kept : task.Keeps Inv R start others) : task.Keeps Inv S start others := by
  induction task generalizing start others with
  | done state value => exact ⟨implies start state kept.1, kept.2⟩
  | raised state => exact ⟨implies start state kept.1, kept.2⟩
  | await state point resume ih =>
      obtain ⟨reached, waiting, resumed⟩ := kept
      exact ⟨implies start state reached, waiting, fun later input rest inv => ih later input later rest (resumed later input rest inv)⟩

theorem keeps_bind (Inv : σ → List τ → Prop) (R : σ → σ → Prop) (trans : ∀ a b c, R a b → R b c → R a c)
    (task : Co σ τ ι α) (next : σ → α → Co σ τ ι β) (start : σ) (others : List τ) (first : task.Keeps Inv R start others)
    (rest : ∀ state value others, Inv state others → (next state value).Keeps Inv R state others) :
    (task.bind next).Keeps Inv R start others := by
  induction task generalizing start others with
  | done state value => exact keeps_after Inv R trans _ start state others first.1 (rest state value others first.2)
  | raised state => exact first
  | await state point resume ih =>
      obtain ⟨reached, waiting, resumed⟩ := first
      exact ⟨reached, waiting, fun later input others inv => ih later input later others (resumed later input others inv)⟩

end Co

namespace Task

section

variable (Inv : σ → List τ → Prop) (R : σ → σ → Prop)

theorem keeps_pure (refl : ∀ state, R state state) (value : α) : (pure value : Task σ τ ι α).Keeps Inv R :=
  fun state _ inv => ⟨refl state, inv⟩

theorem keeps_seq (trans : ∀ a b c, R a b → R b c → R a c) (task : Task σ τ ι α) (next : α → Task σ τ ι β)
    (first : task.Keeps Inv R) (rest : ∀ value, (next value).Keeps Inv R) : (task >>= next).Keeps Inv R :=
  fun state others inv => Co.keeps_bind Inv R trans (task state) _ state others (first state others inv)
    (fun later value => rest value later)

theorem keeps_each (refl : ∀ state, R state state) (trans : ∀ a b c, R a b → R b c → R a c) (body : α → Task σ τ ι Unit)
    (step : ∀ item, (body item).Keeps Inv R) (items : List α) : (each body items).Keeps Inv R := by
  induction items with
  | nil => exact keeps_pure Inv R refl ()
  | cons item rest ih => exact keeps_seq Inv R trans (body item) _ (step item) (fun _ => ih)

end

end Task

namespace Pool

variable {ρ ε : Type}

def points (pool : Pool σ τ ι) : List τ := pool.waiting.map Suspended.point

def Crewed (Inv : σ → List τ → Prop) (R : σ → σ → Prop) (pool : Pool σ τ ι) : Prop :=
  Inv pool.state pool.points ∧ ∀ task ∈ pool.waiting, ∀ later input rest, Inv later (task.point :: rest) →
    (task.resume later input).Keeps Inv R later rest

theorem perm_apart (items : List α) (index : Nat) (item : α) (found : items[index]? = some item) :
    items.Perm (item :: items.eraseIdx index) := by
  induction items generalizing index with
  | nil => cases found
  | cons head tail ih =>
      cases index with
      | zero =>
          cases found
          exact .refl _
      | succ index => exact ((ih index found).cons head).trans (.swap item head _)

theorem settle_crewed (Inv : σ → List τ → Prop) (R : σ → σ → Prop)
    (perm : ∀ state a b, List.Perm a b → Inv state a → Inv state b) (waiting : List (Suspended σ τ ι))
    (task : Co σ τ ι Unit) (start : σ) (kept : task.Keeps Inv R start (waiting.map Suspended.point))
    (others : ∀ other ∈ waiting, ∀ later input rest, Inv later (other.point :: rest) →
      (other.resume later input).Keeps Inv R later rest) :
    R start (settle waiting task).state ∧ Crewed Inv R (settle waiting task) := by
  cases task with
  | done state value => exact ⟨kept.1, kept.2, others⟩
  | raised state => exact ⟨kept.1, kept.2, others⟩
  | await state point resume =>
      obtain ⟨reached, inv, resumed⟩ := kept
      refine ⟨reached, ?_, ?_⟩
      · apply perm state _ _ _ inv
        simp only [points, settle, List.map_append]
        exact (List.perm_append_singleton point _).symm
      · intro other member
        cases List.mem_append.mp member with
          | inl old => exact others other old
          | inr fresh =>
              cases List.mem_singleton.mp fresh
              exact resumed

theorem step_crewed (perform : ρ → Task σ τ ι Unit) (disturb : ε → σ → σ) (Inv : σ → List τ → Prop) (R : σ → σ → Prop)
    (perm : ∀ state a b, List.Perm a b → Inv state a → Inv state b) (refl : ∀ state, R state state)
    (jobs : ∀ job, (perform job).Keeps Inv R)
    (outside : ∀ change state others, Inv state others → R state (disturb change state) ∧ Inv (disturb change state) others)
    (pool : Pool σ τ ι) (action : Action ρ ι ε) (crewed : Crewed Inv R pool) :
    R pool.state (step perform disturb pool action).state ∧ Crewed Inv R (step perform disturb pool action) := by
  obtain ⟨inv, tasks⟩ := crewed
  cases action with
  | spawn job => exact settle_crewed Inv R perm pool.waiting _ pool.state (jobs job pool.state pool.points inv) tasks
  | environment change =>
      obtain ⟨reached, kept⟩ := outside change pool.state pool.points inv
      exact ⟨reached, kept, tasks⟩
  | resume index input =>
      simp only [step]
      cases found : pool.waiting[index]? with
      | none => exact ⟨refl pool.state, inv, tasks⟩
      | some task =>
          apply settle_crewed Inv R perm
          · apply tasks task (List.mem_of_getElem? found)
            apply perm pool.state _ _ _ inv
            exact (perm_apart pool.waiting index task found).map Suspended.point
          · exact fun other member => tasks other (List.mem_of_mem_eraseIdx member)

theorem run_crewed (perform : ρ → Task σ τ ι Unit) (disturb : ε → σ → σ) (Inv : σ → List τ → Prop) (R : σ → σ → Prop)
    (perm : ∀ state a b, List.Perm a b → Inv state a → Inv state b) (refl : ∀ state, R state state)
    (jobs : ∀ job, (perform job).Keeps Inv R)
    (outside : ∀ change state others, Inv state others → R state (disturb change state) ∧ Inv (disturb change state) others)
    (pool : Pool σ τ ι) (actions : List (Action ρ ι ε)) (idle : pool.waiting = []) (start : Inv pool.state []) :
    Run.Always (step perform disturb) (fun reached => Inv reached.state reached.points) pool actions ∧
      Run.Along (step perform disturb) (fun before after => R before.state after.state) pool actions := by
  have stepped (reached : Pool σ τ ι) (action : Action ρ ι ε) (crewed : Crewed Inv R reached) :=
    step_crewed perform disturb Inv R perm refl jobs outside reached action crewed
  have first : Crewed Inv R pool := by
    rw [Crewed, points, idle]
    exact ⟨start, List.forall_mem_nil _⟩
  have all := Run.each_of_all (step perform disturb) (fun _ _ => True) (fun _ _ => trivial) pool actions
  constructor
  · exact Run.always_of_invariant _ _ (Crewed Inv R) _ (fun reached action crewed _ => (stepped reached action crewed).2)
      (fun _ crewed => crewed.1) pool actions first all
  · exact Run.each_of_invariant _ _ _ (Crewed Inv R) (fun reached action crewed _ => (stepped reached action crewed).2)
      (fun reached action crewed _ => (stepped reached action crewed).1) pool actions first all

end Pool

end QuantEngine
