import QuantEngine.Core.EventBus

set_option autoImplicit false

namespace QuantEngine.Core.Delivery

open Run (Each Always final)

variable {E T H X : Type} (isInstance : E → T → Bool)

def atWork (bus : EventBus E T H X) : List (Call E H) :=
  match bus.worker with
  | .gathering calls _ => calls ++ bus.left
  | _ => bus.left

-- The subscriptions present, one for each time that a handler was subscribed.
def present (subscribers : Dict (Option T) (List H)) : List (Option T × H) :=
  subscribers.entries.flatMap (fun entry => entry.2.map (Prod.mk entry.1))

def matching (dispatch : Dispatch E T H) : List H :=
  ((present dispatch.subscribers).filter (fun subscription => covers isInstance subscription.1 dispatch.event)).map Prod.snd

-- One call for each subscription that matched as its event was taken.
def expected (dispatches : List (Dispatch E T H)) : List (Call E H) :=
  dispatches.zipIdx.flatMap (fun entry => (matching isInstance entry.1).map (Call.mk entry.2 entry.1.event))

-- Events are taken in the order of publication, each is given to each matching
-- handler once, and the calls at work are all of the last event taken.
structure Ordered (bus : EventBus E T H X) : Prop where
  inOrder : bus.accepted = bus.dispatches.map Dispatch.event ++ bus.queue
  once : bus.begun = expected isInstance bus.dispatches
  apart : ∀ call ∈ atWork bus, call.number + 1 = bus.dispatches.length

-- No handler is at work, and the worker waits in vain or has ended.
def Settled (bus : EventBus E T H X) : Prop :=
  atWork bus = [] ∧
    match bus.worker with
    | .waiting => bus.queue = []
    | .gathering _ _ => False
    | .ended => True

-- The worker goes on and the calls end, none by cancellation.
def Onward : Action E T H X → Prop
  | .take => True
  | .resume => True
  | .ends _ ending => isCancelled ending = false
  | .leftEnds _ ending => isCancelled ending = false
  | _ => False

-- The stop gives up only where nothing more would happen: all handlers have
-- finished by then.
def Patient (bus : EventBus E T H X) : Action E T H X → Prop
  | .timedOut => Settled bus
  | _ => True

-- The worker has ended or is about to.
def Doomed (bus : EventBus E T H X) : Prop :=
  match bus.worker with
  | .waiting => False
  | .gathering _ cancelled => cancelled = true
  | .ended => True

-- A handler is cancelled only while no event waits, and none is accepted after.
def Undisturbed (bus : EventBus E T H X) : Action E T H X → Prop
  | .publish _ => bus.state = .running → ¬ full bus → ¬ Doomed bus
  | .ends index ending => isCancelled ending = true → (∃ calls cancelled, bus.worker = .gathering calls cancelled ∧
      index < calls.length) → bus.queue = []
  | _ => True

section

variable [DecidableEq T] [DecidableEq H]

-- However things go on from here, all ends with every accepted event
-- dispatched.
def Delivers (bus : EventBus E T H X) : Prop :=
  (∃ more, (∀ action ∈ more, Onward action) ∧ Settled (final (step isInstance) bus more)) ∧
    ∀ more, (∀ action ∈ more, Onward action) → Settled (final (step isInstance) bus more) →
      (final (step isInstance) bus more).dispatches.map Dispatch.event = (final (step isInstance) bus more).accepted

end

def inGather (bus : EventBus E T H X) : Nat :=
  match bus.worker with
  | .gathering _ _ => 1
  | _ => 0

structure Inv (bus : EventBus E T H X) : Prop where
  ordered : Ordered isInstance bus
  counted : bus.unfinished = bus.queue.length + inGather bus
  alive : bus.worker ≠ .ended → bus.left = []

theorem handlers_matching (dispatch : Dispatch E T H) :
    handlersFor isInstance dispatch.subscribers dispatch.event = matching isInstance dispatch := by
  rw [handlersFor, matching, present, List.filter_flatMap, List.map_flatMap]
  congr 1
  funext entry
  by_cases covered : covers isInstance entry.1 dispatch.event = true
  · rw [if_pos covered, List.filter_map]
    simp [Function.comp_def, covered]
  · rw [if_neg covered, List.filter_map]
    simp [Function.comp_def, covered]

theorem expected_snoc (dispatches : List (Dispatch E T H)) (dispatch : Dispatch E T H) :
    expected isInstance (dispatches ++ [dispatch]) =
      expected isInstance dispatches ++
        (handlersFor isInstance dispatch.subscribers dispatch.event).map (Call.mk dispatches.length dispatch.event) := by
  rw [expected, List.zipIdx_append, List.flatMap_append, handlers_matching]
  simp [expected]

theorem take_cases (bus : EventBus E T H X) :
    take isInstance bus = bus ∨
      ∃ event rest, bus.worker = .waiting ∧ bus.queue = event :: rest ∧
        ((handlersFor isInstance bus.subscribers event = [] ∧
          take isInstance bus = { bus with
            queue := rest
            dispatches := bus.dispatches ++ [⟨event, bus.subscribers⟩]
            unfinished := bus.unfinished - 1 }) ∨
        take isInstance bus = { bus with
          queue := rest
          dispatches := bus.dispatches ++ [⟨event, bus.subscribers⟩]
          begun := bus.begun ++ (handlersFor isInstance bus.subscribers event).map (Call.mk bus.dispatches.length event)
          worker := .gathering ((handlersFor isInstance bus.subscribers event).map (Call.mk bus.dispatches.length event)) false }) := by
  rw [take]
  cases worker : bus.worker with
  | gathering calls cancelled => exact Or.inl rfl
  | ended => exact Or.inl rfl
  | waiting =>
      cases queue : bus.queue with
      | nil => exact Or.inl rfl
      | cons event rest =>
          refine Or.inr ⟨event, rest, rfl, rfl, ?_⟩
          by_cases none_ : handlersFor isInstance bus.subscribers event = []
          · exact Or.inl ⟨none_, by simp [none_]⟩
          · exact Or.inr (by simp [none_])

-- A call's end touches only the dead letters and the counters.
theorem handler_ends_same (bus : EventBus E T H X) (call : Call E H) (ending : Ending X) :
    ∃ stats deadLetters, runHandlerEnds bus call ending = { bus with stats := stats, deadLetters := deadLetters } := by
  cases ending with
  | raised error => exact ⟨_, _, rfl⟩
  | returned => exact ⟨bus.stats, bus.deadLetters, rfl⟩
  | cancelled => exact ⟨bus.stats, bus.deadLetters, rfl⟩

theorem ends_cases (bus : EventBus E T H X) (index : Nat) (ending : Ending X) :
    (ends bus index ending = bus ∧ ¬ ∃ calls cancelled, bus.worker = .gathering calls cancelled ∧ index < calls.length) ∨
      ∃ calls cancelled stats deadLetters, bus.worker = .gathering calls cancelled ∧ index < calls.length ∧
        ends bus index ending = { bus with
          stats := stats
          deadLetters := deadLetters
          worker := .gathering (calls.eraseIdx index) (cancelled || isCancelled ending) } := by
  rw [ends]
  cases worker : bus.worker with
  | waiting => exact Or.inl ⟨rfl, fun ⟨_, _, same, _⟩ => by cases same⟩
  | ended => exact Or.inl ⟨rfl, fun ⟨_, _, same, _⟩ => by cases same⟩
  | gathering calls cancelled =>
      by_cases inside : index < calls.length
      · obtain ⟨stats, deadLetters, same⟩ := handler_ends_same bus calls[index] ending
        refine Or.inr ⟨calls, cancelled, stats, deadLetters, rfl, inside, ?_⟩
        dsimp only
        rw [List.getElem?_eq_getElem inside]
        dsimp only
        rw [same]
      · dsimp only
        rw [List.getElem?_eq_none (Nat.le_of_not_lt inside)]
        refine Or.inl ⟨rfl, fun ⟨other, _, same, small⟩ => ?_⟩
        cases same
        exact inside small

theorem left_ends_cases (bus : EventBus E T H X) (index : Nat) (ending : Ending X) :
    leftEnds bus index ending = bus ∨ ∃ stats deadLetters,
      leftEnds bus index ending =
        { bus with stats := stats, deadLetters := deadLetters, left := bus.left.eraseIdx index } := by
  rw [leftEnds]
  cases bus.left[index]? with
  | none => exact Or.inl rfl
  | some call =>
      obtain ⟨stats, deadLetters, same⟩ := handler_ends_same bus call ending
      refine Or.inr ⟨stats, deadLetters, ?_⟩
      dsimp only
      rw [same]

theorem start_inv (maxQueueSize : Int) (deadLetterLimit : Nat) (subscribers : Dict (Option T) (List H)) :
    Inv isInstance (started maxQueueSize deadLetterLimit subscribers : EventBus E T H X) where
  ordered := ⟨rfl, rfl, fun _ member => absurd member List.not_mem_nil⟩
  counted := rfl
  alive := fun _ => rfl

theorem publish_inv (bus : EventBus E T H X) (inv : Inv isInstance bus) (event : E) : Inv isInstance (publish bus event) := by
  rw [publish]
  split
  · exact inv
  · split
    · exact ⟨⟨inv.ordered.inOrder, inv.ordered.once, inv.ordered.apart⟩, inv.counted, inv.alive⟩
    · refine ⟨⟨?_, inv.ordered.once, inv.ordered.apart⟩, ?_, inv.alive⟩
      · rw [inv.ordered.inOrder, List.append_assoc]
      · have counted := inv.counted
        simp only [List.length_append, List.length_singleton, inGather] at counted ⊢
        omega

theorem take_inv (bus : EventBus E T H X) (inv : Inv isInstance bus) : Inv isInstance (take isInstance bus) := by
  cases take_cases isInstance bus with
  | inl same => rwa [same]
  | inr takes =>
      obtain ⟨event, rest, waiting, queue, effect⟩ := takes
      have order : bus.accepted = (bus.dispatches ++ [Dispatch.mk event bus.subscribers]).map Dispatch.event ++ rest := by
        rw [inv.ordered.inOrder, queue, List.map_append]
        simp
      have idle := inv.alive (by simp [waiting])
      have counted := inv.counted
      simp only [queue, inGather, waiting, List.length_cons] at counted
      cases effect with
      | inl unheard =>
          rw [unheard.2]
          refine ⟨⟨order, ?_, ?_⟩, ?_, fun _ => idle⟩
          · rw [expected_snoc, unheard.1, List.map_nil, List.append_nil]
            exact inv.ordered.once
          · simp [atWork, waiting, idle]
          · simp only [inGather, waiting]
            omega
      | inr heard =>
          rw [heard]
          refine ⟨⟨order, ?_, ?_⟩, ?_, fun _ => idle⟩
          · rw [expected_snoc, inv.ordered.once]
          · intro call member
            rw [atWork] at member
            simp only [idle, List.append_nil, List.mem_map] at member
            obtain ⟨handler, _, rfl⟩ := member
            simp
          · simp only [inGather]
            omega

theorem ends_inv (bus : EventBus E T H X) (inv : Inv isInstance bus) (index : Nat) (ending : Ending X) :
    Inv isInstance (ends bus index ending) := by
  cases ends_cases bus index ending with
  | inl same => rwa [same.1]
  | inr effect =>
      obtain ⟨calls, cancelled, stats, deadLetters, worker, _, after⟩ := effect
      rw [after]
      have idle := inv.alive (by simp [worker])
      refine ⟨⟨inv.ordered.inOrder, inv.ordered.once, fun call member => ?_⟩, ?_, fun _ => idle⟩
      · have apart := inv.ordered.apart call
        simp only [atWork, worker] at apart
        refine apart (List.mem_append.mpr ?_)
        exact (List.mem_append.mp member).imp_left List.mem_of_mem_eraseIdx
      · have counted := inv.counted
        simpa only [inGather, worker] using counted

theorem resume_inv (bus : EventBus E T H X) (inv : Inv isInstance bus) : Inv isInstance (resume bus) := by
  have counted := inv.counted
  have apart := inv.ordered.apart
  rw [resume]
  split
  · rename_i calls worker
    simp only [inGather, worker, atWork] at counted apart
    refine ⟨⟨inv.ordered.inOrder, inv.ordered.once, fun call member => ?_⟩, ?_, fun same => absurd rfl same⟩
    · exact apart call (List.mem_append.mpr (List.mem_append.mp member).symm)
    · simp only [inGather]
      omega
  · rename_i worker
    have idle := inv.alive (by simp [worker])
    simp only [inGather, worker] at counted
    refine ⟨⟨inv.ordered.inOrder, inv.ordered.once, fun call member => ?_⟩, ?_, fun _ => idle⟩
    · rw [atWork] at member
      dsimp only at member
      rw [idle] at member
      cases member
    · simp only [inGather]
      omega
  · exact inv

theorem left_ends_inv (bus : EventBus E T H X) (inv : Inv isInstance bus) (index : Nat) (ending : Ending X) :
    Inv isInstance (leftEnds bus index ending) := by
  cases left_ends_cases bus index ending with
  | inl same => rwa [same]
  | inr effect =>
      obtain ⟨stats, deadLetters, after⟩ := effect
      rw [after]
      refine ⟨⟨inv.ordered.inOrder, inv.ordered.once, fun call member => ?_⟩, inv.counted, fun alive => ?_⟩
      · refine inv.ordered.apart call ?_
        rw [atWork] at member ⊢
        dsimp only at member
        split at member
        · exact List.mem_append.mpr ((List.mem_append.mp member).imp_right List.mem_of_mem_eraseIdx)
        · exact List.mem_of_mem_eraseIdx member
      · have none_ := inv.alive alive
        simp [none_]

theorem cancel_inv (bus : EventBus E T H X) (inv : Inv isInstance bus) : Inv isInstance (cancelWorker bus) := by
  have counted := inv.counted
  have apart := inv.ordered.apart
  rw [cancelWorker]
  cases worker : bus.worker with
  | gathering calls cancelled =>
      simp only [inGather, worker, atWork] at counted apart
      refine ⟨⟨inv.ordered.inOrder, inv.ordered.once, fun call member => ?_⟩, ?_, fun same => absurd rfl same⟩
      · exact apart call (List.mem_append_right calls member)
      · simp only [inGather]
        omega
  | waiting =>
      simp only [inGather, worker, atWork] at counted apart
      exact ⟨⟨inv.ordered.inOrder, inv.ordered.once, apart⟩, counted, fun same => absurd rfl same⟩
  | ended =>
      simp only [inGather, worker, atWork] at counted apart
      exact ⟨⟨inv.ordered.inOrder, inv.ordered.once, apart⟩, counted, fun same => absurd rfl same⟩

theorem unsubscribe_cases [DecidableEq T] [DecidableEq H] (bus : EventBus E T H X) (subscription : Subscription T H) :
    ∃ subscribers stats, unsubscribe bus subscription = { bus with subscribers := subscribers, stats := stats } := by
  rw [unsubscribe]
  split
  · exact ⟨bus.subscribers, bus.stats, rfl⟩
  · split
    · exact ⟨_, _, rfl⟩
    · exact ⟨bus.subscribers, bus.stats, rfl⟩

theorem step_inv [DecidableEq T] [DecidableEq H] (bus : EventBus E T H X) (action : Action E T H X) (inv : Inv isInstance bus) :
    Inv isInstance (step isInstance bus action) := by
  have kept : ∀ subscribers stats state, Inv isInstance { bus with subscribers := subscribers, stats := stats, state := state } :=
    fun _ _ _ => ⟨⟨inv.ordered.inOrder, inv.ordered.once, inv.ordered.apart⟩, inv.counted, inv.alive⟩
  cases action with
  | publish event => exact publish_inv isInstance bus inv event
  | subscribe handler eventType => exact kept _ _ _
  | unsubscribe subscription =>
      obtain ⟨subscribers, stats, after⟩ := unsubscribe_cases bus subscription
      rw [step, after]
      exact kept subscribers stats bus.state
  | take => exact take_inv isInstance bus inv
  | ends index ending => exact ends_inv isInstance bus inv index ending
  | resume => exact resume_inv isInstance bus inv
  | leftEnds index ending => exact left_ends_inv isInstance bus inv index ending
  | stop =>
      rw [step, stop]
      split
      · exact kept _ _ _
      · exact inv
  | drained =>
      rw [step, drained]
      split
      · exact cancel_inv isInstance bus inv
      · exact inv
  | timedOut =>
      rw [step, timedOut]
      split
      · exact cancel_inv isInstance bus inv
      · exact inv

theorem ends_doomed (bus : EventBus E T H X) (index : Nat) (ending : Ending X) :
    (ends bus index ending).queue = bus.queue ∧
      (Doomed (ends bus index ending) ↔ Doomed bus ∨ (isCancelled ending = true ∧
        ∃ calls cancelled, bus.worker = .gathering calls cancelled ∧ index < calls.length)) := by
  cases ends_cases bus index ending with
  | inl same =>
      rw [same.1]
      exact ⟨rfl, ⟨Or.inl, fun either => either.elim id (fun cut => absurd cut.2 same.2)⟩⟩
  | inr effect =>
      obtain ⟨calls, cancelled, stats, deadLetters, worker, inside, after⟩ := effect
      rw [after]
      refine ⟨rfl, ?_⟩
      rw [Doomed, Doomed]
      simp only [worker, Bool.or_eq_true]
      exact or_congr_right ⟨fun cut => ⟨cut, calls, cancelled, rfl, inside⟩, And.left⟩

theorem resume_doomed (bus : EventBus E T H X) :
    (resume bus).queue = bus.queue ∧ (Doomed (resume bus) ↔ Doomed bus) := by
  rw [resume]
  split
  · rename_i calls worker
    simp [Doomed, worker]
  · rename_i worker
    simp [Doomed, worker]
  · exact ⟨rfl, Iff.rfl⟩

theorem left_ends_doomed (bus : EventBus E T H X) (index : Nat) (ending : Ending X) :
    (leftEnds bus index ending).queue = bus.queue ∧ (Doomed (leftEnds bus index ending) ↔ Doomed bus) := by
  cases left_ends_cases bus index ending with
  | inl same =>
      rw [same]
      exact ⟨rfl, Iff.rfl⟩
  | inr effect =>
      obtain ⟨_, _, after⟩ := effect
      rw [after]
      exact ⟨rfl, Iff.rfl⟩

-- A worker that takes an event is not doomed.
theorem take_doomed (bus : EventBus E T H X) :
    take isInstance bus = bus ∨ ¬ Doomed bus ∧ ¬ Doomed (take isInstance bus) := by
  cases take_cases isInstance bus with
  | inl same => exact Or.inl same
  | inr takes =>
      obtain ⟨event, rest, waiting, _, effect⟩ := takes
      refine Or.inr ⟨by simp [Doomed, waiting], ?_⟩
      cases effect with
      | inl unheard => simp [unheard.2, Doomed, waiting]
      | inr heard => simp [heard, Doomed]

-- No event waits for a worker that will not come.
def NoneLost (bus : EventBus E T H X) : Prop := Doomed bus → bus.queue = []

theorem cancel_doomed (bus : EventBus E T H X) : (cancelWorker bus).queue = bus.queue ∧ Doomed (cancelWorker bus) := by
  rw [cancelWorker]
  split
  · exact ⟨rfl, trivial⟩
  · exact ⟨rfl, trivial⟩

variable [DecidableEq T] [DecidableEq H]

-- Exactly the disturbances lose an event.
theorem step_none_lost (bus : EventBus E T H X) (action : Action E T H X) (inv : Inv isInstance bus) (noneLost : NoneLost bus)
    (patient : Patient bus action) : NoneLost (step isInstance bus action) ↔ Undisturbed bus action := by
  cases action with
  | publish event =>
      rw [NoneLost, step, publish, Undisturbed]
      by_cases running : bus.state = .running
      · rw [if_neg (not_not.mpr running)]
        by_cases finished : full bus
        · rw [if_pos finished]
          exact ⟨fun _ _ free => absurd finished free, fun _ => noneLost⟩
        · rw [if_neg finished]
          refine ⟨fun lost _ _ doomed => ?_, fun alive doomed => absurd doomed (alive running finished)⟩
          exact absurd (lost doomed) (by simp)
      · rw [if_pos running]
        exact ⟨fun _ yes => absurd yes running, fun _ => noneLost⟩
  | subscribe handler eventType => exact ⟨fun _ => trivial, fun _ => noneLost⟩
  | unsubscribe subscription =>
      obtain ⟨subscribers, stats, after⟩ := unsubscribe_cases bus subscription
      rw [step, after]
      exact ⟨fun _ => trivial, fun _ => noneLost⟩
  | take =>
      refine ⟨fun _ => trivial, fun _ => ?_⟩
      cases take_doomed isInstance bus with
      | inl same =>
          rw [step, same]
          exact noneLost
      | inr alive => exact fun doomed => absurd doomed alive.2
  | ends index ending =>
      obtain ⟨queue, doomed⟩ := ends_doomed bus index ending
      rw [NoneLost, step, queue, doomed, Undisturbed]
      exact ⟨fun lost cut inside => lost (Or.inr ⟨cut, inside⟩),
        fun undisturbed either => either.elim noneLost (fun cut => undisturbed cut.1 cut.2)⟩
  | resume =>
      obtain ⟨queue, doomed⟩ := resume_doomed bus
      rw [NoneLost, step, queue, doomed]
      exact ⟨fun _ => trivial, fun _ => noneLost⟩
  | leftEnds index ending =>
      obtain ⟨queue, doomed⟩ := left_ends_doomed bus index ending
      rw [NoneLost, step, queue, doomed]
      exact ⟨fun _ => trivial, fun _ => noneLost⟩
  | stop =>
      refine ⟨fun _ => trivial, fun _ => ?_⟩
      rw [step, stop]
      split
      · exact noneLost
      · exact noneLost
  | drained =>
      refine ⟨fun _ => trivial, fun _ => ?_⟩
      rw [step, drained]
      split
      · rename_i finished
        have counted := inv.counted
        rw [finished.2] at counted
        intro _
        rw [(cancel_doomed bus).1]
        exact List.eq_nil_of_length_eq_zero (by omega)
      · exact noneLost
  | timedOut =>
      refine ⟨fun _ => trivial, fun _ => ?_⟩
      rw [step, timedOut]
      split
      · intro _
        rw [(cancel_doomed bus).1]
        have still := patient.2
        cases worker : bus.worker with
        | waiting =>
            rw [worker] at still
            exact still
        | gathering calls cancelled =>
            rw [worker] at still
            cases still
        | ended => exact noneLost (by simp [Doomed, worker])
      · exact noneLost

theorem onward_none_lost (bus : EventBus E T H X) (action : Action E T H X) (inv : Inv isInstance bus)
    (noneLost : NoneLost bus) (onward : Onward action) : NoneLost (step isInstance bus action) := by
  have patient : Patient bus action := by
    cases action with
    | timedOut => cases onward
    | _ => trivial
  refine (step_none_lost isInstance bus action inv noneLost patient).mpr ?_
  cases action with
  | publish event => cases onward
  | ends index ending => exact fun cut => absurd (onward.symm.trans cut) Bool.false_ne_true
  | _ => trivial

theorem onward_doomed (bus : EventBus E T H X) (action : Action E T H X) (doomed : Doomed bus) (onward : Onward action) :
    (step isInstance bus action).queue = bus.queue ∧ Doomed (step isInstance bus action) := by
  cases action with
  | take =>
      cases take_doomed isInstance bus with
      | inl same =>
          rw [step, same]
          exact ⟨rfl, doomed⟩
      | inr alive => exact absurd doomed alive.1
  | ends index ending =>
      obtain ⟨queue, after⟩ := ends_doomed bus index ending
      exact ⟨queue, after.mpr (Or.inl doomed)⟩
  | resume => exact ⟨(resume_doomed bus).1, (resume_doomed bus).2.mpr doomed⟩
  | leftEnds index ending => exact ⟨(left_ends_doomed bus index ending).1, (left_ends_doomed bus index ending).2.mpr doomed⟩
  | _ => cases onward

-- Going on can reach a state with a property.
def Reaches (bus : EventBus E T H X) (P : EventBus E T H X → Prop) : Prop :=
  ∃ more, (∀ action ∈ more, Onward action) ∧ P (final (step isInstance) bus more)

theorem reaches_now (bus : EventBus E T H X) (P : EventBus E T H X → Prop) (here : P bus) : Reaches isInstance bus P :=
  ⟨[], fun _ member => absurd member List.not_mem_nil, here⟩

theorem reaches_step (bus : EventBus E T H X) (P : EventBus E T H X → Prop) (action : Action E T H X) (onward : Onward action)
    (later : Reaches isInstance (step isInstance bus action) P) : Reaches isInstance bus P := by
  obtain ⟨more, all, there⟩ := later
  refine ⟨action :: more, fun other member => ?_, there⟩
  cases List.mem_cons.mp member with
  | inl same => exact same ▸ onward
  | inr rest => exact all other rest

theorem reaches_trans (bus : EventBus E T H X) (P Q : EventBus E T H X → Prop) (first : Reaches isInstance bus P)
    (then_ : ∀ mid, P mid → Reaches isInstance mid Q) : Reaches isInstance bus Q := by
  obtain ⟨more, all, there⟩ := first
  obtain ⟨rest, allRest, here⟩ := then_ _ there
  refine ⟨more ++ rest, fun action member => ?_, ?_⟩
  · exact (List.mem_append.mp member).elim (all action) (allRest action)
  · rw [final, List.foldl_append]
    exact here

-- The calls left behind can end, one after the other.
theorem reaches_none_left (bus : EventBus E T H X) :
    Reaches isInstance bus (fun later => later.left = []) := by
  generalize size : bus.left.length = count
  induction count generalizing bus with
  | zero => exact reaches_now isInstance bus _ (List.eq_nil_of_length_eq_zero size)
  | succ count ih =>
      refine reaches_step isInstance bus _ (.leftEnds 0 .returned) rfl (ih _ ?_)
      cases calls : bus.left with
      | nil =>
          rw [calls] at size
          cases size
      | cons call rest =>
          rw [calls, List.length_cons] at size
          simp only [step, leftEnds, calls, List.getElem?_cons_zero, runHandlerEnds, List.eraseIdx_cons_zero]
          omega

-- So can those of a gather, and the worker is back or has ended.
theorem reaches_gathered (bus : EventBus E T H X) (none_ : bus.left = []) :
    Reaches isInstance bus (fun later => later.left = [] ∧ later.queue = bus.queue ∧ inGather later = 0) := by
  cases worker : bus.worker with
  | waiting => exact reaches_now isInstance bus _ ⟨none_, rfl, by simp [inGather, worker]⟩
  | ended => exact reaches_now isInstance bus _ ⟨none_, rfl, by simp [inGather, worker]⟩
  | gathering calls cancelled =>
      induction calls generalizing bus with
      | nil =>
          refine reaches_step isInstance bus _ .resume trivial (reaches_now isInstance _ _ ?_)
          cases cancelled with
          | true => simp [step, resume, worker, inGather, none_]
          | false => simp [step, resume, worker, inGather, none_]
      | cons call rest ih =>
          refine reaches_step isInstance bus _ (.ends 0 .returned) rfl ?_
          have after : step isInstance bus (.ends 0 .returned) = { bus with worker := .gathering rest cancelled } := by
            simp [step, ends, worker, runHandlerEnds, isCancelled]
          rw [after]
          exact ih { bus with worker := .gathering rest cancelled } none_ rfl

theorem reaches_settled (bus : EventBus E T H X) : Reaches isInstance bus Settled := by
  refine reaches_trans isInstance bus _ Settled (reaches_none_left isInstance bus) (fun mid none_ => ?_)
  generalize size : mid.queue.length = count
  induction count generalizing mid with
  | zero =>
      refine reaches_trans isInstance mid _ Settled (reaches_gathered isInstance mid none_) (fun later gathered => ?_)
      obtain ⟨left, queue, idle⟩ := gathered
      refine reaches_now isInstance later Settled ?_
      have empty := List.eq_nil_of_length_eq_zero size
      cases worker : later.worker with
      | waiting => simp [Settled, atWork, worker, left, queue, empty]
      | ended => simp [Settled, atWork, worker, left]
      | gathering calls cancelled => simp [inGather, worker] at idle
  | succ count ih =>
      refine reaches_trans isInstance mid _ Settled (reaches_gathered isInstance mid none_) (fun later gathered => ?_)
      obtain ⟨left, queue, idle⟩ := gathered
      cases worker : later.worker with
      | gathering calls cancelled => simp [inGather, worker] at idle
      | ended => exact reaches_now isInstance later Settled (by simp [Settled, atWork, worker, left])
      | waiting =>
          refine reaches_step isInstance later Settled .take trivial ?_
          have taken : (take isInstance later).left = [] ∧ (take isInstance later).queue.length = count := by
            cases queued : later.queue with
            | nil =>
                rw [← queue, queued] at size
                cases size
            | cons event rest =>
                rw [← queue, queued, List.length_cons] at size
                rw [take, worker, queued]
                dsimp only
                split
                · exact ⟨left, Nat.succ.inj size⟩
                · exact ⟨left, Nat.succ.inj size⟩
          exact ih (take isInstance later) taken.1 taken.2

theorem delivers_iff (bus : EventBus E T H X) (inv : Inv isInstance bus) : Delivers isInstance bus ↔ NoneLost bus := by
  constructor
  · rintro ⟨⟨more, onward, settled⟩, all⟩ doomed
    have delivered := all more onward settled
    have kept : (final (step isInstance) bus more).queue = bus.queue ∧ Inv isInstance (final (step isInstance) bus more) := by
      clear settled delivered all
      induction more generalizing bus with
      | nil => exact ⟨rfl, inv⟩
      | cons action rest ih =>
          obtain ⟨queue, next⟩ := onward_doomed isInstance bus action doomed (onward action List.mem_cons_self)
          have later := ih (step isInstance bus action) (step_inv isInstance bus action inv)
            (fun other member => onward other (List.mem_cons_of_mem _ member)) next
          exact ⟨later.1.trans queue, later.2⟩
    have order := kept.2.ordered.inOrder
    rw [delivered, kept.1] at order
    exact List.append_cancel_left (order.symm.trans (List.append_nil _).symm)
  · intro noneLost
    refine ⟨reaches_settled isInstance bus, fun more onward settled => ?_⟩
    have kept : NoneLost (final (step isInstance) bus more) ∧ Inv isInstance (final (step isInstance) bus more) := by
      clear settled
      induction more generalizing bus with
      | nil => exact ⟨noneLost, inv⟩
      | cons action rest ih =>
          exact ih (step isInstance bus action) (step_inv isInstance bus action inv)
            (onward_none_lost isInstance bus action inv noneLost (onward action List.mem_cons_self))
            (fun other member => onward other (List.mem_cons_of_mem _ member))
    have empty : (final (step isInstance) bus more).queue = [] := by
      have still := settled.2
      cases worker : (final (step isInstance) bus more).worker with
      | waiting =>
          rw [worker] at still
          exact still
      | gathering calls cancelled =>
          rw [worker] at still
          cases still
      | ended => exact kept.1 (by simp [Doomed, worker])
    rw [kept.2.ordered.inOrder, empty, List.append_nil]

-- Order and single delivery hold in every run, and every accepted event is
-- dispatched in exactly the undisturbed ones.
theorem events_delivered_iff (maxQueueSize : Int) (deadLetterLimit : Nat) (subscribers : Dict (Option T) (List H))
    (actions : List (Action E T H X))
    (patient : Each (step isInstance) Patient (started maxQueueSize deadLetterLimit subscribers) actions) :
    Always (step isInstance) (fun bus => Ordered isInstance bus ∧ Delivers isInstance bus)
        (started maxQueueSize deadLetterLimit subscribers) actions ↔
      Each (step isInstance) Undisturbed (started maxQueueSize deadLetterLimit subscribers) actions := by
  refine Run.always_iff_where (step isInstance) Patient _ Undisturbed (fun bus => Inv isInstance bus ∧ NoneLost bus)
    (fun bus inv => ⟨inv.1.ordered, (delivers_iff isInstance bus inv.1).mpr inv.2⟩) (fun bus action inv allowed => ?_)
    (fun bus action inv allowed undisturbed => ?_) _ actions ⟨start_inv isInstance _ _ _, fun doomed => by cases doomed⟩ patient
  · have next := step_inv isInstance bus action inv.1
    rw [delivers_iff isInstance _ next, ← step_none_lost isInstance bus action inv.1 inv.2 allowed]
    exact ⟨And.right, fun kept => ⟨next.ordered, kept⟩⟩
  · exact ⟨step_inv isInstance bus action inv.1, (step_none_lost isInstance bus action inv.1 inv.2 allowed).mpr undisturbed⟩

def anyEvent (_ : Nat) (_ : Unit) : Bool := true

def listening : Dict (Option Unit) (List String) := Dict.empty.insert none ["on_event"]

-- One event dispatched, and a stop whose time runs out with nothing left to do.
theorem events_delivered_quiet_stop :
    Always (step anyEvent) (fun bus => Ordered anyEvent bus ∧ Delivers anyEvent bus) (started 10000 100 listening)
      [.publish 1, .take, .ends 0 (.raised "boom"), .resume, .stop, .timedOut] :=
  (events_delivered_iff anyEvent 10000 100 listening [.publish 1, .take, .ends 0 (.raised "boom"), .resume, .stop, .timedOut]
    ⟨trivial, trivial, trivial, trivial, trivial, ⟨rfl, rfl⟩, trivial⟩).mpr
    ⟨fun _ _ doomed => doomed, trivial, fun cut => (Bool.false_ne_true cut).elim, trivial, trivial, trivial, trivial⟩

-- The handler of the first event is cancelled while a second one waits: no turn
-- of the worker is left to take it.
theorem cancelled_handler_loses_event :
    ¬ Always (step anyEvent) (fun bus => Ordered anyEvent bus ∧ Delivers anyEvent bus)
      (started 10000 100 listening : EventBus Nat Unit String String)
      [.publish 1, .take, .publish 2, .ends 0 .cancelled] := by
  intro always
  have delivers := (Run.always_final _ _ _ _ always).2
  have onward : ∀ action ∈ [(.resume : Action Nat Unit String String)], Onward action := by
    intro action member
    rw [List.mem_singleton.mp member]
    trivial
  have same := delivers.2 [.resume] onward ⟨rfl, trivial⟩
  exact absurd same (by decide)

end QuantEngine.Core.Delivery
