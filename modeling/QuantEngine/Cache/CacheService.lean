import Mathlib.Algebra.Order.Field.Rat
import QuantEngine.Library.Dict
import QuantEngine.Library.Replay
import QuantEngine.Library.Run

set_option autoImplicit false

namespace QuantEngine.Cache

inductive CacheError where
  | failed
  deriving DecidableEq

structure InMemoryCache where
  data : Dict String (String × Option ℚ) := .empty

namespace InMemoryCache

def isExpired (now : ℚ) (expiresAt : Option ℚ) : Bool :=
  match expiresAt with
  | none => false
  | some moment => decide (moment ≤ now)

def get (now : ℚ) (key : String) (cache : InMemoryCache) : Option String × InMemoryCache :=
  match cache.data.lookup key with
  | none => (none, cache)
  | some item => if isExpired now item.2 then (none, ⟨cache.data.erase key⟩) else (some item.1, cache)

-- A TTL of zero is none.
def set (now : ℚ) (key value : String) (ttlSeconds : Option ℚ) (cache : InMemoryCache) : InMemoryCache :=
  let expiresAt := (ttlSeconds.filter (fun seconds => decide (seconds ≠ 0))).map (fun seconds => now + seconds)
  ⟨cache.data.insert key (value, expiresAt)⟩

def delete (key : String) (cache : InMemoryCache) : InMemoryCache := ⟨cache.data.erase key⟩

def exists_ (now : ℚ) (key : String) (cache : InMemoryCache) : Bool × InMemoryCache :=
  ((cache.get now key).1.isSome, (cache.get now key).2)

end InMemoryCache

-- What the service asks of its primary, where that does not fail.
structure CacheBackend (β : Type) where
  get : ℚ → String → β → Option String × β
  set : ℚ → String → String → Option ℚ → β → β
  delete : String → β → β
  exists_ : ℚ → String → β → Bool × β

structure CacheService (β : Type) where
  primary : Option (CacheBackend β)
  cooldown : ℚ := 30

structure CacheState (β : Type) where
  primary : β
  fallback : InMemoryCache := {}
  degraded : Bool
  degradedSince : Option ℚ := none

-- The clock where a call picks its backend and where that answers, and whether
-- the primary would fail the call.
structure Circumstance where
  now : ℚ
  later : ℚ
  fails : Bool

namespace CacheService

variable {α β : Type} (service : CacheService β)

def init (primary : β) : CacheState β := { primary := primary, degraded := service.primary.isNone }

def cooldownOver (now : ℚ) (state : CacheState β) : Bool :=
  match state.degradedSince with
  | none => false
  | some since => decide (service.cooldown ≤ now - since)

-- No backend stands for the fallback.
def activeBackend (now : ℚ) (state : CacheState β) : Option (CacheBackend β) × CacheState β :=
  match service.primary with
  | none => (none, state)
  | some primary =>
      if !state.degraded then (some primary, state)
      else if service.cooldownOver now state then (some primary, { state with degraded := false, degradedSince := none })
      else (none, state)

def markDegraded (now : ℚ) (state : CacheState β) : CacheState β :=
  { state with degraded := true, degradedSince := some now }

def onFallback (operation : InMemoryCache → α × InMemoryCache) (state : CacheState β) : α × CacheState β :=
  ((operation state.fallback).1, { state with fallback := (operation state.fallback).2 })

def onPrimary (fails : Bool) (operation : β → α × β) (state : CacheState β) : Except CacheError α × CacheState β :=
  if fails then (.error .failed, state)
  else (.ok (operation state.primary).1, { state with primary := (operation state.primary).2 })

-- The shape that `get`, `set` and `exists` share.
def call (around : Circumstance) (primary : CacheBackend β → β → α × β)
    (fallback : InMemoryCache → α × InMemoryCache) (state : CacheState β) : Except CacheError α × CacheState β :=
  let picked := service.activeBackend around.now state
  match picked.1 with
  | none => (.ok (onFallback fallback picked.2).1, (onFallback fallback picked.2).2)
  | some backend =>
      let tried := onPrimary around.fails (primary backend) picked.2
      match tried.1 with
      | .ok value => (.ok value, tried.2)
      | .error _ =>
          let answered := onFallback fallback (markDegraded around.later tried.2)
          (.ok answered.1, answered.2)

def get (around : Circumstance) (key : String) : CacheState β → Except CacheError (Option String) × CacheState β :=
  service.call around (fun backend => backend.get around.later key) (InMemoryCache.get around.later key)

def set (around : Circumstance) (key value : String) (ttlSeconds : Option ℚ) :
    CacheState β → Except CacheError Unit × CacheState β :=
  service.call around (fun backend data => ((), backend.set around.later key value ttlSeconds data))
    (fun cache => ((), cache.set around.later key value ttlSeconds))

def exists_ (around : Circumstance) (key : String) : CacheState β → Except CacheError Bool × CacheState β :=
  service.call around (fun backend => backend.exists_ around.later key) (InMemoryCache.exists_ around.later key)

-- The fallback is cleared too, whichever backend is active.
def delete (around : Circumstance) (key : String) (state : CacheState β) : Except CacheError Unit × CacheState β :=
  let clear (state : CacheState β) := onFallback (fun cache => ((), cache.delete key)) state
  let picked := service.activeBackend around.now state
  let tried := match picked.1 with
    | none => (clear picked.2).2
    | some backend =>
        let attempt := onPrimary around.fails (fun data => ((), backend.delete key data)) picked.2
        match attempt.1 with
        | .ok _ => attempt.2
        | .error _ => markDegraded around.later attempt.2
  (.ok (), (clear tried).2)

-- A primary that does not answer the ping at the start is marked.
def onStart (now : ℚ) (reachable : Bool) (state : CacheState β) : CacheState β :=
  if service.primary.isSome && !reachable then markDegraded now state else state

end CacheService

end QuantEngine.Cache

namespace QuantEngine.Cache

open LastWrite (Write held received)

-- A call without TTL.
inductive Request where
  | get (key : String)
  | set (key value : String)
  | delete (key : String)
  | exists_ (key : String)

structure Event where
  request : Request
  around : Circumstance

def Request.write : Request → List (Write String String)
  | .set key value => [(key, some value)]
  | .delete key => [(key, none)]
  | _ => []

def Request.reads : Request → Option String
  | .get key => some key
  | .exists_ key => some key
  | _ => none

inductive Side where
  | primary
  | memory
  deriving DecidableEq

variable {α β : Type}

namespace CacheService

variable (service : CacheService β)

def step (state : CacheState β) (event : Event) : CacheState β :=
  match event.request with
  | .get key => (service.get event.around key state).2
  | .set key value => (service.set event.around key value none state).2
  | .delete key => (service.delete event.around key state).2
  | .exists_ key => (service.exists_ event.around key state).2

-- Where a call is answered, by the flags, the clock and the failures alone.
def serves (around : Circumstance) (state : CacheState β) : Side :=
  if (service.activeBackend around.now state).1.isNone || around.fails then .memory else .primary

-- A delete reaches the fallback from either side, a set only the side it is
-- answered on.
def reaching (side : Side) (state : CacheState β) (event : Event) : List (Write String String) :=
  match event.request with
  | .delete key => if side = .memory ∨ service.serves event.around state = side then [(key, none)] else []
  | request => if service.serves event.around state = side then request.write else []

-- No call raises, a key reads as its latest value or as absent, and exists only
-- with such a value.
def Truthful (latest : String → Option String) (state : CacheState β) (event : Event) : Prop :=
  match event.request with
  | .get key => ∃ found, (service.get event.around key state).1 = .ok found ∧
      ∀ value, found = some value → latest key = some value
  | .exists_ key => ∃ found, (service.exists_ event.around key state).1 = .ok found ∧
      (found = true → ∃ value, (service.get event.around key state).1 = .ok (some value) ∧ latest key = some value)
  | .set key value => (service.set event.around key value none state).1 = .ok ()
  | .delete key => (service.delete event.around key state).1 = .ok ()

def writes (events : List Event) : List (Write String String) := events.flatMap (fun event => event.request.write)

-- What the primary holds at the start counts as set before.
def NeverSuperseded (contents : β → String → Option String) (start : CacheState β) (events : List Event) : Prop :=
  ∀ done event rest, events = done ++ event :: rest →
    service.Truthful (held (contents start.primary) (writes done)) (Run.final service.step start done) event

-- The last write to the key that the answering side received: none at first,
-- where that side is the memory.
def lastReceived (contents : β → String → Option String) (start : CacheState β) (done : List Event) (side : Side) :
    String → Option String :=
  match side with
  | .primary => held (contents start.primary) (received service.step (service.reaching .primary) start done)
  | .memory => held (fun _ => none) (received service.step (service.reaching .memory) start done)

def Informed (contents : β → String → Option String) (start : CacheState β) (done : List Event) (event : Event) : Prop :=
  ∀ key, event.request.reads = some key →
    let side := service.serves event.around (Run.final service.step start done)
    service.lastReceived contents start done side key = none ∨
      service.lastReceived contents start done side key = held (contents start.primary) (writes done) key

end CacheService

-- A backend that keeps to the documented meaning of its four commands, where no
-- entry has a TTL.
structure KeyValue (backend : CacheBackend β) (contents : β → String → Option String) : Prop where
  get : ∀ now key data, (backend.get now key data).1 = contents data key
  getKeeps : ∀ now key data, contents (backend.get now key data).2 = contents data
  set : ∀ now key value data,
    contents (backend.set now key value none data) = Function.update (contents data) key (some value)
  delete : ∀ key data, contents (backend.delete key data) = Function.update (contents data) key none
  exists_ : ∀ now key data, (backend.exists_ now key data).1 = (contents data key).isSome
  existsKeeps : ∀ now key data, contents (backend.exists_ now key data).2 = contents data

namespace InMemoryCache

def contents (cache : InMemoryCache) (key : String) : Option String := (cache.data.lookup key).map Prod.fst

def Plain (cache : InMemoryCache) : Prop := ∀ key item, cache.data.lookup key = some item → item.2 = none

theorem get_plain (cache : InMemoryCache) (plain : cache.Plain) (now : ℚ) (key : String) :
    cache.get now key = (cache.contents key, cache) := by
  rw [get, contents]
  cases found : cache.data.lookup key with
  | none => rfl
  | some item => simp [plain key item found, isExpired]

theorem exists_plain (cache : InMemoryCache) (plain : cache.Plain) (now : ℚ) (key : String) :
    cache.exists_ now key = ((cache.contents key).isSome, cache) := by
  rw [exists_, get_plain cache plain]

theorem set_contents (cache : InMemoryCache) (now : ℚ) (key value : String) :
    (cache.set now key value none).contents = Function.update cache.contents key (some value) := by
  funext other
  simp only [contents, set, Dict.lookup_insert, Function.update_apply]
  split <;> rfl

theorem set_plain (cache : InMemoryCache) (plain : cache.Plain) (now : ℚ) (key value : String) :
    (cache.set now key value none).Plain := by
  intro other item found
  rw [set, Dict.lookup_insert] at found
  split at found
  · cases found
    rfl
  · exact plain other item found

theorem delete_contents (cache : InMemoryCache) (key : String) :
    (cache.delete key).contents = Function.update cache.contents key none := by
  funext other
  simp only [contents, delete, Dict.lookup_erase, Function.update_apply]
  split <;> rfl

theorem delete_plain (cache : InMemoryCache) (plain : cache.Plain) (key : String) : (cache.delete key).Plain := by
  intro other item found
  rw [delete, Dict.lookup_erase] at found
  split at found
  · cases found
  · exact plain other item found

end InMemoryCache

section

variable (backend : CacheBackend β) (cooldown : ℚ)

def withPrimary : CacheService β := ⟨some backend, cooldown⟩

-- Picking a backend moves the two flags only, and it picks the primary or none.
theorem active_frame (now : ℚ) (state : CacheState β) :
    ((withPrimary backend cooldown).activeBackend now state).2.primary = state.primary ∧
      ((withPrimary backend cooldown).activeBackend now state).2.fallback = state.fallback ∧
        (((withPrimary backend cooldown).activeBackend now state).1 = none ∨
          ((withPrimary backend cooldown).activeBackend now state).1 = some backend) := by
  rw [withPrimary]
  cases degraded : state.degraded with
  | false => simp [CacheService.activeBackend, degraded]
  | true =>
      cases elapsed : (CacheService.mk (some backend) cooldown).cooldownOver now state with
      | false => simp [CacheService.activeBackend, degraded, elapsed]
      | true => simp [CacheService.activeBackend, degraded, elapsed]

theorem call_primary (around : Circumstance) (primary : CacheBackend β → β → α × β)
    (fallback : InMemoryCache → α × InMemoryCache) (state : CacheState β)
    (served : (withPrimary backend cooldown).serves around state = .primary) :
    let result := (withPrimary backend cooldown).call around primary fallback state
    result.1 = .ok (primary backend state.primary).1 ∧ result.2.primary = (primary backend state.primary).2 ∧
      result.2.fallback = state.fallback := by
  obtain ⟨data, memory, picked⟩ := active_frame backend cooldown around.now state
  rcases picked with none | some
  · simp [CacheService.serves, none] at served
  · have works : around.fails = false := by
      simpa [CacheService.serves, some] using served
    simp [CacheService.call, some, works, CacheService.onPrimary, data, memory]

theorem call_memory (around : Circumstance) (primary : CacheBackend β → β → α × β)
    (fallback : InMemoryCache → α × InMemoryCache) (state : CacheState β)
    (served : (withPrimary backend cooldown).serves around state = .memory) :
    let result := (withPrimary backend cooldown).call around primary fallback state
    result.1 = .ok (fallback state.fallback).1 ∧ result.2.primary = state.primary ∧
      result.2.fallback = (fallback state.fallback).2 := by
  obtain ⟨data, memory, picked⟩ := active_frame backend cooldown around.now state
  rcases picked with none | some
  · simp [CacheService.call, none, CacheService.onFallback, data, memory]
  · have fails : around.fails = true := by
      simpa [CacheService.serves, some] using served
    simp [CacheService.call, some, fails, CacheService.onPrimary, CacheService.markDegraded, CacheService.onFallback,
      data, memory]

theorem call_answer (around : Circumstance) (primary : CacheBackend β → β → α × β)
    (fallback : InMemoryCache → α × InMemoryCache) (state : CacheState β) (answer : α)
    (first : (withPrimary backend cooldown).serves around state = .primary → (primary backend state.primary).1 = answer)
    (second : (withPrimary backend cooldown).serves around state = .memory → (fallback state.fallback).1 = answer) :
    ((withPrimary backend cooldown).call around primary fallback state).1 = .ok answer := by
  cases served : (withPrimary backend cooldown).serves around state with
  | primary => rw [(call_primary backend cooldown around primary fallback state served).1, first served]
  | memory => rw [(call_memory backend cooldown around primary fallback state served).1, second served]

theorem delete_effect (around : Circumstance) (key : String) (state : CacheState β) :
    let result := (withPrimary backend cooldown).delete around key state
    result.1 = .ok () ∧
      result.2.primary = (if (withPrimary backend cooldown).serves around state = .primary then
        backend.delete key state.primary else state.primary) ∧
      (result.2.fallback = state.fallback.delete key ∨ result.2.fallback = (state.fallback.delete key).delete key) := by
  obtain ⟨data, memory, picked⟩ := active_frame backend cooldown around.now state
  rcases picked with none | some
  · simp [CacheService.delete, CacheService.serves, none, CacheService.onFallback, data, memory]
  · cases fails : around.fails <;>
      simp [CacheService.delete, CacheService.serves, some, fails, CacheService.onPrimary, CacheService.markDegraded,
        CacheService.onFallback, data, memory]

variable {contents : β → String → Option String}

def contentsAt (contents : β → String → Option String) (side : Side) (state : CacheState β) : String → Option String :=
  match side with
  | .primary => contents state.primary
  | .memory => state.fallback.contents

theorem call_takes (around : Circumstance) (primary : CacheBackend β → β → α × β)
    (fallback : InMemoryCache → α × InMemoryCache) (state : CacheState β) (write : List (Write String String))
    (there : contents (primary backend state.primary).2 = held (contents state.primary) write)
    (here : (fallback state.fallback).2.contents = held state.fallback.contents write)
    (plain : state.fallback.Plain) (stays : (fallback state.fallback).2.Plain) :
    let later := ((withPrimary backend cooldown).call around primary fallback state).2
    later.fallback.Plain ∧ ∀ side, contentsAt contents side later = held (contentsAt contents side state)
      (if (withPrimary backend cooldown).serves around state = side then write else []) := by
  cases served : (withPrimary backend cooldown).serves around state with
  | primary =>
      obtain ⟨-, data, memory⟩ := call_primary backend cooldown around primary fallback state served
      refine ⟨memory ▸ plain, fun side => ?_⟩
      cases side with
      | primary => simpa [contentsAt, data] using there
      | memory => simp [contentsAt, memory]
  | memory =>
      obtain ⟨-, data, memory⟩ := call_memory backend cooldown around primary fallback state served
      refine ⟨memory ▸ stays, fun side => ?_⟩
      cases side with
      | primary => simp [contentsAt, data]
      | memory => simpa [contentsAt, memory] using here

theorem delete_takes (keyValue : KeyValue backend contents) (around : Circumstance) (key : String)
    (state : CacheState β) (plain : state.fallback.Plain) :
    let later := ((withPrimary backend cooldown).delete around key state).2
    later.fallback.Plain ∧ ∀ side, contentsAt contents side later = held (contentsAt contents side state)
      (if side = .memory ∨ (withPrimary backend cooldown).serves around state = side then [(key, none)] else []) := by
  obtain ⟨-, data, memory⟩ := delete_effect backend cooldown around key state
  have once := InMemoryCache.delete_plain state.fallback plain key
  constructor
  · rcases memory with one | two
    · exact one ▸ once
    · exact two ▸ InMemoryCache.delete_plain _ once key
  · intro side
    cases side with
    | primary =>
        by_cases served : (withPrimary backend cooldown).serves around state = .primary
        · simp [contentsAt, data, served, keyValue.delete]
        · simp [contentsAt, data, served]
    | memory =>
        rcases memory with one | two
        · simp [contentsAt, one, InMemoryCache.delete_contents]
        · simp [contentsAt, two, InMemoryCache.delete_contents]

theorem step_takes (keyValue : KeyValue backend contents) (state : CacheState β) (event : Event)
    (plain : state.fallback.Plain) :
    let later := (withPrimary backend cooldown).step state event
    later.fallback.Plain ∧ ∀ side, contentsAt contents side later =
      held (contentsAt contents side state) ((withPrimary backend cooldown).reaching side state event) := by
  obtain ⟨request, around⟩ := event
  cases request with
  | get key =>
      refine call_takes backend cooldown around _ _ state [] (keyValue.getKeeps _ key _) ?_ plain ?_
      · rw [InMemoryCache.get_plain _ plain, LastWrite.held_nil]
      · rw [InMemoryCache.get_plain _ plain]
        exact plain
  | set key value =>
      exact call_takes backend cooldown around _ _ state [(key, some value)] (keyValue.set _ key value _)
        (InMemoryCache.set_contents _ _ key value) plain (InMemoryCache.set_plain _ plain _ key value)
  | delete key => exact delete_takes backend cooldown keyValue around key state plain
  | exists_ key =>
      refine call_takes backend cooldown around _ _ state [] (keyValue.existsKeeps _ key _) ?_ plain ?_
      · rw [InMemoryCache.exists_plain _ plain, LastWrite.held_nil]
      · rw [InMemoryCache.exists_plain _ plain]
        exact plain

-- A read answers what its side holds.
theorem get_answer (keyValue : KeyValue backend contents) (around : Circumstance) (key : String) (state : CacheState β)
    (plain : state.fallback.Plain) : ((withPrimary backend cooldown).get around key state).1 =
      .ok (contentsAt contents ((withPrimary backend cooldown).serves around state) state key) := by
  apply call_answer
  · intro served
    rw [served]
    exact keyValue.get _ key _
  · intro served
    rw [served, InMemoryCache.get_plain _ plain]
    rfl

theorem exists_answer (keyValue : KeyValue backend contents) (around : Circumstance) (key : String)
    (state : CacheState β) (plain : state.fallback.Plain) : ((withPrimary backend cooldown).exists_ around key state).1 =
      .ok (contentsAt contents ((withPrimary backend cooldown).serves around state) state key).isSome := by
  apply call_answer
  · intro served
    rw [served]
    exact keyValue.exists_ _ key _
  · intro served
    rw [served, InMemoryCache.exists_plain _ plain]
    rfl

theorem set_answer (around : Circumstance) (key value : String) (state : CacheState β) :
    ((withPrimary backend cooldown).set around key value none state).1 = .ok () := by
  apply call_answer
  · exact fun _ => rfl
  · exact fun _ => rfl

theorem truthful_iff (keyValue : KeyValue backend contents) (latest : String → Option String) (state : CacheState β)
    (event : Event) (plain : state.fallback.Plain) : (withPrimary backend cooldown).Truthful latest state event ↔
      ∀ key, event.request.reads = some key →
        let side := (withPrimary backend cooldown).serves event.around state
        contentsAt contents side state key = none ∨ contentsAt contents side state key = latest key := by
  obtain ⟨request, around⟩ := event
  have known (found latest : Option String) :
      (∀ value, found = some value → latest = some value) ↔ found = none ∨ found = latest := by
    cases found with
    | none => simp
    | some value => simp [eq_comm]
  cases request with
  | get key =>
      simp only [CacheService.Truthful, get_answer backend cooldown keyValue around key state plain, Request.reads]
      simp [known]
  | set key value => simp [CacheService.Truthful, set_answer, Request.reads]
  | delete key =>
      simp [CacheService.Truthful, (delete_effect backend cooldown around key state).1, Request.reads]
  | exists_ key =>
      simp only [CacheService.Truthful, get_answer backend cooldown keyValue around key state plain,
        exists_answer backend cooldown keyValue around key state plain, Request.reads, Option.some.injEq, forall_eq']
      generalize contentsAt contents _ state key = found
      cases found with
      | none => simp
      | some value => simp [eq_comm]

theorem run_takes (keyValue : KeyValue backend contents) (start : CacheState β) (fresh : start.fallback = {})
    (done : List Event) (side : Side) : contentsAt contents side (Run.final (withPrimary backend cooldown).step start done) =
      (withPrimary backend cooldown).lastReceived contents start done side := by
  have plain : start.fallback.Plain := by
    intro key item found
    rw [fresh] at found
    cases found
  have takes := LastWrite.held_received (withPrimary backend cooldown).step ((withPrimary backend cooldown).reaching side)
    (contentsAt contents side) (fun state => state.fallback.Plain)
    (fun state event plain => (step_takes backend cooldown keyValue state event plain).1)
    (fun state event plain => (step_takes backend cooldown keyValue state event plain).2 side) start done plain
  cases side with
  | primary => exact takes
  | memory =>
      have empty : start.fallback.contents = fun _ => none := by
        rw [fresh]
        rfl
      exact takes.trans (congrArg (fun initial => held initial _) empty)

theorem run_plain (keyValue : KeyValue backend contents) (start : CacheState β) (fresh : start.fallback = {})
    (done : List Event) : (Run.final (withPrimary backend cooldown).step start done).fallback.Plain := by
  refine Run.final_preserved _ (fun state : CacheState β => state.fallback.Plain) ?_ start done ?_
  · exact fun state event plain => (step_takes backend cooldown keyValue state event plain).1
  · intro key item found
    rw [fresh] at found
    cases found

-- A run from a start of the service never brings a superseded value back exactly
-- where each read is answered by a side that got the latest write to the key, or
-- whose own latest write left it the same value or none.
theorem never_superseded_iff (keyValue : KeyValue backend contents) (data : β) (pinged : ℚ) (reachable : Bool)
    (events : List Event) :
    let service := withPrimary backend cooldown
    let start := service.onStart pinged reachable (service.init data)
    service.NeverSuperseded contents start events ↔
      ∀ done event rest, events = done ++ event :: rest → service.Informed contents start done event := by
  intro service start
  have fresh : start.fallback = {} := by
    cases reachable <;> rfl
  refine forall_congr' (fun done => forall_congr' (fun event => forall_congr' (fun rest => imp_congr_right (fun _ => ?_))))
  refine (truthful_iff backend cooldown keyValue _ _ event (run_plain backend cooldown keyValue start fresh done)).trans ?_
  simp only [CacheService.Informed, run_takes backend cooldown keyValue start fresh done]
  rfl

end

def dictionary : CacheBackend (Dict String String) where
  get _ key data := (data.lookup key, data)
  set _ key value _ data := data.insert key value
  delete key data := data.erase key
  exists_ _ key data := ((data.lookup key).isSome, data)

theorem dictionary_key_value : KeyValue dictionary Dict.lookup where
  get _ _ _ := rfl
  getKeeps _ _ _ := rfl
  set _ key value data := by
    funext other
    simp [dictionary, Dict.lookup_insert, Function.update_apply]
  delete key data := by
    funext other
    simp [dictionary, Dict.lookup_erase, Function.update_apply]
  exists_ _ _ _ := rfl
  existsKeeps _ _ _ := rfl

-- An outage at second 10, over when the cooldown of 30 seconds is.
def outage : List Event :=
  [⟨.set "last" "100", ⟨0, 0, false⟩⟩, ⟨.set "last" "101", ⟨10, 10, true⟩⟩, ⟨.get "last", ⟨40, 40, false⟩⟩]

theorem never_superseded_outage :
    (withPrimary dictionary 30).NeverSuperseded Dict.lookup
        ((withPrimary dictionary 30).onStart 0 true ((withPrimary dictionary 30).init .empty)) outage ↔
      ∀ done event rest, outage = done ++ event :: rest → (withPrimary dictionary 30).Informed Dict.lookup
        ((withPrimary dictionary 30).onStart 0 true ((withPrimary dictionary 30).init .empty)) done event :=
  never_superseded_iff dictionary 30 dictionary_key_value .empty 0 true outage

theorem old_price_comes_back : ¬ (withPrimary dictionary 30).NeverSuperseded Dict.lookup
    ((withPrimary dictionary 30).onStart 0 true ((withPrimary dictionary 30).init .empty)) outage := by
  intro never
  obtain ⟨found, answered, latest⟩ := never (outage.take 2) ⟨.get "last", ⟨40, 40, false⟩⟩ [] rfl
  have old : ((withPrimary dictionary 30).get ⟨40, 40, false⟩ "last" (Run.final (withPrimary dictionary 30).step
      ((withPrimary dictionary 30).init .empty) (outage.take 2))).1 = .ok (some "100") := by decide +kernel
  cases Except.ok.inj (answered.symm.trans old)
  have fresh : held (fun _ => none) (CacheService.writes (outage.take 2)) "last" ≠ some "100" := by decide +kernel
  exact fresh (latest "100" rfl)

end QuantEngine.Cache
