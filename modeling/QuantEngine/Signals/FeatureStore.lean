import Mathlib.Data.NNRat.Defs
import Mathlib.Logic.Function.Basic
import Mathlib.Tactic.Linarith
import QuantEngine.Execution.Models
import QuantEngine.Library.Dict
import QuantEngine.Library.Run

set_option autoImplicit false

namespace QuantEngine.FeatureStore

-- The parameters of a call as the cache has them: `repr(sorted(params.items()))`.
structure Request where
  object : Bool
  name : String
  symbol : String
  params : String
  deriving DecidableEq

structure Key where
  name : String
  symbol : String
  params : String
  deriving DecidableEq

-- Which call of a provider has computed the value is a record for the
-- statements; no code reads it.
structure Entry (V : Type) where
  stamp : ℚ
  value : V
  call : Nat
  deriving DecidableEq

-- A computation that waits for its provider.
structure Pending where
  key : Key
  now : ℚ

-- The providers are coroutines from outside: of each there is its TTL. For the
-- statements the store records when each call of a provider has begun, and for
-- each symbol how many had when it was last invalidated.
structure Store (V : Type) where
  defaultTtl : ℚ := 1
  providers : Dict String ℚ := .empty
  objectProviders : Dict String ℚ := .empty
  cache : Dict Key (Entry V) := .empty
  hits : Nat := 0
  misses : Nat := 0
  running : Dict Nat Pending := .empty
  clock : ℚ := 0
  begun : List ℚ := []
  forgotten : String → Nat := fun _ => 0

inductive Answer (V : Type) where
  | unknown
  | cached (entry : Entry V)
  | computing (call : Nat)
  deriving DecidableEq

def Request.key (request : Request) : Key :=
  ⟨if request.object then "obj:" ++ request.name else request.name, upper request.symbol, request.params⟩

namespace Store

variable {V : Type} (store : Store V)

-- A TTL of zero is none given.
def ttlOr (ttlSeconds : Option ℚ) : ℚ := (ttlSeconds.filter (fun seconds => decide (seconds ≠ 0))).getD store.defaultTtl

def register (name : String) (ttlSeconds : Option ℚ) : Store V :=
  { store with providers := store.providers.insert name (store.ttlOr ttlSeconds) }

def registerObject (name : String) (ttlSeconds : Option ℚ) : Store V :=
  { store with objectProviders := store.objectProviders.insert name (store.ttlOr ttlSeconds) }

def ttlOf (request : Request) : Option ℚ :=
  if request.object then store.objectProviders.lookup request.name else store.providers.lookup request.name

def fresh (key : Key) (ttl : ℚ) : Option (Entry V) :=
  (store.cache.lookup key).filter (fun entry => decide (store.clock - entry.stamp < ttl))

-- Up to the call of the provider.
def cached (key : Key) (ttl : ℚ) : Answer V × Store V :=
  match store.fresh key ttl with
  | some entry => (.cached entry, { store with hits := store.hits + 1 })
  | none =>
      let call := store.begun.length
      (.computing call, { store with
        misses := store.misses + 1
        running := store.running.insert call ⟨key, store.clock⟩
        begun := store.begun ++ [store.clock] })

-- An unknown feature raises a `KeyError`.
def get (request : Request) : Answer V × Store V :=
  match store.ttlOf request with
  | none => (.unknown, store)
  | some ttl => store.cached request.key ttl

-- The provider has returned: the entry has the moment from before its call.
def complete (call : Nat) (value : V) : Store V :=
  match store.running.lookup call with
  | none => store
  | some pending => { store with
      cache := store.cache.insert pending.key ⟨pending.now, value, call⟩
      running := store.running.erase call }

-- The provider has raised.
def fail (call : Nat) : Store V := { store with running := store.running.erase call }

def invalidate (symbol : Option String) : Store V :=
  match symbol with
  | none => { store with cache := .empty, forgotten := fun _ => store.begun.length }
  | some symbol => { store with
      cache := store.cache.filter (fun entry => decide (entry.1.symbol ≠ upper symbol))
      forgotten := Function.update store.forgotten (upper symbol) store.begun.length }

end Store

-- Between two of these the event loop runs something else.
inductive Action (V : Type) where
  | elapse (seconds : ℚ≥0)
  | get (request : Request)
  | complete (call : Nat) (value : V)
  | fail (call : Nat)
  | invalidate (symbol : Option String)

def step {V : Type} (store : Store V) (action : Action V) : Store V :=
  match action with
  | .elapse seconds => { store with clock := store.clock + seconds }
  | .get request => (store.get request).2
  | .complete call value => store.complete call value
  | .fail call => store.fail call
  | .invalidate symbol => store.invalidate symbol

end QuantEngine.FeatureStore

namespace QuantEngine.FeatureStore

variable {V : Type}

namespace Store

variable (store : Store V)

-- Whatever is asked for now, the answer was computed by a call that has begun
-- after the last invalidation of its symbol, and less than a TTL ago.
structure Forgets : Prop where
  recomputed : ∀ request call, ((store.get request).1 = .computing call ∨
    ∃ entry, (store.get request).1 = .cached entry ∧ entry.call = call) → store.forgotten (upper request.symbol) ≤ call
  expires : ∀ request entry, (store.get request).1 = .cached entry → ∃ ttl started,
    store.ttlOf request = some ttl ∧ store.begun[entry.call]? = some started ∧ store.clock - started < ttl

-- The records agree with the store.
structure Recorded : Prop where
  entries : ∀ key entry, store.cache.lookup key = some entry → store.begun[entry.call]? = some entry.stamp
  calls : ∀ call pending, store.running.lookup call = some pending → store.begun[call]? = some pending.now
  past : ∀ symbol, store.forgotten symbol ≤ store.begun.length

-- A value computed at this moment is no answer to any request any more.
def Expired (key : Key) (stamp : ℚ) : Prop :=
  ∀ request : Request, request.key = key → ∀ ttl, store.ttlOf request = some ttl → ttl ≤ store.clock - stamp

-- What the cache holds from before an invalidation has expired.
def Settled : Prop := ∀ key entry, store.cache.lookup key = some entry →
  store.forgotten key.symbol ≤ entry.call ∨ store.Expired key entry.stamp

-- A call that has begun before the last invalidation of its symbol does not
-- return while its value can still be asked for.
def Timely (action : Action V) : Prop :=
  match action with
  | .complete call _ => ∀ pending, store.running.lookup call = some pending →
      store.forgotten pending.key.symbol ≤ call ∨ store.Expired pending.key pending.now
  | _ => True

theorem fresh_iff (key : Key) (ttl : ℚ) (entry : Entry V) :
    store.fresh key ttl = some entry ↔ store.cache.lookup key = some entry ∧ store.clock - entry.stamp < ttl := by
  rw [fresh, Option.filter_eq_some_iff, decide_eq_true_iff]

theorem get_cached_iff (request : Request) (entry : Entry V) : (store.get request).1 = .cached entry ↔
    ∃ ttl, store.ttlOf request = some ttl ∧ store.fresh request.key ttl = some entry := by
  rw [get]
  cases store.ttlOf request with
  | none =>
      constructor
      · intro answer
        cases answer
      · rintro ⟨ttl, known, -⟩
        cases known
  | some ttl =>
      dsimp only
      rw [cached]
      cases found : store.fresh request.key ttl with
      | none =>
          constructor
          · intro answer
            cases answer
          · rintro ⟨other, same, hit⟩
            rw [← Option.some.inj same, found] at hit
            cases hit
      | some kept =>
          constructor
          · intro answer
            cases answer
            exact ⟨ttl, rfl, found⟩
          · rintro ⟨other, same, hit⟩
            rw [← Option.some.inj same, found] at hit
            cases hit
            rfl

theorem get_computing (request : Request) (call : Nat) (answer : (store.get request).1 = .computing call) :
    call = store.begun.length := by
  rw [get] at answer
  cases known : store.ttlOf request with
  | none =>
      rw [known] at answer
      cases answer
  | some ttl =>
      rw [known] at answer
      dsimp only at answer
      rw [cached] at answer
      cases found : store.fresh request.key ttl with
      | none =>
          rw [found] at answer
          cases answer
          rfl
      | some entry =>
          rw [found] at answer
          cases answer

-- A store forgets what it is told to just where what it holds has settled.
theorem forgets_iff (recorded : store.Recorded) : store.Forgets ↔ store.Settled := by
  constructor
  · intro forgets key entry held
    by_contra open_
    obtain ⟨old, unexpired⟩ := not_or.mp open_
    refine unexpired (fun request same ttl known => ?_)
    by_contra soon
    have hit : (store.get request).1 = .cached entry :=
      (store.get_cached_iff request entry).mpr ⟨ttl, known, (store.fresh_iff _ _ _).mpr ⟨same ▸ held, not_le.mp soon⟩⟩
    have after := forgets.recomputed request entry.call (.inr ⟨entry, hit, rfl⟩)
    rw [← same] at old
    exact old after
  · intro settled
    refine ⟨fun request call answer => ?_, fun request entry answer => ?_⟩
    · rcases answer with computing | ⟨entry, hit, rfl⟩
      · rw [store.get_computing request call computing]
        exact recorded.past _
      · obtain ⟨ttl, known, found⟩ := (store.get_cached_iff request entry).mp hit
        obtain ⟨held, soon⟩ := (store.fresh_iff _ _ _).mp found
        rcases settled _ entry held with after | expired
        · exact after
        · exact absurd soon (not_lt.mpr (expired request rfl ttl known))
    · obtain ⟨ttl, known, found⟩ := (store.get_cached_iff request entry).mp answer
      obtain ⟨held, soon⟩ := (store.fresh_iff _ _ _).mp found
      exact ⟨ttl, entry.stamp, known, recorded.entries _ entry held, soon⟩

-- What a request does to the store.
theorem get_cases (request : Request) : ((store.get request).2 = store ∨
    (store.get request).2 = { store with hits := store.hits + 1 }) ∨
    (store.get request).2 = { store with
      misses := store.misses + 1
      running := store.running.insert store.begun.length ⟨request.key, store.clock⟩
      begun := store.begun ++ [store.clock] } := by
  rw [get]
  cases store.ttlOf request with
  | none => exact .inl (.inl rfl)
  | some ttl =>
      dsimp only
      rw [cached]
      cases store.fresh request.key ttl with
      | none => exact .inr rfl
      | some entry => exact .inl (.inr rfl)

theorem begun_later (place : Nat) (moment next : ℚ) (known : store.begun[place]? = some moment) :
    (store.begun ++ [next])[place]? = some moment := by
  rw [List.getElem?_append_left (List.getElem?_eq_some_iff.mp known).1, known]

theorem get_recorded (request : Request) (recorded : store.Recorded) : (store.get request).2.Recorded := by
  rcases store.get_cases request with (same | hit) | miss
  · rwa [same]
  · rw [hit]
    exact ⟨recorded.entries, recorded.calls, recorded.past⟩
  · rw [miss]
    refine ⟨fun key entry held => ?_, fun call pending waits => ?_, fun symbol => ?_⟩
    · exact store.begun_later _ _ _ (recorded.entries key entry held)
    · rw [Dict.lookup_insert] at waits
      split at waits
      · rename_i here
        cases waits
        rw [here]
        exact List.getElem?_concat_length
      · exact store.begun_later _ _ _ (recorded.calls call pending waits)
    · rw [List.length_append]
      exact (recorded.past symbol).trans (Nat.le_add_right _ _)

theorem complete_recorded (call : Nat) (value : V) (recorded : store.Recorded) : (store.complete call value).Recorded := by
  rw [complete]
  cases waiting : store.running.lookup call with
  | none => exact recorded
  | some pending =>
      refine ⟨fun key entry held => ?_, fun other later waits => ?_, recorded.past⟩
      · rw [Dict.lookup_insert] at held
        split at held
        · cases held
          exact recorded.calls call pending waiting
        · exact recorded.entries key entry held
      · rw [Dict.lookup_erase] at waits
        split at waits
        · cases waits
        · exact recorded.calls other later waits

theorem invalidate_recorded (symbol : Option String) (recorded : store.Recorded) : (store.invalidate symbol).Recorded := by
  cases symbol with
  | none => exact ⟨(fun _ _ held => nomatch held), recorded.calls, fun _ => Nat.le_refl _⟩
  | some symbol =>
      refine ⟨fun key entry held => ?_, recorded.calls, fun other => ?_⟩
      · rw [invalidate, Dict.lookup_filter] at held
        exact recorded.entries key entry (Option.filter_eq_some_iff.mp held).1
      · change Function.update store.forgotten (upper symbol) store.begun.length other ≤ _
        rw [Function.update_apply]
        split
        · exact Nat.le_refl _
        · exact recorded.past other

theorem step_recorded (action : Action V) (recorded : store.Recorded) : (step store action).Recorded := by
  cases action with
  | elapse seconds => exact ⟨recorded.entries, recorded.calls, recorded.past⟩
  | get request => exact store.get_recorded request recorded
  | complete call value => exact store.complete_recorded call value recorded
  | fail call =>
      refine ⟨recorded.entries, fun other pending waits => ?_, recorded.past⟩
      rw [step, fail, Dict.lookup_erase] at waits
      split at waits
      · cases waits
      · exact recorded.calls other pending waits
  | invalidate symbol => exact store.invalidate_recorded symbol recorded

theorem invalidate_settled (symbol : Option String) (settled : store.Settled) : (store.invalidate symbol).Settled := by
  cases symbol with
  | none => exact fun _ _ held => nomatch held
  | some symbol =>
      intro key entry held
      rw [invalidate, Dict.lookup_filter] at held
      obtain ⟨kept, apart⟩ := Option.filter_eq_some_iff.mp held
      refine (settled key entry kept).imp_left (fun after => ?_)
      change Function.update store.forgotten (upper symbol) store.begun.length key.symbol ≤ entry.call
      rw [Function.update_apply, if_neg (of_decide_eq_true apart)]
      exact after

theorem complete_settled_iff (call : Nat) (value : V) (settled : store.Settled) :
    (store.complete call value).Settled ↔ store.Timely (.complete call value) := by
  rw [complete, Timely]
  cases waiting : store.running.lookup call with
  | none => exact ⟨(fun _ _ waits => nomatch waits), fun _ => settled⟩
  | some pending =>
      constructor
      · intro later other same
        cases same
        exact later pending.key ⟨pending.now, value, call⟩ (by rw [Dict.lookup_insert, if_pos rfl])
      · intro timely key entry held
        rw [Dict.lookup_insert] at held
        split at held
        · rename_i here
          cases held
          rw [here]
          exact timely pending rfl
        · exact settled key entry held

theorem step_settled_iff (action : Action V) (settled : store.Settled) : (step store action).Settled ↔ store.Timely action := by
  cases action with
  | elapse seconds =>
      refine iff_of_true (fun key entry held => ?_) trivial
      refine (settled key entry held).imp_right (fun expired request same ttl known => ?_)
      have before := expired request same ttl known
      have onward : (0 : ℚ) ≤ seconds := NNRat.coe_nonneg seconds
      change ttl ≤ store.clock + seconds - entry.stamp
      linarith
  | get request =>
      refine iff_of_true ?_ trivial
      change (store.get request).2.Settled
      rcases store.get_cases request with (same | hit) | miss
      · rwa [same]
      · rwa [hit]
      · rwa [miss]
  | complete call value => exact store.complete_settled_iff call value settled
  | fail call => exact iff_of_true settled trivial
  | invalidate symbol => exact iff_of_true (store.invalidate_settled symbol settled) trivial

-- A store with its features registered, before the first request.
def registered (providers objectProviders : Dict String ℚ) (clock : ℚ) : Store V :=
  { providers := providers, objectProviders := objectProviders, clock := clock }

end Store

-- In a run the store always forgets just where no call returns late.
theorem forgets_always_iff (providers objectProviders : Dict String ℚ) (clock : ℚ) (actions : List (Action V)) :
    Run.Always step Store.Forgets (Store.registered providers objectProviders clock) actions ↔
      Run.Each step Store.Timely (Store.registered providers objectProviders clock) actions := by
  refine Run.always_iff step Store.Forgets Store.Timely (fun store => store.Recorded ∧ store.Settled)
    (fun store inv => (store.forgets_iff inv.1).mpr inv.2) (fun store action inv => ?_) (fun store action inv timely => ?_)
    _ actions ⟨⟨?_, ?_, ?_⟩, ?_⟩
  · rw [(step store action).forgets_iff (store.step_recorded action inv.1)]
    exact store.step_settled_iff action inv.2
  · exact ⟨store.step_recorded action inv.1, (store.step_settled_iff action inv.2).mpr timely⟩
  · exact fun key entry held => nomatch held
  · exact fun call pending waits => nomatch waits
  · exact fun symbol => Nat.zero_le _
  · exact fun key entry held => nomatch held

def counted : Request := ⟨false, "c", "BTCUSDT", "[]"⟩

-- The computation is under way when the symbol is invalidated, and its value from
-- before is cached for a thousand seconds.
theorem overtaken_by_invalidate : ¬ Run.Always step Store.Forgets
    (Store.registered (Dict.empty.insert "c" 1000) Dict.empty 0 : Store Nat)
    [.get counted, .invalidate (some "BTCUSDT"), .complete 0 1] := by
  intro always
  have forgets := Run.always_final step Store.Forgets _ _ always
  have stale := forgets.recomputed counted 0 (.inr ⟨⟨0, 1, 0⟩, by decide +kernel, rfl⟩)
  revert stale
  decide +kernel

end QuantEngine.FeatureStore
