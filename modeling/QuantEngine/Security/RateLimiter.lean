import Mathlib.Algebra.Order.Field.Rat
import QuantEngine.Library.Dict
import QuantEngine.Library.TokenBucket

set_option autoImplicit false

namespace QuantEngine.Security

open TokenBucket (Bucket Call Trail allowed within trail visit take refilled Bounded Justified)

variable {K : Type} [Field K] [LinearOrder K]

structure RateLimiter (K : Type) where
  capacity : K
  refillPerSecond : K
  buckets : Dict String (Bucket K)

namespace RateLimiter

def new (capacity : Int) (windowSeconds : K) : RateLimiter K :=
  let most : K := ((max 1 capacity : Int) : K)
  ⟨most, most / max (1 / 1000) windowSeconds, .empty⟩

-- The moment was read before the lock was taken.
def allow (limiter : RateLimiter K) (key : String) (moment : K) : Bool × RateLimiter K :=
  match limiter.buckets.lookup key with
  | none => (true, { limiter with buckets := limiter.buckets.insert key ⟨limiter.capacity - 1, moment⟩ })
  | some bucket =>
      let elapsed := max 0 (moment - bucket.updatedAt)
      let tokens := min limiter.capacity (bucket.tokens + elapsed * limiter.refillPerSecond)
      if 1 ≤ tokens then (true, { limiter with buckets := limiter.buckets.insert key ⟨tokens - 1, moment⟩ })
      else (false, { limiter with buckets := limiter.buckets.insert key ⟨tokens, moment⟩ })

def reset (limiter : RateLimiter K) : Option String → RateLimiter K
  | none => { limiter with buckets := .empty }
  | some key => { limiter with buckets := limiter.buckets.erase key }

end RateLimiter

open RateLimiter

-- What the lock lets through, one after the other.
inductive Action (K : Type) where
  | allow (key : String) (moment : K)
  | reset (key : Option String)

def step (limiter : RateLimiter K) : Action K → RateLimiter K
  | .allow key moment => (limiter.allow key moment).2
  | .reset key => limiter.reset key

-- The calls on a key since it was last forgotten, with their answers.
def logged (key : String) (limiter : RateLimiter K) (calls : List (Call K)) : Action K → List (Call K)
  | .allow other moment => if other = key then calls ++ [(moment, (limiter.allow other moment).1)] else calls
  | .reset none => []
  | .reset (some other) => if other = key then [] else calls

def callsOn (key : String) (limiter : RateLimiter K) (calls : List (Call K)) : List (Action K) → List (Call K)
  | [] => calls
  | action :: rest => callsOn key (step limiter action) (logged key limiter calls action) rest

theorem allow_frame (limiter : RateLimiter K) (key : String) (moment : K) :
    (limiter.allow key moment).2.capacity = limiter.capacity ∧
      (limiter.allow key moment).2.refillPerSecond = limiter.refillPerSecond := by
  rw [allow]
  split
  · exact ⟨rfl, rfl⟩
  · dsimp only
    split <;> exact ⟨rfl, rfl⟩

theorem step_frame (limiter : RateLimiter K) (action : Action K) :
    (step limiter action).capacity = limiter.capacity ∧ (step limiter action).refillPerSecond = limiter.refillPerSecond := by
  cases action with
  | allow key moment => exact allow_frame limiter key moment
  | reset key => cases key <;> exact ⟨rfl, rfl⟩

theorem allow_take (limiter : RateLimiter K) (full : 1 ≤ limiter.capacity) (key : String) (moment : K) :
    let taken := take limiter.capacity limiter.refillPerSecond (limiter.buckets.lookup key) moment
    limiter.allow key moment = (taken.1, { limiter with buckets := limiter.buckets.insert key taken.2 }) := by
  intro taken
  have taken_ : taken = take limiter.capacity limiter.refillPerSecond (limiter.buckets.lookup key) moment := rfl
  rw [allow]
  cases held : limiter.buckets.lookup key with
  | none =>
      have first : taken = (true, ⟨limiter.capacity - 1, moment⟩) := by
        rw [taken_, held]
        exact if_pos full
      rw [first]
  | some bucket =>
      by_cases enough : 1 ≤ min limiter.capacity (bucket.tokens + max 0 (moment - bucket.updatedAt) * limiter.refillPerSecond)
      · have granted : taken = (true, ⟨refilled limiter.capacity limiter.refillPerSecond (some bucket) moment - 1, moment⟩) := by
          rw [taken_, held]
          exact if_pos enough
        rw [granted]
        exact if_pos enough
      · have refused : taken = (false, ⟨refilled limiter.capacity limiter.refillPerSecond (some bucket) moment, moment⟩) := by
          rw [taken_, held]
          exact if_neg enough
        rw [refused]
        exact if_neg enough

-- A key's bucket is that of a single bucket that was visited at its calls.
def Follows (key : String) (limiter : RateLimiter K) (calls : List (Call K)) (moments : List K) : Prop :=
  calls = (trail limiter.capacity limiter.refillPerSecond moments).calls ∧
    limiter.buckets.lookup key = (trail limiter.capacity limiter.refillPerSecond moments).bucket

theorem allow_follows (key : String) (limiter : RateLimiter K) (full : 1 ≤ limiter.capacity) (calls : List (Call K))
    (moments : List K) (follows : Follows key limiter calls moments) (moment : K) :
    Follows key (limiter.allow key moment).2 (calls ++ [(moment, (limiter.allow key moment).1)]) (moments ++ [moment]) := by
  obtain ⟨same, held⟩ := follows
  rw [Follows, allow_take limiter full]
  dsimp only
  rw [TokenBucket.trail_snoc, visit, Dict.lookup_insert, if_pos rfl, same, held]
  exact ⟨rfl, rfl⟩

theorem step_follows (key : String) (limiter : RateLimiter K) (full : 1 ≤ limiter.capacity) (calls : List (Call K))
    (moments : List K) (follows : Follows key limiter calls moments) (action : Action K) :
    ∃ later, Follows key (step limiter action) (logged key limiter calls action) later := by
  obtain ⟨capacity, rate⟩ := step_frame limiter action
  cases action with
  | allow other moment =>
      rw [logged]
      split
      · rename_i here
        rw [here]
        exact ⟨_, allow_follows key limiter full calls moments follows moment⟩
      · rename_i apart
        refine ⟨moments, ?_⟩
        rw [Follows, capacity, rate, step, allow_take limiter full, Dict.lookup_insert, if_neg (fun same => apart same.symm)]
        exact follows
  | reset key_ =>
      cases key_ with
      | none => exact ⟨[], rfl, rfl⟩
      | some other =>
          rw [logged]
          split
          · rename_i here
            refine ⟨[], rfl, ?_⟩
            rw [step, reset, Dict.lookup_erase, if_pos here.symm]
            rfl
          · rename_i apart
            refine ⟨moments, ?_⟩
            rw [Follows, capacity, rate, step, reset, Dict.lookup_erase, if_neg (fun same => apart same.symm)]
            exact follows

theorem calls_follow (key : String) (limiter : RateLimiter K) (full : 1 ≤ limiter.capacity) (calls : List (Call K))
    (moments : List K) (follows : Follows key limiter calls moments) (actions : List (Action K)) :
    ∃ later, callsOn key limiter calls actions = (trail limiter.capacity limiter.refillPerSecond later).calls := by
  induction actions generalizing limiter calls moments with
  | nil => exact ⟨moments, follows.1⟩
  | cons action rest ih =>
      obtain ⟨capacity, rate⟩ := step_frame limiter action
      obtain ⟨next, now⟩ := step_follows key limiter full calls moments follows action
      have later := ih (step limiter action) (by rw [capacity]; exact full) _ next now
      rw [capacity, rate] at later
      exact later

theorem calls_only (key : String) (limiter : RateLimiter K) (full : 1 ≤ limiter.capacity) (calls : List (Call K))
    (moments more : List K) (follows : Follows key limiter calls moments) :
    callsOn key limiter calls (more.map (Action.allow key)) =
      (trail limiter.capacity limiter.refillPerSecond (moments ++ more)).calls := by
  induction more generalizing limiter calls moments with
  | nil =>
      rw [List.append_nil]
      exact follows.1
  | cons moment more ih =>
      obtain ⟨capacity, rate⟩ := allow_frame limiter key moment
      have later := ih (limiter.allow key moment).2 (by rw [capacity]; exact full) _ _
        (allow_follows key limiter full calls moments follows moment)
      rw [capacity, rate, List.append_assoc] at later
      rw [List.map_cons, callsOn, logged, if_pos rfl]
      exact later

theorem new_follows (capacity : Int) (windowSeconds : K) (key : String) : Follows key (new capacity windowSeconds) [] [] := ⟨rfl, rfl⟩

section

variable [IsStrictOrderedRing K]

theorem new_full (capacity : Int) (windowSeconds : K) : 1 ≤ (new capacity windowSeconds).capacity := by
  have least : ((1 : Int) : K) ≤ ((max 1 capacity : Int) : K) := Int.cast_le.mpr (le_max_left _ _)
  rw [Int.cast_one] at least
  exact least

theorem window_pos (windowSeconds : K) : 0 < max (1 / 1000) windowSeconds :=
  lt_of_lt_of_le (by norm_num) (le_max_left _ _)

theorem new_flows (capacity : Int) (windowSeconds : K) : 0 < (new capacity windowSeconds).refillPerSecond :=
  div_pos (lt_of_lt_of_le zero_lt_one (new_full capacity windowSeconds)) (window_pos windowSeconds)

-- In any order, what a key gets in an interval beyond its tokens is what flows in
-- again as the moments go back.
theorem window_regress (capacity : Int) (windowSeconds : K) (key : String) (actions : List (Action K)) (start length : K)
    (positive : 0 ≤ length) :
    let limiter := new capacity windowSeconds
    let calls := callsOn key limiter [] actions
    (TokenBucket.allowed (TokenBucket.within start (start + length) calls) : K) ≤
      limiter.capacity + (length + TokenBucket.regress (calls.map Prod.fst)) * limiter.refillPerSecond := by
  intro limiter calls
  have full := new_full capacity windowSeconds
  obtain ⟨moments, same⟩ : ∃ moments, calls = (trail limiter.capacity limiter.refillPerSecond moments).calls :=
    calls_follow key limiter full [] [] (new_follows capacity windowSeconds key) actions
  have known : calls.map Prod.fst = moments := by
    rw [same]
    exact TokenBucket.trail_moments _ _ moments
  rw [known, same]
  exact TokenBucket.bounded_with_regress _ _ full (new_flows capacity windowSeconds).le moments start length positive

theorem window_regress_late :
    let calls := callsOn "ip" (new 1 (1 : ℚ)) [] ([10, 9, 10].map (Action.allow "ip"))
    (TokenBucket.allowed (TokenBucket.within 10 (10 + 0) calls) : ℚ) ≤
      (new 1 (1 : ℚ)).capacity + (0 + TokenBucket.regress (calls.map Prod.fst)) * (new 1 (1 : ℚ)).refillPerSecond :=
  window_regress 1 (1 : ℚ) "ip" _ 10 0 (le_refl 0)

-- In order, every window is bounded and no refusal is without a cause; out of
-- order, some window is not bounded, whatever the limits.
theorem windows_bounded (capacity : Int) (windowSeconds : K) (key : String) :
    let limiter := new capacity windowSeconds
    (∀ actions : List (Action K), ((callsOn key limiter [] actions).map Prod.fst).Pairwise (· ≤ ·) →
      Bounded limiter.capacity limiter.refillPerSecond (callsOn key limiter [] actions) ∧
        Justified limiter.capacity limiter.refillPerSecond (callsOn key limiter [] actions)) ∧
      ∃ moments : List K,
        ¬ Bounded limiter.capacity limiter.refillPerSecond (callsOn key limiter [] (moments.map (Action.allow key))) := by
  intro limiter
  have full := new_full capacity windowSeconds
  have flows := new_flows capacity windowSeconds
  have start := new_follows capacity windowSeconds key
  constructor
  · intro actions sorted
    obtain ⟨moments, same⟩ := calls_follow key limiter full [] [] start actions
    rw [same, TokenBucket.trail_moments] at sorted
    rw [same]
    exact ⟨TokenBucket.bounded_of_sorted _ _ full flows.le moments sorted,
      TokenBucket.justified_of_sorted _ _ full flows.le moments sorted⟩
  · obtain ⟨taken, most⟩ : ∃ taken : Nat, max 1 capacity = ((taken + 1 : Nat) : Int) := ⟨(max 1 capacity).toNat - 1, by omega⟩
    have whole : limiter.capacity = ((taken + 1 : Nat) : K) := by
      change ((max 1 capacity : Int) : K) = _
      rw [most, Int.cast_natCast]
    have positive := window_pos windowSeconds
    have refill : max (1 / 1000) windowSeconds * limiter.refillPerSecond = ((taken + 1 : Nat) : K) := by
      rw [← whole]
      exact mul_div_cancel₀ _ positive.ne'
    refine ⟨List.replicate (taken + 1) (max (1 / 1000) windowSeconds) ++ [0] ++ [max (1 / 1000) windowSeconds], ?_⟩
    rw [calls_only key limiter full [] [] _ start, List.nil_append, whole]
    exact TokenBucket.disorder_unbounded taken _ _ positive refill

theorem windows_bounded_twice :
    Bounded (new 2 (1 : ℚ)).capacity (new 2 (1 : ℚ)).refillPerSecond
      (callsOn "ip" (new 2 (1 : ℚ)) [] ([0, 1].map (Action.allow "ip"))) := by
  have full := new_full 2 (1 : ℚ)
  refine ((windows_bounded 2 (1 : ℚ) "ip").1 _ ?_).1
  rw [calls_only "ip" _ full [] [] _ (new_follows 2 1 "ip"), TokenBucket.trail_moments]
  simp

-- The call that comes late takes the clock back, and the second between is counted twice.
theorem late_call_unbounded :
    ¬ Bounded (new 1 (1 : ℚ)).capacity (new 1 (1 : ℚ)).refillPerSecond
      (callsOn "ip" (new 1 (1 : ℚ)) [] ([10, 9, 10].map (Action.allow "ip"))) := by
  have calls : callsOn "ip" (new 1 (1 : ℚ)) [] ([10, 9, 10].map (Action.allow "ip")) = [(10, true), (9, false), (10, true)] := by
    decide +kernel
  rw [calls]
  intro bounded
  have one := bounded 10 0 (le_refl _)
  have two : TokenBucket.allowed (TokenBucket.within (10 : ℚ) (10 + 0) [(10, true), (9, false), (10, true)]) = 2 := by
    decide +kernel
  have most : (new 1 (1 : ℚ)).capacity = 1 := by decide +kernel
  rw [two, most] at one
  norm_num at one

end

end QuantEngine.Security
