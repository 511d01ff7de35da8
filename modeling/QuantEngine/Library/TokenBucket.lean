import Mathlib.Algebra.Order.Field.Basic
import Mathlib.Data.List.Induction
import Mathlib.Tactic.Linarith
import Mathlib.Tactic.Ring

set_option autoImplicit false

namespace QuantEngine.TokenBucket

variable {K : Type}

structure Bucket (K : Type) where
  tokens : K
  updatedAt : K

-- A call is its moment and whether it was allowed.
abbrev Call (K : Type) := K × Bool

def allowed (calls : List (Call K)) : Nat := calls.countP Prod.snd

theorem allowed_append (first second : List (Call K)) : allowed (first ++ second) = allowed first + allowed second :=
  List.countP_append

theorem allowed_one (moment : K) (granted : Bool) : allowed [(moment, granted)] = if granted then 1 else 0 := by
  cases granted <;> rfl

variable [LinearOrder K]

def within (first last : K) (calls : List (Call K)) : List (Call K) :=
  calls.filter (fun call => decide (first ≤ call.1 ∧ call.1 ≤ last))

def since (first : K) (calls : List (Call K)) : List (Call K) := calls.filter (fun call => decide (first ≤ call.1))

theorem within_append (start stop : K) (first second : List (Call K)) :
    within start stop (first ++ second) = within start stop first ++ within start stop second :=
  List.filter_append _ _

-- From the first call in the interval on, all that are in it follow.
theorem within_from_first (start stop : K) (calls : List (Call K)) (call : Call K) (member : call ∈ calls)
    (inside : start ≤ call.1 ∧ call.1 ≤ stop) :
    ∃ before first rest, calls = before ++ first :: rest ∧ start ≤ first.1 ∧
      allowed (within start stop calls) ≤ allowed (first :: rest) := by
  have some_ : ∃ call ∈ calls, decide (start ≤ call.1 ∧ call.1 ≤ stop) = true := ⟨call, member, decide_eq_true inside⟩
  obtain ⟨first, found⟩ := Option.isSome_iff_exists.mp (List.find?_isSome.mpr some_)
  obtain ⟨entered, before, rest, split, outside⟩ := List.find?_eq_some_iff_append.mp found
  have nothing : within start stop before = [] := by
    rw [within, List.filter_eq_nil_iff]
    intro other early entered_
    have left := outside other early
    rw [entered_] at left
    cases left
  refine ⟨before, first, rest, split, (of_decide_eq_true entered).1, ?_⟩
  rw [split, within_append, nothing, List.nil_append]
  exact List.Sublist.countP_le List.filter_sublist

-- Where the moments rise, no call after one is before it.
theorem since_sorted (call : Call K) (rest : List (Call K)) (sorted : ((call :: rest).map Prod.fst).Pairwise (· ≤ ·)) :
    since call.1 (call :: rest) = call :: rest := by
  rw [since, List.filter_eq_self]
  intro other member
  cases List.mem_cons.mp member with
  | inl same => exact decide_eq_true (le_of_eq (congrArg Prod.fst same.symm))
  | inr behind => exact decide_eq_true ((List.pairwise_cons.mp sorted).1 other.1 (List.mem_map_of_mem behind))

variable [Field K]

-- The time since the last call refills the bucket, and a token is taken if one
-- is there. A bucket that was never asked is full.
def refilled (capacity rate : K) (bucket : Option (Bucket K)) (moment : K) : K :=
  match bucket with
  | none => capacity
  | some bucket => min capacity (bucket.tokens + max 0 (moment - bucket.updatedAt) * rate)

def take (capacity rate : K) (bucket : Option (Bucket K)) (moment : K) : Bool × Bucket K :=
  let tokens := refilled capacity rate bucket moment
  if 1 ≤ tokens then (true, ⟨tokens - 1, moment⟩) else (false, ⟨tokens, moment⟩)

structure Trail (K : Type) where
  calls : List (Call K)
  bucket : Option (Bucket K)

def visit (capacity rate : K) (trail : Trail K) (moment : K) : Trail K :=
  let taken := take capacity rate trail.bucket moment
  ⟨trail.calls ++ [(moment, taken.1)], some taken.2⟩

def trail (capacity rate : K) (moments : List K) : Trail K := moments.foldl (visit capacity rate) ⟨[], none⟩

-- In every interval no more calls are allowed than a full bucket and what flows
-- in have tokens for.
def Bounded (capacity rate : K) (calls : List (Call K)) : Prop :=
  ∀ start length, 0 ≤ length → (allowed (within start (start + length) calls) : K) ≤ capacity + length * rate

-- A refused call would have been one too many since some call before it.
def Justified (capacity rate : K) (calls : List (Call K)) : Prop :=
  ∀ before moment after, calls = before ++ (moment, false) :: after →
    ∃ call ∈ before, capacity + (moment - call.1) * rate < (allowed (since call.1 before) : K) + 1

-- How far the moments go back, all in all.
def regress : List K → K
  | first :: second :: rest => max 0 (first - second) + regress (second :: rest)
  | _ => 0

theorem trail_snoc (capacity rate : K) (moments : List K) (moment : K) :
    trail capacity rate (moments ++ [moment]) = visit capacity rate (trail capacity rate moments) moment := by
  rw [trail, List.foldl_append]
  rfl

theorem trail_moments (capacity rate : K) (moments : List K) : (trail capacity rate moments).calls.map Prod.fst = moments := by
  induction moments using List.reverseRecOn with
  | nil => rfl
  | append_singleton moments moment ih => rw [trail_snoc, visit, List.map_append, ih, List.map_singleton]

theorem regress_snoc (moments : List K) (last moment : K) :
    regress (moments ++ [last] ++ [moment]) = regress (moments ++ [last]) + max 0 (last - moment) := by
  induction moments with
  | nil => simp [regress]
  | cons first rest ih =>
      cases rest with
      | nil => simp [regress]
      | cons second rest =>
          simp only [List.cons_append] at ih ⊢
          rw [regress, ih, regress, add_assoc]

theorem refilled_le (capacity rate : K) (bucket : Option (Bucket K)) (moment : K) :
    refilled capacity rate bucket moment ≤ capacity := by
  cases bucket with
  | none => exact le_refl _
  | some bucket => exact min_le_left _ _

theorem take_balance (capacity rate : K) (bucket : Option (Bucket K)) (moment : K) :
    ((if (take capacity rate bucket moment).1 then 1 else 0 : Nat) : K) + (take capacity rate bucket moment).2.tokens =
        refilled capacity rate bucket moment ∧
      (take capacity rate bucket moment).2.updatedAt = moment := by
  rw [take]
  split
  · refine ⟨?_, rfl⟩
    rw [if_pos rfl, Nat.cast_one]
    ring
  · refine ⟨?_, rfl⟩
    rw [if_neg Bool.false_ne_true, Nat.cast_zero, zero_add]

variable [IsStrictOrderedRing K]

theorem regress_nonneg (moments : List K) : 0 ≤ regress moments := by
  induction moments with
  | nil => exact le_refl _
  | cons first rest ih =>
      cases rest with
      | nil => exact le_refl _
      | cons second rest => exact add_nonneg (le_max_left _ _) ih

theorem regress_append_le (before rest : List K) : regress rest ≤ regress (before ++ rest) := by
  induction before with
  | nil => exact le_refl _
  | cons first before ih =>
      refine le_trans ih ?_
      rw [List.cons_append]
      cases before ++ rest with
      | nil => exact le_refl _
      | cons second others => exact le_add_of_nonneg_left (le_max_left _ _)

theorem regress_le_snoc (moments : List K) (moment : K) : regress moments ≤ regress (moments ++ [moment]) := by
  cases moments using List.reverseRecOn with
  | nil => exact le_refl _
  | append_singleton earlier last _ =>
      rw [regress_snoc]
      exact le_add_of_nonneg_right (le_max_left _ _)

theorem regress_sorted (moments : List K) (sorted : moments.Pairwise (· ≤ ·)) : regress moments = 0 := by
  induction moments with
  | nil => rfl
  | cons first rest ih =>
      cases rest with
      | nil => rfl
      | cons second rest =>
          obtain ⟨head, tail⟩ := List.pairwise_cons.mp sorted
          rw [regress, ih tail, max_eq_left (sub_nonpos.mpr (head second List.mem_cons_self)), add_zero]

-- The clock of the bucket is the last call's, and the calls since any one of them
-- have had no more tokens than a full bucket and what has flowed in.
structure Metered (capacity rate : K) (trail : Trail K) (bucket : Bucket K) : Prop where
  nonneg : 0 ≤ bucket.tokens
  clock : ∃ earlier granted, trail.calls = earlier ++ [(bucket.updatedAt, granted)]
  spent : ∀ before call rest, trail.calls = before ++ call :: rest →
    allowed (call :: rest) + bucket.tokens ≤
      capacity + (bucket.updatedAt - call.1 + regress ((call :: rest).map Prod.fst)) * rate

theorem take_nonneg (capacity rate : K) (bucket : Option (Bucket K)) (moment : K)
    (filled : 0 ≤ refilled capacity rate bucket moment) : 0 ≤ (take capacity rate bucket moment).2.tokens := by
  rw [take]
  split
  · rename_i enough
    exact sub_nonneg.mpr enough
  · exact filled

theorem forth_and_back (clock moment : K) : clock + max 0 (moment - clock) = moment + max 0 (clock - moment) := by
  cases le_total clock moment with
  | inl forth =>
      rw [max_eq_right (sub_nonneg.mpr forth), max_eq_left (sub_nonpos.mpr forth)]
      ring
  | inr back =>
      rw [max_eq_left (sub_nonpos.mpr back), max_eq_right (sub_nonneg.mpr back)]
      ring

-- The last part of a list that ends with an item ends with it too.
theorem last_part {α : Type} (earlier before rest : List α) (last item : α)
    (same : earlier ++ [last] = before ++ item :: rest) : ∃ front, item :: rest = front ++ [last] := by
  obtain ⟨front, final, split⟩ := (List.eq_nil_or_concat (item :: rest)).resolve_left (List.cons_ne_nil _ _)
  rw [List.concat_eq_append] at split
  refine ⟨front, ?_⟩
  rw [split, ← List.append_assoc] at same
  rw [split, (List.append_inj' same rfl).2]

-- One more call takes from what was there or flowed in since the last one.
theorem visit_spent (capacity rate : K) (trail : Trail K) (bucket : Bucket K) (held : trail.bucket = some bucket)
    (metered : Metered capacity rate trail bucket) (moment : K) (before : List (Call K)) (call : Call K) (rest : List (Call K))
    (split : trail.calls = before ++ call :: rest) :
    let taken := take capacity rate trail.bucket moment
    allowed (call :: (rest ++ [(moment, taken.1)])) + taken.2.tokens ≤
      capacity + (taken.2.updatedAt - call.1 + regress ((call :: (rest ++ [(moment, taken.1)])).map Prod.fst)) * rate := by
  intro taken
  obtain ⟨balance, clock⟩ := take_balance capacity rate trail.bucket moment
  obtain ⟨front, granted, last⟩ := metered.clock
  obtain ⟨middle, ends⟩ := last_part front before rest _ call (last ▸ split)
  have spent := metered.spent before call rest split
  have filled : refilled capacity rate trail.bucket moment ≤ bucket.tokens + max 0 (moment - bucket.updatedAt) * rate := by
    rw [held, refilled]
    exact min_le_right _ _
  have back : regress ((call :: (rest ++ [(moment, taken.1)])).map Prod.fst) =
      regress ((call :: rest).map Prod.fst) + max 0 (bucket.updatedAt - moment) := by
    rw [← List.cons_append, ends, List.map_append, List.map_append, List.map_singleton, List.map_singleton, regress_snoc]
  have moved := forth_and_back bucket.updatedAt moment
  have total : moment - call.1 + (regress ((call :: rest).map Prod.fst) + max 0 (bucket.updatedAt - moment)) =
      bucket.updatedAt - call.1 + regress ((call :: rest).map Prod.fst) + max 0 (moment - bucket.updatedAt) := by
    linarith
  rw [clock, back, total, ← List.cons_append, allowed_append, allowed_one, Nat.cast_add, add_assoc, balance, add_mul]
  linarith

theorem visit_metered (capacity rate : K) (some_ : 0 ≤ capacity) (flows : 0 ≤ rate) (trail : Trail K) (moment : K)
    (before : (trail.bucket = none ∧ trail.calls = []) ∨ ∃ bucket, trail.bucket = some bucket ∧ Metered capacity rate trail bucket) :
    Metered capacity rate (visit capacity rate trail moment) (take capacity rate trail.bucket moment).2 := by
  have balance := take_balance capacity rate trail.bucket moment
  have calls : (visit capacity rate trail moment).calls = trail.calls ++ [(moment, (take capacity rate trail.bucket moment).1)] := rfl
  constructor
  · apply take_nonneg
    obtain ⟨none, -⟩ | ⟨bucket, held, metered⟩ := before
    · rw [none, refilled]
      exact some_
    · rw [held, refilled]
      exact le_min some_ (add_nonneg metered.nonneg (mul_nonneg (le_max_left _ _) flows))
  · rw [calls, balance.2]
    exact ⟨_, _, rfl⟩
  · intro earlier call rest split
    rw [calls] at split
    rw [balance.2]
    cases rest using List.reverseRecOn with
    | nil =>
        have same := (List.append_inj' split rfl).2
        obtain rfl := (List.cons.inj same).1
        have full := refilled_le capacity rate trail.bucket moment
        rw [allowed_one, balance.1]
        simpa [regress] using full
    | append_singleton rest last _ =>
        have parts : trail.calls = earlier ++ call :: rest ∧ [(moment, (take capacity rate trail.bucket moment).1)] = [last] := by
          rw [← List.cons_append, ← List.append_assoc] at split
          exact List.append_inj' split rfl
        obtain rfl := (List.cons.inj parts.2).1
        obtain ⟨-, empty⟩ | ⟨bucket, held, metered⟩ := before
        · rw [empty] at parts
          simp at parts
        · have spent := visit_spent capacity rate trail bucket held metered moment earlier call rest parts.1
          dsimp only at spent
          rw [balance.2] at spent
          exact spent

section

variable (capacity rate : K) (full : 1 ≤ capacity) (flows : 0 ≤ rate)

include full flows

theorem trail_metered (moments : List K) :
    ((trail capacity rate moments).bucket = none ∧ (trail capacity rate moments).calls = []) ∨
      ∃ bucket, (trail capacity rate moments).bucket = some bucket ∧ Metered capacity rate (trail capacity rate moments) bucket := by
  induction moments using List.reverseRecOn with
  | nil => exact .inl ⟨rfl, rfl⟩
  | append_singleton moments moment ih =>
      rw [trail_snoc]
      exact .inr ⟨_, rfl, visit_metered capacity rate (le_trans zero_le_one full) flows _ moment ih⟩

-- Whatever the order of the moments, what is allowed beyond the tokens is what
-- flows in a second time as they go back.
theorem bounded_with_regress (moments : List K) (start length : K) (positive : 0 ≤ length) :
    (allowed (within start (start + length) (trail capacity rate moments).calls) : K) ≤
      capacity + (length + regress moments) * rate := by
  induction moments using List.reverseRecOn with
  | nil =>
      have room : 0 ≤ (length + regress ([] : List K)) * rate := mul_nonneg (add_nonneg positive (regress_nonneg _)) flows
      have none : allowed (within start (start + length) (trail capacity rate []).calls) = 0 := rfl
      rw [none, Nat.cast_zero]
      linarith
  | append_singleton moments moment ih =>
      have known := trail_metered capacity rate full flows moments
      have metered := visit_metered capacity rate (le_trans zero_le_one full) flows _ moment known
      have moments_ := trail_moments capacity rate (moments ++ [moment])
      have clock := (take_balance capacity rate (trail capacity rate moments).bucket moment).2
      rw [trail_snoc] at moments_ ⊢
      by_cases inside : start ≤ moment ∧ moment ≤ start + length
      · obtain ⟨before, call, rest, split, later, fewer⟩ := within_from_first start (start + length)
          (visit capacity rate (trail capacity rate moments) moment).calls (moment, _)
          (List.mem_append_right _ (List.mem_singleton_self _)) inside
        have spent := metered.spent before call rest split
        have back : regress ((call :: rest).map Prod.fst) ≤ regress (moments ++ [moment]) := by
          rw [← moments_, split, List.map_append]
          exact regress_append_le _ _
        have reach : moment - call.1 ≤ length := by linarith [inside.2]
        have flow : (moment - call.1 + regress ((call :: rest).map Prod.fst)) * rate ≤
            (length + regress (moments ++ [moment])) * rate := mul_le_mul_of_nonneg_right (add_le_add reach back) flows
        have counted : (allowed (within start (start + length) (visit capacity rate (trail capacity rate moments) moment).calls) : K) ≤
            allowed (call :: rest) := Nat.cast_le.mpr fewer
        rw [clock] at spent
        linarith [metered.nonneg]
      · have same : within start (start + length) (visit capacity rate (trail capacity rate moments) moment).calls =
            within start (start + length) (trail capacity rate moments).calls := by
          have one (granted : Bool) : within start (start + length) [(moment, granted)] = [] := by
            simp [within, inside]
          rw [visit, within_append, one, List.append_nil]
        have flow : (length + regress moments) * rate ≤ (length + regress (moments ++ [moment])) * rate :=
          mul_le_mul_of_nonneg_right (add_le_add_right (regress_le_snoc moments moment) _) flows
        rw [same]
        linarith

theorem bounded_of_sorted (moments : List K) (sorted : moments.Pairwise (· ≤ ·)) :
    Bounded capacity rate (trail capacity rate moments).calls := by
  intro start length positive
  have bound := bounded_with_regress capacity rate full flows moments start length positive
  rw [regress_sorted moments sorted, add_zero] at bound
  exact bound

theorem clock_le (moments : List K) (moment : K) (sorted : (moments ++ [moment]).Pairwise (· ≤ ·)) (bucket : Bucket K)
    (held : (trail capacity rate moments).bucket = some bucket) : bucket.updatedAt ≤ moment := by
  obtain ⟨none, -⟩ | ⟨known, same, metered⟩ := trail_metered capacity rate full flows moments
  · rw [held] at none
    cases none
  · obtain rfl := Option.some.inj (held.symm.trans same)
    obtain ⟨earlier, granted, clock⟩ := metered.clock
    have member : bucket.updatedAt ∈ moments := by
      rw [← trail_moments capacity rate moments, clock, List.map_append]
      exact List.mem_append_right _ (List.mem_singleton_self _)
    exact (List.pairwise_append.mp sorted).2.2 _ member moment (List.mem_singleton_self moment)

theorem refilled_sorted (moments : List K) (moment : K) (sorted : (moments ++ [moment]).Pairwise (· ≤ ·)) (bucket : Bucket K)
    (held : (trail capacity rate moments).bucket = some bucket) :
    refilled capacity rate (some bucket) moment = min capacity (bucket.tokens + (moment - bucket.updatedAt) * rate) := by
  have later := clock_le capacity rate full flows moments moment sorted bucket held
  rw [refilled, max_eq_right (sub_nonneg.mpr later)]

-- Since the last call that found the bucket full, what is there is what flowed
-- in and was not taken.
theorem saved_since_full (moments : List K) (sorted : moments.Pairwise (· ≤ ·)) (bucket : Bucket K)
    (held : (trail capacity rate moments).bucket = some bucket) :
    ∃ before call rest, (trail capacity rate moments).calls = before ++ call :: rest ∧
      allowed (call :: rest) + bucket.tokens = capacity + (bucket.updatedAt - call.1) * rate := by
  induction moments using List.reverseRecOn generalizing bucket with
  | nil => cases held
  | append_singleton moments moment ih =>
      rw [trail_snoc] at held ⊢
      cases held
      obtain ⟨earlier, -, later⟩ := List.pairwise_append.mp sorted
      have balance := take_balance capacity rate (trail capacity rate moments).bucket moment
      have calls : (visit capacity rate (trail capacity rate moments) moment).calls =
          (trail capacity rate moments).calls ++ [(moment, (take capacity rate (trail capacity rate moments).bucket moment).1)] := rfl
      by_cases filled : refilled capacity rate (trail capacity rate moments).bucket moment = capacity
      · refine ⟨_, _, [], calls, ?_⟩
        rw [allowed_one, balance.1, balance.2, filled, sub_self, zero_mul, add_zero]
      · cases known : (trail capacity rate moments).bucket with
        | none =>
            rw [known] at filled
            exact absurd rfl filled
        | some old =>
            obtain ⟨before, call, rest, split, saved⟩ := ih earlier old known
            have flowed : refilled capacity rate (some old) moment = old.tokens + (moment - old.updatedAt) * rate := by
              have least := refilled_sorted capacity rate full flows moments moment sorted old known
              rw [known, least] at filled
              rw [least]
              exact (min_choice _ _).resolve_left filled
            refine ⟨before, call, rest ++ [_], by rw [calls, split, List.append_assoc, List.cons_append], ?_⟩
            rw [known] at balance
            rw [← List.cons_append, allowed_append, allowed_one, Nat.cast_add, add_assoc, known, balance.1, balance.2, flowed, ← add_assoc,
              saved]
            ring

theorem justified_of_sorted (moments : List K) (sorted : moments.Pairwise (· ≤ ·)) :
    Justified capacity rate (trail capacity rate moments).calls := by
  induction moments using List.reverseRecOn with
  | nil =>
      intro before moment after split
      exact absurd split (by simp [trail])
  | append_singleton moments moment ih =>
      obtain ⟨earlier, -, -⟩ := List.pairwise_append.mp sorted
      intro before refused after split
      rw [trail_snoc] at split
      cases after using List.reverseRecOn with
      | append_singleton after last _ =>
          have parts : (trail capacity rate moments).calls = before ++ (refused, false) :: after := by
            rw [← List.cons_append, ← List.append_assoc] at split
            exact (List.append_inj' split rfl).1
          exact ih earlier before refused after parts
      | nil =>
          obtain ⟨calls, last⟩ := List.append_inj' split rfl
          have answer := (List.cons.inj last).1
          obtain ⟨rfl, short⟩ := Prod.mk.inj answer
          have empty : refilled capacity rate (trail capacity rate moments).bucket moment < 1 := by
            by_contra enough
            rw [take, if_pos (not_lt.mp enough)] at short
            cases short
          cases known : (trail capacity rate moments).bucket with
          | none =>
              rw [known] at empty
              exact absurd full (not_le.mpr empty)
          | some old =>
              obtain ⟨front, call, rest, parts, saved⟩ := saved_since_full capacity rate full flows moments earlier old known
              rw [known, refilled_sorted capacity rate full flows moments moment sorted old known] at empty
              have flowed : old.tokens + (moment - old.updatedAt) * rate < 1 :=
                (min_lt_iff.mp empty).resolve_left (not_lt.mpr full)
              refine ⟨call, ?_, ?_⟩
              · rw [← calls, parts]
                exact List.mem_append_right _ List.mem_cons_self
              · have tail : ((call :: rest).map Prod.fst).Pairwise (· ≤ ·) := by
                  rw [← trail_moments capacity rate moments, parts, List.map_append] at earlier
                  exact (List.pairwise_append.mp earlier).2.1
                have more : allowed (call :: rest) ≤ allowed (since call.1 before) := by
                  rw [← calls, parts, since, List.filter_append, allowed_append]
                  exact Nat.le_add_left_of_le (le_of_eq (congrArg allowed (since_sorted call rest tail).symm))
                have more' : (allowed (call :: rest) : K) ≤ allowed (since call.1 before) := Nat.cast_le.mpr more
                have spread : (moment - call.1) * rate = (moment - old.updatedAt) * rate + (old.updatedAt - call.1) * rate := by ring
                linarith

end

theorem drained (count : Nat) (rate moment : K) (taken : Nat) (room : taken < count) :
    trail (count : K) rate (List.replicate (taken + 1) moment) =
      ⟨List.replicate (taken + 1) (moment, true), some ⟨(count : K) - (taken + 1 : Nat), moment⟩⟩ := by
  have left (spent : Nat) (enough : spent < count) : (1 : K) ≤ (count : K) - (spent : K) := by
    have more : ((spent + 1 : Nat) : K) ≤ (count : K) := Nat.cast_le.mpr enough
    push_cast at more
    linarith
  induction taken with
  | zero =>
      have first := left 0 room
      rw [Nat.cast_zero, sub_zero] at first
      rw [zero_add, List.replicate_one, List.replicate_one, Nat.cast_one, trail, List.foldl_cons, List.foldl_nil, visit, take,
        refilled, if_pos first]
      rfl
  | succ taken ih =>
      have next := left (taken + 1) room
      have still : refilled (count : K) rate (some ⟨(count : K) - (taken + 1 : Nat), moment⟩) moment =
          (count : K) - (taken + 1 : Nat) := by
        have below : (count : K) - (taken + 1 : Nat) ≤ count := sub_le_self _ (Nat.cast_nonneg _)
        rw [refilled, sub_self, max_self, zero_mul, add_zero, min_eq_right below]
      have one : (count : K) - (taken + 1 : Nat) - 1 = (count : K) - (taken + 1 + 1 : Nat) := by
        push_cast
        ring
      rw [List.replicate_succ', List.replicate_succ' (n := taken + 1), trail_snoc, ih (Nat.lt_of_succ_lt room), visit, take]
      dsimp only
      rw [still, if_pos next, one]

-- A clock that goes back and forth by the time of a whole refill fills an empty bucket anew.
theorem disorder_unbounded (taken : Nat) (rate window : K) (later : 0 < window) (whole : window * rate = (taken + 1 : Nat)) :
    ¬ Bounded ((taken + 1 : Nat) : K) rate
      (trail ((taken + 1 : Nat) : K) rate (List.replicate (taken + 1) window ++ [0] ++ [window])).calls := by
  have positive : (0 : K) < ((taken + 1 : Nat) : K) := Nat.cast_pos.mpr (Nat.succ_pos taken)
  have one : (1 : K) ≤ ((taken + 1 : Nat) : K) := Nat.one_le_cast.mpr (Nat.succ_pos taken)
  have empty := drained (taken + 1) rate window taken (Nat.lt_succ_self taken)
  rw [sub_self] at empty
  have back : refilled ((taken + 1 : Nat) : K) rate (some ⟨0, window⟩) 0 = 0 := by
    rw [refilled, zero_sub, max_eq_left (neg_nonpos.mpr later.le), zero_mul, add_zero, min_eq_right positive.le]
  have forth : refilled ((taken + 1 : Nat) : K) rate (some ⟨0, 0⟩) window = ((taken + 1 : Nat) : K) := by
    rw [refilled, sub_zero, max_eq_right later.le, whole, zero_add, min_self]
  have calls : (trail ((taken + 1 : Nat) : K) rate (List.replicate (taken + 1) window ++ [0] ++ [window])).calls =
      List.replicate (taken + 1) (window, true) ++ [(0, false)] ++ [(window, true)] := by
    rw [trail_snoc, trail_snoc, empty, visit, visit, take, take]
    dsimp only
    rw [back, if_neg (not_le.mpr zero_lt_one)]
    dsimp only
    rw [forth, if_pos one]
  have inside (times : Nat) : within window (window + 0) (List.replicate times (window, true)) = List.replicate times (window, true) := by
    rw [within, List.filter_replicate, if_pos (by simp)]
  have outside : within window (window + 0) [((0 : K), false)] = [] := by
    rw [within, List.filter_cons_of_neg, List.filter_nil]
    intro entered
    exact absurd (of_decide_eq_true entered).1 (not_le.mpr later)
  have again := inside 1
  rw [List.replicate_one] at again
  have count : allowed (within window (window + 0)
      (List.replicate (taken + 1) (window, true) ++ [(0, false)] ++ [(window, true)])) = taken + 1 + 1 := by
    rw [within_append, within_append, inside, outside, again, allowed_append, allowed_append, allowed, List.countP_replicate, if_pos rfl]
    rfl
  intro bounded
  have bound := bounded window 0 (le_refl _)
  rw [calls, count] at bound
  push_cast at bound
  linarith

end QuantEngine.TokenBucket
