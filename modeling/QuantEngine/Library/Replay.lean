import Mathlib.Logic.Function.Basic
import QuantEngine.Library.Causal
import QuantEngine.Library.Dict

set_option autoImplicit false

namespace QuantEngine.Versions

variable {κ ν : Type} [DecidableEq κ]

-- A log of versions in which the latest version of each key counts.
def latestFrom (key : ν → κ) (kept : Dict κ ν) (versions : List ν) : Dict κ ν :=
  versions.foldl (fun kept version => kept.insert (key version) version) kept

def latest (key : ν → κ) (versions : List ν) : Dict κ ν := latestFrom key .empty versions

theorem latest_snoc (key : ν → κ) (versions : List ν) (version : ν) :
    latest key (versions ++ [version]) = (latest key versions).insert (key version) version := by
  rw [latest, latestFrom, List.foldl_append]
  rfl

-- No later version has the key of this one.
def Latest (key : ν → κ) (items : List ν) (item : ν) : Prop :=
  ∃ before after, items = before ++ item :: after ∧ ∀ other ∈ after, key other ≠ key item

omit [DecidableEq κ] in
theorem latest_mem (key : ν → κ) (items : List ν) (item : ν) (last : Latest key items item) : item ∈ items := by
  obtain ⟨before, after, split_, -⟩ := last
  rw [split_]
  exact List.mem_append_right before List.mem_cons_self

theorem last_found_iff (key : ν → κ) (items : List ν) (wanted : κ) (item : ν) :
    items.reverse.find? (fun other => decide (key other = wanted)) = some item ↔ key item = wanted ∧ Latest key items item := by
  rw [List.find?_eq_some_iff_append]
  simp only [decide_eq_true_eq, Bool.not_eq_true', decide_eq_false_iff_not]
  constructor
  · rintro ⟨same, after, before, split_, apart⟩
    refine ⟨same, before.reverse, after.reverse, ?_, fun other inside => ?_⟩
    · rw [← List.reverse_reverse items, split_, List.reverse_append, List.reverse_cons, List.append_assoc]
      rfl
    · rw [same]
      exact apart other (List.mem_reverse.mp inside)
  · rintro ⟨same, before, after, split_, apart⟩
    refine ⟨same, after.reverse, before.reverse, ?_, fun other inside => ?_⟩
    · rw [split_, List.reverse_append, List.reverse_cons, List.append_assoc]
      rfl
    · rw [← same]
      exact apart other (List.mem_reverse.mp inside)

theorem latest_of_key (key : ν → κ) (items : List ν) (item : ν) (member : item ∈ items) :
    ∃ last, Latest key items last ∧ key last = key item := by
  have some_ : (items.reverse.find? (fun other => decide (key other = key item))).isSome = true :=
    List.find?_isSome.mpr ⟨item, List.mem_reverse.mpr member, decide_eq_true rfl⟩
  obtain ⟨last, found⟩ := Option.isSome_iff_exists.mp some_
  obtain ⟨same, latest⟩ := (last_found_iff key items (key item) last).mp found
  exact ⟨last, latest, same⟩

theorem lookup_latest_from (key : ν → κ) (d : Dict κ ν) (items : List ν) (wanted : κ) :
    (latestFrom key d items).lookup wanted =
      (items.reverse.find? (fun other => decide (key other = wanted))).or (d.lookup wanted) := by
  induction items generalizing d with
  | nil => rfl
  | cons item rest ih =>
      rw [latestFrom, List.foldl_cons, ← latestFrom, ih, List.reverse_cons, List.find?_append, Dict.lookup_insert, Option.or_assoc]
      by_cases here : key item = wanted
      · simp [here]
      · simp [here, Ne.symm here]

theorem mem_latest (key : ν → κ) (items : List ν) (wanted : κ) (item : ν) :
    (wanted, item) ∈ (latest key items).entries ↔ key item = wanted ∧ Latest key items item := by
  have found := lookup_latest_from key .empty items wanted
  rw [show (Dict.empty : Dict κ ν).lookup wanted = none from rfl, Option.or_none] at found
  rw [← last_found_iff, ← found]
  exact ⟨Dict.lookup_of_mem _ wanted item, Dict.lookup_mem _ wanted item⟩

-- Where no two items share a key, the dictionary lists them as they came.
theorem latest_distinct (key : ν → κ) (items : List ν) (apart : (items.map key).Nodup) :
    (latest key items).entries = items.map (fun item => (key item, item)) := by
  have fresh := Dict.entries_insert_all_fresh (.empty : Dict κ ν) (items.map (fun item => (key item, item)))
    (by rw [List.map_map]; exact apart)
  rw [Dict.insertAll, List.foldl_map] at fresh
  exact fresh

-- Two dictionaries with the same keys and related values.
structure Related (R : ν → ν → Prop) (a b : Dict κ ν) : Prop where
  keys : b.keys = a.keys
  values : ∀ key, Option.Rel R (a.lookup key) (b.lookup key)

theorem related_insert (R : ν → ν → Prop) (a b : Dict κ ν) (key : κ) (x y : ν) (related : Related R a b) (pair : R x y) :
    Related R (a.insert key x) (b.insert key y) := by
  refine ⟨?_, fun other => ?_⟩
  · by_cases present : key ∈ a.keys
    · rw [Dict.keys_insert_present a key x present, Dict.keys_insert_present b key y (related.keys ▸ present), related.keys]
    · rw [Dict.keys_insert_fresh a key x present, Dict.keys_insert_fresh b key y (related.keys ▸ present), related.keys]
  · rw [Dict.lookup_insert, Dict.lookup_insert]
    split
    · exact .some pair
    · exact related.values other

-- Versions that are related one by one leave related dictionaries.
theorem latest_related (R : ν → ν → Prop) (key : ν → κ) (a b : Dict κ ν) (first second : List ν)
    (pairs : List.Forall₂ (fun x y => key y = key x ∧ R x y) first second) (related : Related R a b) :
    Related R (latestFrom key a first) (latestFrom key b second) := by
  induction pairs generalizing a b with
  | nil => exact related
  | cons pair _ ih =>
      refine ih _ _ ?_
      dsimp only
      rw [pair.1]
      exact related_insert R a b _ _ _ related pair.2

theorem empty_related (R : ν → ν → Prop) : Related R (.empty : Dict κ ν) .empty := ⟨rfl, fun _ => .none⟩

-- Related values that are equal wherever they are kept make equal dictionaries.
theorem related_same (R : ν → ν → Prop) (a b : Dict κ ν) (related : Related R a b)
    (same : ∀ key x y, a.lookup key = some x → R x y → y = x) : b = a := by
  refine Dict.ext_lookup b a related.keys (fun key => ?_)
  have values := related.values key
  cases found : a.lookup key with
  | none =>
      rw [found] at values
      generalize b.lookup key = other at values
      cases values
      rfl
  | some x =>
      rw [found] at values
      generalize b.lookup key = other at values
      cases values with
      | some pair => rw [same key x _ found pair]

end QuantEngine.Versions

namespace QuantEngine.Replay

variable {σ α β : Type}

-- A machine that answers at a place of a series, and may be reset.
structure Machine (σ α β : Type) where
  reset : σ → σ
  answer : σ → List α → Nat → β × σ

namespace Machine

variable (machine : Machine σ α β)

-- The state after the first `count` places of a series that is known as a whole.
def replay (state : σ) (series : List α) (count : Nat) : σ :=
  (List.range count).foldl (fun state place => (machine.answer state series place).2) state

theorem replay_succ (state : σ) (series : List α) (count : Nat) :
    machine.replay state series (count + 1) = (machine.answer (machine.replay state series count) series count).2 := by
  rw [replay, List.range_succ, List.foldl_append]
  rfl

-- States that look alike answer alike, and go on to do so, wherever the series
-- agree up to the place asked for; and any two states look alike once reset.
structure Forgets (Alike : σ → σ → Prop) : Prop where
  reset : ∀ s t, Alike (machine.reset s) (machine.reset t)
  answer : ∀ s t first second place, Alike s t → first.take (place + 1) = second.take (place + 1) →
    (machine.answer s first place).1 = (machine.answer t second place).1 ∧
      Alike (machine.answer s first place).2 (machine.answer t second place).2

def Replayable : Prop := ∃ Alike : σ → σ → Prop, machine.Forgets Alike

-- The state is like any replay of the series, and of what continues it.
def Tracks (Alike : σ → σ → Prop) (state : σ) (series : List α) : Prop :=
  ∀ other whole, whole.take series.length = series →
    Alike state (machine.replay (machine.reset other) whole series.length)

variable {machine} {Alike : σ → σ → Prop} (forgets : machine.Forgets Alike)

include forgets

theorem replays_alike (s t : σ) (first second : List α) (count : Nat) (start : Alike s t)
    (same : first.take count = second.take count) :
    Alike (machine.replay s first count) (machine.replay t second count) := by
  induction count with
  | zero => exact start
  | succ count ih =>
      have before : first.take count = second.take count := by
        have shorter := congrArg (List.take count) same
        rwa [List.take_take, List.take_take, Nat.min_eq_left (Nat.le_succ count)] at shorter
      rw [replay_succ, replay_succ]
      exact (forgets.answer _ _ first second count (ih before) same).2

theorem tracks_reset (state : σ) : machine.Tracks Alike (machine.reset state) [] :=
  fun other _ _ => forgets.reset state other

theorem tracks_replay (state : σ) (series : List α) :
    machine.Tracks Alike (machine.replay (machine.reset state) series series.length) series := by
  intro other whole starts
  refine replays_alike forgets _ _ series whole series.length (forgets.reset state other) ?_
  rw [List.take_length, starts]

theorem tracks_answer (state : σ) (series : List α) (item : α) (tracks : machine.Tracks Alike state series) :
    machine.Tracks Alike (machine.answer state (series ++ [item]) series.length).2 (series ++ [item]) := by
  intro other whole starts
  rw [List.length_append, List.length_singleton] at starts ⊢
  have before : whole.take series.length = series := by
    have shorter := congrArg (List.take series.length) starts
    rwa [List.take_take, Nat.min_eq_left (Nat.le_succ _), List.take_left] at shorter
  rw [replay_succ]
  refine (forgets.answer _ _ _ whole series.length (tracks other whole before) ?_).2
  rw [starts, List.take_of_length_le (by simp)]

theorem tracked_answers (s t : σ) (series : List α) (item : α) (first : machine.Tracks Alike s series)
    (second : machine.Tracks Alike t series) : (machine.answer s (series ++ [item]) series.length).1 =
      (machine.answer t (series ++ [item]) series.length).1 := by
  have starts : (series ++ [item]).take series.length = series := List.take_left
  have answers (u : σ) (tracks : machine.Tracks Alike u series) :=
    (forgets.answer u _ (series ++ [item]) (series ++ [item]) series.length (tracks s _ starts) rfl).1
  exact (answers s first).trans (answers t second).symm

end Machine

end QuantEngine.Replay

namespace QuantEngine.LastWrite

variable {κ ν σ α : Type} [DecidableEq κ]

-- A write sets a key, or with no value removes it.
abbrev Write (κ ν : Type) := κ × Option ν

-- What a store holds under each key after the writes that it received.
def held (initial : κ → Option ν) (writes : List (Write κ ν)) : κ → Option ν :=
  writes.foldl (fun contents write => Function.update contents write.1 write.2) initial

@[simp] theorem held_nil (initial : κ → Option ν) : held initial [] = initial := rfl

theorem held_append (initial : κ → Option ν) (first second : List (Write κ ν)) :
    held initial (first ++ second) = held (held initial first) second := List.foldl_append

@[simp] theorem held_one (initial : κ → Option ν) (write : Write κ ν) :
    held initial [write] = Function.update initial write.1 write.2 := rfl

-- The writes that reach one store in a run of a system that may send each of
-- its writes elsewhere.
def received (step : σ → α → σ) (reaching : σ → α → List (Write κ ν)) : σ → List α → List (Write κ ν)
  | _, [] => []
  | state, action :: rest => reaching state action ++ received step reaching (step state action) rest

theorem held_received (step : σ → α → σ) (reaching : σ → α → List (Write κ ν)) (contents : σ → κ → Option ν)
    (Inv : σ → Prop) (keeps : ∀ state action, Inv state → Inv (step state action))
    (takes : ∀ state action, Inv state → contents (step state action) = held (contents state) (reaching state action))
    (state : σ) (actions : List α) (inv : Inv state) :
    contents (actions.foldl step state) = held (contents state) (received step reaching state actions) := by
  induction actions generalizing state with
  | nil => rfl
  | cons action rest ih =>
      rw [List.foldl_cons, received, held_append, ih (step state action) (keeps state action inv),
        takes state action inv]

end QuantEngine.LastWrite

namespace QuantEngine.UpdateLog

variable {κ ν : Type} [DecidableEq κ]

-- A numbered log of absolute updates: update number `n`, from 1 on, sets one
-- key to a value. `state` is what the first `n` of them leave.
abbrev Log (κ ν : Type) := Nat → κ × ν

def state (log : Log κ ν) (initial : κ → ν) : Nat → κ → ν
  | 0 => initial
  | n + 1 => Function.update (state log initial n) (log (n + 1)).1 (log (n + 1)).2

def Changed (log : Log κ ν) (first last : Nat) (key : κ) : Prop := ∃ n, first ≤ n ∧ n ≤ last ∧ (log n).1 = key

theorem state_unchanged (log : Log κ ν) (initial : κ → ν) (seen last : Nat) (later : seen ≤ last) (key : κ)
    (quiet : ¬ Changed log (seen + 1) last key) : state log initial last key = state log initial seen key := by
  induction last with
  | zero => rw [Nat.le_zero.mp later]
  | succ last ih =>
      cases Nat.lt_or_eq_of_le later with
      | inl before =>
          have untouched : key ≠ (log (last + 1)).1 :=
            fun here => quiet ⟨last + 1, before, Nat.le_refl _, here.symm⟩
          have earlier : ¬ Changed log (seen + 1) last key :=
            fun ⟨n, from', upTo, here⟩ => quiet ⟨n, from', Nat.le_succ_of_le upTo, here⟩
          rw [state, Function.update_of_ne untouched]
          exact ih (Nat.le_of_lt_succ before) earlier
      | inr same => rw [same]

-- A reader that has seen the first `seen` updates and gets a batch that leaves
-- none out between the two is up to date on every key the batch leaves out.
theorem state_outside (log : Log κ ν) (initial : κ → ν) (seen first last : Nat) (later : seen ≤ last)
    (joined : first ≤ seen + 1) (key : κ) (outside : ¬ Changed log first last key) :
    state log initial last key = state log initial seen key := by
  refine state_unchanged log initial seen last later key ?_
  rintro ⟨n, after, upTo, here⟩
  exact outside ⟨n, Nat.le_trans joined after, upTo, here⟩

end QuantEngine.UpdateLog
