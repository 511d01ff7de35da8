import Mathlib.Data.List.Induction

set_option autoImplicit false

namespace QuantEngine.Deque

variable {α : Type}

-- A deque bounded by `limit` keeps the newest items and drops the oldest.
def newest (limit : Nat) (items : List α) : List α := items.drop (items.length - limit)

def push (limit : Nat) (items : List α) (item : α) : List α := newest limit (items ++ [item])

def extend (limit : Nat) (items fresh : List α) : List α := fresh.foldl (push limit) items

theorem newest_length (limit : Nat) (items : List α) :
    (newest limit items).length = min limit items.length := by
  simp only [newest, List.length_drop]
  omega

theorem newest_all (limit : Nat) (items : List α) (fits : items.length ≤ limit) :
    newest limit items = items := by
  simp [newest, Nat.sub_eq_zero_of_le fits]

theorem newest_map {β : Type} (f : α → β) (limit : Nat) (items : List α) :
    (newest limit items).map f = newest limit (items.map f) := by
  simp [newest, List.map_drop]

theorem newest_append_newest (limit : Nat) (a b : List α) :
    newest limit (newest limit a ++ b) = newest limit (a ++ b) := by
  by_cases long : limit ≤ b.length
  · have drops (c : List α) : newest limit (c ++ b) = b.drop (b.length - limit) := by
      rw [newest, List.length_append, show c.length + b.length - limit = c.length + (b.length - limit) by omega,
        List.drop_append]
      simp
    rw [drops, drops]
  · simp only [newest, List.length_append, List.length_drop]
    rw [List.drop_append_of_le_length (by simp only [List.length_drop]; omega),
      List.drop_append_of_le_length (by omega), List.drop_drop]
    congr 2
    omega

theorem newest_suffix (limit : Nat) (a b : List α) (enough : limit ≤ b.length) :
    newest limit (a ++ b) = newest limit b := by
  rw [newest, newest, List.length_append,
    show a.length + b.length - limit = a.length + (b.length - limit) by omega, List.drop_append]
  simp

-- Among the newest of a list that ends in what is kept, as many are kept as fit.
theorem newest_filter_length (limit : Nat) (keep : α → Bool) (items : List α)
    (upward : items.Pairwise (fun a b => keep a = true → keep b = true)) :
    ((newest limit items).filter keep).length = min limit (items.filter keep).length := by
  induction items with
  | nil => simp [newest]
  | cons head tail ih =>
      obtain ⟨fromHead, fromTail⟩ := List.pairwise_cons.mp upward
      by_cases fits : (head :: tail).length ≤ limit
      · rw [newest_all limit _ fits]
        have short := (List.filter_sublist (p := keep) (l := head :: tail)).length_le
        omega
      · have dropped : newest limit (head :: tail) = newest limit tail := by
          rw [newest, newest, List.length_cons]
          rw [List.length_cons] at fits
          rw [show tail.length + 1 - limit = tail.length - limit + 1 by omega, List.drop_succ_cons]
        rw [dropped, ih fromTail]
        by_cases kept : keep head = true
        · have all : tail.filter keep = tail := List.filter_eq_self.mpr (fun item member => fromHead item member kept)
          rw [List.filter_cons_of_pos kept, all]
          rw [List.length_cons] at fits ⊢
          omega
        · rw [List.filter_cons_of_neg kept]

theorem mem_push (limit : Nat) (items : List α) (item : α) (room : 0 < limit) : item ∈ push limit items item := by
  rw [push, newest, List.length_append, List.length_singleton, List.drop_append_of_le_length (by omega)]
  exact List.mem_append_right _ (List.mem_singleton_self item)

-- A full deque drops its oldest item for the new one.
theorem push_eq (limit : Nat) (items : List α) (item : α) (room : 0 < limit) (bounded : items.length ≤ limit) :
    push limit items item = (if items.length = limit then items.tail else items) ++ [item] := by
  rw [push, newest, List.length_append, List.length_singleton]
  by_cases full : items.length = limit
  · rw [if_pos full, full, Nat.add_sub_cancel_left, List.drop_append_of_le_length (by omega), List.drop_one]
  · rw [if_neg full, Nat.sub_eq_zero_of_le (by omega), List.drop_zero]

theorem extend_eq (limit : Nat) (items fresh : List α) (bounded : items.length ≤ limit) :
    extend limit items fresh = newest limit (items ++ fresh) := by
  induction fresh generalizing items with
  | nil => simp [extend, newest_all limit items bounded]
  | cons item rest ih =>
      have next : (push limit items item).length ≤ limit := by
        rw [push, newest_length]
        omega
      calc extend limit items (item :: rest) = extend limit (push limit items item) rest := rfl
        _ = newest limit (push limit items item ++ rest) := ih _ next
        _ = newest limit (items ++ [item] ++ rest) := newest_append_newest limit _ _
        _ = newest limit (items ++ item :: rest) := by rw [List.append_assoc]; rfl

end QuantEngine.Deque

namespace QuantEngine

-- A current item, and the ones before it, the newest `limit` of them.
structure UndoStack (α : Type) where
  current : Option α
  older : List α

namespace UndoStack

variable {α : Type}

def switch (limit : Nat) (stack : UndoStack α) (item : α) : UndoStack α where
  current := some item
  older := match stack.current with
    | some previous => Deque.push limit stack.older previous
    | none => stack.older

def back (stack : UndoStack α) : UndoStack α :=
  match stack.older.getLast? with
  | some item => ⟨some item, stack.older.dropLast⟩
  | none => stack

def backTimes : Nat → UndoStack α → UndoStack α
  | 0, stack => stack
  | count + 1, stack => backTimes count stack.back

-- The last of what was current, up to now.
def Trail (stack : UndoStack α) (items : List α) : Prop :=
  ∃ last, stack.current = some last ∧ items <:+ stack.older ++ [last]

theorem newest_suffix_of (limit : Nat) (items all : List α) (short : items.length ≤ limit) (suffix : items <:+ all) :
    items <:+ Deque.newest limit all := by
  obtain ⟨before, rfl⟩ := suffix
  rw [Deque.newest, List.length_append, List.drop_append_of_le_length (by omega)]
  exact List.suffix_append _ _

theorem switch_trail (limit : Nat) (stack : UndoStack α) (items : List α) (item : α) (short : items.length ≤ limit)
    (trail : stack.Trail items) : (stack.switch limit item).Trail (items ++ [item]) := by
  obtain ⟨last, current, suffix⟩ := trail
  refine ⟨item, rfl, ?_⟩
  rw [switch, current]
  obtain ⟨before, same⟩ := newest_suffix_of limit items _ short suffix
  refine ⟨before, ?_⟩
  rw [← List.append_assoc, same]
  rfl

theorem back_trail (stack : UndoStack α) (first item : α) (items : List α)
    (trail : stack.Trail (first :: items ++ [item])) : stack.back.Trail (first :: items) := by
  obtain ⟨last, current, before, same⟩ := trail
  rw [← List.append_assoc] at same
  have older := (List.append_inj' same rfl).1
  have kept : stack.older ≠ [] := by
    rw [← older]
    exact List.append_ne_nil_of_right_ne_nil _ (List.cons_ne_nil _ _)
  refine ⟨stack.older.getLast kept, ?_, ?_⟩
  · rw [back, List.getLast?_eq_some_getLast kept]
  · rw [back, List.getLast?_eq_some_getLast kept]
    dsimp only
    rw [List.dropLast_concat_getLast kept]
    exact ⟨before, older⟩

theorem switches_trail (limit : Nat) (stack : UndoStack α) (done items : List α)
    (short : done.length + items.length ≤ limit + 1) (trail : stack.Trail done) :
    (items.foldl (switch limit) stack).Trail (done ++ items) := by
  induction items generalizing stack done with
  | nil => rwa [List.append_nil]
  | cons item rest ih =>
      rw [List.length_cons] at short
      have next := switch_trail limit stack done item (by omega) trail
      have later := ih (stack.switch limit item) (done ++ [item]) (by simp; omega) next
      rwa [List.append_assoc] at later

theorem backs_trail (stack : UndoStack α) (first : α) (items : List α) (trail : stack.Trail (first :: items)) :
    (backTimes items.length stack).current = some first := by
  induction items using List.reverseRecOn generalizing stack with
  | nil =>
      obtain ⟨last, current, before, same⟩ := trail
      have alone := (List.append_inj' same rfl).2
      rw [List.cons.injEq] at alone
      rw [alone.1]
      exact current
  | append_singleton items item ih =>
      rw [List.length_append, List.length_singleton, backTimes]
      exact ih stack.back (back_trail stack first item items trail)

theorem back_some (stack : UndoStack α) (some_ : stack.current ≠ none) : stack.back.current ≠ none := by
  rw [back]
  cases stack.older.getLast? with
  | none => exact some_
  | some item => exact Option.some_ne_none item

theorem backs_some (count : Nat) (stack : UndoStack α) (some_ : stack.current ≠ none) :
    (backTimes count stack).current ≠ none := by
  induction count generalizing stack with
  | zero => exact some_
  | succ count ih => exact ih stack.back (back_some stack some_)

theorem switches_some (limit : Nat) (stack : UndoStack α) (items : List α) (some_ : stack.current ≠ none) :
    (items.foldl (switch limit) stack).current ≠ none := by
  induction items generalizing stack with
  | nil => exact some_
  | cons item rest ih => exact ih (stack.switch limit item) (Option.some_ne_none item)

-- Going back as often as was switched restores what was current, unless there
-- was nothing.
theorem backs_restore_iff (limit : Nat) (stack : UndoStack α) (items : List α) (few : items.length ≤ limit) :
    (backTimes items.length (items.foldl (switch limit) stack)).current = stack.current ↔
      items = [] ∨ stack.current ≠ none := by
  cases current : stack.current with
  | some first =>
      have trail : stack.Trail [first] := ⟨first, current, List.suffix_append _ _⟩
      have restored := backs_trail _ first items (switches_trail limit stack [first] items (by simp; omega) trail)
      exact ⟨fun _ => .inr (Option.some_ne_none first), fun _ => restored⟩
  | none =>
      cases items with
      | nil => exact ⟨fun _ => .inl rfl, fun _ => current⟩
      | cons item rest =>
          have kept := backs_some (item :: rest).length _
            (switches_some limit (stack.switch limit item) rest (Option.some_ne_none item))
          exact ⟨fun restored => absurd restored kept, fun either => either.elim (nomatch ·) (fun there => absurd rfl there)⟩

end UndoStack

end QuantEngine
