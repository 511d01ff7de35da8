import Mathlib.Data.List.Basic

set_option autoImplicit false

namespace QuantEngine.Causal

variable {α β γ δ σ ε : Type}

-- A loop over the places `start`, `start + 1`, …: each round may raise, and
-- otherwise leaves a state to the next and appends one value.
def loop (body : σ → Nat → Except ε (σ × β)) (s : σ) (start : Nat) : Nat → Except ε (List β)
  | 0 => .ok []
  | count + 1 =>
      match body s start with
      | .error e => .error e
      | .ok (next, value) => (loop body next (start + 1) count).map (value :: ·)

-- `values` is what `count` rounds give just if the first gives a value that the
-- others are put behind.
theorem loop_succ (body : σ → Nat → Except ε (σ × β)) (s : σ) (start count : Nat) (values : List β) :
    loop body s start (count + 1) = .ok values ↔
      ∃ next value rest, body s start = .ok (next, value) ∧ loop body next (start + 1) count = .ok rest ∧ values = value :: rest := by
  rw [loop]
  cases round : body s start with
  | error e => simp
  | ok result =>
      obtain ⟨next, value⟩ := result
      cases later : loop body next (start + 1) count with
      | error e => simp [Except.map, later]
      | ok rest => simp [Except.map, later, eq_comm]

theorem loop_length (body : σ → Nat → Except ε (σ × β)) (s : σ) (start count : Nat) (values : List β)
    (ran : loop body s start count = .ok values) : values.length = count := by
  induction count generalizing s start values with
  | zero =>
      obtain rfl := Except.ok.inj ran
      rfl
  | succ count ih =>
      obtain ⟨next, value, rest, -, later, rfl⟩ := (loop_succ body s start count values).mp ran
      simp [ih next (start + 1) rest later]

-- Loops whose rounds are the same up to a place have the same values up to there.
theorem loop_start (first second : σ → Nat → Except ε (σ × β)) (k : Nat) (s : σ) (start m n : Nat)
    (same : ∀ t place, place < start + k → first t place = second t place) (us vs : List β)
    (left : loop first s start m = .ok us) (right : loop second s start n = .ok vs) (lm : k ≤ m) (ln : k ≤ n) :
    us.take k = vs.take k := by
  induction k generalizing s start m n us vs with
  | zero => rfl
  | succ k ih =>
      obtain ⟨m, rfl⟩ := Nat.exists_eq_succ_of_ne_zero (Nat.ne_of_gt (Nat.zero_lt_of_lt lm))
      obtain ⟨n, rfl⟩ := Nat.exists_eq_succ_of_ne_zero (Nat.ne_of_gt (Nat.zero_lt_of_lt ln))
      obtain ⟨next, value, us, round, left', rfl⟩ := (loop_succ first s start m us).mp left
      obtain ⟨other, also, vs, again, right', rfl⟩ := (loop_succ second s start n vs).mp right
      rw [← same s start (by omega), round, Except.ok.injEq, Prod.mk.injEq] at again
      obtain ⟨rfl, rfl⟩ := again
      rw [List.take_succ_cons, List.take_succ_cons,
        ih next (start + 1) m n (fun t place below => same t place (by omega)) us vs left' right' (by omega) (by omega)]

-- `[f(item) for item in items]`.
def forEach (f : α → Except ε β) : List α → Except ε (List β)
  | [] => .ok []
  | item :: rest =>
      match f item with
      | .error e => .error e
      | .ok value => (forEach f rest).map (value :: ·)

theorem for_each_cons (f : α → Except ε β) (item : α) (rest : List α) (values : List β) :
    forEach f (item :: rest) = .ok values ↔
      ∃ value others, f item = .ok value ∧ forEach f rest = .ok others ∧ values = value :: others := by
  rw [forEach]
  cases here : f item with
  | error e => simp
  | ok value =>
      cases later : forEach f rest with
      | error e => simp [Except.map]
      | ok others => simp [Except.map, eq_comm]

theorem for_each_mem (f : α → Except ε β) (items : List α) (values : List β) (ran : forEach f items = .ok values) (value : β)
    (member : value ∈ values) : ∃ item ∈ items, f item = .ok value := by
  induction items generalizing values with
  | nil =>
      obtain rfl := Except.ok.inj ran
      exact absurd member List.not_mem_nil
  | cons item rest ih =>
      obtain ⟨first, others, here, later, rfl⟩ := (for_each_cons f item rest values).mp ran
      rcases List.mem_cons.mp member with rfl | member
      · exact ⟨item, List.mem_cons_self, here⟩
      · obtain ⟨other, among, gives⟩ := ih others later member
        exact ⟨other, List.mem_cons_of_mem item among, gives⟩

-- A function from one series to another of the same length whose values, up to
-- any place, are decided by the series up to there.
structure Blind (f : List α → Except ε (List β)) : Prop where
  length : ∀ xs us, f xs = .ok us → us.length = xs.length
  start : ∀ k xs ys us vs, xs.take k = ys.take k → k ≤ xs.length → k ≤ ys.length → f xs = .ok us → f ys = .ok vs →
    us.take k = vs.take k

theorem take_up_to (k place : Nat) (xs ys : List α) (same : xs.take k = ys.take k) (below : place < k) :
    xs.take (place + 1) = ys.take (place + 1) := by
  have prefixes : ∀ zs : List α, zs.take (place + 1) = (zs.take k).take (place + 1) := by
    intro zs
    rw [List.take_take, Nat.min_eq_left below]
  rw [prefixes xs, prefixes ys, same]

-- Each round reads the series up to its own place only.
theorem blind_loop (body : List α → σ → Nat → Except ε (σ × β)) (s : σ)
    (reads : ∀ xs ys t place, xs.take (place + 1) = ys.take (place + 1) → body xs t place = body ys t place) :
    Blind (fun xs => loop (body xs) s 0 xs.length) where
  length xs us ran := loop_length (body xs) s 0 xs.length us ran
  start k xs ys us vs same lx ly left right :=
    loop_start (body xs) (body ys) k s 0 xs.length ys.length
      (fun t place below => reads xs ys t place (take_up_to k place xs ys same (Nat.zero_add k ▸ below))) us vs left right lx ly

theorem blind_for_each (f : α → Except ε β) : Blind (forEach f) where
  length xs us ran := by
    induction xs generalizing us with
    | nil =>
        obtain rfl := Except.ok.inj ran
        rfl
    | cons item rest ih =>
        obtain ⟨value, others, -, later, rfl⟩ := (for_each_cons f item rest us).mp ran
        simp [ih others later]
  start k xs ys us vs same lx ly left right := by
    induction k generalizing xs ys us vs with
    | zero => rfl
    | succ k ih =>
        obtain ⟨x, xs, rfl⟩ := List.exists_cons_of_length_pos (Nat.zero_lt_of_lt lx)
        obtain ⟨y, ys, rfl⟩ := List.exists_cons_of_length_pos (Nat.zero_lt_of_lt ly)
        obtain ⟨value, us, here, left', rfl⟩ := (for_each_cons f x xs us).mp left
        obtain ⟨other, vs, there, right', rfl⟩ := (for_each_cons f y ys vs).mp right
        simp only [List.take_succ_cons, List.cons.injEq] at same
        obtain ⟨rfl, rest⟩ := same
        obtain rfl := Except.ok.inj (here.symm.trans there)
        rw [List.take_succ_cons, List.take_succ_cons,
          ih xs ys us vs rest (Nat.le_of_succ_le_succ lx) (Nat.le_of_succ_le_succ ly) left' right']

theorem bind_ok (result : Except ε γ) (f : γ → Except ε δ) (value : δ) :
    result.bind f = .ok value ↔ ∃ given, result = .ok given ∧ f given = .ok value := by
  cases result with
  | error e => simp [Except.bind]
  | ok given => simp [Except.bind]

theorem blind_comp (f : List α → Except ε (List β)) (g : List β → Except ε (List γ)) (inner : Blind f) (outer : Blind g) :
    Blind (fun xs => (f xs).bind g) where
  length xs us ran := by
    obtain ⟨given, first, second⟩ := (bind_ok (f xs) g us).mp ran
    rw [outer.length given us second, inner.length xs given first]
  start k xs ys us vs same lx ly left right := by
    obtain ⟨bs, first, left⟩ := (bind_ok (f xs) g us).mp left
    obtain ⟨cs, second, right⟩ := (bind_ok (f ys) g vs).mp right
    exact outer.start k bs cs us vs (inner.start k xs ys bs cs same lx ly first second) (inner.length xs bs first ▸ lx)
      (inner.length ys cs second ▸ ly) left right

-- `[h(t, q) for t, q in zip(trend, liq)]`.
def zipped (f : List α → Except ε (List β)) (g : List α → Except ε (List γ)) (h : β → γ → δ) (xs : List α) :
    Except ε (List δ) :=
  (f xs).bind (fun bs => (g xs).bind (fun cs => .ok (List.zipWith h bs cs)))

theorem zipped_ok (f : List α → Except ε (List β)) (g : List α → Except ε (List γ)) (h : β → γ → δ) (xs : List α)
    (us : List δ) : zipped f g h xs = .ok us ↔ ∃ bs cs, f xs = .ok bs ∧ g xs = .ok cs ∧ List.zipWith h bs cs = us := by
  simp only [zipped, bind_ok, Except.ok.injEq, exists_and_left]

theorem blind_zipped (f : List α → Except ε (List β)) (g : List α → Except ε (List γ)) (h : β → γ → δ) (first : Blind f)
    (second : Blind g) : Blind (zipped f g h) where
  length xs us ran := by
    obtain ⟨bs, cs, left, right, rfl⟩ := (zipped_ok f g h xs us).mp ran
    rw [List.length_zipWith, first.length xs bs left, second.length xs cs right, Nat.min_self]
  start k xs ys us vs same lx ly left right := by
    obtain ⟨bs, cs, lb, lc, rfl⟩ := (zipped_ok f g h xs us).mp left
    obtain ⟨bs', cs', rb, rc, rfl⟩ := (zipped_ok f g h ys vs).mp right
    rw [List.take_zipWith, List.take_zipWith, first.start k xs ys bs bs' same lx ly lb rb,
      second.start k xs ys cs cs' same lx ly lc rc]

end QuantEngine.Causal
