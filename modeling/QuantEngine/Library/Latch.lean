import Mathlib.Order.Lattice
import QuantEngine.Library.Run

set_option autoImplicit false

namespace QuantEngine.Deadline

variable {θ α : Type}

-- The deadlines that a log sets, where an entry may set one in view of the log
-- up to it.
def deadlines (sets : List α → Option θ) : List α → List α → List θ
  | _, [] => []
  | seen, entry :: rest => (sets (seen ++ [entry])).toList ++ deadlines sets (seen ++ [entry]) rest

theorem deadlines_append (sets : List α → Option θ) (seen first second : List α) :
    deadlines sets seen (first ++ second) = deadlines sets seen first ++ deadlines sets (seen ++ first) second := by
  induction first generalizing seen with
  | nil => simp [deadlines]
  | cons entry rest ih => simp [deadlines, ih]

theorem deadlines_snoc (sets : List α → Option θ) (log : List α) (entry : α) :
    deadlines sets [] (log ++ [entry]) = deadlines sets [] log ++ (sets (log ++ [entry])).toList := by
  simp [deadlines_append, deadlines]

theorem mem_deadlines (sets : List α → Option θ) (seen log : List α) (deadline : θ) :
    deadline ∈ deadlines sets seen log ↔
      ∃ before entry after, log = before ++ entry :: after ∧ sets (seen ++ (before ++ [entry])) = some deadline := by
  induction log generalizing seen with
  | nil => simp [deadlines]
  | cons head rest ih =>
      rw [deadlines, List.mem_append, Option.mem_toList, ih]
      constructor
      · rintro (here | ⟨before, entry, after, rfl, later⟩)
        · exact ⟨[], head, rest, rfl, here⟩
        · exact ⟨head :: before, entry, after, rfl, by simpa using later⟩
      · rintro ⟨before, entry, after, split, given⟩
        cases before with
        | nil =>
            cases split
            exact .inl given
        | cons first others =>
            cases split
            exact .inr ⟨others, entry, after, rfl, by simpa using given⟩

variable [LinearOrder θ]

-- A latch that is held up to a deadline. It has the last of the deadlines that
-- were set, or is open, and then all of them are over by the horizon.
structure Holds (horizon : θ) (deadlines : List θ) (current : Option θ) : Prop where
  held : ∀ deadline, current = some deadline → deadline ∈ deadlines ∧ ∀ other ∈ deadlines, other ≤ deadline
  opened : current = none → ∀ other ∈ deadlines, other ≤ horizon

theorem holds_start (horizon : θ) : Holds horizon [] none :=
  ⟨fun _ given => (by cases given), fun _ => List.forall_mem_nil _⟩

theorem holds_set (horizon deadline : θ) (deadlines : List θ)
    (latest : ∀ other ∈ deadlines, other ≤ deadline) : Holds horizon (deadlines ++ [deadline]) (some deadline) := by
  refine ⟨fun same given => ?_, fun given => by cases given⟩
  cases given
  refine ⟨by simp, fun other member => ?_⟩
  rcases List.mem_append.mp member with earlier | last
  · exact latest other earlier
  · exact (List.mem_singleton.mp last).le

theorem holds_released (horizon deadline : θ) (deadlines : List θ) (elapsed : deadline ≤ horizon)
    (holds : Holds horizon deadlines (some deadline)) : Holds horizon deadlines none :=
  ⟨fun _ given => (by cases given), fun _ other member => ((holds.held deadline rfl).2 other member).trans elapsed⟩

theorem held_iff (horizon : θ) (deadlines : List θ) (current : Option θ) (holds : Holds horizon deadlines current) :
    (∃ deadline, current = some deadline ∧ horizon < deadline) ↔ ∃ deadline ∈ deadlines, horizon < deadline := by
  constructor
  · rintro ⟨deadline, rfl, ahead⟩
    exact ⟨deadline, (holds.held deadline rfl).1, ahead⟩
  · rintro ⟨deadline, member, ahead⟩
    cases current with
    | none => exact absurd (holds.opened rfl deadline member) (not_le.mpr ahead)
    | some last => exact ⟨last, rfl, ahead.trans_le ((holds.held last rfl).2 deadline member)⟩

end QuantEngine.Deadline

namespace QuantEngine.Latch

variable {σ α : Type}

-- A latch is closed by a breach and opens again after enough observations
-- without one. `Recent` says which histories leave it closed.
def Recent (breaches : α → Bool) (window : Int) (history : List α) : Prop :=
  ∃ before last after, history = before ++ last :: after ∧ breaches last = true ∧
    (∀ observation ∈ after, breaches observation = false) ∧ (after.length : Int) < window

def sinceBreach (breaches : α → Bool) : List α → Option Nat
  | [] => none
  | observation :: earlier => if breaches observation then some 0 else (sinceBreach breaches earlier).map (· + 1)

theorem since_breach_iff (breaches : α → Bool) (newest : List α) (count : Nat) :
    sinceBreach breaches newest = some count ↔ ∃ after last before, newest = after ++ last :: before ∧
      breaches last = true ∧ (∀ observation ∈ after, breaches observation = false) ∧ after.length = count := by
  induction newest generalizing count with
  | nil => simp [sinceBreach]
  | cons head earlier ih =>
      cases breach : breaches head with
      | true =>
          simp only [sinceBreach, breach, if_true, Option.some.injEq]
          constructor
          · rintro rfl
            exact ⟨[], head, earlier, rfl, breach, List.forall_mem_nil _, rfl⟩
          · rintro ⟨after, last, before, split, -, quiet, rfl⟩
            cases after with
            | nil => rfl
            | cons first rest =>
                cases split
                exact absurd (quiet head List.mem_cons_self) (by simp [breach])
      | false =>
          simp only [sinceBreach, breach, Bool.false_eq_true, if_false, Option.map_eq_some_iff]
          constructor
          · rintro ⟨fewer, counted, rfl⟩
            obtain ⟨after, last, before, rfl, breached, quiet, rfl⟩ := (ih fewer).mp counted
            refine ⟨head :: after, last, before, rfl, breached, ?_, rfl⟩
            exact List.forall_mem_cons.mpr ⟨breach, quiet⟩
          · rintro ⟨after, last, before, split, breached, quiet, rfl⟩
            cases after with
            | nil =>
                cases split
                rw [breach] at breached
                cases breached
            | cons first rest =>
                cases split
                exact ⟨rest.length, (ih _).mpr ⟨rest, last, before, rfl, breached,
                  (List.forall_mem_cons.mp quiet).2, rfl⟩, rfl⟩

theorem recent_iff (breaches : α → Bool) (window : Int) (history : List α) :
    Recent breaches window history ↔
      ∃ count, sinceBreach breaches history.reverse = some count ∧ (count : Int) < window := by
  constructor
  · rintro ⟨before, last, after, rfl, breached, quiet, few⟩
    refine ⟨after.length, (since_breach_iff _ _ _).mpr ⟨after.reverse, last, before.reverse, ?_, breached, ?_, ?_⟩, few⟩
    · simp
    · exact fun observation member => quiet observation (List.mem_reverse.mp member)
    · exact List.length_reverse
  · rintro ⟨count, counted, few⟩
    obtain ⟨after, last, before, split, breached, quiet, rfl⟩ := (since_breach_iff _ _ _).mp counted
    refine ⟨before.reverse, last, after.reverse, ?_, breached, ?_, ?_⟩
    · rw [← List.reverse_reverse history, split]
      simp
    · exact fun observation member => quiet observation (List.mem_reverse.mp member)
    · rwa [List.length_reverse]

structure Law (step : σ → α → σ) (breaches : α → Bool) (window : Int) (closed : σ → Bool) (streak : σ → Int) : Prop where
  breached : ∀ s observation, breaches observation = true →
    closed (step s observation) = true ∧ streak (step s observation) = 0
  counted : ∀ s observation, breaches observation = false → closed s = true →
    closed (step s observation) = decide (streak s + 1 < window) ∧ streak (step s observation) = streak s + 1
  idle : ∀ s observation, breaches observation = false → closed s = false → closed (step s observation) = false

-- Closed, a latch counts the observations since the last breach; open, it has
-- seen enough of them.
structure Counts (breaches : α → Bool) (window : Int) (closed : σ → Bool) (streak : σ → Int) (s : σ)
    (newest : List α) : Prop where
  whenClosed : closed s = true →
    ∃ count, sinceBreach breaches newest = some count ∧ streak s = count ∧ (count : Int) < window
  whenOpen : closed s = false → ∀ count, sinceBreach breaches newest = some count → window ≤ count

theorem step_counts (step : σ → α → σ) (breaches : α → Bool) (window : Int) (closed : σ → Bool) (streak : σ → Int)
    (law : Law step breaches window closed streak) (positive : 0 < window) (s : σ) (observation : α)
    (earlier : List α) (counts : Counts breaches window closed streak s earlier) :
    Counts breaches window closed streak (step s observation) (observation :: earlier) := by
  cases breach : breaches observation with
  | true =>
      obtain ⟨held, reset⟩ := law.breached s observation breach
      have since : sinceBreach breaches (observation :: earlier) = some 0 := by rw [sinceBreach, if_pos breach]
      refine ⟨fun _ => ⟨0, since, reset, positive⟩, fun released => ?_⟩
      rw [held] at released
      cases released
  | false =>
      have since : sinceBreach breaches (observation :: earlier) = (sinceBreach breaches earlier).map (· + 1) := by
        rw [sinceBreach, if_neg (by simp [breach])]
      cases held : closed s with
      | true =>
          obtain ⟨count, counted, same, few⟩ := counts.whenClosed held
          obtain ⟨after, longer⟩ := law.counted s observation breach held
          rw [counted] at since
          refine ⟨fun still => ⟨count + 1, since, ?_, ?_⟩, fun released other given => ?_⟩
          · rw [longer, same]
            rfl
          · rw [after, same] at still
            exact of_decide_eq_true still
          · rw [after, same] at released
            have beyond := of_decide_eq_false released
            cases given.symm.trans since
            push_cast
            omega
      | false =>
          have idle := law.idle s observation breach held
          refine ⟨fun still => ?_, fun _ count counted => ?_⟩
          · rw [idle] at still
            cases still
          · obtain ⟨fewer, before, rfl⟩ := Option.map_eq_some_iff.mp (since.symm.trans counted)
            have beyond := counts.whenOpen held fewer before
            push_cast
            omega

theorem run_counts (step : σ → α → σ) (breaches : α → Bool) (window : Int) (closed : σ → Bool) (streak : σ → Int)
    (law : Law step breaches window closed streak) (positive : 0 < window) (start : σ)
    (opened : closed start = false) (newest : List α) :
    Counts breaches window closed streak (Run.final step start newest.reverse) newest := by
  induction newest with
  | nil =>
      refine ⟨fun held => ?_, fun _ count counted => by cases counted⟩
      rw [show Run.final step start ([] : List α).reverse = start from rfl, opened] at held
      cases held
  | cons observation earlier ih =>
      have next : Run.final step start (observation :: earlier).reverse =
          step (Run.final step start earlier.reverse) observation := by
        rw [List.reverse_cons, Run.final, List.foldl_append]
        rfl
      rw [next]
      exact step_counts step breaches window closed streak law positive _ observation earlier ih

-- A latch is closed exactly where fewer than `window` observations follow the
-- last breach.
theorem closed_iff (step : σ → α → σ) (breaches : α → Bool) (window : Int) (closed : σ → Bool) (streak : σ → Int)
    (law : Law step breaches window closed streak) (positive : 0 < window) (start : σ)
    (opened : closed start = false) (history : List α) :
    closed (Run.final step start history) = true ↔ Recent breaches window history := by
  have counts := run_counts step breaches window closed streak law positive start opened history.reverse
  rw [List.reverse_reverse] at counts
  rw [recent_iff]
  constructor
  · intro held
    obtain ⟨count, counted, -, few⟩ := counts.whenClosed held
    exact ⟨count, counted, few⟩
  · rintro ⟨count, counted, few⟩
    cases held : closed (Run.final step start history) with
    | true => rfl
    | false => exact absurd (counts.whenOpen held count counted) (by omega)

end QuantEngine.Latch
