import Mathlib.Algebra.Order.BigOperators.Group.List
import QuantEngine.Backtesting.InsideTheSpace
import QuantEngine.Research.Tpe

set_option autoImplicit false

namespace QuantEngine.Tpe

open Program Backtesting ParameterSpace

variable {V : Type}

-- The density model is of numbers.
def Ranges (space : ParameterSpace V) : Prop := ∀ spec ∈ space.specs.values, spec.choices = none

-- Cutting and rounding the bounds of a range keep them inside it.
def Rounded (low high : ℚ) : Prop := Cut low high ∧ low ≤ Decimal.roundHalfEven low ∧ (Decimal.roundHalfEven high : ℚ) ≤ high

variable (maths : Maths V) (space : ParameterSpace V)

theorem kde_nonneg (observations : List ℚ) (x width : ℚ) : 0 ≤ kde maths observations x width := by
  rw [kde]
  split
  · rw [eps]
    positivity
  · rename_i wide
    have positive : 0 < width := not_le.mp (not_or.mp wide).2
    have coef : 0 ≤ 1 / (width * maths.sqrtTwoPi) := (div_pos one_pos (mul_pos positive maths.sqrtPositive)).le
    refine div_nonneg (List.sum_nonneg (fun term member => ?_)) (Nat.cast_nonneg _)
    obtain ⟨obs, -, rfl⟩ := List.mem_map.mp member
    exact mul_nonneg coef (maths.expNonneg _)

theorem log_of_density (observations : List ℚ) (x width : ℚ) :
    ∃ value, logOf maths (kde maths observations x width + eps) = .ok value := by
  have density := kde_nonneg maths observations x width
  have positive : ¬ kde maths observations x width + eps ≤ 0 := by
    rw [eps, not_le]
    positivity
  exact ⟨_, if_neg positive⟩

theorem float_at_ok (kept : ℚ → ℚ → Prop) (ranges : Ranges space) (params : Params V) (inside : Inside kept space params)
    (name : String) (spec : ParameterSpec V) (found : space.specs.lookup name = some spec) :
    ∃ number, floatAt maths params name = .ok number := by
  obtain ⟨value, here, held⟩ := inside.holds name spec found
  have range : spec.choices = none := ranges spec (List.mem_map.mpr ⟨(name, spec), Dict.lookup_mem _ name spec found, rfl⟩)
  rw [floatAt, here]
  cases value with
  | choice value => simp [ParameterSpec.Holds, range] at held
  | int value => exact ⟨value, rfl⟩
  | real value => exact ⟨value, rfl⟩

theorem floats_ok (kept : ℚ → ℚ → Prop) (ranges : Ranges space) (trials : List (BayesianTrial V))
    (inside : ∀ trial ∈ trials, Inside kept space trial.params) (name : String) (spec : ParameterSpec V)
    (found : space.specs.lookup name = some spec) :
    ∃ numbers, trials.mapM (fun trial => floatAt maths trial.params name) = .ok numbers := by
  induction trials with
  | nil => exact ⟨[], rfl⟩
  | cons trial rest ih =>
      obtain ⟨number, first⟩ := float_at_ok maths space kept ranges trial.params (inside trial List.mem_cons_self) name spec found
      obtain ⟨numbers, later⟩ := ih (fun other member => inside other (List.mem_cons_of_mem _ member))
      exact ⟨number :: numbers, by rw [List.mapM_cons, first, later]; rfl⟩

theorem log_ratio_ok (kept : ℚ → ℚ → Prop) (ranges : Ranges space) (candidate : Params V) (good bad : List (BayesianTrial V))
    (own : Inside kept space candidate) (best : ∀ trial ∈ good, Inside kept space trial.params)
    (worst : ∀ trial ∈ bad, Inside kept space trial.params) (specs : List (ParameterSpec V))
    (named : ∀ spec ∈ specs, space.specs.lookup spec.name = some spec) :
    ∃ ratio, logRatio maths specs candidate good bad = .ok ratio := by
  have step (total : ℚ) (spec : ParameterSpec V) (member : spec ∈ specs) :
      ∃ next, addRatio maths candidate good bad total spec = .ok next := by
    have found := named spec member
    obtain ⟨x, first⟩ := float_at_ok maths space kept ranges candidate own spec.name spec found
    obtain ⟨ofGood, second⟩ := floats_ok maths space kept ranges good best spec.name spec found
    obtain ⟨ofBad, third⟩ := floats_ok maths space kept ranges bad worst spec.name spec found
    obtain ⟨likely, fourth⟩ := log_of_density maths ofGood x (bandwidth spec)
    obtain ⟨unlikely, fifth⟩ := log_of_density maths ofBad x (bandwidth spec)
    refine ⟨total + (likely - unlikely), ?_⟩
    rw [addRatio, first, second, third]
    simp only [Json.ok_bind, fourth, fifth]
    rfl
  obtain ⟨ratio, ran, -⟩ := Fallible.fold_ok (addRatio maths candidate good bad) (fun _ => True) specs
    (fun total spec member _ => (step total spec member).imp (fun _ ran => ⟨ran, trivial⟩)) 0 trivial
  exact ⟨ratio, ran⟩

theorem clamped (low high drawn : ℚ) (ordered : low ≤ high) : low ≤ min high (max low drawn) ∧ min high (max low drawn) ≤ high :=
  ⟨le_min ordered (le_max_left _ _), min_le_left _ _⟩

theorem near_holds (ranges : Ranges space) (center : Params V) (inside : Inside Rounded space center) (spec : ParameterSpec V)
    (found : space.specs.lookup spec.name = some spec) (proper : spec.Proper) :
    (near maths center spec).Yields (spec.Holds Rounded) := by
  obtain ⟨value, here, -⟩ := inside.holds spec.name spec found
  obtain ⟨base, number⟩ := float_at_ok maths space Rounded ranges center inside spec.name spec found
  rw [floatAt, here] at number
  have from_ : baseOf maths center spec = .ok base := by
    rw [baseOf, here]
    exact number
  refine yields_bind _ _ (fun _ => True) _ (yields_of_except _ base _ from_ trivial) (fun base _ => ?_)
  refine yields_bind _ _ _ _ (Random.yields_gauss base _) (fun drawn _ => yields_pure _ _ ?_)
  have range : spec.choices = none := ranges spec (List.mem_map.mpr ⟨(spec.name, spec), Dict.lookup_mem _ _ _ found, rfl⟩)
  cases proper with
  | choices name values some_ => exact nomatch range
  | range name low high isInt ordered whole =>
      obtain ⟨above, below⟩ := clamped low high drawn ordered
      cases isInt with
      | true =>
          refine ⟨rfl, ?_⟩
          rintro low' high' ⟨rfl⟩ ⟨rfl⟩ ⟨-, bottom, top⟩
          have first : Decimal.roundHalfEven low ≤ Decimal.roundHalfEven (min high (max low drawn)) := Decimal.round_mono _ _ above
          have last : Decimal.roundHalfEven (min high (max low drawn)) ≤ Decimal.roundHalfEven high := Decimal.round_mono _ _ below
          exact ⟨bottom.trans (by exact_mod_cast first), le_trans (by exact_mod_cast last) top⟩
      | false =>
          refine ⟨rfl, ?_⟩
          rintro low' high' ⟨rfl⟩ ⟨rfl⟩
          exact ⟨above, below⟩

theorem spec_names (proper : space.Proper) : space.specs.values.map ParameterSpec.name = space.specs.keys := by
  rw [Dict.values, List.map_map]
  refine List.map_congr_left (fun entry member => ?_)
  exact (proper entry.1 entry.2 (Dict.lookup_of_mem _ _ _ member)).1

-- A set drawn gene by gene from the specs.
theorem each_spec_inside (proper : space.Proper) (body : ParameterSpec V → Search V (ParamValue V))
    (one : ∀ spec, space.specs.lookup spec.name = some spec → (body spec).Yields (spec.Holds Rounded)) :
    (each (fun spec => do let value ← body spec; pure (spec.name, value)) space.specs.values >>= fun drawn => pure (collect drawn) :
      Search V (Params V)).Yields (Inside Rounded space) := by
  refine each_inside Rounded space space.specs.values ParameterSpec.name _ (fun spec => spec.Holds Rounded) ?_
    (spec_names space proper) ?_
  · intro spec member
    exact yields_bind _ _ _ _ (one spec (Genetic.own_specs space proper spec member)) (fun value held => yields_pure _ _ ⟨rfl, held⟩)
  · intro name spec found
    exact ⟨spec, List.mem_map.mpr ⟨(name, spec), Dict.lookup_mem _ name spec found, rfl⟩, (proper name spec found).1, fun _ held => held⟩

theorem explored_inside (proper : space.Proper) : (explored space.specs.values).Yields (Inside Rounded space) :=
  each_spec_inside space proper ParameterSpec.sample
    (fun spec found => spec.sample_holds Rounded (fun _ _ rounded => rounded.1) (proper spec.name spec found).2)

variable (good bad : List (BayesianTrial V)) (best : ∀ trial ∈ good, Inside Rounded space trial.params)
  (worst : ∀ trial ∈ bad, Inside Rounded space trial.params) (some_ : good ≠ [])

include best some_ in
theorem near_good_inside (proper : space.Proper) (ranges : Ranges space) :
    (sampleNearGood maths space.specs.values good).Yields (Inside Rounded space) := by
  refine yields_bind _ _ _ _ (Random.yields_choice good some_) (fun center member => ?_)
  exact each_spec_inside space proper (near maths center.params)
    (fun spec found => near_holds maths space ranges center.params (best center member) spec found (proper spec.name spec found).2)

include best some_ in
theorem draw_inside (proper : space.Proper) (ranges : Ranges space) (settings : BayesianLabSettings) (i : Nat) :
    (draw maths settings space.specs.values good i).Yields (Inside Rounded space) := by
  rw [draw]
  split
  · exact explored_inside space proper
  · exact near_good_inside maths space good best some_ proper ranges

include best worst some_ in
theorem propose_inside (proper : space.Proper) (ranges : Ranges space) (settings : BayesianLabSettings) :
    (propose maths settings space.specs.values good bad).Yields (Inside Rounded space) := by
  refine yields_bind _ _ (fun final => ∀ chosen ∈ final.best, Inside Rounded space chosen.1) _ ?_ (fun final inside => ?_)
  · refine yields_iterate _ _ (fun state inside => ?_) _ _ (fun chosen none => nomatch none)
    refine yields_bind _ _ _ _ (draw_inside maths space good best some_ proper ranges settings state.next) (fun params own => ?_)
    obtain ⟨ratio, ran⟩ := log_ratio_ok maths space Rounded ranges params good bad own best worst space.specs.values
      (Genetic.own_specs space proper)
    refine yields_bind _ _ (fun _ => True) _ (yields_of_except _ ratio _ ran trivial) (fun ratio _ => yields_pure _ _ ?_)
    intro chosen held
    split at held
    · obtain rfl := Option.some.inj held
      exact own
    · exact inside chosen held
  · split
    · rename_i chosen held
      exact yields_pure _ _ (inside chosen held)
    · exact explored_inside space proper

theorem told_params {kept : ℚ → ℚ → Prop} (log : List (Params V × Extended)) (trials : List (BayesianTrial V))
    (told : Told kept space BayesianTrial.mk log trials) (trial : BayesianTrial V) (member : trial ∈ trials) :
    Inside kept space trial.params := by
  rw [told.trials] at member
  obtain ⟨query, there, rfl⟩ := List.mem_map.mp member
  exact told.inside query there

-- The rounds keep the trials, and leave none out.
def Running (log : List (Params V × Extended)) (trials : List (BayesianTrial V)) : Prop :=
  Told Rounded space BayesianTrial.mk log trials

theorem run_trial_running (log : List (Params V × Extended)) (trials : List (BayesianTrial V)) (params : Params V)
    (running : Running space log trials) (inside : Inside Rounded space params) :
    (runTrial params trials).Ensures (fun later next => Running space later next ∧ next ≠ []) log :=
  fun answer => ⟨told_next Rounded space _ log trials params answer running inside, by simp⟩

theorem startup_round_running (proper : space.Proper) (log : List (Params V × Extended)) (trials : List (BayesianTrial V))
    (running : Running space log trials) :
    (startupRound space trials).Ensures (fun later next => Running space later next ∧ next ≠ []) log := by
  rw [startupRound, ensures_bind]
  refine ensures_mono _ _ _ _ (fun later params now => ?_) (sample_inside Rounded space (fun _ _ rounded => rounded.1) proper log)
  obtain ⟨rfl, inside⟩ := now
  exact run_trial_running space later trials params running inside

theorem model_round_running (proper : space.Proper) (ranges : Ranges space) (settings : BayesianLabSettings)
    (log : List (Params V × Extended)) (trials : List (BayesianTrial V)) (running : Running space log trials) (some_ : trials ≠ []) :
    (modelRound maths settings space trials).Ensures (fun later next => Running space later next ∧ next ≠ []) log := by
  have sorted := List.perm_insertionSort (fun a b : BayesianTrial V => b.score.le a.score = true) trials
  generalize hordered : trials.insertionSort (fun a b : BayesianTrial V => b.score.le a.score = true) = ordered at sorted
  have inside (trial : BayesianTrial V) (member : trial ∈ ordered) : Inside Rounded space trial.params :=
    told_params space log trials running trial (sorted.subset member)
  rw [modelRound, hordered]
  generalize hcount : (max 1 ⌈settings.gamma * ordered.length⌉).toNat = nGood
  have good : ordered.take nGood ≠ [] := by
    intro none
    rcases List.take_eq_nil_iff.mp none with zero | empty
    · omega
    · exact some_ (List.Perm.nil_eq (empty ▸ sorted)).symm
  have best (trial : BayesianTrial V) (member : trial ∈ ordered.take nGood) := inside trial (List.mem_of_mem_take member)
  have worst (trial : BayesianTrial V)
      (member : trial ∈ if (ordered.drop nGood).isEmpty then ordered.take nGood else ordered.drop nGood) :
      Inside Rounded space trial.params := by
    split at member
    · exact best trial member
    · exact inside trial (List.mem_of_mem_drop member)
  rw [ensures_bind]
  refine ensures_mono _ _ _ _ (fun later params now => ?_)
    (propose_inside maths space _ _ best worst good proper ranges settings log)
  obtain ⟨rfl, own⟩ := now
  exact run_trial_running space later trials params running own

theorem optimize_ensures (proper : space.Proper) (ranges : Ranges space) (objective : String) (settings : BayesianLabSettings) :
    (optimize maths objective settings space).Ensures
      (fun log result => Searched Rounded space log result.bestParams result.bestScore) [] := by
  obtain ⟨more, rounds⟩ := Nat.exists_eq_add_of_lt
    (show 0 < (max 1 (min settings.nStartup settings.maxEvaluations)).toNat by omega)
  rw [optimize, rounds, Nat.zero_add, iterate, ensures_bind, ensures_bind]
  -- The first round leaves a trial, and there is one from then on.
  refine ensures_mono _ _ _ _ (fun log trials now => ?_) (startup_round_running space proper [] [] (told_none Rounded space _))
  refine ensures_mono _ _ _ _ (fun log trials now => ?_) (ensures_iterate _ _ (fun log trials now =>
    startup_round_running space proper log trials now.1) more log trials now)
  rw [ensures_bind]
  refine ensures_mono _ _ _ _ (fun log trials now => ?_) (ensures_iterate _ _ (fun log trials now =>
    model_round_running maths space proper ranges settings log trials now.1 now.2) _ log trials now)
  cases trials with
  | nil => exact absurd rfl now.2
  | cons first rest =>
      exact ⟨now.1.inside, best_asked BayesianTrial.mk BayesianTrial.params BayesianTrial.score log first rest (fun _ _ => ⟨rfl, rfl⟩)
        now.1.trials _ rfl⟩

-- Whatever is drawn and answered, the search ends with a result that tells of
-- what it asked for.
def Finds {σ τ ρ : Type} (kept : ℚ → ℚ → Prop) (space : ParameterSpace V) (outcome : Outcome (Params V) Extended ρ σ τ)
    (params : ρ → Params V) (score : ρ → Extended) : Prop :=
  ∃ result, outcome.result = .ok result ∧ Searched kept space outcome.asked (params result) (score result)

theorem searches_stay_inside {σ τ : Type} [BEq V] (space : ParameterSpace V) (built : space.Built) (objective : String)
    (dice : Dice σ) (evaluate : τ → Params V → Extended × τ) (seed : σ) (state : τ) :
    (space.Enumerable → Finds Cut space ((Optimizer.gridSearch objective space).run dice evaluate seed state)
        OptimizationResult.bestParams OptimizationResult.bestScore ∧
      (space.specs.values ≠ [] → OnceEach space.specs.values
        (((Optimizer.gridSearch objective space).run dice evaluate seed state).asked.map Prod.fst))) ∧
    (∀ maxEvaluations, Finds Cut space ((Optimizer.randomSearch objective maxEvaluations space).run dice evaluate seed state)
      OptimizationResult.bestParams OptimizationResult.bestScore) ∧
    (∀ settings, Finds Cut space ((Genetic.optimize objective settings space).run dice evaluate seed state)
      OptimizationResult.bestParams OptimizationResult.bestScore) ∧
    ∀ (maths : Maths V) settings, Ranges space →
      Finds Rounded space ((optimize maths objective settings space).run dice evaluate seed state)
        BayesianResult.bestParams BayesianResult.bestScore := by
  have proper := built_proper space built
  have own (low high : ℚ) (cut : Cut low high) : Cut low high := cut
  refine ⟨fun enumerable => ?_, fun maxEvaluations => ?_, fun settings => ?_, fun maths settings ranges => ?_⟩
  · obtain ⟨result, ran, searched, once⟩ := run_ensures dice evaluate _ _ [] (grid_search_ensures Cut space proper enumerable objective)
      seed state
    exact ⟨⟨result, ran, searched⟩, once⟩
  · exact run_ensures dice evaluate _ _ [] (random_search_ensures Cut space own proper objective maxEvaluations) seed state
  · exact run_ensures dice evaluate _ _ [] (Genetic.optimize_ensures Cut space own proper objective settings) seed state
  · exact run_ensures dice evaluate _ _ [] (optimize_ensures maths space proper ranges objective settings) seed state

def chosen : ParameterSpace String := ⟨Dict.empty.insert "exit" { name := "exit", choices := some ["slow", "fast"] }⟩

def ranged : ParameterSpace String := ⟨Dict.empty.insert "stop" { name := "stop", low := some 1, high := some 2 }⟩

theorem chosen_built : chosen.Built := .choices {} chosen "exit" ["slow", "fast"] .new rfl

theorem ranged_built : ranged.Built := .range {} ranged "stop" 1 2 false .new (fun none => nomatch none) rfl

-- Every set scores the same.
def level (state : Unit) (_ : Params String) : Extended × Unit := (.finite 1, state)

theorem searches_stay_inside_ranged :
    OnceEach chosen.specs.values (((Optimizer.gridSearch "score" chosen).run .lowest level () ()).asked.map Prod.fst) ∧
    Finds Cut ranged ((Optimizer.randomSearch "score" 3 ranged).run .lowest level () ())
      OptimizationResult.bestParams OptimizationResult.bestScore ∧
    ∀ maths : Maths String, Finds Rounded ranged ((optimize maths "score" {} ranged).run .lowest level () ())
      BayesianResult.bestParams BayesianResult.bestScore := by
  obtain ⟨-, random, -, tpe⟩ := searches_stay_inside ranged ranged_built "score" .lowest level () ()
  obtain ⟨grid, -⟩ := searches_stay_inside chosen chosen_built "score" .lowest level () ()
  have enumerable : chosen.Enumerable := fun spec member => by
    rw [List.mem_singleton.mp member]
    rfl
  have ranges : Ranges ranged := fun spec member => by
    rw [List.mem_singleton.mp member]
  exact ⟨(grid enumerable).2 (List.cons_ne_nil _ _), random 3, fun maths => tpe maths {} ranges⟩

-- No text of the choices is one of a number.
def wordless : Maths String := ⟨fun _ => 1, fun _ => zero_le_one, id, 1, one_pos, fun _ => .error .value⟩

-- A range cannot be enumerated, and the model has no density for words.
theorem searches_refuse : ((Optimizer.gridSearch "score" ranged).run .lowest level () ()).result = .error .value ∧
    ((optimize wordless "score" { maxEvaluations := 2, nStartup := 1 } chosen).run .lowest level () ()).result = .error .value :=
  ⟨rfl, rfl⟩

end QuantEngine.Tpe
