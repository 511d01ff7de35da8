import QuantEngine.Backtesting.Optimizer
import QuantEngine.Library.Fallible
import QuantEngine.Library.Ranking

set_option autoImplicit false

namespace QuantEngine.Backtesting

open Program

variable {V : Type}

-- Cutting the bounds of a range keeps them inside it.
def Cut (low high : ℚ) : Prop := low ≤ Decimal.truncate low ∧ (Decimal.truncate high : ℚ) ≤ high

namespace ParameterSpec

-- The value is one of the choices, or of the range. What cutting makes of the
-- bounds of a range of whole numbers is left open unless they are `kept`.
def Holds (kept : ℚ → ℚ → Prop) (spec : ParameterSpec V) (value : ParamValue V) : Prop :=
  match spec.choices, value with
  | some choices, .choice value => value ∈ choices
  | none, .int value => spec.isInt = true ∧
      ∀ low high, spec.low = some low → spec.high = some high → kept low high → low ≤ value ∧ value ≤ high
  | none, .real value => spec.isInt = false ∧
      ∀ low high, spec.low = some low → spec.high = some high → low ≤ value ∧ value ≤ high
  | _, _ => False

inductive Proper : ParameterSpec V → Prop where
  | choices (name : String) (values : List V) (some_ : values ≠ []) : Proper { name := name, choices := some values }
  | range (name : String) (low high : ℚ) (isInt : Bool) (ordered : low ≤ high)
      (whole : isInt = true → ∃ n : Int, low ≤ n ∧ (n : ℚ) ≤ high) :
      Proper { name := name, low := some low, high := some high, isInt := isInt }

theorem truncate_between (low high : ℚ) (n : Int) (above : low ≤ n) (below : (n : ℚ) ≤ high) :
    Decimal.truncate low ≤ n ∧ n ≤ Decimal.truncate high := by
  constructor
  · rw [Decimal.truncate]
    split
    · exact_mod_cast (Int.floor_le low).trans above
    · exact Int.ceil_le.mpr above
  · rw [Decimal.truncate]
    split
    · exact Int.le_floor.mpr below
    · exact_mod_cast below.trans (Int.le_ceil high)

theorem sample_holds (kept : ℚ → ℚ → Prop) (cut : ∀ low high, kept low high → Cut low high) (spec : ParameterSpec V)
    (proper : spec.Proper) : spec.sample.Yields (spec.Holds kept) := by
  cases proper with
  | choices name values some_ =>
      exact yields_bind _ _ _ _ (Random.yields_choice values some_) (fun value member => yields_pure _ _ member)
  | range name low high isInt ordered whole =>
      cases isInt with
      | true =>
          obtain ⟨n, above, below⟩ := whole rfl
          obtain ⟨first, last⟩ := truncate_between low high n above below
          refine yields_bind _ _ _ _ (Random.yields_randint _ _ (first.trans last)) (fun value inside => yields_pure _ _ ⟨rfl, ?_⟩)
          rintro low' high' ⟨rfl⟩ ⟨rfl⟩ held
          obtain ⟨bottom, top⟩ := cut low high held
          exact ⟨bottom.trans (by exact_mod_cast inside.1), le_trans (by exact_mod_cast inside.2) top⟩
      | false =>
          refine yields_bind _ _ _ _ (Random.yields_uniform low high ordered) (fun value inside => yields_pure _ _ ⟨rfl, ?_⟩)
          rintro low' high' ⟨rfl⟩ ⟨rfl⟩
          exact inside

end ParameterSpec

namespace ParameterSpace

inductive Built : ParameterSpace V → Prop where
  | new : Built {}
  | choices (space next : ParameterSpace V) (name : String) (values : List V) (built : Built space)
      (added : space.addChoices name values = .ok next) : Built next
  | range (space next : ParameterSpace V) (name : String) (low high : ℚ) (isInt : Bool) (built : Built space)
      (whole : isInt = true → ∃ n : Int, low ≤ n ∧ (n : ℚ) ≤ high) (added : space.addRange name low high isInt = .ok next) : Built next

-- Each parameter stands under its name.
def Proper (space : ParameterSpace V) : Prop := ∀ name spec, space.specs.lookup name = some spec → spec.name = name ∧ spec.Proper

theorem insert_proper (space : ParameterSpace V) (spec : ParameterSpec V) (proper : spec.Proper) (others : space.Proper) :
    Proper ⟨space.specs.insert spec.name spec⟩ := by
  intro name held found
  rw [Dict.lookup_insert] at found
  split at found
  · rename_i same
    obtain rfl := Option.some.inj found
    exact ⟨same.symm, proper⟩
  · exact others name held found

theorem built_proper (space : ParameterSpace V) (built : space.Built) : space.Proper := by
  induction built with
  | new => exact fun name spec found => nomatch found
  | choices space next name values built added ih =>
      rw [addChoices] at added
      split at added
      · exact nomatch added
      · rename_i some_
        obtain rfl := Except.ok.inj added
        exact insert_proper space _ (.choices name values (by simpa using some_)) ih
  | range space next name low high isInt built whole added ih =>
      rw [addRange] at added
      split at added
      · exact nomatch added
      · rename_i ordered
        obtain rfl := Except.ok.inj added
        exact insert_proper space _ (.range name low high isInt (not_lt.mp ordered) whole) ih

structure Inside (kept : ℚ → ℚ → Prop) (space : ParameterSpace V) (params : Params V) : Prop where
  names : params.keys = space.specs.keys
  holds : ∀ name spec, space.specs.lookup name = some spec → ∃ value, params.lookup name = some value ∧ spec.Holds kept value

variable (kept : ℚ → ℚ → Prop) (space : ParameterSpace V)

theorem collected (drawn : List (String × ParamValue V)) (names : drawn.map Prod.fst = space.specs.keys)
    (holds : ∀ name spec, space.specs.lookup name = some spec → ∃ value, (name, value) ∈ drawn ∧ spec.Holds kept value) :
    Inside kept space (collect drawn) := by
  have entries : (collect drawn).entries = drawn :=
    (Dict.entries_insert_all_fresh .empty drawn (by simpa [Dict.empty, Dict.keys, names] using space.specs.unique)).trans
      (List.nil_append drawn)
  refine ⟨by rw [Dict.keys, entries, names], fun name spec found => ?_⟩
  obtain ⟨value, member, held⟩ := holds name spec found
  exact ⟨value, Dict.lookup_of_mem _ name value (by rw [entries]; exact member), held⟩

theorem drawn_for {α : Type} (key : α → String) (post : α → ParamValue V → Prop) (items : List α)
    (drawn : List (String × ParamValue V))
    (all : List.Forall₂ (fun item gene => gene.1 = key item ∧ post item gene.2) items drawn) :
    drawn.map Prod.fst = items.map key ∧ ∀ item ∈ items, ∃ value, (key item, value) ∈ drawn ∧ post item value := by
  induction all with
  | nil => exact ⟨rfl, fun item member => nomatch member⟩
  | @cons item gene items drawn now later ih =>
      refine ⟨by rw [List.map_cons, List.map_cons, now.1, ih.1], List.forall_mem_cons.mpr ⟨?_, fun other member => ?_⟩⟩
      · exact ⟨gene.2, by rw [← now.1]; exact List.mem_cons_self, now.2⟩
      · obtain ⟨value, there, held⟩ := ih.2 other member
        exact ⟨value, List.mem_cons_of_mem _ there, held⟩

-- A set drawn gene by gene, each gene for one parameter.
theorem each_inside {α : Type} (items : List α) (key : α → String) (body : α → Search V (String × ParamValue V))
    (post : α → ParamValue V → Prop) (one : ∀ item ∈ items, (body item).Yields (fun gene => gene.1 = key item ∧ post item gene.2))
    (names : items.map key = space.specs.keys) (holds : ∀ name spec, space.specs.lookup name = some spec →
      ∃ item ∈ items, key item = name ∧ ∀ value, post item value → spec.Holds kept value) :
    (each body items >>= fun drawn => pure (collect drawn) : Search V (Params V)).Yields (Inside kept space) := by
  refine yields_bind _ _ _ _ (yields_each body _ items one) (fun drawn all => yields_pure _ _ ?_)
  obtain ⟨same, each_⟩ := drawn_for key post items drawn all
  refine collected kept space drawn (same.trans names) (fun name spec found => ?_)
  obtain ⟨item, member, rfl, held⟩ := holds name spec found
  obtain ⟨value, there, good⟩ := each_ item member
  exact ⟨value, there, held value good⟩

theorem sample_inside (cut : ∀ low high, kept low high → Cut low high) (proper : space.Proper) :
    space.sample.Yields (Inside kept space) := by
  refine each_inside kept space space.specs.entries Prod.fst _ (fun entry => entry.2.Holds kept) ?_ rfl ?_
  · intro entry member
    have spec := (proper entry.1 entry.2 (Dict.lookup_of_mem _ _ _ member)).2
    exact yields_bind _ _ _ _ (entry.2.sample_holds kept cut spec) (fun value held => yields_pure _ _ ⟨rfl, held⟩)
  · exact fun name spec found => ⟨(name, spec), Dict.lookup_mem _ name spec found, rfl, fun value held => held⟩

theorem insert_inside (params : Params V) (inside : Inside kept space params) (name : String) (spec : ParameterSpec V)
    (value : ParamValue V) (found : space.specs.lookup name = some spec) (held : spec.Holds kept value) :
    Inside kept space (params.insert name value) := by
  have present : name ∈ params.keys := by
    rw [inside.names]
    exact Dict.mem_keys_of_lookup _ name spec found
  refine ⟨(Dict.keys_insert_present params name value present).trans inside.names, fun other spec' found' => ?_⟩
  rw [Dict.lookup_insert]
  split
  · rename_i same
    rw [same, found] at found'
    obtain rfl := Option.some.inj found'
    exact ⟨value, rfl, held⟩
  · exact inside.holds other spec' found'

end ParameterSpace

open ParameterSpace

-- The result of a search, seen from what was asked: nothing scores higher than
-- the best, which is one of the scores when there are any.
structure Best (asked : List (Params V × Extended)) (bestParams : Params V) (bestScore : Extended) : Prop where
  highest : ∀ query ∈ asked, (Optimizer.safeScore query.2).le bestScore = true
  attained : (asked = [] ∧ bestParams = .empty ∧ bestScore = .infinite true) ∨
    ∃ query ∈ asked, query.1 = bestParams ∧ Optimizer.safeScore query.2 = bestScore

theorem safe_score_real (score : Extended) : Optimizer.safeScore score ≠ .nan := by
  cases score with
  | finite value => exact fun same => nomatch same
  | nan => exact fun same => nomatch same
  | infinite negative => exact fun same => nomatch same

-- Either kind of trial, told from what was asked.
theorem best_asked {τ : Type} (trial : Params V → Extended → τ) (params : τ → Params V) (score : τ → Extended)
    (asked : List (Params V × Extended)) (first : τ) (rest : List τ) (paired : ∀ p s, params (trial p s) = p ∧ score (trial p s) = s)
    (told : first :: rest = asked.map (fun query => trial query.1 (Optimizer.safeScore query.2))) (best : τ)
    (found : rest.foldl (fun best item => if (score best).lt (score item) then item else best) first = best) :
    Best asked (params best) (score best) := by
  have scores (item : τ) (member : item ∈ first :: rest) : ∃ query ∈ asked, params item = query.1 ∧
      score item = Optimizer.safeScore query.2 := by
    rw [told] at member
    obtain ⟨query, there, rfl⟩ := List.mem_map.mp member
    exact ⟨query, there, paired _ _⟩
  obtain ⟨member, highest⟩ := Ranking.fold_highest Extended.le (fun score => score ≠ .nan) Extended.trans_le Extended.total_le score
    first rest (fun item member => by obtain ⟨query, -, -, same⟩ := scores item member; rw [same]; exact safe_score_real _) best found
  refine ⟨fun query there => ?_, .inr ?_⟩
  · have listed : trial query.1 (Optimizer.safeScore query.2) ∈ first :: rest := by
      rw [told]
      exact List.mem_map.mpr ⟨query, there, rfl⟩
    have below := highest _ listed
    rwa [(paired _ _).2] at below
  · obtain ⟨query, there, same, value⟩ := scores best member
    exact ⟨query, there, same.symm, value.symm⟩

-- What was asked is inside the space, and the trials tell of it.
structure Told (kept : ℚ → ℚ → Prop) (space : ParameterSpace V) {τ : Type} (trial : Params V → Extended → τ)
    (log : List (Params V × Extended)) (trials : List τ) : Prop where
  trials : trials = log.map (fun query => trial query.1 (Optimizer.safeScore query.2))
  inside : ∀ query ∈ log, Inside kept space query.1

section

variable (kept : ℚ → ℚ → Prop) (space : ParameterSpace V)

theorem told_none {τ : Type} (trial : Params V → Extended → τ) : Told kept space trial [] [] := ⟨rfl, fun _ member => nomatch member⟩

theorem told_next {τ : Type} (trial : Params V → Extended → τ) (log : List (Params V × Extended)) (trials : List τ)
    (params : Params V) (answer : Extended) (told : Told kept space trial log trials) (inside : Inside kept space params) :
    Told kept space trial (log ++ [(params, answer)]) (trials ++ [trial params (Optimizer.safeScore answer)]) := by
  refine ⟨by rw [told.trials, List.map_append]; rfl, fun query member => ?_⟩
  rcases List.mem_append.mp member with before | last
  · exact told.inside query before
  · rw [List.mem_singleton.mp last]
    exact inside

-- What a search is to come to.
structure Searched (log : List (Params V × Extended)) (bestParams : Params V) (bestScore : Extended) : Prop where
  inside : ∀ query ∈ log, Inside kept space query.1
  best : Best log bestParams bestScore

theorem finalize_searched (method objective : String) (log : List (Params V × Extended)) (trials : List (OptimizationTrial V))
    (told : Told kept space OptimizationTrial.mk log trials) :
    Searched kept space log (Optimizer.finalize method objective trials).bestParams
      (Optimizer.finalize method objective trials).bestScore := by
  refine ⟨told.inside, ?_⟩
  cases trials with
  | nil =>
      have none : log = [] := List.map_eq_nil_iff.mp told.trials.symm
      exact ⟨by simp [none], .inl ⟨none, rfl, rfl⟩⟩
  | cons first rest =>
      exact best_asked OptimizationTrial.mk OptimizationTrial.params OptimizationTrial.score log first rest (fun _ _ => ⟨rfl, rfl⟩)
        told.trials _ rfl

theorem random_search_ensures (cut : ∀ low high, kept low high → Cut low high) (proper : space.Proper) (objective : String)
    (maxEvaluations : Int) : (Optimizer.randomSearch objective maxEvaluations space).Ensures
      (fun log result => Searched kept space log result.bestParams result.bestScore) [] := by
  rw [Optimizer.randomSearch, ensures_bind]
  refine ensures_mono _ _ _ _ (fun log trials told => finalize_searched kept space "random" objective log trials told)
    (ensures_each (fun _ log trials => Told kept space OptimizationTrial.mk log trials) _ _ ?_ [] [] [] (told_none kept space _))
  intro before log trials round _ told
  rw [ensures_bind]
  refine ensures_mono _ _ _ _ (fun later params now => ?_) (sample_inside kept space cut proper log)
  obtain ⟨rfl, inside⟩ := now
  exact fun answer => told_next kept space _ _ trials params answer told inside

end

namespace ParameterSpace

def Enumerable (space : ParameterSpace V) : Prop := ∀ spec ∈ space.specs.values, spec.choices.isSome = true

-- The choices at the given places.
def taken (specs : List (ParameterSpec V)) (places : List Nat) : List (String × Option (ParamValue V)) :=
  List.zipWith (fun spec place => (spec.name, ((spec.choices.getD [])[place]?).map .choice)) specs places

def InRange (specs : List (ParameterSpec V)) (places : List Nat) : Prop :=
  List.Forall₂ (fun spec place => place < (spec.choices.getD []).length) specs places

-- What was asked for are the choices at certain places: all there are, and no
-- places twice.
def OnceEach (specs : List (ParameterSpec V)) (asked : List (Params V)) : Prop :=
  ∃ combinations : List (List Nat), combinations.Nodup ∧ (∀ places, places ∈ combinations ↔ InRange specs places) ∧
    asked.map (fun params => params.entries.map (fun gene => (gene.1, some gene.2))) = combinations.map (taken specs)

def combinations : List (ParameterSpec V) → List (List Nat)
  | [] => [[]]
  | spec :: rest => (spec.choices.getD []).zipIdx.flatMap (fun choice => (combinations rest).map (fun places => choice.2 :: places))

theorem mem_combinations (specs : List (ParameterSpec V)) (places : List Nat) :
    places ∈ combinations specs ↔ InRange specs places := by
  induction specs generalizing places with
  | nil => simp [combinations, InRange]
  | cons spec rest ih =>
      simp only [combinations, List.mem_flatMap, List.mem_map]
      constructor
      · rintro ⟨choice, member, others, there, rfl⟩
        obtain ⟨below, -⟩ := List.getElem?_eq_some_iff.mp (List.mem_zipIdx_iff_getElem?.mp member)
        exact .cons below ((ih others).mp there)
      · rintro (_ | ⟨below, later⟩)
        exact ⟨(_, _), List.mem_zipIdx_iff_getElem?.mpr (List.getElem?_eq_getElem below), _, (ih _).mpr later, rfl⟩

theorem combinations_nodup (specs : List (ParameterSpec V)) : (combinations specs).Nodup := by
  induction specs with
  | nil => simp [combinations]
  | cons spec rest ih =>
      rw [combinations, List.nodup_flatMap]
      refine ⟨fun choice _ => ih.map (fun first second same => (List.cons.inj same).2), ?_⟩
      have apart := List.pairwise_map.mp (show ((spec.choices.getD []).zipIdx.map Prod.snd).Nodup by
        rw [List.zipIdx_map_snd]
        exact List.nodup_range')
      refine apart.imp (fun different => ?_)
      intro places first second
      obtain ⟨left, -, rfl⟩ := List.mem_map.mp first
      obtain ⟨right, -, same⟩ := List.mem_map.mp second
      exact different (List.cons.inj same).1.symm

def listed (spec : ParameterSpec V) : String × List V := (spec.name, spec.choices.getD [])

theorem choice_lists_ok (space : ParameterSpace V) (enumerable : space.Enumerable) :
    choiceLists space = .ok (space.specs.values.map listed) := by
  refine Fallible.map_ok _ listed _ (fun spec member => ?_)
  obtain ⟨choices, here⟩ := Option.isSome_iff_exists.mp (enumerable spec member)
  simp [listed, here]

theorem product_taken (specs : List (ParameterSpec V)) :
    (product (specs.map listed)).map (fun combo => combo.map (fun gene => (gene.1, some gene.2))) =
      (combinations specs).map (taken specs) := by
  induction specs with
  | nil => rfl
  | cons spec rest ih =>
      have indexed : (product ((spec :: rest).map listed)) = (spec.choices.getD []).zipIdx.flatMap (fun choice =>
          (product (rest.map listed)).map (fun combo => (spec.name, .choice choice.1) :: combo)) := by
        conv_lhs => rw [List.map_cons, product, listed, ← List.zipIdx_map_fst 0 (spec.choices.getD []), List.flatMap_map]
      rw [indexed, combinations, List.map_flatMap, List.map_flatMap]
      refine List.flatMap_congr (fun choice member => ?_)
      rw [List.map_map, List.map_map]
      have stepped := congrArg (List.map (fun combo => (spec.name, some (ParamValue.choice choice.1)) :: combo)) ih
      rw [List.map_map, List.map_map] at stepped
      refine stepped.trans (List.map_congr_left (fun places _ => ?_))
      simp [taken, List.mem_zipIdx_iff_getElem?.mp member]

theorem product_names (lists : List (String × List V)) (combo : List (String × ParamValue V)) (member : combo ∈ product lists) :
    combo.map Prod.fst = lists.map Prod.fst ∧ ∀ entry ∈ lists, ∃ value ∈ entry.2, (entry.1, .choice value) ∈ combo := by
  induction lists generalizing combo with
  | nil =>
      obtain rfl := List.mem_singleton.mp member
      exact ⟨rfl, fun _ none => nomatch none⟩
  | cons entry rest ih =>
      obtain ⟨value, inside, member⟩ := List.mem_flatMap.mp member
      obtain ⟨others, there, rfl⟩ := List.mem_map.mp member
      obtain ⟨names, all⟩ := ih others there
      refine ⟨by rw [List.map_cons, List.map_cons, names], List.forall_mem_cons.mpr ⟨?_, fun other listed => ?_⟩⟩
      · exact ⟨value, inside, List.mem_cons_self⟩
      · obtain ⟨choice, held, later⟩ := all other listed
        exact ⟨choice, held, List.mem_cons_of_mem _ later⟩

end ParameterSpace

section

variable (kept : ℚ → ℚ → Prop) (space : ParameterSpace V)

-- The product of the choices, and nothing of a space without parameters.
theorem grid_ok (proper : space.Proper) (enumerable : space.Enumerable) : ∃ grid, space.grid = .ok grid ∧
    (∀ params ∈ grid, Inside kept space params) ∧ (space.specs.values ≠ [] → OnceEach space.specs.values grid) := by
  rw [ParameterSpace.grid, choice_lists_ok space enumerable]
  have names : (space.specs.values.map listed).map Prod.fst = space.specs.keys := by
    rw [Dict.values, List.map_map, List.map_map]
    refine List.map_congr_left (fun entry member => ?_)
    exact (proper entry.1 entry.2 (Dict.lookup_of_mem _ _ _ member)).1
  have whole (combo : List (String × ParamValue V)) (member : combo ∈ product (space.specs.values.map listed)) :
      (collect combo).entries = combo := by
    have fresh : (combo.map Prod.fst).Nodup := by
      rw [(product_names _ combo member).1, names]
      exact space.specs.unique
    exact (Dict.entries_insert_all_fresh .empty combo fresh).trans (List.nil_append combo)
  by_cases none : (space.specs.values.map listed).isEmpty
  · have empty : space.specs.values = [] := List.map_eq_nil_iff.mp (List.isEmpty_iff.mp none)
    exact ⟨[], if_pos none, ⟨fun _ member => absurd member List.not_mem_nil, fun some_ => absurd empty some_⟩⟩
  · refine ⟨_, if_neg none, fun params member => ?_, fun _ => ⟨combinations space.specs.values, combinations_nodup _,
      mem_combinations _, ?_⟩⟩
    · obtain ⟨combo, there, rfl⟩ := List.mem_map.mp member
      obtain ⟨named, all⟩ := product_names _ combo there
      refine collected kept space combo (named.trans names) (fun name spec found => ?_)
      have held : spec ∈ space.specs.values := List.mem_map.mpr ⟨(name, spec), Dict.lookup_mem _ name spec found, rfl⟩
      obtain ⟨value, inside, gene⟩ := all (listed spec) (List.mem_map.mpr ⟨spec, held, rfl⟩)
      obtain ⟨choices, here⟩ := Option.isSome_iff_exists.mp (enumerable spec held)
      refine ⟨.choice value, (proper name spec found).1 ▸ gene, ?_⟩
      simpa [ParameterSpec.Holds, here, listed] using inside
    · rw [← product_taken, List.map_map]
      exact List.map_congr_left (fun combo member => by rw [Function.comp_apply, whole combo member])

theorem grid_search_ensures (proper : space.Proper) (enumerable : space.Enumerable) (objective : String) :
    (Optimizer.gridSearch objective space).Ensures (fun log result =>
      Searched kept space log result.bestParams result.bestScore ∧
      (space.specs.values ≠ [] → OnceEach space.specs.values (log.map Prod.fst))) [] := by
  obtain ⟨grid, ok, inside, once⟩ := grid_ok kept space proper enumerable
  rw [Optimizer.gridSearch, ok, show (ofExcept (Except.ok grid) : Search V (List (Params V))) = pure grid from rfl, ensures_bind]
  change Ensures _ (each Optimizer.attempt grid >>= fun trials => pure (Optimizer.finalize "grid" objective trials)) []
  rw [ensures_bind]
  refine ensures_mono _ _ _ _ (fun log trials told => ⟨finalize_searched kept space "grid" objective log trials told.1, fun some_ => ?_⟩)
    (ensures_each (fun before log trials => Told kept space OptimizationTrial.mk log trials ∧ log.map Prod.fst = before) _ _ ?_
      [] [] [] ⟨told_none kept space _, rfl⟩)
  · rw [told.2]
    exact once some_
  · intro before log trials params member told answer
    exact ⟨told_next kept space _ log trials params answer told.1 (inside params member), by rw [List.map_append, told.2]; rfl⟩

end

namespace Genetic

variable (kept : ℚ → ℚ → Prop) (space : ParameterSpace V)

theorem crossover_inside (parentA parentB : Params V) (first : Inside kept space parentA) (second : Inside kept space parentB) :
    (crossover parentA parentB).Yields (Inside kept space) := by
  refine each_inside kept space parentA.entries Prod.fst _
    (fun gene value => ∀ spec, space.specs.lookup gene.1 = some spec → spec.Holds kept value) ?_ first.names ?_
  · intro gene member
    have named : gene.1 ∈ space.specs.keys := by
      rw [← first.names]
      exact List.mem_map_of_mem member
    obtain ⟨spec, found⟩ := (Dict.mem_keys_iff _ _).mp named
    refine yields_bind _ _ _ _ Random.yields_random (fun side _ => ?_)
    split
    · refine yields_pure _ _ ⟨rfl, fun spec' found' => ?_⟩
      obtain ⟨value, here, held⟩ := first.holds gene.1 spec' found'
      obtain rfl := Option.some.inj (here.symm.trans (Dict.lookup_of_mem parentA gene.1 gene.2 member))
      exact held
    · obtain ⟨value, here, held⟩ := second.holds gene.1 spec found
      rw [here]
      refine yields_pure _ _ ⟨rfl, fun spec' found' => ?_⟩
      obtain rfl := Option.some.inj (found.symm.trans found')
      exact held
  · intro name spec found
    obtain ⟨value, here, -⟩ := first.holds name spec found
    exact ⟨(name, value), Dict.lookup_mem _ name value here, rfl, fun other all => all spec found⟩

theorem mutate_inside (cut : ∀ low high, kept low high → Cut low high) (proper : space.Proper) (rate : ℚ)
    (specs : List (ParameterSpec V)) (own : ∀ spec ∈ specs, space.specs.lookup spec.name = some spec) (child : Params V)
    (inside : Inside kept space child) : (mutate rate specs child).Yields (Inside kept space) := by
  induction specs generalizing child with
  | nil => exact yields_pure _ _ inside
  | cons spec rest ih =>
      have rest_ := fun other member => own other (List.mem_cons_of_mem spec member)
      have found := own spec List.mem_cons_self
      refine yields_bind _ _ _ _ Random.yields_random (fun chance _ => ?_)
      split
      · refine yields_bind _ _ _ _ (spec.sample_holds kept cut (proper _ spec found).2) (fun value held => ?_)
        exact ih rest_ _ (insert_inside kept space child inside spec.name spec value found held)
      · exact ih rest_ child inside

theorem own_specs (proper : space.Proper) (spec : ParameterSpec V) (member : spec ∈ space.specs.values) :
    space.specs.lookup spec.name = some spec := by
  obtain ⟨entry, there, rfl⟩ := List.mem_map.mp member
  have found := Dict.lookup_of_mem space.specs entry.1 entry.2 there
  rwa [(proper entry.1 entry.2 found).1]

def Alive (population : List (Params V)) : Prop := population ≠ [] ∧ ∀ params ∈ population, Inside kept space params

theorem breed_alive (cut : ∀ low high, kept low high → Cut low high) (proper : space.Proper) (settings : GeneticSettings)
    (elite population : List (Params V)) (chosen : Alive kept space elite) (alive : Alive kept space population) :
    (breed settings space elite population).Yields (Alive kept space) := by
  refine yields_bind _ _ _ _ (Random.yields_choice elite chosen.1) (fun parentA first => ?_)
  refine yields_bind _ _ _ _ (Random.yields_choice elite chosen.1) (fun parentB second => ?_)
  refine yields_bind _ _ _ _ (crossover_inside kept space parentA parentB (chosen.2 _ first) (chosen.2 _ second))
    (fun crossed inside => ?_)
  refine yields_bind _ _ _ _ (mutate_inside kept space cut proper settings.mutationRate space.specs.values
    (own_specs space proper) crossed inside) (fun child grown => yields_pure _ _ ⟨by simp, fun params member => ?_⟩)
  rcases List.mem_append.mp member with before | last
  · exact alive.2 params before
  · rw [List.mem_singleton.mp last]
    exact grown

theorem ranked_alive (scored : List (Params V × Extended)) (limit : Nat) (some_ : 0 < limit)
    (alive : Alive kept space (scored.map Prod.fst)) : Alive kept space ((ranked scored).take limit) := by
  have perm : (ranked scored).Perm (scored.map Prod.fst) := (List.perm_insertionSort _ scored).map Prod.fst
  constructor
  · intro none
    rcases List.take_eq_nil_iff.mp none with zero | empty
    · omega
    · exact alive.1 (List.Perm.nil_eq (empty ▸ perm)).symm
  · exact fun params member => alive.2 params (perm.subset (List.mem_of_mem_take member))

variable [BEq V]

theorem score_of_told (params : Params V) (inside : Inside kept space params) (scores : Scores V)
    (log : List (Params V × Extended)) (told : Told kept space OptimizationTrial.mk log scores.trials) :
    (scoreOf params scores).Ensures (fun later scored => Told kept space OptimizationTrial.mk later scored.2.trials) log := by
  rw [scoreOf]
  split
  · exact told
  · exact fun answer => told_next kept space _ log scores.trials params answer told inside

theorem score_all_told (population : List (Params V)) (inside : ∀ params ∈ population, Inside kept space params)
    (scores : Scores V) (log : List (Params V × Extended)) (told : Told kept space OptimizationTrial.mk log scores.trials) :
    (scoreAll population scores).Ensures (fun later scored => scored.1.map Prod.fst = population ∧
      Told kept space OptimizationTrial.mk later scored.2.trials) log := by
  induction population generalizing scores log with
  | nil => exact ⟨rfl, told⟩
  | cons params rest ih =>
      rw [scoreAll, ensures_bind]
      refine ensures_mono _ _ _ _ (fun later scored now => ?_)
        (score_of_told kept space params (inside params List.mem_cons_self) scores log told)
      rw [ensures_bind]
      refine ensures_mono _ _ _ _ (fun last others all => ?_)
        (ih (fun other member => inside other (List.mem_cons_of_mem _ member)) scored.2 later now)
      exact ⟨by rw [List.map_cons, all.1], all.2⟩

theorem optimize_ensures (cut : ∀ low high, kept low high → Cut low high) (proper : space.Proper) (objective : String)
    (settings : GeneticSettings) : (optimize objective settings space).Ensures
      (fun log result => Searched kept space log result.bestParams result.bestScore) [] := by
  have born : (each (fun _ => space.sample) (List.range (size settings)) : Search V (List (Params V))).Yields (Alive kept space) := by
    refine yields_mono _ _ _ (fun population all => ⟨fun none => ?_, all.2⟩)
      (yields_each_all _ (Inside kept space) _ (fun _ _ => sample_inside kept space cut proper))
    have length := all.1
    rw [none, List.length_nil, List.length_range, size] at length
    omega
  rw [optimize, ensures_bind]
  refine ensures_mono _ _ _ _ (fun log population now => ?_) (born [])
  obtain ⟨rfl, alive⟩ := now
  rw [ensures_bind]
  refine ensures_mono _ _ _ _ (fun log final now => finalize_searched kept space "genetic" objective log _ now.1)
    (ensures_iterate (fun log (state : Evolution V) => Told kept space OptimizationTrial.mk log state.scores.trials ∧
      Alive kept space state.population) _ ?_ _ [] _ ⟨told_none kept space _, alive⟩)
  intro log state now
  rw [generation, ensures_bind]
  refine ensures_mono _ _ _ _ (fun later scored told => ?_) (score_all_told kept space state.population now.2.2 state.scores log now.1)
  have elite := ranked_alive kept space scored.1 (max 2 (size settings / 2)) (by omega) (by rw [told.1]; exact now.2)
  rw [ensures_bind]
  refine ensures_mono _ _ _ _ (fun last population bred => ?_)
    (yields_iterate (Alive kept space) _ (fun population alive => breed_alive kept space cut proper settings _ population elite alive)
      _ _ elite later)
  obtain ⟨rfl, alive⟩ := bred
  exact ⟨told.2, alive⟩

end Genetic

end QuantEngine.Backtesting
