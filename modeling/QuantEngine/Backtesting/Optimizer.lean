import Mathlib.Data.List.Sort
import QuantEngine.Library.Dict
import QuantEngine.Library.Extended
import QuantEngine.Library.Oracles

set_option autoImplicit false

namespace QuantEngine.Backtesting

open Program

-- A value of a parameter: one of its choices, or a number of its range.
inductive ParamValue (V : Type) where
  | choice (value : V)
  | int (value : Int)
  | real (value : ℚ)
deriving BEq

abbrev Params (V : Type) := Dict String (ParamValue V)

structure ParameterSpec (V : Type) where
  name : String
  choices : Option (List V) := none
  low : Option ℚ := none
  high : Option ℚ := none
  isInt : Bool := false

structure ParameterSpace (V : Type) where
  specs : Dict String (ParameterSpec V) := .empty

structure OptimizationTrial (V : Type) where
  params : Params V
  score : Extended

structure OptimizationResult (V : Type) where
  method : String
  objective : String
  bestParams : Params V
  bestScore : Extended
  evaluations : Nat
  trials : List (OptimizationTrial V)

-- A search asks for the scores of parameter sets.
abbrev Search (V α : Type) := Program (Params V) Extended α

variable {V : Type}

namespace ParameterSpec

def sample (spec : ParameterSpec V) : Search V (ParamValue V) :=
  match spec.choices with
  | some choices => do
      let value ← Random.choice choices
      pure (.choice value)
  | none => match spec.low, spec.high with
    | some low, some high =>
        if spec.isInt then do
          let value ← Random.randint (Decimal.truncate low) (Decimal.truncate high)
          pure (.int value)
        else do
          let value ← Random.uniform low high
          pure (.real value)
    | _, _ => .raised .value

end ParameterSpec

namespace ParameterSpace

def addChoices (space : ParameterSpace V) (name : String) (values : List V) : Except PyError (ParameterSpace V) :=
  if values.isEmpty then .error .value else .ok ⟨space.specs.insert name { name := name, choices := some values }⟩

def addRange (space : ParameterSpace V) (name : String) (low high : ℚ) (isInt : Bool) : Except PyError (ParameterSpace V) :=
  if high < low then .error .value
  else .ok ⟨space.specs.insert name { name := name, low := some low, high := some high, isInt := isInt }⟩

-- `dict(...)` of the values that are drawn, one for each spec.
def collect (drawn : List (String × ParamValue V)) : Params V := Dict.empty.insertAll drawn

def sample (space : ParameterSpace V) : Search V (Params V) := do
  let drawn ← each (fun (entry : String × ParameterSpec V) => do
    let value ← entry.2.sample
    pure (entry.1, value)) space.specs.entries
  pure (collect drawn)

-- `itertools.product`.
def product : List (String × List V) → List (List (String × ParamValue V))
  | [] => [[]]
  | (name, values) :: rest => values.flatMap (fun value => (product rest).map (fun combo => (name, .choice value) :: combo))

def choiceLists (space : ParameterSpace V) : Except PyError (List (String × List V)) :=
  space.specs.values.mapM (fun spec => match spec.choices with
    | some choices => .ok (spec.name, choices)
    | none => .error .value)

def grid (space : ParameterSpace V) : Except PyError (List (Params V)) := do
  let lists ← choiceLists space
  if lists.isEmpty then .ok [] else .ok ((product lists).map collect)

end ParameterSpace

namespace Optimizer

-- `max(trials, key=score)`: the first of the highest.
def bestOf (first : OptimizationTrial V) (rest : List (OptimizationTrial V)) : OptimizationTrial V :=
  rest.foldl (fun best trial => if best.score.lt trial.score then trial else best) first

-- `_finalize`.
def finalize (method objective : String) (trials : List (OptimizationTrial V)) : OptimizationResult V :=
  match trials with
  | [] => ⟨method, objective, .empty, .infinite true, 0, []⟩
  | first :: rest =>
      let best := bestOf first rest
      ⟨method, objective, best.params, best.score, trials.length, trials⟩

-- NaN and the infinities are the worst score.
def safeScore : Extended → Extended
  | .finite value => .finite value
  | _ => .infinite true

-- `_safe_eval`.
def safeEval (params : Params V) : Search V Extended := do
  let score ← question params
  pure (safeScore score)

def attempt (params : Params V) : Search V (OptimizationTrial V) := do
  let score ← safeEval params
  pure ⟨params, score⟩

-- `GridSearch.optimize`.
def gridSearch (objective : String) (space : ParameterSpace V) : Search V (OptimizationResult V) := do
  let combinations ← ofExcept space.grid
  let trials ← each attempt combinations
  pure (finalize "grid" objective trials)

-- `RandomSearch.optimize`.
def randomSearch (objective : String) (maxEvaluations : Int) (space : ParameterSpace V) : Search V (OptimizationResult V) := do
  let trials ← each (fun _ => do
    let params ← space.sample
    attempt params) (List.range maxEvaluations.toNat)
  pure (finalize "random" objective trials)

end Optimizer

-- `GeneticOptimizer`, with the sizes its constructor admits.
structure GeneticSettings where
  populationSize : Int
  generations : Int
  mutationRate : ℚ

namespace Genetic

variable [BEq V]

def size (settings : GeneticSettings) : Nat := (max 4 settings.populationSize).toNat

abbrev Key (V : Type) := List (String × ParamValue V)

-- `_key`.
def key (params : Params V) : Key V := params.entries.insertionSort (fun a b => a.1 ≤ b.1)

structure Scores (V : Type) where
  memo : List (Key V × Extended) := []
  trials : List (OptimizationTrial V) := []

-- `score_of`: a set that was scored before is not evaluated again.
def scoreOf (params : Params V) (scores : Scores V) : Search V (Extended × Scores V) :=
  match scores.memo.find? (fun entry => entry.1 == key params) with
  | some entry => pure (entry.2, scores)
  | none => do
      let score ← Optimizer.safeEval params
      pure (score, ⟨scores.memo ++ [(key params, score)], scores.trials ++ [⟨params, score⟩]⟩)

def scoreAll : List (Params V) → Scores V → Search V (List (Params V × Extended) × Scores V)
  | [], scores => pure ([], scores)
  | params :: rest, scores => do
      let scored ← scoreOf params scores
      let others ← scoreAll rest scored.2
      pure ((params, scored.1) :: others.1, others.2)

-- `sorted(population, key=score_of, reverse=True)`.
def ranked (scored : List (Params V × Extended)) : List (Params V) :=
  (scored.insertionSort (fun a b => b.2.le a.2 = true)).map Prod.fst

-- `_crossover`.
def crossover (parentA parentB : Params V) : Search V (Params V) := do
  let genes ← each (fun (gene : String × ParamValue V) => do
    let side ← Random.random
    if side < 1 / 2 then pure gene
    else match parentB.lookup gene.1 with
      | some value => pure (gene.1, value)
      | none => .raised .key) parentA.entries
  pure (ParameterSpace.collect genes)

-- `_mutate`.
def mutate (rate : ℚ) : List (ParameterSpec V) → Params V → Search V (Params V)
  | [], child => pure child
  | spec :: rest, child => do
      let chance ← Random.random
      if chance < rate then do
        let value ← spec.sample
        mutate rate rest (child.insert spec.name value)
      else mutate rate rest child

def breed (settings : GeneticSettings) (space : ParameterSpace V) (elite population : List (Params V)) : Search V (List (Params V)) := do
  let parentA ← Random.choice elite
  let parentB ← Random.choice elite
  let crossed ← crossover parentA parentB
  let child ← mutate settings.mutationRate space.specs.values crossed
  pure (population ++ [child])

structure Evolution (V : Type) where
  population : List (Params V)
  scores : Scores V

def generation (settings : GeneticSettings) (space : ParameterSpace V) (state : Evolution V) : Search V (Evolution V) := do
  let scored ← scoreAll state.population state.scores
  let elite := (ranked scored.1).take (max 2 (size settings / 2))
  let population ← iterate (breed settings space elite) (size settings - elite.length) elite
  pure ⟨population, scored.2⟩

-- `GeneticOptimizer.optimize`.
def optimize (objective : String) (settings : GeneticSettings) (space : ParameterSpace V) : Search V (OptimizationResult V) := do
  let population ← each (fun _ => space.sample) (List.range (size settings))
  let final ← iterate (generation settings space) (max 1 settings.generations).toNat ⟨population, {}⟩
  pure (Optimizer.finalize "genetic" objective final.scores.trials)

end Genetic

end QuantEngine.Backtesting
