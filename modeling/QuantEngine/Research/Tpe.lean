import QuantEngine.Backtesting.Optimizer

set_option autoImplicit false

namespace QuantEngine.Tpe

open Program Backtesting

structure BayesianTrial (V : Type) where
  params : Params V
  score : Extended

structure BayesianResult (V : Type) where
  method : String
  objective : String
  bestParams : Params V
  bestScore : Extended
  evaluations : Nat
  trials : List (BayesianTrial V)

structure BayesianLabSettings where
  maxEvaluations : Int := 60
  nStartup : Int := 12
  gamma : ℚ := 1 / 4
  candidatePool : Int := 48

-- The functions of `math`, and `float` of a choice.
structure Maths (V : Type) where
  exp : ℚ → ℚ
  expNonneg : ∀ x, 0 ≤ exp x
  log : ℚ → ℚ
  sqrtTwoPi : ℚ
  sqrtPositive : 0 < sqrtTwoPi
  float : V → Except PyError ℚ

def eps : ℚ := 1 / 10 ^ 9

variable {V : Type} (maths : Maths V)

-- `math.log` of nothing or less raises.
def logOf (x : ℚ) : Except PyError ℚ := if x ≤ 0 then .error .value else .ok (maths.log x)

-- `_kde`.
def kde (observations : List ℚ) (x bandwidth : ℚ) : ℚ :=
  if observations.isEmpty ∨ bandwidth ≤ 0 then eps
  else
    let coef := 1 / (bandwidth * maths.sqrtTwoPi)
    (observations.map (fun obs => coef * maths.exp (-1 / 2 * ((x - obs) / bandwidth) * ((x - obs) / bandwidth)))).sum /
      observations.length

-- `_bandwidth`.
def bandwidth (spec : ParameterSpec V) : ℚ :=
  match spec.low, spec.high with
  | some low, some high => max eps ((high - low) * (15 / 100))
  | _, _ => 1

def toFloat : ParamValue V → Except PyError ℚ
  | .choice value => maths.float value
  | .int value => .ok value
  | .real value => .ok value

-- `float(params[name])`.
def floatAt (params : Params V) (name : String) : Except PyError ℚ :=
  match params.lookup name with
  | none => .error .key
  | some value => toFloat maths value

def addRatio (candidate : Params V) (good bad : List (BayesianTrial V)) (total : ℚ) (spec : ParameterSpec V) : Except PyError ℚ := do
  let x ← floatAt maths candidate spec.name
  let ofGood ← good.mapM (fun trial => floatAt maths trial.params spec.name)
  let ofBad ← bad.mapM (fun trial => floatAt maths trial.params spec.name)
  let likely ← logOf maths (kde maths ofGood x (bandwidth spec) + eps)
  let unlikely ← logOf maths (kde maths ofBad x (bandwidth spec) + eps)
  pure (total + (likely - unlikely))

-- `_log_ratio`.
def logRatio (specs : List (ParameterSpec V)) (candidate : Params V) (good bad : List (BayesianTrial V)) : Except PyError ℚ :=
  specs.foldlM (addRatio maths candidate good bad) 0

-- `float(center.params.get(spec.name, 0.0))`.
def baseOf (center : Params V) (spec : ParameterSpec V) : Except PyError ℚ :=
  match center.lookup spec.name with
  | none => .ok 0
  | some value => toFloat maths value

def near (center : Params V) (spec : ParameterSpec V) : Search V (ParamValue V) := do
  let base ← ofExcept (baseOf maths center spec)
  let drawn ← Random.gauss base (bandwidth spec)
  let value := match spec.low, spec.high with
    | some low, some high => min high (max low drawn)
    | _, _ => drawn
  pure (if spec.isInt then .int (Decimal.roundHalfEven value) else .real value)

-- `_sample_near_good`.
def sampleNearGood (specs : List (ParameterSpec V)) (good : List (BayesianTrial V)) : Search V (Params V) := do
  let center ← Random.choice good
  let drawn ← each (fun spec => do
    let value ← near maths center.params spec
    pure (spec.name, value)) specs
  pure (ParameterSpace.collect drawn)

-- `{spec.name: spec.sample(rng) for spec in specs}`.
def explored (specs : List (ParameterSpec V)) : Search V (Params V) := do
  let drawn ← each (fun spec => do
    let value ← spec.sample
    pure (spec.name, value)) specs
  pure (ParameterSpace.collect drawn)

structure Proposal (V : Type) where
  next : Nat := 0
  best : Option (Params V × ℚ) := none

-- Any ratio is higher than `float("-inf")`.
def improves (state : Proposal V) (ratio : ℚ) : Bool :=
  match state.best with
  | none => true
  | some best => decide (best.2 < ratio)

-- The first candidates explore.
def draw (settings : BayesianLabSettings) (specs : List (ParameterSpec V)) (good : List (BayesianTrial V)) (i : Nat) : Search V (Params V) :=
  if i < max 1 (settings.candidatePool / 5) then explored specs else sampleNearGood maths specs good

def candidate (settings : BayesianLabSettings) (specs : List (ParameterSpec V)) (good bad : List (BayesianTrial V))
    (state : Proposal V) : Search V (Proposal V) := do
  let params ← draw maths settings specs good state.next
  let ratio ← ofExcept (logRatio maths specs params good bad)
  pure ⟨state.next + 1, if improves state ratio then some (params, ratio) else state.best⟩

-- `_propose`.
def propose (settings : BayesianLabSettings) (specs : List (ParameterSpec V)) (good bad : List (BayesianTrial V)) :
    Search V (Params V) := do
  let final ← iterate (candidate maths settings specs good bad) settings.candidatePool.toNat {}
  match final.best with
  | some best => pure best.1
  | none => explored specs

-- `_run`.
def runTrial (params : Params V) (trials : List (BayesianTrial V)) : Search V (List (BayesianTrial V)) := do
  let score ← question params
  pure (trials ++ [⟨params, Optimizer.safeScore score⟩])

def startupRound (space : ParameterSpace V) (trials : List (BayesianTrial V)) : Search V (List (BayesianTrial V)) := do
  let params ← space.sample
  runTrial params trials

def modelRound (settings : BayesianLabSettings) (space : ParameterSpace V) (trials : List (BayesianTrial V)) :
    Search V (List (BayesianTrial V)) := do
  let ordered := trials.insertionSort (fun a b => b.score.le a.score = true)
  let nGood := (max 1 ⌈settings.gamma * ordered.length⌉).toNat
  let good := ordered.take nGood
  let rest := ordered.drop nGood
  let params ← propose maths settings space.specs.values good (if rest.isEmpty then good else rest)
  runTrial params trials

-- `TPEOptimizer.optimize`; each round adds one trial.
def optimize (objective : String) (settings : BayesianLabSettings) (space : ParameterSpace V) : Search V (BayesianResult V) := do
  let started ← iterate (startupRound space) (max 1 (min settings.nStartup settings.maxEvaluations)).toNat []
  let trials ← iterate (modelRound maths settings space) (settings.maxEvaluations - started.length).toNat started
  match trials with
  | [] => .raised .value
  | first :: rest =>
      let best := rest.foldl (fun best trial => if best.score.lt trial.score then trial else best) first
      pure ⟨"bayesian_tpe", objective, best.params, best.score, trials.length, trials⟩

end QuantEngine.Tpe
