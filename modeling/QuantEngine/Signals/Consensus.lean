import QuantEngine.Library.Dict
import QuantEngine.Signals.Models

set_option autoImplicit false

namespace QuantEngine

open Decimal (fixed roundTo)

def clampScore (value : ℚ) : ℚ := max 0 (min 100 value)

def actionable (signals : List StrategySignal) : List StrategySignal :=
  signals.filter (fun signal => decide (signal.direction ≠ .neutral))

def emptyConsensus (symbol method reason : String) : ConsensusResult where
  method := method
  symbol := symbol
  direction := .neutral
  score := 0
  agreement := 0
  reasons := [reason]

namespace WeightedAverage

def weightOf (default : ℚ) (weights : Dict String ℚ) (signal : StrategySignal) : ℚ :=
  (weights.lookup signal.strategyName).getD default

def sign (signal : StrategySignal) : ℚ := if signal.direction = .long then 1 else -1

def directionOf (value : ℚ) : Direction :=
  if |value| < 1 / 1000000000 then .neutral else if value > 0 then .long else .short

def signedText (value : ℚ) : String := (if value < 0 then "" else "+") ++ fixed 2 value

def build (default : ℚ) (weights : Dict String ℚ) (symbol : String) (signals : List StrategySignal) : ConsensusResult :=
  let voters := actionable signals
  if voters.isEmpty then emptyConsensus symbol "weighted_average" "sin señales direccionales"
  else
    let total := (voters.map (weightOf default weights)).sum
    if total ≤ 0 then emptyConsensus symbol "weighted_average" "peso total nulo"
    else
      let value := (voters.map (fun signal => sign signal * clampScore signal.score * weightOf default weights signal)).sum /
        total
      let direction := directionOf value
      let mass := ((voters.filter (fun signal => decide (signal.direction = direction))).map
        (weightOf default weights)).sum
      { method := "weighted_average"
        symbol := symbol
        direction := direction
        score := roundTo 2 |value|
        agreement := roundTo 4 (if direction = .neutral then 1 / 2 else mass / total)
        participants := voters.map StrategySignal.strategyName
        reasons := ["promedio ponderado con signo = " ++ signedText value] }

end WeightedAverage

structure QuantConfidenceSettings where
  signalConfidence : ℚ := 25 / 100
  agreement : ℚ := 20 / 100
  dataQuality : ℚ := 20 / 100
  liquidity : ℚ := 10 / 100
  volatility : ℚ := 10 / 100
  confirmation : ℚ := 5 / 100
  history : ℚ := 10 / 100

namespace ConfidenceEngine

def clampUnit (value : ℚ) : ℚ := max 0 (min 1 value)

def mean (values : List ℚ) (none : ℚ) : ℚ := if values.isEmpty then none else values.sum / values.length

def liquidity (context : MarketContext) : ℚ :=
  max 0 (1 - (if context.spreadElevated then 1 / 2 else 0) - (if context.volumeSufficient then 0 else 1 / 2))

def volatility (context : MarketContext) : ℚ :=
  match context.volatility with
  | .high => 1 / 2
  | .low => 6 / 10
  | .normal => 1

def confirmation (signals : List StrategySignal) : ℚ :=
  match signals with
  | [] => 0
  | [signal] => if signal.requiredConfirmation then 1 / 2 else 1
  | _ => 1

def factors (settings : QuantConfidenceSettings) (historyFactor : Dict String ℚ) (signals : List StrategySignal)
    (consensus : ConsensusResult) (context : MarketContext) : List (String × ℚ × ℚ) :=
  [("signal_confidence", mean (signals.map StrategySignal.confidence) 0, settings.signalConfidence),
    ("agreement", clampUnit consensus.agreement, settings.agreement),
    ("data_quality", context.dataQuality, settings.dataQuality),
    ("liquidity", liquidity context, settings.liquidity),
    ("volatility", volatility context, settings.volatility),
    ("confirmation", confirmation signals, settings.confirmation),
    ("history", mean (signals.map (fun signal => (historyFactor.lookup signal.strategyName).getD (1 / 2))) (1 / 2),
      settings.history)]

-- The confidence and its breakdown, which is rounded unless no factor weighs.
def compute (settings : QuantConfidenceSettings) (historyFactor : Dict String ℚ) (signals : List StrategySignal)
    (consensus : ConsensusResult) (context : MarketContext) : ℚ × List (String × ℚ) :=
  let factors := factors settings historyFactor signals consensus context
  let total := (factors.map (fun factor => factor.2.2)).sum
  if total ≤ 0 then (0, factors.map (fun factor => (factor.1, factor.2.1)))
  else
    let weighted := (factors.map (fun factor => factor.2.1 * factor.2.2)).sum
    (roundTo 4 (clampUnit (weighted / total)), factors.map (fun factor => (factor.1, roundTo 4 factor.2.1)))

end ConfidenceEngine

end QuantEngine

namespace QuantEngine

open Decimal (fixed roundTo)

structure Mass where
  long : ℚ := 0
  short : ℚ := 0
  deriving DecidableEq

namespace Mass

def of (mass : Mass) : Direction → ℚ
  | .long => mass.long
  | .short => mass.short
  | .neutral => 0

def add (mass : Mass) (direction : Direction) (weight : ℚ) : Mass :=
  match direction with
  | .long => { mass with long := mass.long + weight }
  | .short => { mass with short := mass.short + weight }
  | .neutral => mass

def vote (weight : StrategySignal → ℚ) (mass : Mass) (signal : StrategySignal) : Mass :=
  mass.add signal.direction (weight signal)

end Mass

def towards (direction : Direction) (voters : List StrategySignal) : List StrategySignal :=
  voters.filter (fun signal => decide (signal.direction = direction))

-- How a score or an agreement is rounded is a parameter of each algorithm, so
-- that the numbers before the final rounding can be read off as well.
abbrev Rounding := Nat → ℚ → ℚ

def exact : Rounding := fun _ value => value

namespace MajorityVoting

def build (round : Rounding) (symbol : String) (signals : List StrategySignal) : ConsensusResult :=
  let voters := actionable signals
  if voters.isEmpty then emptyConsensus symbol "majority_voting" "sin señales direccionales"
  else
    let longs := towards .long voters
    let shorts := towards .short voters
    if longs.length = shorts.length then
      { method := "majority_voting"
        symbol := symbol
        direction := .neutral
        score := 0
        agreement := 1 / 2
        participants := voters.map StrategySignal.strategyName
        reasons := ["empate de votos long/short"] }
    else
      let winners := if shorts.length < longs.length then longs else shorts
      let direction : Direction := if shorts.length < longs.length then .long else .short
      let score := (winners.map (fun signal => clampScore signal.score)).sum / winners.length
      { method := "majority_voting"
        symbol := symbol
        direction := direction
        score := round 2 score
        agreement := round 4 ((winners.length : ℚ) / voters.length)
        participants := voters.map StrategySignal.strategyName
        reasons := [toString winners.length ++ "/" ++ toString voters.length ++ " estrategias votan " ++
          direction.value] }

end MajorityVoting

namespace WeightedVoting

open WeightedAverage (weightOf)

def massOf (default : ℚ) (weights : Dict String ℚ) (voters : List StrategySignal) : Mass :=
  voters.foldl (Mass.vote (weightOf default weights)) {}

def build (round : Rounding) (default : ℚ) (symbol : String) (signals : List StrategySignal) (weights : Dict String ℚ) :
    ConsensusResult :=
  let voters := actionable signals
  if voters.isEmpty then emptyConsensus symbol "weighted_voting" "sin señales direccionales"
  else
    let mass := massOf default weights voters
    let total := mass.long + mass.short
    if total ≤ 0 ∨ mass.long = mass.short then emptyConsensus symbol "weighted_voting" "masa de votos empatada o nula"
    else
      let direction : Direction := if mass.short < mass.long then .long else .short
      let winners := towards direction voters
      let weightSum := (winners.map (weightOf default weights)).sum
      let score := if 0 < weightSum
        then (winners.map (fun signal => clampScore signal.score * weightOf default weights signal)).sum / weightSum
        else 0
      { method := "weighted_voting"
        symbol := symbol
        direction := direction
        score := round 2 score
        agreement := round 4 (mass.of direction / total)
        participants := voters.map StrategySignal.strategyName
        reasons := ["peso " ++ fixed 2 (mass.of direction) ++ "/" ++ fixed 2 total ++ " a favor de " ++ direction.value] }

end WeightedVoting

namespace WeightedAverage

structure Count where
  signed : ℚ := 0
  mass : Mass := {}

def Count.add (weight : StrategySignal → ℚ) (count : Count) (signal : StrategySignal) : Count where
  signed := count.signed + sign signal * clampScore signal.score * weight signal
  mass := Mass.vote weight count.mass signal

def weightsFor (default : ℚ) (weights : Dict String ℚ) (signals : List StrategySignal) : Dict String ℚ :=
  Dict.empty.insertAll (signals.map (fun signal => (signal.strategyName, weightOf default weights signal)))

-- The three averages share this body. They differ in their name and in the
-- weights they make of the base weights of the voters.
def buildWith (round : Rounding) (name : String) (effectiveWeights : List StrategySignal → Dict String ℚ) (default : ℚ)
    (symbol : String) (signals : List StrategySignal) : ConsensusResult :=
  let voters := actionable signals
  if voters.isEmpty then emptyConsensus symbol name "sin señales direccionales"
  else
    let effective := effectiveWeights voters
    let total := (voters.map (weightOf default effective)).sum
    if total ≤ 0 then emptyConsensus symbol name "peso total nulo"
    else
      let count := voters.foldl (Count.add (weightOf default effective)) {}
      let value := count.signed / total
      let direction := directionOf value
      { method := name
        symbol := symbol
        direction := direction
        score := round 2 |value|
        agreement := round 4 (if direction = .neutral then 1 / 2 else count.mass.of direction / total)
        participants := voters.map StrategySignal.strategyName
        reasons := ["promedio ponderado con signo = " ++ signedText value] }

end WeightedAverage

-- Every base weight times the factor of its strategy.
def modulated (factor : String → ℚ) (base : Dict String ℚ) : Dict String ℚ :=
  Dict.empty.insertAll (base.entries.map (fun entry => (entry.1, entry.2 * factor entry.1)))

namespace DynamicWeighting

def effectiveWeights (performance : String → ℚ) (default : ℚ) (weights : Dict String ℚ) (signals : List StrategySignal) :
    Dict String ℚ :=
  modulated (fun name => 1 / 2 + performance name) (WeightedAverage.weightsFor default weights signals)

end DynamicWeighting

namespace RegimeWeighting

def tableOf (multipliers : Dict String (Dict String ℚ)) (regime : String) : Dict String ℚ :=
  (multipliers.lookup regime).getD .empty

def effectiveWeights (multipliers : Dict String (Dict String ℚ)) (default : ℚ) (context : Option MarketContext)
    (weights : Dict String ℚ) (signals : List StrategySignal) : Dict String ℚ :=
  let base := WeightedAverage.weightsFor default weights signals
  match context.bind MarketContext.regime with
  | none => base
  | some regime =>
      let table := tableOf multipliers regime
      modulated (fun name => (table.lookup name).getD 1) base

end RegimeWeighting

inductive ConsensusAlgorithm where
  | majorityVoting
  | weightedVoting (default : ℚ)
  | weightedAverage (default : ℚ)
  | dynamicWeighting (performance : String → ℚ) (default : ℚ)
  | regimeWeighting (multipliers : Dict String (Dict String ℚ)) (default : ℚ)

def ConsensusAlgorithm.build (round : Rounding) (algorithm : ConsensusAlgorithm) (symbol : String)
    (signals : List StrategySignal) (weights : Dict String ℚ) (context : Option MarketContext) : ConsensusResult :=
  match algorithm with
  | .majorityVoting => MajorityVoting.build round symbol signals
  | .weightedVoting default => WeightedVoting.build round default symbol signals weights
  | .weightedAverage default => WeightedAverage.buildWith round "weighted_average"
      (WeightedAverage.weightsFor default weights) default symbol signals
  | .dynamicWeighting performance default => WeightedAverage.buildWith round "dynamic_weighting"
      (DynamicWeighting.effectiveWeights performance default weights) default symbol signals
  | .regimeWeighting multipliers default => WeightedAverage.buildWith round "regime_weighting"
      (RegimeWeighting.effectiveWeights multipliers default context weights) default symbol signals

end QuantEngine
