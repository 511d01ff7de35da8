import QuantEngine.Library.Tallies
import QuantEngine.Signals.Consensus

set_option autoImplicit false

namespace QuantEngine

open Tallies (Camp Poll poll)
open WeightedAverage (weightOf weightsFor directionOf Count)

-- What a consensus says, without the names and reasons it gives.
structure Verdict where
  direction : Direction
  score : ℚ
  agreement : ℚ
  deriving DecidableEq

def ConsensusResult.verdict (result : ConsensusResult) : Verdict := ⟨result.direction, result.score, result.agreement⟩

def undecided (agreement : ℚ) : Verdict := ⟨.neutral, 0, agreement⟩

def Verdict.rounded (round : Rounding) (verdict : Verdict) : Verdict :=
  { verdict with score := round 2 verdict.score, agreement := round 4 verdict.agreement }

-- The heavier camp wins, with the mean of its own points.
def heavier (drawn : ℚ) (poll : Poll ℚ) : Verdict :=
  if poll.total ≤ 0 then undecided 0
  else if poll.fore.mass = poll.against.mass then undecided drawn
  else if poll.against.mass < poll.fore.mass then
    ⟨.long, poll.fore.points / poll.fore.mass, poll.fore.mass / poll.total⟩
  else ⟨.short, poll.against.points / poll.against.mass, poll.against.mass / poll.total⟩

def share (poll : Poll ℚ) : Direction → ℚ
  | .long => poll.fore.mass / poll.total
  | .short => poll.against.mass / poll.total
  | .neutral => 1 / 2

-- The points of one camp are set off against those of the other.
def balanced (poll : Poll ℚ) : Verdict :=
  if poll.total ≤ 0 then undecided 0
  else
    let value := poll.lead / poll.total
    ⟨directionOf value, |value|, share poll (directionOf value)⟩

def isLong (signal : StrategySignal) : Bool := decide (signal.direction = .long)

def isShort (signal : StrategySignal) : Bool := decide (signal.direction = .short)

def ballots (weight : StrategySignal → ℚ) (signals : List StrategySignal) : Poll ℚ :=
  poll isLong isShort weight (fun signal => clampScore signal.score) signals

theorem clamp_score_bounds (value : ℚ) : 0 ≤ clampScore value ∧ clampScore value ≤ 100 :=
  ⟨le_max_left _ _, max_le (by norm_num) (min_le_left _ _)⟩

theorem towards_actionable (direction : Direction) (signals : List StrategySignal) (votes : direction ≠ .neutral) :
    towards direction (actionable signals) = towards direction signals := by
  rw [towards, actionable, List.filter_filter]
  apply List.filter_congr
  intro signal _
  by_cases own : signal.direction = direction
  · simp [own, votes]
  · simp [own]

theorem actionable_cons (signal : StrategySignal) (rest : List StrategySignal) :
    actionable (signal :: rest) = if signal.direction = .neutral then actionable rest else signal :: actionable rest := by
  by_cases neutral : signal.direction = .neutral
  · simp [actionable, neutral]
  · simp [actionable, neutral]

theorem towards_cons (direction : Direction) (signal : StrategySignal) (rest : List StrategySignal) :
    towards direction (signal :: rest) =
      if signal.direction = direction then signal :: towards direction rest else towards direction rest := by
  by_cases own : signal.direction = direction
  · simp [towards, own]
  · simp [towards, own]

-- A sum over the voters is one sum for each camp.
theorem actionable_sum (f : StrategySignal → ℚ) (signals : List StrategySignal) :
    ((actionable signals).map f).sum =
      ((towards .long signals).map f).sum + ((towards .short signals).map f).sum := by
  induction signals with
  | nil => simp [actionable, towards]
  | cons signal rest ih =>
      rw [actionable_cons, towards_cons, towards_cons]
      cases direction : signal.direction with
      | long => simp [ih, add_assoc]
      | short => simp [ih, add_left_comm]
      | neutral => simp [ih]

theorem total_ballots (weight : StrategySignal → ℚ) (signals : List StrategySignal) :
    (ballots weight signals).total = ((actionable signals).map weight).sum := (actionable_sum weight signals).symm

theorem idle_total (weight : StrategySignal → ℚ) (signals : List StrategySignal)
    (idle : (actionable signals).isEmpty = true) : (ballots weight signals).total = 0 := by
  rw [total_ballots, List.isEmpty_iff.mp idle]
  rfl

namespace MajorityVoting

theorem count_mass (direction : Direction) (signals : List StrategySignal) :
    (((towards direction signals).map (fun _ => (1 : ℚ))).sum) = (towards direction signals).length := by
  simp

theorem count_points (direction : Direction) (signals : List StrategySignal) :
    ((towards direction signals).map (fun signal => clampScore signal.score * 1)).sum =
      ((towards direction signals).map (fun signal => clampScore signal.score)).sum := by
  simp

-- Counting votes is weighing them when every vote weighs one.
theorem verdict_eq (symbol : String) (signals : List StrategySignal) :
    (build exact symbol signals).verdict = heavier (1 / 2) (ballots (fun _ => 1) signals) := by
  have total : (ballots (fun _ => 1) signals).total = (actionable signals).length := by
    rw [total_ballots]
    simp
  have long : (ballots (fun _ => 1) signals).fore.mass = (towards .long signals).length := count_mass .long signals
  have short : (ballots (fun _ => 1) signals).against.mass = (towards .short signals).length := count_mass .short signals
  have longPoints := count_points .long signals
  have shortPoints := count_points .short signals
  rw [build]
  by_cases idle : (actionable signals).isEmpty = true
  · rw [if_pos idle, heavier, if_pos (le_of_eq (idle_total _ _ idle))]
    rfl
  · have some : ¬ ((actionable signals).length : ℚ) ≤ 0 := by
      rw [not_le]
      exact_mod_cast List.length_pos_iff.mpr (fun none => idle (List.isEmpty_iff.mpr none))
    rw [if_neg idle, heavier, total, long, short, if_neg some]
    simp only [towards_actionable _ signals (show Direction.long ≠ .neutral by decide),
      towards_actionable _ signals (show Direction.short ≠ .neutral by decide), Nat.cast_inj, Nat.cast_lt]
    by_cases tie : (towards .long signals).length = (towards .short signals).length
    · rw [if_pos tie, if_pos tie]
      rfl
    · rw [if_neg tie, if_neg tie]
      by_cases more : (towards .short signals).length < (towards .long signals).length
      · simp only [if_pos more]
        exact congrArg (fun points => Verdict.mk .long (points / _) _) longPoints.symm
      · simp only [if_neg more]
        exact congrArg (fun points => Verdict.mk .short (points / _) _) shortPoints.symm

end MajorityVoting

def campsOf (weight : StrategySignal → ℚ) (voters : List StrategySignal) : Mass where
  long := ((towards .long voters).map weight).sum
  short := ((towards .short voters).map weight).sum

-- The loop over the voters adds each to the mass of its own camp.
theorem mass_fold (weight : StrategySignal → ℚ) (voters : List StrategySignal) (start : Mass) :
    voters.foldl (Mass.vote weight) start =
      { long := start.long + (campsOf weight voters).long, short := start.short + (campsOf weight voters).short } := by
  induction voters generalizing start with
  | nil => simp [campsOf, towards]
  | cons signal rest ih =>
      rw [List.foldl_cons, ih, campsOf, campsOf, towards_cons, towards_cons]
      cases direction : signal.direction with
      | long => simp [Mass.vote, Mass.add, direction, add_assoc]
      | short => simp [Mass.vote, Mass.add, direction, add_assoc]
      | neutral => simp [Mass.vote, Mass.add, direction]

theorem camps_actionable (weight : StrategySignal → ℚ) (signals : List StrategySignal) :
    campsOf weight (actionable signals) =
      { long := (ballots weight signals).fore.mass, short := (ballots weight signals).against.mass } := by
  rw [campsOf, towards_actionable .long signals (by decide), towards_actionable .short signals (by decide)]
  rfl

-- Starting from nothing, the loop ends with the masses of the two camps.
theorem mass_counted (weight : StrategySignal → ℚ) (signals : List StrategySignal) :
    (actionable signals).foldl (Mass.vote weight) {} =
      { long := (ballots weight signals).fore.mass, short := (ballots weight signals).against.mass } := by
  rw [mass_fold, camps_actionable]
  simp

namespace WeightedVoting

theorem verdict_eq (default : ℚ) (symbol : String) (signals : List StrategySignal) (weights : Dict String ℚ) :
    (build exact default symbol signals weights).verdict = heavier 0 (ballots (weightOf default weights) signals) := by
  have mass : massOf default weights (actionable signals) = _ := mass_counted (weightOf default weights) signals
  have long : ((towards .long signals).map (weightOf default weights)).sum =
    (ballots (weightOf default weights) signals).fore.mass := rfl
  have short : ((towards .short signals).map (weightOf default weights)).sum =
    (ballots (weightOf default weights) signals).against.mass := rfl
  have total : (ballots (weightOf default weights) signals).total =
    (ballots (weightOf default weights) signals).fore.mass + (ballots (weightOf default weights) signals).against.mass := rfl
  rw [build]
  by_cases idle : (actionable signals).isEmpty = true
  · rw [if_pos idle, heavier, if_pos (le_of_eq (idle_total _ _ idle))]
    rfl
  · rw [if_neg idle, heavier]
    simp only [mass, ← total]
    by_cases none : (ballots (weightOf default weights) signals).total ≤ 0
    · rw [if_pos (.inl none), if_pos none]
      rfl
    · by_cases tie : (ballots (weightOf default weights) signals).fore.mass =
        (ballots (weightOf default weights) signals).against.mass
      · rw [if_pos (.inr tie), if_neg none, if_pos tie]
        rfl
      · rw [if_neg (not_or.mpr ⟨none, tie⟩), if_neg none, if_neg tie]
        by_cases more : (ballots (weightOf default weights) signals).against.mass <
          (ballots (weightOf default weights) signals).fore.mass
        · have positive : 0 < (ballots (weightOf default weights) signals).fore.mass := by linarith
          simp only [if_pos more, towards_actionable .long signals (by decide), long, if_pos positive]
          rfl
        · have behind := lt_of_le_of_ne (not_lt.mp more) tie
          have positive : 0 < (ballots (weightOf default weights) signals).against.mass := by linarith
          simp only [if_neg more, towards_actionable .short signals (by decide), short, if_pos positive]
          rfl

end WeightedVoting

namespace WeightedAverage

theorem count_signed (weight : StrategySignal → ℚ) (voters : List StrategySignal) (start : Count) :
    (voters.foldl (Count.add weight) start).signed =
      start.signed + (voters.map (fun signal => sign signal * clampScore signal.score * weight signal)).sum := by
  induction voters generalizing start with
  | nil => simp
  | cons signal rest ih => rw [List.foldl_cons, ih, List.map_cons, List.sum_cons, Count.add, add_assoc]

theorem count_mass (weight : StrategySignal → ℚ) (voters : List StrategySignal) (start : Count) :
    (voters.foldl (Count.add weight) start).mass =
      voters.foldl (Mass.vote weight) start.mass := by
  induction voters generalizing start with
  | nil => rfl
  | cons signal rest ih => exact ih (start.add weight signal)

theorem signed_camp (direction : Direction) (side : ℚ) (weight : StrategySignal → ℚ) (signals : List StrategySignal)
    (own : ∀ signal, signal.direction = direction → sign signal = side) :
    ((towards direction signals).map (fun signal => sign signal * clampScore signal.score * weight signal)).sum =
      side * ((towards direction signals).map (fun signal => clampScore signal.score * weight signal)).sum := by
  rw [← List.sum_map_mul_left]
  apply congrArg List.sum
  apply List.map_congr_left
  intro signal member
  rw [own signal (of_decide_eq_true (List.mem_filter.mp member).2), mul_assoc]

-- The signed sum is the lead of the long camp.
theorem signed_lead (weight : StrategySignal → ℚ) (signals : List StrategySignal) :
    ((actionable signals).map (fun signal => sign signal * clampScore signal.score * weight signal)).sum =
      (ballots weight signals).lead := by
  have long := signed_camp .long 1 weight signals (fun signal own => if_pos own)
  have short := signed_camp .short (-1) weight signals (fun signal own => if_neg (by rw [own]; decide))
  rw [actionable_sum, long, short, one_mul, neg_one_mul, ← sub_eq_add_neg]
  rfl

theorem count_lead (weight : StrategySignal → ℚ) (signals : List StrategySignal) :
    ((actionable signals).foldl (Count.add weight) {}).signed = (ballots weight signals).lead := by
  rw [count_signed, signed_lead]
  exact zero_add _

theorem count_masses (weight : StrategySignal → ℚ) (signals : List StrategySignal) :
    ((actionable signals).foldl (Count.add weight) {}).mass =
      { long := (ballots weight signals).fore.mass, short := (ballots weight signals).against.mass } :=
  (count_mass weight _ {}).trans (mass_counted weight signals)

theorem mass_share (weight : StrategySignal → ℚ) (signals : List StrategySignal) (direction : Direction) :
    (if direction = .neutral then (1 / 2 : ℚ)
      else ((actionable signals).foldl (Count.add weight) {}).mass.of direction / (ballots weight signals).total) =
      share (ballots weight signals) direction := by
  rw [count_masses]
  cases direction with
  | long => rfl
  | short => rfl
  | neutral => rfl

theorem count_congr (voters : List StrategySignal) (weight other : StrategySignal → ℚ)
    (same : ∀ signal ∈ voters, weight signal = other signal) :
    voters.foldl (Count.add weight) {} = voters.foldl (Count.add other) {} := by
  apply List.foldl_ext
  intro count signal member
  rw [Count.add, Count.add, Mass.vote, Mass.vote, same signal member]

-- Only what the effective weights say of the voters counts.
theorem build_with_verdict (name : String) (effectiveWeights : List StrategySignal → Dict String ℚ) (default : ℚ)
    (symbol : String) (signals : List StrategySignal) (weight : StrategySignal → ℚ)
    (same : ∀ signal ∈ actionable signals, weightOf default (effectiveWeights (actionable signals)) signal = weight signal) :
    (buildWith exact name effectiveWeights default symbol signals).verdict = balanced (ballots weight signals) := by
  have total : ((actionable signals).map (weightOf default (effectiveWeights (actionable signals)))).sum =
      (ballots weight signals).total := by
    rw [total_ballots, List.map_congr_left same]
  have count := count_congr (actionable signals) _ _ same
  rw [buildWith]
  by_cases idle : (actionable signals).isEmpty = true
  · rw [if_pos idle, balanced, if_pos (le_of_eq (idle_total _ _ idle))]
    rfl
  · rw [if_neg idle, balanced]
    simp only [total, count]
    by_cases none : (ballots weight signals).total ≤ 0
    · rw [if_pos none, if_pos none]
      rfl
    · rw [if_neg none, if_neg none]
      simp only [count_lead, mass_share]
      rfl

-- The effective weights are keyed by name. Several signals of one strategy
-- enter the same weight, so each is found again.
theorem weights_for_voter (default : ℚ) (weights : Dict String ℚ) (voters : List StrategySignal) (voter : StrategySignal)
    (member : voter ∈ voters) :
    (weightsFor default weights voters).lookup voter.strategyName = some (weightOf default weights voter) := by
  apply Dict.lookup_built
  · exact List.mem_map.mpr ⟨_, List.mem_map_of_mem member, rfl⟩
  · intro entry listed named
    obtain ⟨other, -, rfl⟩ := List.mem_map.mp listed
    exact congrArg (fun name => (weights.lookup name).getD default) named

theorem effective_weight (default : ℚ) (weights : Dict String ℚ) (voters : List StrategySignal) (voter : StrategySignal)
    (member : voter ∈ voters) :
    weightOf default (weightsFor default weights voters) voter = weightOf default weights voter := by
  have base := weights_for_voter default weights voters voter member
  rw [weightOf, base, Option.getD_some]

end WeightedAverage

theorem modulated_lookup (factor : String → ℚ) (base : Dict String ℚ) (name : String) (weight : ℚ)
    (found : base.lookup name = some weight) : (modulated factor base).lookup name = some (weight * factor name) := by
  have listed := base.lookup_mem name weight found
  apply Dict.lookup_built
  · exact List.mem_map.mpr ⟨_, List.mem_map_of_mem listed, rfl⟩
  · intro entry member named
    obtain ⟨⟨other, stored⟩, own, rfl⟩ := List.mem_map.mp member
    cases named
    rw [base.entry_unique other stored weight own listed]

namespace RegimeWeighting

def factor (multipliers : Dict String (Dict String ℚ)) (context : Option MarketContext) (name : String) : ℚ :=
  match context.bind MarketContext.regime with
  | none => 1
  | some regime => ((tableOf multipliers regime).lookup name).getD 1

theorem effective_weight (multipliers : Dict String (Dict String ℚ)) (default : ℚ) (context : Option MarketContext)
    (weights : Dict String ℚ) (voters : List StrategySignal) (voter : StrategySignal) (member : voter ∈ voters) :
    weightOf default (effectiveWeights multipliers default context weights voters) voter =
      weightOf default weights voter * factor multipliers context voter.strategyName := by
  have base := WeightedAverage.weights_for_voter default weights voters voter member
  rw [effectiveWeights, factor]
  cases context.bind MarketContext.regime with
  | none => rw [weightOf, base, mul_one, Option.getD_some]
  | some regime => rw [weightOf, modulated_lookup _ _ _ _ base, Option.getD_some]

end RegimeWeighting

theorem DynamicWeighting.effective_weight (performance : String → ℚ) (default : ℚ) (weights : Dict String ℚ)
    (voters : List StrategySignal) (voter : StrategySignal) (member : voter ∈ voters) :
    weightOf default (effectiveWeights performance default weights voters) voter =
      weightOf default weights voter * (1 / 2 + performance voter.strategyName) := by
  have base := WeightedAverage.weights_for_voter default weights voters voter member
  rw [effectiveWeights, weightOf, modulated_lookup _ _ _ _ base, Option.getD_some]

section Rounded

variable (round : Rounding) (zero : ∀ digits, round digits 0 = 0) (half : round 4 (1 / 2) = 1 / 2)
include zero

theorem empty_rounded (symbol method reason : String) :
    (emptyConsensus symbol method reason).verdict = (emptyConsensus symbol method reason).verdict.rounded round := by
  rw [Verdict.rounded, ConsensusResult.verdict, emptyConsensus, zero, zero]

theorem WeightedVoting.build_rounded (default : ℚ) (symbol : String) (signals : List StrategySignal) (weights : Dict String ℚ) :
    (build round default symbol signals weights).verdict = (build exact default symbol signals weights).verdict.rounded round := by
  rw [build, build]
  split
  · exact empty_rounded round zero _ _ _
  · dsimp only
    split
    · exact empty_rounded round zero _ _ _
    · rfl

theorem WeightedAverage.build_rounded (name : String) (effectiveWeights : List StrategySignal → Dict String ℚ) (default : ℚ)
    (symbol : String) (signals : List StrategySignal) :
    (buildWith round name effectiveWeights default symbol signals).verdict =
      (buildWith exact name effectiveWeights default symbol signals).verdict.rounded round := by
  rw [buildWith, buildWith]
  split
  · exact empty_rounded round zero _ _ _
  · dsimp only
    split
    · exact empty_rounded round zero _ _ _
    · rfl

include half

theorem MajorityVoting.build_rounded (symbol : String) (signals : List StrategySignal) :
    (build round symbol signals).verdict = (build exact symbol signals).verdict.rounded round := by
  rw [build, build]
  split
  · exact empty_rounded round zero _ _ _
  · dsimp only
    split
    · rw [Verdict.rounded, ConsensusResult.verdict, zero, half]
    · rfl

-- Rounding comes last and changes nothing else.
theorem ConsensusAlgorithm.build_rounded (algorithm : ConsensusAlgorithm) (symbol : String) (signals : List StrategySignal)
    (weights : Dict String ℚ) (context : Option MarketContext) :
    (algorithm.build round symbol signals weights context).verdict =
      (algorithm.build exact symbol signals weights context).verdict.rounded round := by
  cases algorithm with
  | majorityVoting => exact MajorityVoting.build_rounded round zero half symbol signals
  | weightedVoting default => exact WeightedVoting.build_rounded round zero default symbol signals weights
  | weightedAverage default => exact WeightedAverage.build_rounded round zero _ _ default symbol signals
  | dynamicWeighting performance default => exact WeightedAverage.build_rounded round zero _ _ default symbol signals
  | regimeWeighting multipliers default => exact WeightedAverage.build_rounded round zero _ _ default symbol signals

end Rounded

namespace ConsensusAlgorithm

-- The verdict of the code is the one in exact arithmetic, rounded at the end.
theorem built_verdict (algorithm : ConsensusAlgorithm) (symbol : String) (signals : List StrategySignal)
    (weights : Dict String ℚ) (context : Option MarketContext) :
    (algorithm.build Decimal.roundTo symbol signals weights context).verdict =
      (algorithm.build exact symbol signals weights context).verdict.rounded Decimal.roundTo := by
  apply build_rounded
  · exact fun digits => Decimal.round_to_grid digits 0 ⟨0, by simp⟩
  · exact Decimal.round_to_grid 4 (1 / 2) ⟨5000, by norm_num [Decimal.scale]⟩

def verdict (algorithm : ConsensusAlgorithm) (symbol : String) (signals : List StrategySignal) (weights : Dict String ℚ)
    (context : Option MarketContext) : Verdict :=
  (algorithm.build exact symbol signals weights context).verdict

def defaultWeight : ConsensusAlgorithm → ℚ
  | .majorityVoting => 1
  | .weightedVoting default => default
  | .weightedAverage default => default
  | .dynamicWeighting _ default => default
  | .regimeWeighting _ default => default

def factor (algorithm : ConsensusAlgorithm) (context : Option MarketContext) (name : String) : ℚ :=
  match algorithm with
  | .dynamicWeighting performance _ => 1 / 2 + performance name
  | .regimeWeighting multipliers _ => RegimeWeighting.factor multipliers context name
  | _ => 1

def weigh (algorithm : ConsensusAlgorithm) (weights : Dict String ℚ) (context : Option MarketContext)
    (signal : StrategySignal) : ℚ :=
  match algorithm with
  | .majorityVoting => 1
  | _ => weightOf algorithm.defaultWeight weights signal * algorithm.factor context signal.strategyName

def rule : ConsensusAlgorithm → Poll ℚ → Verdict
  | .majorityVoting => heavier (1 / 2)
  | .weightedVoting _ => heavier 0
  | _ => balanced

-- Each algorithm is one of the two rules, over ballots of its own weights.
theorem verdict_eq (algorithm : ConsensusAlgorithm) (symbol : String) (signals : List StrategySignal)
    (weights : Dict String ℚ) (context : Option MarketContext) :
    algorithm.verdict symbol signals weights context = algorithm.rule (ballots (algorithm.weigh weights context) signals) := by
  cases algorithm with
  | majorityVoting => exact MajorityVoting.verdict_eq symbol signals
  | weightedVoting default =>
      have plain : weigh (.weightedVoting default) weights context = weightOf default weights :=
        funext (fun signal => mul_one _)
      rw [plain]
      exact WeightedVoting.verdict_eq default symbol signals weights
  | weightedAverage default =>
      apply WeightedAverage.build_with_verdict
      intro signal member
      rw [WeightedAverage.effective_weight default weights _ signal member]
      exact (mul_one _).symm
  | dynamicWeighting performance default =>
      exact WeightedAverage.build_with_verdict _ _ _ _ _ _ (DynamicWeighting.effective_weight performance default weights _)
  | regimeWeighting multipliers default =>
      exact WeightedAverage.build_with_verdict _ _ _ _ _ _
        (RegimeWeighting.effective_weight multipliers default context weights _)

end ConsensusAlgorithm

end QuantEngine
