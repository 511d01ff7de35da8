import Mathlib.Data.Fintype.EquivFin
import QuantEngine.Signals.Ballots

set_option autoImplicit false

namespace QuantEngine

open Tallies (Poll poll)
open WeightedAverage (weightOf directionOf)

namespace Direction

def mirrored : Direction → Direction
  | .long => .short
  | .short => .long
  | .neutral => .neutral

theorem mirrored_long (direction : Direction) : direction.mirrored = .long ↔ direction = .short := by
  cases direction <;> decide

theorem mirrored_short (direction : Direction) : direction.mirrored = .short ↔ direction = .long := by
  cases direction <;> decide

end Direction

def StrategySignal.mirrored (signal : StrategySignal) : StrategySignal :=
  { signal with direction := signal.direction.mirrored }

def Verdict.mirrored (verdict : Verdict) : Verdict := { verdict with direction := verdict.direction.mirrored }

def Verdict.InRange (verdict : Verdict) : Prop :=
  (0 ≤ verdict.score ∧ verdict.score ≤ 100) ∧ (0 ≤ verdict.agreement ∧ verdict.agreement ≤ 1)

def NonNegative (weights : Dict String ℚ) : Prop := ∀ name weight, weights.lookup name = some weight → 0 ≤ weight

theorem direction_of_neg (value : ℚ) : directionOf (-value) = (directionOf value).mirrored := by
  rw [directionOf, directionOf, abs_neg]
  by_cases small : |value| < 1 / 1000000000
  · rw [if_pos small, if_pos small]
    rfl
  · rw [if_neg small, if_neg small]
    have nonzero : value ≠ 0 := fun zero => small (by rw [zero]; norm_num)
    by_cases positive : 0 < value
    · rw [if_neg (by linarith), if_pos positive]
      rfl
    · have negative := lt_of_le_of_ne (not_lt.mp positive) nonzero
      rw [if_pos (by linarith), if_neg positive]
      rfl

theorem share_swap (poll : Poll ℚ) (direction : Direction) : share poll.swap direction.mirrored = share poll direction := by
  cases direction with
  | long => rw [Direction.mirrored, share, share, poll.swap_total]; rfl
  | short => rw [Direction.mirrored, share, share, poll.swap_total]; rfl
  | neutral => rfl

theorem heavier_swap (drawn : ℚ) (poll : Poll ℚ) : heavier drawn poll.swap = (heavier drawn poll).mirrored := by
  rw [heavier, heavier, poll.swap_total, Poll.swap]
  by_cases none : poll.total ≤ 0
  · rw [if_pos none, if_pos none]
    rfl
  · rw [if_neg none, if_neg none]
    by_cases tie : poll.fore.mass = poll.against.mass
    · rw [if_pos tie.symm, if_pos tie]
      rfl
    · rw [if_neg (Ne.symm tie), if_neg tie]
      by_cases more : poll.against.mass < poll.fore.mass
      · rw [if_neg (not_lt_of_gt more), if_pos more]
        rfl
      · rw [if_pos (lt_of_le_of_ne (not_lt.mp more) tie), if_neg more]
        rfl

theorem balanced_swap (poll : Poll ℚ) : balanced poll.swap = (balanced poll).mirrored := by
  rw [balanced, balanced, poll.swap_total]
  by_cases none : poll.total ≤ 0
  · rw [if_pos none, if_pos none]
    rfl
  · rw [if_neg none, if_neg none, poll.swap_lead, neg_div]
    simp only [abs_neg, direction_of_neg, share_swap]
    rfl

theorem scaled_nonpos (c : ℚ) (positive : 0 < c) (value : ℚ) : c * value ≤ 0 ↔ value ≤ 0 := by
  have same : c * value ≤ c * 0 ↔ value ≤ 0 := mul_le_mul_iff_right₀ positive
  rwa [mul_zero] at same

theorem share_scale (c : ℚ) (positive : 0 < c) (poll : Poll ℚ) (direction : Direction) :
    share (poll.scale c) direction = share poll direction := by
  cases direction with
  | long => rw [share, share, poll.scale_total]; exact mul_div_mul_left _ _ positive.ne'
  | short => rw [share, share, poll.scale_total]; exact mul_div_mul_left _ _ positive.ne'
  | neutral => rfl

theorem heavier_scale (drawn c : ℚ) (positive : 0 < c) (poll : Poll ℚ) :
    heavier drawn (poll.scale c) = heavier drawn poll := by
  have ratio (a b : ℚ) : c * a / (c * b) = a / b := mul_div_mul_left a b positive.ne'
  rw [heavier, heavier, poll.scale_total]
  simp only [scaled_nonpos c positive, Poll.scale, Tallies.Camp.scale, mul_right_inj' positive.ne',
    mul_lt_mul_iff_right₀ positive, ratio]

theorem balanced_scale (c : ℚ) (positive : 0 < c) (poll : Poll ℚ) : balanced (poll.scale c) = balanced poll := by
  have ratio : c * poll.lead / (c * poll.total) = poll.lead / poll.total := mul_div_mul_left _ _ positive.ne'
  rw [balanced, balanced, poll.scale_total, poll.scale_lead]
  simp only [scaled_nonpos c positive, ratio, share_scale c positive]

theorem unit_share (part whole : ℚ) (nonneg : 0 ≤ part) (below : part ≤ whole) : 0 ≤ part / whole ∧ part / whole ≤ 1 :=
  ⟨div_nonneg nonneg (nonneg.trans below), div_le_one_of_le₀ below (nonneg.trans below)⟩

theorem mean_bounds (camp : Tallies.Camp ℚ) (within : camp.Within 100) (positive : 0 < camp.mass) :
    0 ≤ camp.points / camp.mass ∧ camp.points / camp.mass ≤ 100 :=
  ⟨div_nonneg within.points within.mass, (div_le_iff₀ positive).mpr within.below⟩

theorem share_bounds (poll : Poll ℚ) (within : poll.Within 100) (direction : Direction) :
    0 ≤ share poll direction ∧ share poll direction ≤ 1 := by
  have fore := within.fore.mass
  have against := within.against.mass
  cases direction with
  | long => exact unit_share _ _ fore (le_add_of_nonneg_right against)
  | short => exact unit_share _ _ against (le_add_of_nonneg_left fore)
  | neutral => exact ⟨by norm_num [share], by norm_num [share]⟩

theorem heavier_range (drawn : ℚ) (drawnUnit : 0 ≤ drawn ∧ drawn ≤ 1) (poll : Poll ℚ) (within : poll.Within 100) :
    (heavier drawn poll).InRange := by
  have fore := within.fore.mass
  have against := within.against.mass
  have none : (0 : ℚ) ≤ 0 ∧ (0 : ℚ) ≤ 100 := by norm_num
  rw [heavier]
  by_cases idle : poll.total ≤ 0
  · rw [if_pos idle]
    exact ⟨none, le_refl 0, by norm_num [undecided]⟩
  · rw [if_neg idle]
    by_cases tie : poll.fore.mass = poll.against.mass
    · rw [if_pos tie]
      exact ⟨none, drawnUnit⟩
    · rw [if_neg tie]
      by_cases more : poll.against.mass < poll.fore.mass
      · rw [if_pos more]
        exact ⟨mean_bounds _ within.fore (against.trans_lt more), share_bounds poll within .long⟩
      · rw [if_neg more]
        have behind := lt_of_le_of_ne (not_lt.mp more) tie
        exact ⟨mean_bounds _ within.against (fore.trans_lt behind), share_bounds poll within .short⟩

theorem balanced_range (poll : Poll ℚ) (within : poll.Within 100) : (balanced poll).InRange := by
  rw [balanced]
  by_cases idle : poll.total ≤ 0
  · rw [if_pos idle]
    exact ⟨⟨le_refl 0, by norm_num [undecided]⟩, le_refl 0, by norm_num [undecided]⟩
  · rw [if_neg idle]
    have positive := not_le.mp idle
    refine ⟨⟨abs_nonneg _, ?_⟩, share_bounds poll within _⟩
    change |poll.lead / poll.total| ≤ 100
    rw [abs_div, abs_of_pos positive, div_le_iff₀ positive]
    exact Tallies.lead_within 100 poll within

def overdrawn (e : ℚ) : Poll ℚ := ⟨⟨-2 * e, 100 * (-2 * e)⟩, ⟨e, 0⟩⟩

-- Where the losing camp weighs less than nothing, the winners hold more than
-- all of the total.
theorem overdrawn_share (e : ℚ) (negative : e < 0) : share (overdrawn e) .long = 2 := by
  change -2 * e / (-2 * e + e) = 2
  rw [show -2 * e + e = -e by ring, div_eq_iff (by linarith)]
  ring

theorem heavier_overdrawn (drawn e : ℚ) (negative : e < 0) : (heavier drawn (overdrawn e)).agreement = 2 := by
  have some : ¬ (overdrawn e).total ≤ 0 := fun none => by
    change -2 * e + e ≤ 0 at none
    linarith
  have fore : (overdrawn e).fore.mass = -2 * e := rfl
  have against : (overdrawn e).against.mass = e := rfl
  rw [heavier, if_neg some, if_neg (by rw [fore, against]; linarith), if_pos (by rw [fore, against]; linarith)]
  exact overdrawn_share e negative

theorem balanced_overdrawn (e : ℚ) (negative : e < 0) : (balanced (overdrawn e)).agreement = 2 := by
  have positive : 0 < (overdrawn e).total := by
    change 0 < -2 * e + e
    linarith
  have value : (overdrawn e).lead / (overdrawn e).total = 200 := by
    rw [div_eq_iff positive.ne']
    change 100 * (-2 * e) - 0 = 200 * (-2 * e + e)
    ring
  have long : directionOf 200 = .long := by
    rw [directionOf, if_neg (by norm_num), if_pos (by norm_num)]
  rw [balanced, if_neg (not_le.mpr positive), value]
  simp only [long]
  exact overdrawn_share e negative

namespace ConsensusAlgorithm

-- Whichever algorithm it is, one of the two rules decides.
theorem rule_cases (algorithm : ConsensusAlgorithm) :
    (∃ drawn, (0 ≤ drawn ∧ drawn ≤ 1) ∧ algorithm.rule = heavier drawn) ∨ algorithm.rule = balanced := by
  cases algorithm with
  | majorityVoting => exact .inl ⟨1 / 2, by norm_num, rfl⟩
  | weightedVoting default => exact .inl ⟨0, by norm_num, rfl⟩
  | weightedAverage default => exact .inr rfl
  | dynamicWeighting performance default => exact .inr rfl
  | regimeWeighting multipliers default => exact .inr rfl

theorem rule_swap (algorithm : ConsensusAlgorithm) (poll : Poll ℚ) :
    algorithm.rule poll.swap = (algorithm.rule poll).mirrored := by
  rcases algorithm.rule_cases with ⟨drawn, -, rule⟩ | rule
  · rw [rule, heavier_swap]
  · rw [rule, balanced_swap]

theorem rule_scale (algorithm : ConsensusAlgorithm) (c : ℚ) (positive : 0 < c) (poll : Poll ℚ) :
    algorithm.rule (poll.scale c) = algorithm.rule poll := by
  rcases algorithm.rule_cases with ⟨drawn, -, rule⟩ | rule
  · rw [rule, heavier_scale drawn c positive]
  · rw [rule, balanced_scale c positive]

theorem rule_range (algorithm : ConsensusAlgorithm) (poll : Poll ℚ) (within : poll.Within 100) :
    (algorithm.rule poll).InRange := by
  rcases algorithm.rule_cases with ⟨drawn, unit, rule⟩ | rule
  · rw [rule]
    exact heavier_range drawn unit poll within
  · rw [rule]
    exact balanced_range poll within

theorem rule_overdrawn (algorithm : ConsensusAlgorithm) (e : ℚ) (negative : e < 0) :
    (algorithm.rule (overdrawn e)).agreement = 2 := by
  rcases algorithm.rule_cases with ⟨drawn, -, rule⟩ | rule
  · rw [rule, heavier_overdrawn drawn e negative]
  · rw [rule, balanced_overdrawn e negative]

theorem order_free (algorithm : ConsensusAlgorithm) (symbol : String) (signals others : List StrategySignal)
    (perm : signals.Perm others) (weights : Dict String ℚ) (context : Option MarketContext) :
    algorithm.verdict symbol signals weights context = algorithm.verdict symbol others weights context := by
  rw [verdict_eq, verdict_eq, ballots, ballots, Tallies.poll_perm _ _ _ _ signals others perm]

end ConsensusAlgorithm

theorem ballots_mirrored (weight : StrategySignal → ℚ) (signals : List StrategySignal)
    (same : weight ∘ StrategySignal.mirrored = weight) :
    ballots weight (signals.map StrategySignal.mirrored) = (ballots weight signals).swap := by
  apply Tallies.poll_swapped _ _ _ _ _ _ _ _ same rfl
  · exact funext (fun signal => decide_eq_decide.mpr signal.direction.mirrored_long)
  · exact funext (fun signal => decide_eq_decide.mpr signal.direction.mirrored_short)

namespace ConsensusAlgorithm

theorem mirrored_verdict (algorithm : ConsensusAlgorithm) (symbol : String) (signals : List StrategySignal)
    (weights : Dict String ℚ) (context : Option MarketContext) :
    algorithm.verdict symbol (signals.map StrategySignal.mirrored) weights context =
      (algorithm.verdict symbol signals weights context).mirrored := by
  have same : algorithm.weigh weights context ∘ StrategySignal.mirrored = algorithm.weigh weights context := by
    cases algorithm <;> rfl
  rw [verdict_eq, verdict_eq, ballots_mirrored _ _ same, rule_swap]

-- The default weight belongs to the scale of the weights. The factors do not.
def scaled (c : ℚ) : ConsensusAlgorithm → ConsensusAlgorithm
  | .majorityVoting => .majorityVoting
  | .weightedVoting default => .weightedVoting (c * default)
  | .weightedAverage default => .weightedAverage (c * default)
  | .dynamicWeighting performance default => .dynamicWeighting performance (c * default)
  | .regimeWeighting multipliers default => .regimeWeighting multipliers (c * default)

theorem weight_of_scaled (c default : ℚ) (weights : Dict String ℚ) (signal : StrategySignal) :
    weightOf (c * default) (weights.mapValues (c * ·)) signal = c * weightOf default weights signal := by
  rw [weightOf, weightOf, Dict.lookup_map_values]
  cases weights.lookup signal.strategyName with
  | none => rfl
  | some weight => rfl

theorem weigh_eq (algorithm : ConsensusAlgorithm) (weighs : algorithm ≠ .majorityVoting) (weights : Dict String ℚ)
    (context : Option MarketContext) (signal : StrategySignal) :
    algorithm.weigh weights context signal =
      weightOf algorithm.defaultWeight weights signal * algorithm.factor context signal.strategyName := by
  cases algorithm with
  | majorityVoting => exact absurd rfl weighs
  | weightedVoting default => rfl
  | weightedAverage default => rfl
  | dynamicWeighting performance default => rfl
  | regimeWeighting multipliers default => rfl

theorem scaled_weigh (algorithm : ConsensusAlgorithm) (weighs : algorithm ≠ .majorityVoting) (c : ℚ)
    (weights : Dict String ℚ) (context : Option MarketContext) :
    (algorithm.scaled c).weigh (weights.mapValues (c * ·)) context = fun signal => c * algorithm.weigh weights context signal := by
  have kept : algorithm.scaled c ≠ .majorityVoting := by
    cases algorithm <;> first | exact absurd rfl weighs | exact nofun
  have default : (algorithm.scaled c).defaultWeight = c * algorithm.defaultWeight := by
    cases algorithm <;> first | exact absurd rfl weighs | rfl
  have factor (name : String) : (algorithm.scaled c).factor context name = algorithm.factor context name := by
    cases algorithm <;> rfl
  funext signal
  rw [weigh_eq _ kept, weigh_eq _ weighs, default, factor, weight_of_scaled, mul_assoc]

theorem scaled_rule (algorithm : ConsensusAlgorithm) (c : ℚ) : (algorithm.scaled c).rule = algorithm.rule := by
  cases algorithm <;> rfl

theorem scaled_verdict (algorithm : ConsensusAlgorithm) (c : ℚ) (positive : 0 < c) (symbol : String)
    (signals : List StrategySignal) (weights : Dict String ℚ) (context : Option MarketContext) :
    (algorithm.scaled c).verdict symbol signals (weights.mapValues (c * ·)) context =
      algorithm.verdict symbol signals weights context := by
  by_cases majority : algorithm = .majorityVoting
  · rw [majority]
    rfl
  · rw [verdict_eq, verdict_eq, scaled_rule, scaled_weigh algorithm majority, ballots, Tallies.poll_scaled,
      rule_scale algorithm c positive]
    rfl

-- A performance factor is documented to lie between zero and one.
def Documented : ConsensusAlgorithm → Prop
  | .dynamicWeighting performance _ => ∀ name, 0 ≤ performance name ∧ performance name ≤ 1
  | _ => True

-- What no strategy can turn negative: the majority takes no weights, and the
-- others need a default and factors that are not negative.
def NeverNegative (algorithm : ConsensusAlgorithm) (context : Option MarketContext) : Prop :=
  match algorithm with
  | .majorityVoting => True
  | _ => 0 ≤ algorithm.defaultWeight ∧ ∀ name, 0 ≤ algorithm.factor context name

theorem never_negative_iff (algorithm : ConsensusAlgorithm) (weighs : algorithm ≠ .majorityVoting)
    (context : Option MarketContext) :
    algorithm.NeverNegative context ↔ 0 ≤ algorithm.defaultWeight ∧ ∀ name, 0 ≤ algorithm.factor context name := by
  cases algorithm with
  | majorityVoting => exact absurd rfl weighs
  | weightedVoting default => rfl
  | weightedAverage default => rfl
  | dynamicWeighting performance default => rfl
  | regimeWeighting multipliers default => rfl

theorem weigh_nonneg (algorithm : ConsensusAlgorithm) (weights : Dict String ℚ) (context : Option MarketContext)
    (never : algorithm.NeverNegative context) (nonneg : NonNegative weights) (signal : StrategySignal) :
    0 ≤ algorithm.weigh weights context signal := by
  by_cases majority : algorithm = .majorityVoting
  · rw [majority]
    exact zero_le_one
  · obtain ⟨default, factors⟩ := (never_negative_iff algorithm majority context).mp never
    have base : 0 ≤ weightOf algorithm.defaultWeight weights signal := by
      rw [weightOf]
      cases found : weights.lookup signal.strategyName with
      | none => exact default
      | some weight => exact nonneg _ weight found
    rw [weigh_eq _ majority]
    exact mul_nonneg base (factors _)

theorem in_range (algorithm : ConsensusAlgorithm) (symbol : String) (signals : List StrategySignal)
    (weights : Dict String ℚ) (context : Option MarketContext) (never : algorithm.NeverNegative context)
    (nonneg : NonNegative weights) : (algorithm.verdict symbol signals weights context).InRange := by
  rw [verdict_eq]
  apply rule_range
  exact Tallies.poll_within 100 _ _ _ _ signals (algorithm.weigh_nonneg weights context never nonneg)
    (fun signal => clamp_score_bounds signal.score)

-- A table names finitely many strategies, so some other one keeps its weight.
theorem lifted_name (algorithm : ConsensusAlgorithm) (documented : algorithm.Documented) (context : Option MarketContext)
    (name : String) : ∃ other, other ≠ name ∧ 0 < algorithm.factor context other := by
  obtain ⟨other, absent⟩ := Infinite.exists_notMem_finset {name}
  have apart : other ≠ name := fun same => absent (Finset.mem_singleton.mpr same)
  cases algorithm with
  | majorityVoting => exact ⟨other, apart, zero_lt_one⟩
  | weightedVoting default => exact ⟨other, apart, zero_lt_one⟩
  | weightedAverage default => exact ⟨other, apart, zero_lt_one⟩
  | dynamicWeighting performance default =>
      have factor := (documented other).1
      exact ⟨other, apart, by change 0 < 1 / 2 + performance other; linarith⟩
  | regimeWeighting multipliers default =>
      change ∃ other, other ≠ name ∧ 0 < RegimeWeighting.factor multipliers context other
      simp only [RegimeWeighting.factor]
      cases context.bind MarketContext.regime with
      | none => exact ⟨other, apart, zero_lt_one⟩
      | some regime =>
          obtain ⟨fresh, absent⟩ := Infinite.exists_notMem_finset
            (name :: (RegimeWeighting.tableOf multipliers regime).keys).toFinset
          rw [List.mem_toFinset, List.mem_cons, not_or, ← Dict.lookup_none_iff] at absent
          refine ⟨fresh, absent.1, ?_⟩
          simp only [absent.2, Option.getD_none]
          exact zero_lt_one

end ConsensusAlgorithm

def ballot (name : String) (direction : Direction) (score : ℚ) : StrategySignal where
  signalId := name
  strategyName := name
  symbol := "BTCUSDT"
  timestamp := 0
  direction := direction
  confidence := 1
  score := score

def rivals (first second : String) : List StrategySignal := [ballot first .long 100, ballot second .short 0]

theorem ballots_rivals (weight : StrategySignal → ℚ) (first second : String) (e : ℚ)
    (double : weight (ballot first .long 100) = -2 * e) (single : weight (ballot second .short 0) = e) :
    ballots weight (rivals first second) = overdrawn e := by
  have top : clampScore (ballot first .long 100).score = 100 := by norm_num [clampScore, ballot]
  have bottom : clampScore (ballot second .short 0).score = 0 := by norm_num [clampScore, ballot]
  have long : (rivals first second).filter isLong = [ballot first .long 100] := rfl
  have short : (rivals first second).filter isShort = [ballot second .short 0] := rfl
  rw [ballots, poll, long, short]
  simp only [Tallies.camp, overdrawn, List.map_cons, List.map_nil, List.sum_cons, List.sum_nil, double, single, top,
    bottom, zero_mul, add_zero]

namespace ConsensusAlgorithm

theorem weigh_ballot (algorithm : ConsensusAlgorithm) (weighs : algorithm ≠ .majorityVoting) (weights : Dict String ℚ)
    (context : Option MarketContext) (name : String) (direction : Direction) (score : ℚ) :
    algorithm.weigh weights context (ballot name direction score) =
      (weights.lookup name).getD algorithm.defaultWeight * algorithm.factor context name :=
  weigh_eq algorithm weighs weights context (ballot name direction score)

-- One strategy weighs less than nothing, another twice as much the other way.
theorem rivals_out_of_range (algorithm : ConsensusAlgorithm) (weighs : algorithm ≠ .majorityVoting) (symbol first second : String)
    (weights : Dict String ℚ) (context : Option MarketContext) (e : ℚ) (negative : e < 0)
    (positive : 0 < algorithm.factor context first)
    (raised : weights.lookup first = some (-2 * e / algorithm.factor context first))
    (lowered : (weights.lookup second).getD algorithm.defaultWeight * algorithm.factor context second = e) :
    ¬ (algorithm.verdict symbol (rivals first second) weights context).InRange := by
  have double : algorithm.weigh weights context (ballot first .long 100) = -2 * e := by
    rw [weigh_ballot algorithm weighs, raised, Option.getD_some, div_mul_cancel₀ _ positive.ne']
  have single : algorithm.weigh weights context (ballot second .short 0) = e := by
    rw [weigh_ballot algorithm weighs, lowered]
  intro range
  have unit := range.2.2
  rw [verdict_eq, ballots_rivals _ first second e double single, rule_overdrawn algorithm e negative] at unit
  norm_num at unit

theorem raise_nonneg (e factor : ℚ) (negative : e < 0) (positive : 0 < factor) : 0 ≤ -2 * e / factor :=
  div_nonneg (by linarith) positive.le

theorem out_of_range (algorithm : ConsensusAlgorithm) (documented : algorithm.Documented) (symbol : String)
    (context : Option MarketContext) (broken : ¬ algorithm.NeverNegative context) :
    ∃ signals weights, NonNegative weights ∧ ¬ (algorithm.verdict symbol signals weights context).InRange := by
  have weighs : algorithm ≠ .majorityVoting := fun majority => broken (by rw [majority]; trivial)
  rw [never_negative_iff algorithm weighs context] at broken
  by_cases lowered : ∃ name, algorithm.factor context name < 0
  · obtain ⟨second, negative⟩ := lowered
    obtain ⟨first, apart, positive⟩ := algorithm.lifted_name documented context second
    let raised := -2 * algorithm.factor context second / algorithm.factor context first
    have find (name : String) : ((Dict.empty.insert first raised).insert second 1).lookup name =
        if name = second then some 1 else if name = first then some raised else none := by
      rw [Dict.lookup_insert, Dict.lookup_insert]
      rfl
    refine ⟨rivals first second, (Dict.empty.insert first raised).insert second 1, ?_, ?_⟩
    · intro name weight found
      rw [find] at found
      split_ifs at found with here there
      · exact Option.some.inj found ▸ zero_le_one
      · exact Option.some.inj found ▸ raise_nonneg _ _ negative positive
    · apply algorithm.rivals_out_of_range weighs symbol first second _ context _ negative positive
      · rw [find, if_neg apart, if_pos rfl]
      · rw [find, if_pos rfl]
        exact one_mul _
  · have factors : ∀ name, 0 ≤ algorithm.factor context name := fun name => not_lt.mp (fun less => lowered ⟨name, less⟩)
    have default : algorithm.defaultWeight < 0 := not_le.mp (fun nonneg => broken ⟨nonneg, factors⟩)
    obtain ⟨second, -, own⟩ := algorithm.lifted_name documented context ""
    obtain ⟨first, apart, positive⟩ := algorithm.lifted_name documented context second
    have negative : algorithm.defaultWeight * algorithm.factor context second < 0 := mul_neg_of_neg_of_pos default own
    let raised := -2 * (algorithm.defaultWeight * algorithm.factor context second) / algorithm.factor context first
    have find (name : String) : (Dict.empty.insert first raised).lookup name = if name = first then some raised else none := by
      rw [Dict.lookup_insert]
      rfl
    refine ⟨rivals first second, Dict.empty.insert first raised, ?_, ?_⟩
    · intro name weight found
      rw [find] at found
      split_ifs at found with here
      exact Option.some.inj found ▸ raise_nonneg _ _ negative positive
    · apply algorithm.rivals_out_of_range weighs symbol first second _ context _ negative positive
      · rw [find, if_pos rfl]
      · rw [find, if_neg apart.symm]
        rfl

theorem neutral_factors (default : ℚ) (symbol : String) (signals : List StrategySignal) (weights : Dict String ℚ)
    (context : Option MarketContext) :
    (dynamicWeighting (fun _ => 1 / 2) default).verdict symbol signals weights context =
      (weightedAverage default).verdict symbol signals weights context := by
  have same : weigh (dynamicWeighting (fun _ => 1 / 2) default) weights context =
      weigh (weightedAverage default) weights context := by
    funext signal
    exact congrArg (weightOf default weights signal * ·) (add_halves 1)
  rw [verdict_eq, verdict_eq, same]
  rfl

theorem empty_table (multipliers : Dict String (Dict String ℚ)) (default : ℚ) (symbol : String)
    (signals : List StrategySignal) (weights : Dict String ℚ) (context : Option MarketContext)
    (empty : ∀ regime, context.bind MarketContext.regime = some regime → RegimeWeighting.tableOf multipliers regime = .empty) :
    (regimeWeighting multipliers default).verdict symbol signals weights context =
      (weightedAverage default).verdict symbol signals weights context := by
  have neutral (name : String) : RegimeWeighting.factor multipliers context name = 1 := by
    rw [RegimeWeighting.factor]
    cases active : context.bind MarketContext.regime with
    | none => rfl
    | some regime =>
        simp only [empty regime active]
        rfl
  have same : weigh (regimeWeighting multipliers default) weights context = weigh (weightedAverage default) weights context := by
    funext signal
    exact congrArg (weightOf default weights signal * ·) (neutral signal.strategyName)
  rw [verdict_eq, verdict_eq, same]
  rfl

-- Order, sides and scale do not bias a vote. The ranges hold of every vote
-- where neither the default weight nor a factor is negative, and only there.
theorem fair_vote (algorithm : ConsensusAlgorithm) (symbol : String) (context : Option MarketContext) :
    (∀ signals weights,
      (∀ others, signals.Perm others →
        algorithm.verdict symbol others weights context = algorithm.verdict symbol signals weights context) ∧
      algorithm.verdict symbol (signals.map StrategySignal.mirrored) weights context =
        (algorithm.verdict symbol signals weights context).mirrored ∧
      (∀ c, 0 < c → (algorithm.scaled c).verdict symbol signals (weights.mapValues (c * ·)) context =
        algorithm.verdict symbol signals weights context)) ∧
    (algorithm.NeverNegative context →
      ∀ signals weights, NonNegative weights → (algorithm.verdict symbol signals weights context).InRange) ∧
    (algorithm.Documented →
      (∀ signals weights, NonNegative weights → (algorithm.verdict symbol signals weights context).InRange) →
        algorithm.NeverNegative context) ∧
    (∀ default signals weights,
      (dynamicWeighting (fun _ => 1 / 2) default).verdict symbol signals weights context =
        (weightedAverage default).verdict symbol signals weights context ∧
      (regimeWeighting .empty default).verdict symbol signals weights context =
        (weightedAverage default).verdict symbol signals weights context) := by
  refine ⟨fun signals weights => ⟨?_, ?_, ?_⟩, ?_, ?_, fun default signals weights => ⟨?_, ?_⟩⟩
  · intro others perm
    exact (algorithm.order_free symbol signals others perm weights context).symm
  · exact algorithm.mirrored_verdict symbol signals weights context
  · intro c positive
    exact algorithm.scaled_verdict c positive symbol signals weights context
  · intro never signals weights nonneg
    exact algorithm.in_range symbol signals weights context never nonneg
  · intro documented always
    by_contra broken
    obtain ⟨signals, weights, nonneg, outside⟩ := algorithm.out_of_range documented symbol context broken
    exact outside (always signals weights nonneg)
  · exact neutral_factors default symbol signals weights context
  · exact empty_table .empty default symbol signals weights context (fun regime _ => rfl)

-- The default weight of a strategy that is not listed may be negative.
theorem overdrawn_default :
    NonNegative (Dict.empty.insert "a" 2) ∧
      ((weightedVoting (-1)).build Decimal.roundTo "BTCUSDT" (rivals "a" "b") (Dict.empty.insert "a" 2) none).verdict =
        ⟨.long, 100, 2⟩ ∧
      (weightedVoting (-1)).verdict "BTCUSDT" (rivals "a" "b") (Dict.empty.insert "a" 2) none = ⟨.long, 100, 2⟩ := by
  refine ⟨?_, by decide +kernel, by decide +kernel⟩
  intro name weight found
  rw [Dict.lookup_insert] at found
  split at found
  · exact Option.some.inj found ▸ by norm_num
  · exact nomatch found

end ConsensusAlgorithm

end QuantEngine
