import QuantEngine.Library.Extended
import QuantEngine.Research.Promotion

set_option autoImplicit false

namespace QuantEngine.Research.MissingEvidence

open PromotionManager

-- Objectives have numbers for weights.
def weighted (weights : Dict String ℚ) : Dict String Extended := weights.mapValues .finite

-- What the scalarization counts of a metric, exactly.
def amount (key : String) : Extended → ℚ
  | .finite value => if "_pct".toList.isSuffixOf key.toList then value / 100 else value
  | _ => 0

def counted (metrics : Dict String Extended) (entry : String × ℚ) : ℚ :=
  match metrics.lookup entry.1 with
  | some value => entry.2 * amount entry.1 value
  | none => 0

def score (weights : Dict String ℚ) (metrics : Dict String Extended) : ℚ := weights.total (counted metrics)

-- The part of a score that is due to one metric.
def part (weights : Dict String ℚ) (metrics : Dict String Extended) (key : String) : ℚ :=
  match weights.lookup key with
  | some weight => counted metrics (key, weight)
  | none => 0

-- The metrics without one of them, or with no number in its place.
inductive Spoiled (metrics : Dict String Extended) (key : String) : Dict String Extended → Prop where
  | removed : Spoiled metrics key (metrics.erase key)
  | invalid (value : Extended) (bad : Floats.isFinite value = false) : Spoiled metrics key (metrics.insert key value)

theorem amount_invalid (key : String) (value : Extended) (bad : Floats.isFinite value = false) : amount key value = 0 := by
  cases value with
  | finite value => cases bad
  | nan => rfl
  | infinite negative => rfl

theorem spoiled_others (metrics spoiled : Dict String Extended) (key other : String) (spoils : Spoiled metrics key spoiled)
    (apart : other ≠ key) : spoiled.lookup other = metrics.lookup other := by
  cases spoils with
  | removed => rw [Dict.lookup_erase, if_neg apart]
  | invalid value bad => rw [Dict.lookup_insert, if_neg apart]

theorem spoiled_counted (metrics spoiled : Dict String Extended) (key : String) (weight : ℚ) (spoils : Spoiled metrics key spoiled) :
    counted spoiled (key, weight) = 0 := by
  cases spoils with
  | removed => rw [counted, Dict.lookup_erase, if_pos rfl]
  | invalid value bad =>
      rw [counted, Dict.lookup_insert, if_pos rfl]
      dsimp only
      rw [amount_invalid key value bad, mul_zero]

theorem transform_amount (key : String) (value : Extended) : transform key value = .finite (amount key value) := by
  cases value with
  | finite value =>
      rw [transform, if_pos (show Floats.isFinite (Extended.finite value) = true from rfl), amount]
      split
      · rw [div_eq_mul_one_div]
        rfl
      · rfl
  | nan => rfl
  | infinite negative => rfl

theorem scalarize_score (metrics : Dict String Extended) (weights : Dict String ℚ) :
    scalarize metrics (weighted weights) = .finite (score weights metrics) := by
  have folded (entries : List (String × ℚ)) (total : ℚ) :
      (entries.map (fun entry => (entry.1, Extended.finite entry.2))).foldl (addObjective metrics) (.finite total) =
        .finite (total + (entries.map (counted metrics)).sum) := by
    induction entries generalizing total with
    | nil => simp
    | cons entry rest ih =>
        rw [List.map_cons, List.foldl_cons, List.map_cons, List.sum_cons, ← add_assoc, ← ih, counted, addObjective]
        congr 1
        cases metrics.lookup entry.1 with
        | none => rw [add_zero]
        | some value =>
            dsimp only
            rw [transform_amount]
            rfl
  have total := folded weights.entries 0
  rw [zero_add] at total
  exact total

theorem score_spoiled (weights : Dict String ℚ) (metrics spoiled : Dict String Extended) (key : String)
    (spoils : Spoiled metrics key spoiled) : score weights spoiled = score weights metrics - part weights metrics key := by
  have same (entry : String × ℚ) (apart : entry.1 ≠ key) : counted spoiled entry = counted metrics entry := by
    rw [counted, counted, spoiled_others metrics spoiled key entry.1 spoils apart]
  rw [score, score, part]
  cases found : weights.lookup key with
  | none =>
      have absent := (Dict.lookup_none_iff weights key).mp found
      rw [sub_zero, Dict.total, Dict.total]
      refine congrArg List.sum (List.map_congr_left (fun entry member => same entry (fun here => absent ?_)))
      exact List.mem_map.mpr ⟨entry, member, here⟩
  | some weight =>
      have rest : (weights.erase key).total (counted spoiled) = (weights.erase key).total (counted metrics) := by
        refine congrArg List.sum (List.map_congr_left (fun entry member => same entry (fun here => ?_)))
        exact ((Dict.mem_keys_erase weights key key).mp (List.mem_map.mpr ⟨entry, member, here⟩)).2 rfl
      rw [Dict.total_erase (counted spoiled) weights key weight found, Dict.total_erase (counted metrics) weights key weight found,
        rest, spoiled_counted metrics spoiled key weight spoils]
      ring

-- By how much a candidate's score is above the incumbent's.
def gain (weights : Dict String ℚ) (report : CandidateReport Extended) (request : PromotionRequest Extended) : ℚ :=
  score weights report.statistics - match request.incumbent with
    | some metrics => score weights metrics
    | none => 0

theorem improvement_gain (settings : PromotionSettings Extended) (weights : Dict String ℚ) (report : CandidateReport Extended)
    (request : PromotionRequest Extended) :
    improvement ⟨settings, weighted weights⟩ report request.incumbent = .finite (gain weights report request) := by
  cases incumbent : request.incumbent with
  | none => simp only [improvement, gain, scalarize_score, incumbent, sub_zero]
  | some metrics =>
      simp only [improvement, gain, scalarize_score, incumbent, sub_eq_add_neg]
      rfl

-- A promotion that nothing blocks but the comparison, and that no longer blocks
-- without the part of one statistic.
structure Decisive (settings : PromotionSettings Extended) (weights : Dict String ℚ) (report : CandidateReport Extended)
    (paper : Option (PaperTrialStatus Extended)) (request : PromotionRequest Extended) (key : String) : Prop where
  passed : report.passed = true
  matured : maturedPaper paper = true
  drift : Floats.le request.drift settings.maxDrift = true
  operator : settings.requireOperatorApproval = true → request.operatorApproved = true
  compared : request.incumbent.isSome = true ∧ settings.requireBeatCurrent = true
  short : Floats.le settings.minImprovement (.finite (gain weights report request)) = false
  enough : Floats.le settings.minImprovement
    (.finite (gain weights report request - part weights report.statistics key)) = true

theorem approved_weighted (settings : PromotionSettings Extended) (weights : Dict String ℚ) (genome : StrategyGenome Extended)
    (report : CandidateReport Extended) (paper : Option (PaperTrialStatus Extended)) (request : PromotionRequest Extended)
    (now : Datetime) :
    (evaluate ⟨settings, weighted weights⟩ genome report paper request now).approved = true ↔
      (report.passed = true ∧ maturedPaper paper = true ∧ Floats.le request.drift settings.maxDrift = true ∧
        (settings.requireOperatorApproval = true → request.operatorApproved = true)) ∧
      (request.incumbent.isSome = true ∧ settings.requireBeatCurrent = true →
        Floats.le settings.minImprovement (.finite (gain weights report request)) = true) := by
  rw [approved_iff]
  constructor
  · rintro ⟨cleared, matured⟩
    refine ⟨⟨cleared.passed, matured, cleared.drift, cleared.operator⟩, fun compared => ?_⟩
    rw [← improvement_gain settings]
    exact cleared.beaten compared.1 compared.2
  · rintro ⟨⟨passed, matured, drift, operator⟩, beaten⟩
    refine ⟨⟨passed, drift, fun incumbent required => ?_, operator⟩, matured⟩
    rw [improvement_gain]
    exact beaten ⟨incumbent, required⟩

theorem gain_spoiled (weights : Dict String ℚ) (report : CandidateReport Extended) (request : PromotionRequest Extended)
    (key : String) (spoiled : Dict String Extended) (spoils : Spoiled report.statistics key spoiled) :
    gain weights { report with statistics := spoiled } request = gain weights report request - part weights report.statistics key := by
  rw [gain, gain, score_spoiled weights report.statistics spoiled key spoils]
  ring

theorem refused_iff (settings : PromotionSettings Extended) (weights : Dict String ℚ) (genome : StrategyGenome Extended)
    (report : CandidateReport Extended) (paper : Option (PaperTrialStatus Extended)) (request : PromotionRequest Extended)
    (now : Datetime) (key : String) (spoiled : Dict String Extended) (spoils : Spoiled report.statistics key spoiled) :
    ((evaluate ⟨settings, weighted weights⟩ genome report paper request now).approved = false →
        (evaluate ⟨settings, weighted weights⟩ genome { report with statistics := spoiled } paper request now).approved = false) ↔
      ¬ Decisive settings weights report paper request key := by
  have before := approved_weighted settings weights genome report paper request now
  have after := approved_weighted settings weights genome { report with statistics := spoiled } paper request now
  rw [gain_spoiled weights report request key spoiled spoils] at after
  rw [← Bool.not_eq_true, ← Bool.not_eq_true, before, after]
  constructor
  · rintro law ⟨passed, matured, drift, operator, compared, short, enough⟩
    refine law (fun met => ?_) ⟨⟨passed, matured, drift, operator⟩, fun _ => enough⟩
    rw [met.2 compared] at short
    cases short
  · intro settled refused ⟨others, enough⟩
    refine refused ⟨others, fun compared => ?_⟩
    by_contra short
    obtain ⟨passed, matured, drift, operator⟩ := others
    exact settled ⟨passed, matured, drift, operator, compared, Bool.eq_false_iff.mpr short, enough compared⟩

theorem drift_refused (settings : PromotionSettings Extended) (weights : Dict String ℚ) (genome : StrategyGenome Extended)
    (report : CandidateReport Extended) (paper : Option (PaperTrialStatus Extended)) (request : PromotionRequest Extended)
    (now : Datetime) :
    (evaluate ⟨settings, weighted weights⟩ genome report paper { request with drift := .nan } now).approved = false := by
  rw [Bool.eq_false_iff, Ne, approved_weighted]
  rintro ⟨⟨-, -, drift, -⟩, -⟩
  cases drift

-- What a metric is worth for an objective, exactly; a weight that is not
-- negative asks for more of it.
def merit (weights : Dict String ℚ) (metrics : Dict String Extended) (key : String) : Option ℚ :=
  (weights.lookup key).bind (fun weight => (metrics.lookup key).map (fun value =>
    (if 0 ≤ weight then 1 else -1) * amount key value))

theorem worth_merit (weights : Dict String ℚ) (metrics : Dict String Extended) (key : String) :
    worth metrics (weighted weights) key = (merit weights metrics key).map .finite := by
  rw [worth, weighted, Dict.lookup_map_values, merit]
  cases weights.lookup key with
  | none => rfl
  | some weight =>
      rw [Option.map_some, Option.bind_some, Option.bind_some, Option.map_map]
      refine congrFun (congrArg Option.map (funext fun value => ?_)) _
      rw [transform_amount, sign]
      by_cases up : 0 ≤ weight
      · rw [if_pos (show Floats.le (Floats.ofRat 0) (Extended.finite weight) = true from decide_eq_true up), Function.comp, if_pos up]
        rfl
      · rw [if_neg (show ¬ Floats.le (Floats.ofRat 0) (Extended.finite weight) = true from fun le => up (of_decide_eq_true le)),
          Function.comp, if_neg up]
        rfl

def Worse (weights : Dict String ℚ) (a b : Dict String Extended) (key : String) : Prop :=
  ∃ x y, merit weights a key = some x ∧ merit weights b key = some y ∧ x < y

theorem dominates_merits (weights : Dict String ℚ) (a b : Dict String Extended) :
    dominates a b (weighted weights) = true ↔ (∀ key, ¬ Worse weights a b key) ∧ ∃ key, Worse weights b a key := by
  have finite (metrics : Dict String Extended) (key : String) (x : Extended) :
      worth metrics (weighted weights) key = some x ↔ ∃ exact, merit weights metrics key = some exact ∧ x = .finite exact := by
    rw [worth_merit, Option.map_eq_some_iff]
    exact exists_congr (fun exact => and_congr_right (fun _ => eq_comm))
  have least (x y : ℚ) : Floats.le (Extended.finite y) (Extended.finite x) = true ↔ ¬ x < y :=
    decide_eq_true_iff.trans not_lt.symm
  have less (x y : ℚ) : Floats.lt (Extended.finite y) (Extended.finite x) = true ↔ y < x := by
    rw [show Floats.lt (Extended.finite y) (Extended.finite x) = (decide (y ≤ x) && !decide (x ≤ y)) from rfl]
    simp only [Bool.and_eq_true, decide_eq_true_eq, Bool.not_eq_true', decide_eq_false_iff_not, not_le]
    exact ⟨And.right, fun less => ⟨le_of_lt less, less⟩⟩
  rw [dominates_iff]
  constructor
  · rintro ⟨all, key, first, second, left, right, better⟩
    refine ⟨fun key ⟨x, y, left, right, worse⟩ => ?_, key, ?_⟩
    · exact (least x y).mp (all key _ _ ((finite a key _).mpr ⟨x, left, rfl⟩) ((finite b key _).mpr ⟨y, right, rfl⟩)) worse
    · obtain ⟨x, ofA, rfl⟩ := (finite a key first).mp left
      obtain ⟨y, ofB, rfl⟩ := (finite b key second).mp right
      exact ⟨y, x, ofB, ofA, (less x y).mp better⟩
  · rintro ⟨none, key, y, x, right, left, better⟩
    refine ⟨fun key first second left right => ?_, key, _, _, (finite a key _).mpr ⟨x, left, rfl⟩,
      (finite b key _).mpr ⟨y, right, rfl⟩, (less x y).mpr better⟩
    obtain ⟨x, ofA, rfl⟩ := (finite a key first).mp left
    obtain ⟨y, ofB, rfl⟩ := (finite b key second).mp right
    exact (least x y).mpr (fun worse => none key ⟨x, y, ofA, ofB, worse⟩)

section

variable (weights : Dict String ℚ) (a b : Dict String Extended) (key : String)

def LeastElsewhere : Prop := ∀ other, other ≠ key → ¬ Worse weights a b other

def BetterElsewhere : Prop := ∃ other, other ≠ key ∧ Worse weights b a other

def Above : Prop := ∃ y, merit weights b key = some y ∧ 0 < y

def Below : Prop := ∃ y, merit weights b key = some y ∧ y < 0

-- The metric alone keeps `a` from dominating.
structure Exposed : Prop where
  least : LeastElsewhere weights a b key
  better : BetterElsewhere weights a b key
  worse : Worse weights a b key

-- Zero in the place of the metric makes `a` dominate: it was worse on it than a
-- `b` that is not above zero, or equal to a `b` below zero and nowhere better.
structure Flattered : Prop where
  least : LeastElsewhere weights a b key
  zero : Worse weights a b key ∧ ¬ Above weights b key ∧ (BetterElsewhere weights a b key ∨ Below weights b key) ∨
    ¬ Worse weights a b key ∧ ¬ Worse weights b a key ∧ ¬ BetterElsewhere weights a b key ∧ Below weights b key

theorem dominates_parts : dominates a b (weighted weights) = true ↔
    LeastElsewhere weights a b key ∧ ¬ Worse weights a b key ∧ (BetterElsewhere weights a b key ∨ Worse weights b a key) := by
  rw [dominates_merits]
  constructor
  · rintro ⟨none, other, better⟩
    refine ⟨fun other _ => none other, none key, ?_⟩
    by_cases here : other = key
    · exact .inr (here ▸ better)
    · exact .inl ⟨other, here, better⟩
  · rintro ⟨least, same, better⟩
    refine ⟨fun other worse => ?_, ?_⟩
    · by_cases here : other = key
      · exact same (here ▸ worse)
      · exact least other here worse
    · rcases better with ⟨other, -, better⟩ | better
      · exact ⟨other, better⟩
      · exact ⟨key, better⟩

variable (spoiled : Dict String Extended) (spoils : Spoiled a key spoiled)

include spoils

theorem merit_others (other : String) (apart : other ≠ key) : merit weights spoiled other = merit weights a other := by
  rw [merit, merit, spoiled_others a spoiled key other spoils apart]

theorem least_spoiled : LeastElsewhere weights spoiled b key ↔ LeastElsewhere weights a b key :=
  forall_congr' (fun other => imp_congr_right (fun apart => by
    rw [Worse, Worse, merit_others weights a key spoiled spoils other apart]))

theorem better_spoiled : BetterElsewhere weights spoiled b key ↔ BetterElsewhere weights a b key :=
  exists_congr (fun other => and_congr_right (fun apart => by
    rw [Worse, Worse, merit_others weights a key spoiled spoils other apart]))

end

theorem exposed_iff (weights : Dict String ℚ) (a b : Dict String Extended) (key : String) :
    (dominates a b (weighted weights) = false → dominates (a.erase key) b (weighted weights) = false) ↔
      ¬ Exposed weights a b key := by
  have gone : merit weights (a.erase key) key = none := by
    rw [merit, Dict.lookup_erase, if_pos rfl]
    cases weights.lookup key <;> rfl
  have after : dominates (a.erase key) b (weighted weights) = true ↔
      LeastElsewhere weights a b key ∧ BetterElsewhere weights a b key := by
    rw [dominates_parts weights _ b key, least_spoiled weights a b key _ .removed, better_spoiled weights a b key _ .removed]
    have first : ¬ Worse weights (a.erase key) b key := fun ⟨_, _, own, _⟩ => (nomatch gone.symm.trans own)
    have second : ¬ Worse weights b (a.erase key) key := fun ⟨_, _, _, own, _⟩ => (nomatch gone.symm.trans own)
    simp only [first, second, not_false_eq_true, or_false, true_and]
  rw [← Bool.not_eq_true, ← Bool.not_eq_true, dominates_parts weights a b key, after]
  constructor
  · exact fun law ⟨least, better, worse⟩ => law (fun before => before.2.1 worse) ⟨least, better⟩
  · intro settled refused both
    exact settled ⟨both.1, both.2, by_contra (fun same => refused ⟨both.1, same, .inl both.2⟩)⟩

theorem merit_invalid (weights : Dict String ℚ) (a : Dict String Extended) (key : String) (value : Extended)
    (bad : Floats.isFinite value = false) : merit weights (a.insert key value) key = (weights.lookup key).map (fun _ => 0) := by
  rw [merit, Dict.lookup_insert, if_pos rfl]
  cases weights.lookup key with
  | none => rfl
  | some weight => simp [amount_invalid key value bad]

theorem flattered_iff (weights : Dict String ℚ) (a b : Dict String Extended) (key : String) (value : Extended)
    (bad : Floats.isFinite value = false) :
    (dominates a b (weighted weights) = false → dominates (a.insert key value) b (weighted weights) = false) ↔
      ¬ Flattered weights a b key := by
  have zero (y : ℚ) (right : merit weights b key = some y) : merit weights (a.insert key value) key = some 0 := by
    obtain ⟨weight, found, -⟩ := Option.bind_eq_some_iff.mp right
    rw [merit_invalid weights a key value bad, found]
    rfl
  have nothing (x : ℚ) (own : merit weights (a.insert key value) key = some x) : x = 0 := by
    rw [merit_invalid weights a key value bad] at own
    obtain ⟨weight, -, same⟩ := Option.map_eq_some_iff.mp own
    exact same.symm
  have above : Worse weights (a.insert key value) b key ↔ Above weights b key := by
    refine ⟨fun ⟨x, y, own, right, less⟩ => ⟨y, right, nothing x own ▸ less⟩, fun ⟨y, right, less⟩ => ⟨0, y, zero y right, right, less⟩⟩
  have below : Worse weights b (a.insert key value) key ↔ Below weights b key := by
    refine ⟨fun ⟨y, x, right, own, less⟩ => ⟨y, right, nothing x own ▸ less⟩, fun ⟨y, right, less⟩ => ⟨y, 0, right, zero y right, less⟩⟩
  have after : dominates (a.insert key value) b (weighted weights) = true ↔
      LeastElsewhere weights a b key ∧ ¬ Above weights b key ∧ (BetterElsewhere weights a b key ∨ Below weights b key) := by
    rw [dominates_parts weights _ b key, least_spoiled weights a b key _ (.invalid value bad),
      better_spoiled weights a b key _ (.invalid value bad), above, below]
  -- A merit below zero is not above it.
  have apart : Below weights b key → ¬ Above weights b key := by
    rintro ⟨y, right, low⟩ ⟨z, also, high⟩
    rw [Option.some.inj (right.symm.trans also)] at low
    exact absurd low (not_lt.mpr (le_of_lt high))
  rw [← Bool.not_eq_true, ← Bool.not_eq_true, dominates_parts weights a b key, after]
  constructor
  · rintro law ⟨least, ⟨worse, low, better⟩ | ⟨-, even, alone, low⟩⟩
    · exact law (fun before => before.2.1 worse) ⟨least, low, better⟩
    · exact law (fun before => before.2.2.elim alone even) ⟨least, apart low, .inr low⟩
  · rintro settled refused ⟨least, low, better⟩
    refine settled ⟨least, ?_⟩
    by_cases worse : Worse weights a b key
    · exact .inl ⟨worse, low, better⟩
    · have alone : ¬ BetterElsewhere weights a b key := fun ahead => refused ⟨least, worse, .inl ahead⟩
      have even : ¬ Worse weights b a key := fun ahead => refused ⟨least, worse, .inr ahead⟩
      exact .inr ⟨worse, even, alone, better.resolve_left alone⟩

-- A refused promotion stays refused without one statistic just if its part is not
-- what the comparison hangs on; drift that is no number never helps; and `a` does
-- not come to dominate just if the metric is not what kept it from it.
theorem missing_evidence_iff (settings : PromotionSettings Extended) (weights : Dict String ℚ) (genome : StrategyGenome Extended)
    (report : CandidateReport Extended) (paper : Option (PaperTrialStatus Extended)) (request : PromotionRequest Extended)
    (now : Datetime) (key : String) (value : Extended) (bad : Floats.isFinite value = false) :
    (∀ spoiled, Spoiled report.statistics key spoiled →
      (((evaluate ⟨settings, weighted weights⟩ genome report paper request now).approved = false →
          (evaluate ⟨settings, weighted weights⟩ genome { report with statistics := spoiled } paper request now).approved = false) ↔
        ¬ Decisive settings weights report paper request key)) ∧
      (evaluate ⟨settings, weighted weights⟩ genome report paper { request with drift := .nan } now).approved = false ∧
      ∀ a b, ((dominates a b (weighted weights) = false → dominates (a.erase key) b (weighted weights) = false) ↔
          ¬ Exposed weights a b key) ∧
        ((dominates a b (weighted weights) = false → dominates (a.insert key value) b (weighted weights) = false) ↔
          ¬ Flattered weights a b key) :=
  ⟨fun spoiled spoils => refused_iff settings weights genome report paper request now key spoiled spoils,
    drift_refused settings weights genome report paper request now,
    fun a b => ⟨exposed_iff weights a b key, flattered_iff weights a b key value bad⟩⟩

def genome : StrategyGenome Extended := { id := "g", name := "ema", symbol := "BTCUSDT", timeframe := "1h", blocks := [] }

def weights : Dict String ℚ := (Dict.empty.insert "profit_factor" 1).insert "max_drawdown_pct" (-1 / 2)

def measured (profitFactor drawdown : ℚ) : Dict String Extended :=
  (Dict.empty.insert "profit_factor" (.finite profitFactor)).insert "max_drawdown_pct" (.finite drawdown)

def report : CandidateReport Extended :=
  { genomeId := "g", name := "ema", symbol := "BTCUSDT", status := .candidate, passed := true, objective := "sharpe", score := none,
    stages := [], statistics := measured 1 40, createdAt := IsoTime.leapDay }

def trial : PaperTrialStatus Extended :=
  { genomeId := "g", matured := true, days := .finite 8, trades := 30, profitFactor := .finite 2, drawdownPct := .finite 5 }

def request : PromotionRequest Extended :=
  { operatorApproved := true, currentMetrics := some (Dict.empty.insert "profit_factor" (.finite (9 / 10))), drift := .finite 0 }

theorem missing_evidence_profit_factor :
    (evaluate ⟨.standard, weighted weights⟩ genome report trial request IsoTime.leapDay).approved = false ∧
      (evaluate ⟨.standard, weighted weights⟩ genome
        { report with statistics := report.statistics.insert "profit_factor" .nan } trial request IsoTime.leapDay).approved = false := by
  obtain ⟨refused, -, -⟩ := missing_evidence_iff .standard weights genome report trial request IsoTime.leapDay "profit_factor" .nan rfl
  have before : (evaluate ⟨.standard, weighted weights⟩ genome report trial request IsoTime.leapDay).approved = false := by decide +kernel
  exact ⟨before, (refused _ (.invalid .nan rfl)).mpr (fun decisive => absurd decisive.enough (by decide +kernel)) before⟩

-- A drawdown of 40 % blocks the promotion and keeps the metrics from dominating;
-- without the number neither is so.
theorem lost_drawdown_helps :
    ((evaluate ⟨.standard, weighted weights⟩ genome report trial request IsoTime.leapDay).approved = false ∧
      (evaluate ⟨.standard, weighted weights⟩ genome
        { report with statistics := report.statistics.erase "max_drawdown_pct" } trial request IsoTime.leapDay).approved = true) ∧
      dominates (measured 2 40) (measured 1 10) (weighted weights) = false ∧
      dominates ((measured 2 40).erase "max_drawdown_pct") (measured 1 10) (weighted weights) = true ∧
      dominates ((measured 2 40).insert "max_drawdown_pct" .nan) (measured 1 10) (weighted weights) = true := by
  decide +kernel

end QuantEngine.Research.MissingEvidence
