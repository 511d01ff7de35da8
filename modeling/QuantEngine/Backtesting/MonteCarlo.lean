import Mathlib.Data.Rat.Floor
import Mathlib.Data.Rat.Sqrt
import QuantEngine.Library.Oracles
import QuantEngine.Library.PathStatistics
import QuantEngine.Library.Slices

set_option autoImplicit false

namespace QuantEngine.Backtesting.MonteCarlo

open Program

structure MonteCarloSettings where
  simulations : Int
  method : String
  initialCapital : ℚ
  ruinThresholdPct : ℚ
  confidence : ℚ

structure MonteCarloResult where
  simulations : Nat
  initialCapital : ℚ
  meanReturnPct : ℚ
  medianReturnPct : ℚ
  stdReturnPct : ℚ
  returnCiLowPct : ℚ
  returnCiHighPct : ℚ
  percentile5ReturnPct : ℚ
  percentile95ReturnPct : ℚ
  expectedMaxDrawdownPct : ℚ
  worstMaxDrawdownPct : ℚ
  requiredCapitalPct : ℚ
  riskOfRuin : ℚ
  profitableProbability : ℚ

def empty (capital : ℚ) : MonteCarloResult := ⟨0, capital, 0, 0, 0, 0, 0, 0, 0, 0, 0, 0, 0, 0⟩

def ordered (values : List ℚ) : List ℚ := values.insertionSort (· ≤ ·)

def itemAt (values : List ℚ) (place : Int) : Except PyError ℚ :=
  match Slices.item place values with
  | some value => .ok value
  | none => .error (.other "IndexError")

-- `_percentile` of a sample.
def percentile (values : List ℚ) (pct : ℚ) : Except PyError ℚ :=
  match ordered values with
  | [] => .ok 0
  | [only] => .ok only
  | values => do
      let rank := pct / 100 * ((values.length : ℚ) - 1)
      let low := ⌊rank⌋
      let high := ⌈rank⌉
      if low = high then itemAt values low
      else
        let weight := rank - low
        let before ← itemAt values low
        let after ← itemAt values high
        pure (before * (1 - weight) + after * weight)

structure Walk where
  equity : ℚ
  peak : ℚ
  maxDdPct : ℚ
  ruined : Bool

def walkStep (ruinLevel : ℚ) (walk : Walk) (pnl : ℚ) : Walk :=
  let equity := walk.equity + pnl
  let peak := max walk.peak equity
  { equity := equity
    peak := peak
    maxDdPct := if 0 < peak then max walk.maxDdPct ((peak - equity) / peak * 100) else walk.maxDdPct
    ruined := walk.ruined || decide (equity ≤ ruinLevel) }

-- `_simulate_path`: where the equity ends, its deepest fall and whether it was ruined.
def simulatePath (capital : ℚ) (pnls : List ℚ) (ruinLevel : ℚ) : Walk :=
  pnls.foldl (walkStep ruinLevel) ⟨capital, capital, 0, false⟩

variable {Q A : Type}

-- `_sample`.
def draw (settings : MonteCarloSettings) (pnls : List ℚ) : Program Q A (List ℚ) :=
  if settings.method = "shuffle" then Random.shuffle pnls else each (fun _ => Random.choice pnls) pnls

def ruinLevel (settings : MonteCarloSettings) : ℚ := settings.initialCapital * (1 - settings.ruinThresholdPct / 100)

-- The paths of the loop of `run`, each with what walking it gave.
def simulate (settings : MonteCarloSettings) (pnls : List ℚ) : Program Q A (List (List ℚ × Walk)) :=
  each (fun _ => do
    let path ← draw settings pnls
    pure (path, simulatePath settings.initialCapital path (ruinLevel settings))) (List.range settings.simulations.toNat)

def returnsPct (capital : ℚ) (walks : List (List ℚ × Walk)) : List ℚ :=
  walks.map (fun walk => (walk.2.equity - capital) / capital * 100)

def drawdownsPct (walks : List (List ℚ × Walk)) : List ℚ := walks.map (fun walk => walk.2.maxDdPct)

variable (sqrt : ℚ → ℚ)

-- What `run` makes of its paths.
def aggregate (settings : MonteCarloSettings) (walks : List (List ℚ × Walk)) : Except PyError MonteCarloResult := do
  let capital := settings.initialCapital
  let returns := returnsPct capital walks
  let drawdowns := drawdownsPct walks
  if returns.length = 0 then .error (.other "ZeroDivisionError")
  let n : ℚ := returns.length
  let mean := returns.sum / n
  let variance := (returns.map (fun r => (r - mean) ^ 2)).sum / n
  let tail := (1 - settings.confidence) / 2 * 100
  let median ← percentile returns 50
  let ciLow ← percentile returns tail
  let ciHigh ← percentile returns (100 - tail)
  let percentile5 ← percentile returns 5
  let percentile95 ← percentile returns 95
  let expected ← percentile drawdowns 50
  let required ← percentile drawdowns 95
  let some worst := drawdowns.max? | .error .value
  pure
    { simulations := returns.length
      initialCapital := capital
      meanReturnPct := mean
      medianReturnPct := median
      stdReturnPct := sqrt variance
      returnCiLowPct := ciLow
      returnCiHighPct := ciHigh
      percentile5ReturnPct := percentile5
      percentile95ReturnPct := percentile95
      expectedMaxDrawdownPct := expected
      worstMaxDrawdownPct := worst
      requiredCapitalPct := required
      riskOfRuin := (walks.countP (fun walk => walk.2.ruined) : ℚ) / n
      profitableProbability := (returns.countP (fun r => decide (0 < r)) : ℚ) / n }

def run (settings : MonteCarloSettings) (tradePnls : List ℚ) : Program Q A MonteCarloResult :=
  if tradePnls = [] ∨ settings.initialCapital ≤ 0 then pure (empty settings.initialCapital)
  else do
    let walks ← simulate settings tradePnls
    ofExcept (aggregate sqrt settings walks)

end QuantEngine.Backtesting.MonteCarlo

namespace QuantEngine.Backtesting.MonteCarlo

open Program Interpolation Falls

theorem ordered_sorted (values : List ℚ) : (ordered values).Pairwise (· ≤ ·) := List.pairwise_insertionSort _ values

theorem ordered_perm (values : List ℚ) : (ordered values).Perm values := List.perm_insertionSort _ values

theorem ordered_length (values : List ℚ) : (ordered values).length = values.length := (ordered_perm values).length_eq

theorem item_at_ladder (values : List ℚ) (place : Int) (low : 0 ≤ place) (high : place < values.length) :
    itemAt values place = .ok (ladder values place) := by
  have inside : place.toNat < values.length := by omega
  have found := ladder_eq values place.toNat inside
  rw [Int.toNat_of_nonneg low] at found
  rw [itemAt, Slices.item_inside place values low inside, found]

-- Where a percentile falls among the ordered values.
def rankOf (values : List ℚ) (pct : ℚ) : ℚ := pct / 100 * ((values.length : ℚ) - 1)

def quantile (values : List ℚ) (pct : ℚ) : ℚ := blend (ladder (ordered values)) (rankOf values pct)

theorem rank_bounds (values : List ℚ) (pct : ℚ) (some_ : values ≠ []) (low : 0 ≤ pct) (high : pct ≤ 100) :
    0 ≤ rankOf values pct ∧ rankOf values pct ≤ ((values.length - 1 : Int) : ℚ) := by
  have long : (1 : ℚ) ≤ values.length := by exact_mod_cast List.length_pos_of_ne_nil some_
  have room : 0 ≤ (values.length : ℚ) - 1 := by linarith
  have share : pct / 100 ≤ 1 := (div_le_one (by norm_num)).mpr high
  refine ⟨mul_nonneg (by positivity) room, ?_⟩
  calc rankOf values pct ≤ 1 * ((values.length : ℚ) - 1) := mul_le_mul_of_nonneg_right share room
    _ = ((values.length - 1 : Int) : ℚ) := by push_cast; ring

theorem percentile_quantile (values : List ℚ) (pct : ℚ) (some_ : values ≠ []) (low : 0 ≤ pct) (high : pct ≤ 100) :
    percentile values pct = .ok (quantile values pct) := by
  obtain ⟨least, most⟩ := rank_bounds values pct some_ low high
  have long := List.length_pos_of_ne_nil some_
  have first : 0 ≤ ⌊rankOf values pct⌋ := Int.floor_nonneg.mpr least
  have last : ⌈rankOf values pct⌉ ≤ values.length - 1 := Int.ceil_le.mpr most
  have between := Int.floor_le_ceil (rankOf values pct)
  have size := ordered_length values
  have lower := item_at_ladder (ordered values) ⌊rankOf values pct⌋ first (by omega)
  have upper := item_at_ladder (ordered values) ⌈rankOf values pct⌉ (by omega) (by omega)
  have general : ((do
      if ⌊rankOf values pct⌋ = ⌈rankOf values pct⌉ then itemAt (ordered values) ⌊rankOf values pct⌋
      else do
        let before ← itemAt (ordered values) ⌊rankOf values pct⌋
        let after ← itemAt (ordered values) ⌈rankOf values pct⌉
        pure (before * (1 - (rankOf values pct - ⌊rankOf values pct⌋)) + after * (rankOf values pct - ⌊rankOf values pct⌋))) :
      Except PyError ℚ) = .ok (quantile values pct) := by
    split
    · rename_i same
      rw [lower, quantile, blend, ← same]
      congr 1
      ring
    · rw [lower, upper]
      rfl
  rw [percentile]
  split
  · rename_i none
    rw [none] at size
    exact absurd size.symm long.ne'
  · rename_i only single
    have alone : values.length = 1 := by rw [← size, single]; rfl
    have middle : rankOf values pct = ((0 : Int) : ℚ) := by rw [rankOf, alone]; norm_num
    rw [quantile, middle, blend_int, single]
    rfl
  · rw [← general, rankOf, size]

theorem quantile_mono (values : List ℚ) (some_ : values ≠ []) : Monotone (quantile values) := by
  intro p q upto
  have long : (1 : ℚ) ≤ values.length := by exact_mod_cast List.length_pos_of_ne_nil some_
  have ranks : rankOf values p ≤ rankOf values q :=
    mul_le_mul_of_nonneg_right (div_le_div_of_nonneg_right upto (by norm_num)) (by linarith)
  exact blend_mono _ (ladder_mono _ (ordered_sorted values)) ranks

theorem step_mem (values : List ℚ) (some_ : values ≠ []) (place : Int) : ladder (ordered values) place ∈ values := by
  have full : ordered values ≠ [] := by
    intro none
    have size := ordered_length values
    rw [none] at size
    exact some_ (List.eq_nil_of_length_eq_zero size.symm)
  exact (ordered_perm values).mem_iff.mp (ladder_mem _ full place)

theorem quantile_le (values : List ℚ) (some_ : values ≠ []) (bound pct : ℚ) (above : ∀ value ∈ values, value ≤ bound) :
    quantile values pct ≤ bound :=
  (blend_le_ceil _ (ladder_mono _ (ordered_sorted values)) _).trans (above _ (step_mem values some_ _))

theorem quantile_const (values : List ℚ) (some_ : values ≠ []) (same pct : ℚ) (const : ∀ value ∈ values, value = same) :
    quantile values pct = same :=
  blend_const _ same (fun place => const _ (step_mem values some_ place)) _

-- What holds of a walk along a path, after each trade.
structure Walked (capital ruinLevel : ℚ) (path : List ℚ) (walk : Walk) : Prop where
  equity : walk.equity = capital + path.sum
  peak : walk.peak = partialSups (level capital path) path.length
  deepest : IsGreatest (falls capital path) (walk.maxDdPct / 100)
  ruin : walk.ruined = true ↔ ∃ count, 0 < count ∧ count ≤ path.length ∧ level capital path count ≤ ruinLevel

theorem walked_start (capital ruinLevel : ℚ) : Walked capital ruinLevel [] ⟨capital, capital, 0, false⟩ := by
  have flat : fall capital [] 0 = 0 := by rw [fall, partialSups_zero, sub_self, zero_div]
  refine ⟨by simp, by simp [level_zero], ⟨⟨0, le_refl _, by simp [flat]⟩, ?_⟩, ?_⟩
  · rintro share ⟨count, none, rfl⟩
    rw [show count = 0 by simpa using none, flat]
    simp
  · simp

theorem walked_step (capital ruinLevel : ℚ) (path : List ℚ) (walk : Walk) (pnl : ℚ) (positive : 0 < capital)
    (walked : Walked capital ruinLevel path walk) :
    Walked capital ruinLevel (path ++ [pnl]) (walkStep ruinLevel walk pnl) := by
  have now : level capital (path ++ [pnl]) (path.length + 1) = walk.equity + pnl := by rw [level_snoc, walked.equity]
  have high : partialSups (level capital (path ++ [pnl])) (path.length + 1) = max walk.peak (walk.equity + pnl) := by
    rw [partialSups_add_one, peak_append capital pnl path _ (le_refl _), now, walked.peak]
  have above : 0 < max walk.peak (walk.equity + pnl) := by
    rw [← high]
    exact positive.trans_le (start_le_peak capital _ _)
  refine ⟨?_, ?_, ?_, ?_⟩
  · rw [List.sum_append, List.sum_singleton, ← add_assoc, ← walked.equity]
    rfl
  · rw [List.length_append, List.length_singleton, high]
    rfl
  · have further := greatest_snoc capital pnl _ path walked.deepest
    rw [fall, high, now] at further
    have same : (walkStep ruinLevel walk pnl).maxDdPct / 100 =
        max ((max walk.peak (walk.equity + pnl) - (walk.equity + pnl)) / max walk.peak (walk.equity + pnl)) (walk.maxDdPct / 100) := by
      rw [walkStep, if_pos above, ← max_div_div_right (by norm_num), mul_div_cancel_right₀ _ (by norm_num), max_comm]
    rwa [same]
  · have split : (walkStep ruinLevel walk pnl).ruined = true ↔ walk.ruined = true ∨ walk.equity + pnl ≤ ruinLevel := by
      rw [walkStep, Bool.or_eq_true, decide_eq_true_iff]
    rw [split, walked.ruin, ← now]
    constructor
    · rintro (⟨count, later, inside, low⟩ | low)
      · exact ⟨count, later, by simp; omega, by rwa [level_append capital pnl path count inside]⟩
      · exact ⟨path.length + 1, by omega, by simp, low⟩
    · rintro ⟨count, later, inside, low⟩
      rw [List.length_append, List.length_singleton] at inside
      rcases Nat.le_succ_iff.mp inside with before | last
      · rw [level_append capital pnl path count before] at low
        exact Or.inl ⟨count, later, before, low⟩
      · rw [last] at low
        exact Or.inr low

theorem walked_path (capital ruinLevel : ℚ) (path : List ℚ) (positive : 0 < capital) :
    Walked capital ruinLevel path (simulatePath capital path ruinLevel) := by
  induction path using List.reverseRecOn with
  | nil => exact walked_start capital ruinLevel
  | append_singleton path pnl ih =>
      rw [simulatePath, List.foldl_append]
      exact walked_step capital ruinLevel path _ pnl positive ih

-- Whoever falls to the ruin level has fallen by the ruin threshold.
theorem ruined_fall (settings : MonteCarloSettings) (path : List ℚ) (walk : Walk) (positive : 0 < settings.initialCapital)
    (most : settings.ruinThresholdPct ≤ 100) (walked : Walked settings.initialCapital (ruinLevel settings) path walk)
    (ruined : walk.ruined = true) : settings.ruinThresholdPct ≤ walk.maxDdPct := by
  obtain ⟨count, _, inside, low⟩ := walked.ruin.mp ruined
  have deep : fall settings.initialCapital path count ≤ walk.maxDdPct / 100 := walked.deepest.2 ⟨count, inside, rfl⟩
  have peak := start_le_peak settings.initialCapital path count
  have kept : 0 ≤ 1 - settings.ruinThresholdPct / 100 := by linarith
  have under : level settings.initialCapital path count ≤
      partialSups (level settings.initialCapital path) count * (1 - settings.ruinThresholdPct / 100) :=
    low.trans (mul_le_mul_of_nonneg_right peak kept)
  have share : settings.ruinThresholdPct / 100 ≤ fall settings.initialCapital path count := by
    rw [fall, le_div_iff₀ (positive.trans_le peak)]
    linarith
  linarith

variable {Q A σ τ : Type}

theorem draw_yields (settings : MonteCarloSettings) (pnls : List ℚ) (some_ : pnls ≠ []) :
    (draw settings pnls : Program Q A (List ℚ)).Yields (fun path => path.length = pnls.length ∧ (∀ pnl ∈ path, pnl ∈ pnls) ∧
      (settings.method = "shuffle" → path.Perm pnls)) := by
  rw [draw]
  split
  · exact yields_mono _ _ _ (fun path perm => ⟨perm.length_eq, fun pnl member => perm.mem_iff.mp member, fun _ => perm⟩)
      (Random.yields_shuffle pnls)
  · rename_i other
    have chosen := yields_each_all (fun _ => Random.choice pnls : ℚ → Program Q A ℚ) (fun pnl => pnl ∈ pnls) pnls
      (fun _ _ => Random.yields_choice pnls some_)
    exact yields_mono _ _ _ (fun path all => ⟨all.1, all.2, fun shuffled => absurd shuffled other⟩) chosen

-- What is known of each simulated path.
structure Sound (settings : MonteCarloSettings) (pnls path : List ℚ) (walk : Walk) : Prop where
  length : path.length = pnls.length
  drawn : ∀ pnl ∈ path, pnl ∈ pnls
  shuffled : settings.method = "shuffle" → path.Perm pnls
  walked : Walked settings.initialCapital (ruinLevel settings) path walk

theorem simulate_yields (settings : MonteCarloSettings) (pnls : List ℚ) (some_ : pnls ≠ []) (positive : 0 < settings.initialCapital) :
    (simulate settings pnls : Program Q A _).Yields (fun walks =>
      walks.length = settings.simulations.toNat ∧ ∀ walk ∈ walks, Sound settings pnls walk.1 walk.2) := by
  have each_ := yields_each_all (fun _ => do
    let path ← draw settings pnls
    pure (path, simulatePath settings.initialCapital path (ruinLevel settings)) : Nat → Program Q A (List ℚ × Walk))
    (fun walk => Sound settings pnls walk.1 walk.2) (List.range settings.simulations.toNat) (fun _ _ => by
      refine yields_bind _ _ _ _ (draw_yields settings pnls some_) (fun path drawn => yields_pure _ _ ?_)
      exact ⟨drawn.1, drawn.2.1, drawn.2.2, walked_path _ _ path positive⟩)
  rwa [List.length_range] at each_

def tail (settings : MonteCarloSettings) : ℚ := (1 - settings.confidence) / 2 * 100

-- The figures of a study are those of its paths.
structure Summarises (settings : MonteCarloSettings) (walks : List (List ℚ × Walk)) (result : MonteCarloResult) : Prop where
  simulations : result.simulations = walks.length
  median : result.medianReturnPct = quantile (returnsPct settings.initialCapital walks) 50
  ciLow : result.returnCiLowPct = quantile (returnsPct settings.initialCapital walks) (tail settings)
  ciHigh : result.returnCiHighPct = quantile (returnsPct settings.initialCapital walks) (100 - tail settings)
  percentile5 : result.percentile5ReturnPct = quantile (returnsPct settings.initialCapital walks) 5
  percentile95 : result.percentile95ReturnPct = quantile (returnsPct settings.initialCapital walks) 95
  expected : result.expectedMaxDrawdownPct = quantile (drawdownsPct walks) 50
  required : result.requiredCapitalPct = quantile (drawdownsPct walks) 95
  worst : IsGreatest {drawdown | drawdown ∈ drawdownsPct walks} result.worstMaxDrawdownPct
  ruin : result.riskOfRuin = (walks.countP (fun walk => walk.2.ruined) : ℚ) / walks.length

theorem aggregate_summarises (sqrt : ℚ → ℚ) (settings : MonteCarloSettings) (walks : List (List ℚ × Walk)) (some_ : walks ≠ [])
    (confidence : 0 ≤ settings.confidence ∧ settings.confidence ≤ 1) :
    ∃ result, aggregate sqrt settings walks = .ok result ∧ Summarises settings walks result := by
  have returns : returnsPct settings.initialCapital walks ≠ [] := by simpa [returnsPct] using some_
  have drawdowns : drawdownsPct walks ≠ [] := by simpa [drawdownsPct] using some_
  have low : 0 ≤ tail settings ∧ tail settings ≤ 50 := by rw [tail]; constructor <;> linarith [confidence.1, confidence.2]
  have count : (returnsPct settings.initialCapital walks).length ≠ 0 := fun none => returns (List.eq_nil_of_length_eq_zero none)
  have of_returns := fun pct least most => percentile_quantile (returnsPct settings.initialCapital walks) pct returns least most
  have of_drawdowns := fun pct least most => percentile_quantile (drawdownsPct walks) pct drawdowns least most
  obtain ⟨worst, most⟩ := Option.ne_none_iff_exists'.mp (mt List.max?_eq_none_iff.mp drawdowns)
  have greatest := List.max?_eq_some_iff.mp most
  rw [aggregate]
  simp only [if_neg count]
  rw [of_returns 50 (by norm_num) (by norm_num), of_returns 5 (by norm_num) (by norm_num), of_returns 95 (by norm_num) (by norm_num),
    of_drawdowns 50 (by norm_num) (by norm_num), of_drawdowns 95 (by norm_num) (by norm_num), most]
  rw [← tail, of_returns (tail settings) low.1 (by linarith), of_returns (100 - tail settings) (by linarith) (by linarith)]
  have size : (returnsPct settings.initialCapital walks).length = walks.length := by simp [returnsPct]
  exact ⟨_, rfl, size, rfl, rfl, rfl, rfl, rfl, rfl, rfl, greatest, by rw [size]⟩

-- The figures of a study stand in their order.
structure Coherent (result : MonteCarloResult) : Prop where
  interval : result.returnCiLowPct ≤ result.medianReturnPct ∧ result.medianReturnPct ≤ result.returnCiHighPct
  percentiles : result.percentile5ReturnPct ≤ result.medianReturnPct ∧ result.medianReturnPct ≤ result.percentile95ReturnPct
  drawdowns : result.expectedMaxDrawdownPct ≤ result.requiredCapitalPct ∧ result.requiredCapitalPct ≤ result.worstMaxDrawdownPct

theorem summary_coherent (settings : MonteCarloSettings) (walks : List (List ℚ × Walk)) (result : MonteCarloResult)
    (some_ : walks ≠ []) (confidence : 0 ≤ settings.confidence ∧ settings.confidence ≤ 1)
    (summary : Summarises settings walks result) : Coherent result := by
  have returns := quantile_mono (returnsPct settings.initialCapital walks) (by simpa [returnsPct] using some_)
  have full : drawdownsPct walks ≠ [] := by simpa [drawdownsPct] using some_
  have low : 0 ≤ tail settings ∧ tail settings ≤ 50 := by rw [tail]; constructor <;> linarith [confidence.1, confidence.2]
  refine ⟨?_, ?_, ?_⟩
  · rw [summary.ciLow, summary.median, summary.ciHigh]
    exact ⟨returns low.2, returns (by linarith)⟩
  · rw [summary.percentile5, summary.median, summary.percentile95]
    exact ⟨returns (by norm_num), returns (by norm_num)⟩
  · rw [summary.expected, summary.required]
    exact ⟨quantile_mono _ full (by norm_num), quantile_le _ full _ 95 (fun _ member => summary.worst.2 member)⟩

-- All the return figures of a study are one number.
structure OneReturn (result : MonteCarloResult) (value : ℚ) : Prop where
  median : result.medianReturnPct = value
  interval : result.returnCiLowPct = value ∧ result.returnCiHighPct = value
  percentiles : result.percentile5ReturnPct = value ∧ result.percentile95ReturnPct = value

theorem summary_one (settings : MonteCarloSettings) (pnls : List ℚ) (walks : List (List ℚ × Walk)) (result : MonteCarloResult)
    (some_ : walks ≠ []) (ends : ∀ walk ∈ walks, walk.2.equity = settings.initialCapital + pnls.sum)
    (summary : Summarises settings walks result) : OneReturn result (pnls.sum / settings.initialCapital * 100) := by
  have same : ∀ pct, quantile (returnsPct settings.initialCapital walks) pct = pnls.sum / settings.initialCapital * 100 := by
    refine fun pct => quantile_const _ (by simpa [returnsPct] using some_) _ pct (fun value member => ?_)
    obtain ⟨walk, here, rfl⟩ := List.mem_map.mp member
    rw [ends walk here, add_sub_cancel_left]
  exact ⟨summary.median.trans (same _), ⟨summary.ciLow.trans (same _), summary.ciHigh.trans (same _)⟩,
    ⟨summary.percentile5.trans (same _), summary.percentile95.trans (same _)⟩⟩

-- Whatever is drawn, the study of some trades gives coherent figures of its paths.
theorem study_coherent (sqrt : ℚ → ℚ) (settings : MonteCarloSettings) (tradePnls : List ℚ) (some_ : tradePnls ≠ [])
    (capital : 0 < settings.initialCapital) (simulations : 1 ≤ settings.simulations)
    (confidence : 0 ≤ settings.confidence ∧ settings.confidence ≤ 1)
    (threshold : 0 ≤ settings.ruinThresholdPct ∧ settings.ruinThresholdPct ≤ 100)
    (dice : Dice σ) (oracle : τ → Q → A × τ) (s : σ) (t : τ) :
    ∃ walks result, ((simulate settings tradePnls).run dice oracle s t).result = .ok walks ∧
      ((run sqrt settings tradePnls).run dice oracle s t).result = .ok result ∧ walks.length = settings.simulations.toNat ∧
      Summarises settings walks result ∧ Coherent result ∧
      (∀ walk ∈ walks, Sound settings tradePnls walk.1 walk.2 ∧
        IsGreatest (falls settings.initialCapital walk.1) (walk.2.maxDdPct / 100) ∧
        (walk.2.ruined = true → settings.ruinThresholdPct ≤ walk.2.maxDdPct)) ∧
      (settings.method = "shuffle" → (∀ walk ∈ walks, walk.2.equity = settings.initialCapital + tradePnls.sum) ∧
        OneReturn result (tradePnls.sum / settings.initialCapital * 100)) := by
  have known := simulate_yields (Q := Q) (A := A) settings tradePnls some_ capital []
  obtain ⟨walks, simulated, _, count, sound⟩ := run_ensures dice oracle _ _ [] known s t
  have full : walks ≠ [] := by
    rintro rfl
    simp at count
    omega
  obtain ⟨result, aggregated, summary⟩ := aggregate_summarises sqrt settings walks full confidence
  have ran : ((run sqrt settings tradePnls).run dice oracle s t).result = .ok result := by
    rw [run, if_neg (by simp [some_, capital]), run_bind dice oracle _ _ walks s t simulated, aggregated]
    rfl
  have ends : settings.method = "shuffle" → ∀ walk ∈ walks, walk.2.equity = settings.initialCapital + tradePnls.sum := by
    intro shuffled walk member
    rw [(sound walk member).walked.equity, ((sound walk member).shuffled shuffled).sum_eq]
  refine ⟨walks, result, simulated, ran, count, summary, summary_coherent settings walks result full confidence summary, ?_, ?_⟩
  · intro walk member
    have path := (sound walk member).walked
    exact ⟨sound walk member, path.deepest, ruined_fall settings walk.1 walk.2 capital threshold.2 path⟩
  · intro shuffled
    exact ⟨ends shuffled, summary_one settings tradePnls walks result full (ends shuffled) summary⟩

theorem study_coherent_shuffle :
    ∃ result, ((run Rat.sqrt ⟨2, "shuffle", 100, 50, 9 / 10⟩ [10, -20] : Program Unit Unit _).run Dice.lowest
        (fun t _ => ((), t)) () ()).result = .ok result ∧ Coherent result ∧ OneReturn result (-10) := by
  obtain ⟨_, result, _, ran, _, _, coherent, _, one⟩ :=
    study_coherent (Q := Unit) (A := Unit) Rat.sqrt ⟨2, "shuffle", 100, 50, 9 / 10⟩ [10, -20] (by simp) (by norm_num) (by norm_num)
      (by norm_num) (by norm_num) Dice.lowest (fun t _ => ((), t)) () ()
  have value := (one rfl).2
  norm_num at value
  exact ⟨result, ran, coherent, value⟩

end QuantEngine.Backtesting.MonteCarlo
