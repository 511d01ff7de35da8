import QuantEngine.Backtesting.WalkForward
import QuantEngine.Backtesting.InsideTheBar
import QuantEngine.Library.Causal

set_option autoImplicit false

namespace QuantEngine.WalkForward

open Backtesting BacktestEngine
open Candles (MarketCandle)

def Window.tests (window : Window) (place : Int) : Prop := window.testStart ≤ place ∧ place < window.testEnd

-- Some candle is validated on in both.
def Shared (first second : Window) : Prop := ∃ place, first.tests place ∧ second.tests place

-- What the folds over a series of `total` candles are.
structure Generated (total trainSize validationSize step : Int) (windows : List Window) : Prop where
  inside : ∀ window ∈ windows, 0 ≤ window.trainStart ∧ window.trainStart < window.trainEnd ∧ window.trainEnd = window.testStart ∧
    window.testStart < window.testEnd ∧ window.testEnd ≤ total
  full : total < trainSize + windows.length * step + validationSize
  apart : (∀ (i j : Nat) first second, i ≠ j → windows[i]? = some first → windows[j]? = some second → ¬ Shared first second) ↔
    validationSize ≤ step ∨ windows.length ≤ 1

section

variable (rolling : Bool) (total trainSize validationSize step : Int) (positive : 0 < step)

theorem windows_from_get (fold : Nat) (trainEnd : Int) (i : Nat) (window : Window)
    (there : (windowsFrom rolling total trainSize validationSize step positive fold trainEnd)[i]? = some window) :
    window = windowAt rolling trainSize validationSize (fold + i) (trainEnd + i * step) ∧
      trainEnd + i * step + validationSize ≤ total := by
  induction i generalizing fold trainEnd with
  | zero =>
      rw [windowsFrom] at there
      split at there
      · rename_i fits
        obtain rfl := Option.some.inj there
        exact ⟨by simp, by simpa using fits⟩
      · exact nomatch there
  | succ i ih =>
      rw [windowsFrom] at there
      split at there
      · obtain ⟨rfl, fits⟩ := ih (fold + 1) (trainEnd + step) there
        have place : trainEnd + step + i * step = trainEnd + ((i + 1 : Nat) : Int) * step := by push_cast; ring
        rw [place] at fits ⊢
        exact ⟨by rw [Nat.add_right_comm, Nat.add_assoc], fits⟩
      · exact nomatch there

theorem windows_from_full (fold : Nat) (trainEnd : Int) :
    total < trainEnd + (windowsFrom rolling total trainSize validationSize step positive fold trainEnd).length * step + validationSize := by
  induction fold, trainEnd using windowsFrom.induct total validationSize step positive with
  | case1 fold trainEnd fits ih =>
      rw [windowsFrom, if_pos fits, List.length_cons]
      push_cast
      linarith
  | case2 fold trainEnd past =>
      rw [windowsFrom, if_neg past]
      simp
      omega

theorem windows_from_generated (some_ : 0 < trainSize) (validates : 0 < validationSize) :
    Generated total trainSize validationSize step
      (windowsFrom rolling total trainSize validationSize step positive 0 trainSize) where
  inside := by
    intro window member
    obtain ⟨i, there⟩ := List.mem_iff_getElem?.mp member
    obtain ⟨rfl, fits⟩ := windows_from_get rolling total trainSize validationSize step positive 0 trainSize i window there
    have later : 0 ≤ (i : Int) * step := mul_nonneg (Int.natCast_nonneg i) positive.le
    refine ⟨?_, ?_, rfl, ?_, fits⟩
    · cases rolling with
      | true => simpa [windowAt] using later
      | false => simp [windowAt]
    · cases rolling with
      | true => simpa [windowAt] using some_
      | false => simpa [windowAt] using (show 0 < trainSize + i * step by linarith)
    · simp [windowAt, validates]
  full := windows_from_full rolling total trainSize validationSize step positive 0 trainSize
  apart := by
    have get := windows_from_get rolling total trainSize validationSize step positive 0 trainSize
    constructor
    · intro apart
      by_contra overlap
      obtain ⟨short, several⟩ := not_or.mp overlap
      have first := List.getElem?_eq_getElem (show 0 < (windowsFrom rolling total trainSize validationSize step positive 0
        trainSize).length by omega)
      have second := List.getElem?_eq_getElem (show 1 < (windowsFrom rolling total trainSize validationSize step positive 0
        trainSize).length by omega)
      refine apart 0 1 _ _ (by omega) first second ⟨trainSize + step, ?_, ?_⟩
      · rw [(get 0 _ first).1]
        exact ⟨by simpa [windowAt] using positive.le, by simpa [windowAt] using short⟩
      · rw [(get 1 _ second).1]
        exact ⟨by simp [windowAt], by simpa [windowAt] using validates⟩
    · rintro enough i j first second other there here ⟨place, ⟨low, high⟩, ⟨low', high'⟩⟩
      obtain ⟨rfl, _⟩ := get i first there
      obtain ⟨rfl, _⟩ := get j second here
      simp only [windowAt] at low high low' high'
      rcases enough with wide | single
      · rcases Nat.lt_or_gt_of_ne other with before | after
        · have gap : ((i : Int) + 1) * step ≤ j * step := mul_le_mul_of_nonneg_right (by omega) positive.le
          linarith
        · have gap : ((j : Int) + 1) * step ≤ i * step := mul_le_mul_of_nonneg_right (by omega) positive.le
          linarith
      · obtain ⟨inside, _⟩ := List.getElem?_eq_some_iff.mp there
        obtain ⟨also, _⟩ := List.getElem?_eq_some_iff.mp here
        omega

end

def Known (scheme : String) : Prop := scheme = "rolling" ∨ scheme = "expanding" ∨ scheme = "anchored"

theorem generate_windows_known (total trainSize validationSize step : Int) (scheme : String) (known : Known scheme)
    (some_ : 0 < trainSize) (validates : 0 < validationSize) (positive : 0 < step) :
    generateWindows total scheme trainSize validationSize step =
      .ok (windowsFrom (decide (scheme = "rolling")) total trainSize validationSize step positive 0 trainSize) := by
  rw [generateWindows, dif_pos ⟨some_, validates, positive⟩]
  obtain rfl | rfl | rfl := known
  · rfl
  · rfl
  · rfl

namespace WalkForwardAnalysis

variable {V σ δ : Type} (analysis : WalkForwardAnalysis V σ δ) (config : BacktestConfig) (brokers : Nat → PaperBroker)

-- What the optimizer of a fold comes to.
def optimized (candles : List MarketCandle) (used : Nat) (window : Window) : Outcome (Params V) Extended (OptimizationResult V) δ Nat :=
  analysis.optimizer.run analysis.dice (analysis.evaluate (slice candles window.trainStart window.trainEnd) config brokers)
    analysis.seed used

theorem run_fold_ok (candles : List MarketCandle) (used : Nat) (window : Window) (fold : WalkForwardFold V × Nat)
    (ran : analysis.runFold candles config brokers used window = .ok fold) :
    fold.1.window = window ∧ fold.2 = (analysis.optimized config brokers candles used window).oracle + 1 ∧
      ∃ optimization, (analysis.optimized config brokers candles used window).result = .ok optimization ∧
        fold.1.bestParams = optimization.bestParams ∧ fold.1.inSampleScore = optimization.bestScore := by
  obtain ⟨optimization, best, validated⟩ := (Causal.bind_ok _ _ _).mp ran
  obtain ⟨oos, -, pure_⟩ := (Causal.bind_ok _ _ _).mp validated
  obtain rfl := Except.ok.inj pure_
  exact ⟨rfl, rfl, optimization, best, rfl, rfl⟩

theorem run_folds_cons (candles : List MarketCandle) (used : Nat) (window : Window) (rest : List Window)
    (folds : List (WalkForwardFold V)) (ran : analysis.runFolds candles config brokers used (window :: rest) = .ok folds) :
    ∃ fold others, analysis.runFold candles config brokers used window = .ok fold ∧
      analysis.runFolds candles config brokers fold.2 rest = .ok others ∧ folds = fold.1 :: others := by
  obtain ⟨fold, first, later⟩ := (Causal.bind_ok _ _ _).mp ran
  obtain ⟨others, rest_, pure_⟩ := (Causal.bind_ok _ _ _).mp later
  exact ⟨fold, others, first, rest_, (Except.ok.inj pure_).symm⟩

theorem run_folds_windows (candles : List MarketCandle) (used : Nat) (windows : List Window) (folds : List (WalkForwardFold V))
    (ran : analysis.runFolds candles config brokers used windows = .ok folds) : folds.map WalkForwardFold.window = windows := by
  induction windows generalizing used folds with
  | nil =>
      obtain rfl := Except.ok.inj ran
      rfl
  | cons window rest ih =>
      obtain ⟨fold, others, first, later, rfl⟩ := analysis.run_folds_cons config brokers candles used window rest folds ran
      rw [List.map_cons, (analysis.run_fold_ok config brokers candles used window fold first).1, ih fold.2 others later]

-- Up to a fold the windows agree, and so do the candles they train on.
def Alike (first second : List MarketCandle) (windows windows' : List Window) (i : Nat) : Prop := ∀ j ≤ i, ∀ a b,
  windows[j]? = some a → windows'[j]? = some b → a = b ∧ slice first a.trainStart a.trainEnd = slice second a.trainStart a.trainEnd

theorem run_folds_same (first second : List MarketCandle) (i used : Nat) (windows windows' : List Window)
    (folds folds' : List (WalkForwardFold V)) (ran : analysis.runFolds first config brokers used windows = .ok folds)
    (ran' : analysis.runFolds second config brokers used windows' = .ok folds') (alike : Alike first second windows windows' i)
    (fold fold' : WalkForwardFold V) (there : folds[i]? = some fold) (there' : folds'[i]? = some fold') :
    fold.bestParams = fold'.bestParams ∧ fold.inSampleScore = fold'.inSampleScore := by
  induction windows generalizing i used windows' folds folds' with
  | nil =>
      obtain rfl := Except.ok.inj ran
      exact nomatch there
  | cons window rest ih =>
      cases windows' with
      | nil =>
          obtain rfl := Except.ok.inj ran'
          exact nomatch there'
      | cons window' rest' =>
          obtain ⟨head, others, one, later, rfl⟩ := analysis.run_folds_cons config brokers first used window rest folds ran
          obtain ⟨head', others', one', later', rfl⟩ := analysis.run_folds_cons config brokers second used window' rest' folds' ran'
          obtain ⟨rfl, train⟩ := alike 0 (Nat.zero_le i) window window' rfl rfl
          have same : analysis.optimized config brokers first used window = analysis.optimized config brokers second used window := by
            rw [optimized, optimized, train]
          obtain ⟨-, next, best, found, params, score⟩ := analysis.run_fold_ok config brokers first used window head one
          obtain ⟨-, next', best', found', params', score'⟩ := analysis.run_fold_ok config brokers second used window head' one'
          rw [same] at next found
          cases i with
          | zero =>
              obtain rfl := Option.some.inj there
              obtain rfl := Option.some.inj there'
              obtain rfl := Except.ok.inj (found.symm.trans found')
              exact ⟨params.trans params'.symm, score.trans score'.symm⟩
          | succ i =>
              rw [next.trans next'.symm] at later
              have alike' : Alike first second rest rest' i := fun j below => alike (j + 1) (Nat.succ_le_succ below)
              exact ih i head'.2 rest' others others' later later' alike' there there'

theorem run_ok (sqrt : ℚ → ℚ) (candles : List MarketCandle) (scheme : String) (trainSize validationSize step : Int)
    (report : WalkForwardReport V)
    (ran : analysis.run sqrt brokers candles config scheme trainSize validationSize step = .ok report) :
    ∃ windows, generateWindows candles.length scheme trainSize validationSize step = .ok windows ∧
      analysis.runFolds candles config brokers 0 windows = .ok report.folds := by
  obtain ⟨windows, generated, later⟩ := (Causal.bind_ok _ _ _).mp ran
  obtain ⟨folds, all, pure_⟩ := (Causal.bind_ok _ _ _).mp later
  obtain rfl := Except.ok.inj pure_
  refine ⟨windows, generated, all.trans (congrArg Except.ok ?_)⟩
  rw [aggregate]
  split
  · rename_i none
    exact List.isEmpty_iff.mp none
  · rfl

theorem slice_same (first second : List MarketCandle) (start stop below : Int) (early : stop ≤ below)
    (same : first.take below.toNat = second.take below.toNat) : slice first start stop = slice second start stop := by
  have shorter : stop.toNat ≤ below.toNat := Int.toNat_le_toNat early
  rw [slice, slice, ← Nat.min_eq_left shorter, ← List.take_take, ← List.take_take, same]

theorem never_optimizes_on_validation (sqrt : ℚ → ℚ) (scheme : String) (known : Known scheme) (trainSize validationSize step : Int)
    (some_ : 0 < trainSize) (validates : 0 < validationSize) (positive : 0 < step) :
    (∀ total, ∃ windows, generateWindows total scheme trainSize validationSize step = .ok windows ∧
      Generated total trainSize validationSize step windows) ∧
    ∀ first second report report', analysis.run sqrt brokers first config scheme trainSize validationSize step = .ok report →
      analysis.run sqrt brokers second config scheme trainSize validationSize step = .ok report' →
      ∀ (i : Nat) fold fold', report.folds[i]? = some fold → report'.folds[i]? = some fold' →
        first.take fold.window.trainEnd.toNat = second.take fold.window.trainEnd.toNat →
        fold.bestParams = fold'.bestParams ∧ fold.inSampleScore = fold'.inSampleScore := by
  have generated (total : Int) := generate_windows_known total trainSize validationSize step scheme known some_ validates positive
  refine ⟨fun total => ⟨_, generated total, windows_from_generated _ total trainSize validationSize step positive some_ validates⟩,
    fun first second report report' ran ran' i fold fold' there there' same => ?_⟩
  obtain ⟨windows, of, folds⟩ := analysis.run_ok config brokers sqrt first scheme trainSize validationSize step report ran
  obtain ⟨windows', of', folds'⟩ := analysis.run_ok config brokers sqrt second scheme trainSize validationSize step report' ran'
  obtain rfl := Except.ok.inj ((generated first.length).symm.trans of)
  obtain rfl := Except.ok.inj ((generated second.length).symm.trans of')
  have get (total : Int) := windows_from_get (decide (scheme = "rolling")) total trainSize validationSize step positive 0 trainSize
  have last : fold.window.trainEnd = trainSize + i * step := by
    have window := congrArg (fun windows : List Window => windows[i]?) (analysis.run_folds_windows config brokers first 0 _ _ folds)
    simp only [List.getElem?_map, there, Option.map_some] at window
    rw [(get first.length i fold.window window.symm).1]
    rfl
  refine analysis.run_folds_same config brokers first second i 0 _ _ report.folds report'.folds folds folds' ?_ fold fold' there there'
  intro j below a b here here'
  obtain ⟨rfl, -⟩ := get first.length j a here
  obtain ⟨rfl, -⟩ := get second.length j b here'
  have early : (j : Int) * step ≤ i * step := mul_le_mul_of_nonneg_right (by omega) positive.le
  refine ⟨rfl, slice_same first second _ _ fold.window.trainEnd ?_ same⟩
  rw [last]
  simpa [windowAt] using early

-- Bought once, and judged by what the trades made.
def bought : WalkForwardAnalysis Unit Unit Unit where
  execution := {}
  optimizer := Optimizer.randomSearch "net_profit" 1 {}
  dice := .lowest
  seed := ()
  sourceFactory _ := (longOnce, ())
  objective := "net_profit"
  statistics _ trades _ := [("net_profit", .float (.finite (trades.map TradeRecord.pnl).sum))]

-- Three bars to train on and two to validate on.
def rising (last : ℚ) : List MarketCandle :=
  [minute 0 100 100 100 100, minute 1 100 100 100 100, minute 2 100 100 100 100, minute 3 100 100 100 100, minute 4 100 last 100 last]

theorem one_window (last : ℚ) : generateWindows (rising last).length "rolling" 3 2 1 = .ok [windowAt true 3 2 0 3] := by
  rw [generate_windows_known _ 3 2 1 "rolling" (.inl rfl) (by decide) (by decide) (by decide)]
  rw [windowsFrom, windowsFrom]
  rfl

def bitcoin : BacktestConfig := { symbol := "BTCUSDT" }

theorem run_one (brokers : Nat → PaperBroker) (last : ℚ) : bought.run id brokers (rising last) bitcoin "rolling" 3 2 1 =
    (bought.runFolds (rising last) bitcoin brokers 0 [windowAt true 3 2 0 3]).map (bought.aggregate id "rolling") := by
  rw [run, one_window]
  rfl

def outcomes (report : WalkForwardReport Unit) : List (Int × Extended × ℚ) :=
  report.folds.map (fun fold => (fold.window.trainEnd, fold.inSampleScore, fold.outOfSampleReturnPct))

theorem outcomes_one (result : Except PyError (WalkForwardReport Unit)) (trainEnd : Int) (score : Extended) (percent : ℚ)
    (ran : result.toOption.map outcomes = some [(trainEnd, score, percent)]) : ∃ report fold, result = .ok report ∧
      report.folds[0]? = some fold ∧ fold.window.trainEnd = trainEnd ∧ fold.inSampleScore = score ∧
      fold.outOfSampleReturnPct = percent := by
  obtain ⟨report, held, one⟩ := Option.map_eq_some_iff.mp ran
  obtain ⟨fold, folds, same⟩ := List.map_eq_singleton_iff.mp one
  obtain ⟨rfl, rest⟩ := Prod.mk.inj same
  obtain ⟨rfl, rfl⟩ := Prod.mk.inj rest
  refine ⟨report, fold, ?_, by rw [folds]; rfl, rfl, rfl, rfl⟩
  cases result with
  | error error => exact nomatch held
  | ok report' => rw [show report' = report from Option.some.inj held]

theorem midway_outcomes : (bought.run id (fun _ => .midway) (rising 100) bitcoin "rolling" 3 2 1).toOption.map outcomes =
    some [(3, .finite (-230477 / 125000), -230477 / 12500000)] := by
  rw [run_one]
  decide +kernel

theorem never_optimizes_on_validation_rising : ∃ report report' fold fold',
    bought.run id (fun _ => .midway) (rising 100) bitcoin "rolling" 3 2 1 = .ok report ∧
    bought.run id (fun _ => .midway) (rising 101) bitcoin "rolling" 3 2 1 = .ok report' ∧
    report.folds[0]? = some fold ∧ report'.folds[0]? = some fold' ∧ fold.bestParams = fold'.bestParams ∧
    fold.inSampleScore = fold'.inSampleScore ∧ fold.outOfSampleReturnPct ≠ fold'.outOfSampleReturnPct := by
  have risen : (bought.run id (fun _ => .midway) (rising 101) bitcoin "rolling" 3 2 1).toOption.map outcomes =
      some [(3, .finite (-230477 / 125000), 1801901 / 10000000)] := by
    rw [run_one]
    decide +kernel
  obtain ⟨report, fold, ran, there, at_, -, first⟩ := outcomes_one _ _ _ _ midway_outcomes
  obtain ⟨report', fold', ran', there', -, -, second⟩ := outcomes_one _ _ _ _ risen
  have unseen := (bought.never_optimizes_on_validation bitcoin (fun _ => .midway) id "rolling" (.inl rfl) 3 2 1 (by decide) (by decide)
    (by decide)).2 (rising 100) (rising 101) report report' ran ran' 0 fold fold' there there' (by rw [at_]; rfl)
  exact ⟨report, report', fold, fold', ran, ran', there, there', unseen.1, unseen.2, by rw [first, second]; norm_num⟩

theorem lowest_nonneg : (0 : ℚ) ≤ 0 := le_refl 0

theorem lowest_below_one : (0 : ℚ) < 1 := zero_lt_one

-- The draws of a broker come from generators without a seed.
def calm : PaperBroker := { PaperBroker.midway with slippageRng := .constant 0 lowest_nonneg lowest_below_one }

theorem scores_drawn : generateWindows 5 "sliding" 3 2 1 = .error .value ∧ ∃ report report' fold fold',
    bought.run id (fun _ => .midway) (rising 100) bitcoin "rolling" 3 2 1 = .ok report ∧
    bought.run id (fun _ => calm) (rising 100) bitcoin "rolling" 3 2 1 = .ok report' ∧
    report.folds[0]? = some fold ∧ report'.folds[0]? = some fold' ∧ fold.inSampleScore ≠ fold'.inSampleScore := by
  have low : (bought.run id (fun _ => calm) (rising 100) bitcoin "rolling" 3 2 1).toOption.map outcomes =
      some [(3, .finite (-909909 / 500000), -909909 / 50000000)] := by
    rw [run_one]
    decide +kernel
  obtain ⟨report, fold, ran, there, -, first, -⟩ := outcomes_one _ _ _ _ midway_outcomes
  obtain ⟨report', fold', ran', there', -, second, -⟩ := outcomes_one _ _ _ _ low
  refine ⟨rfl, report, report', fold, fold', ran, ran', there, there', fun same => ?_⟩
  rw [first, second] at same
  exact absurd (Extended.finite.inj same) (by norm_num)

end WalkForwardAnalysis

end QuantEngine.WalkForward
