import QuantEngine.Production.Recovery

set_option autoImplicit false

namespace QuantEngine.RestartLimits

open Calendar (Moment)
open RecoveryService

def hardRules : List String :=
  ["kill_switch", "circuit_breaker", "max_consecutive_losses", "max_daily_loss", "max_weekly_loss",
    "max_monthly_loss"]

def RefusedHard (check : RiskCheck) : Prop := check.allowed = false ∧ check.rule ∈ hardRules

def freshManagers (managers : Managers) (initialBalance : ℚ) : Managers where
  positions := {}
  portfolio := .init initialBalance managers.portfolio.baseCurrency managers.portfolio.leverage
  risk := .init managers.risk.settings initialBalance
  journal := { managers.journal with trades := [] }

structure Times where
  refused : Moment
  captured : Moment
  restored : Moment
  queried : Moment

def afterRefusal (managers : Managers) (query : RiskQuery) (times : Times) : EngineState × Managers :=
  capture { managers with risk := (managers.risk.evaluateEntry query times.refused).2 } times.captured

def restarted (settings : RecoverySettings) (managers : Managers) (query : RiskQuery) (times : Times)
    (initialBalance : ℚ) : Managers :=
  (RecoveryService.restore { settings := settings, file := .stored (afterRefusal managers query times).1 }
    times.restored (freshManagers managers initialBalance)).2

-- A hard refusal is still one after the restart, as long as the old process
-- would have refused too.
def RefusalKept (settings : RecoverySettings) (managers : Managers) (query : RiskQuery) (times : Times)
    (initialBalance : ℚ) : Prop :=
  RefusedHard (managers.risk.evaluateEntry query times.refused).1 →
    ((afterRefusal managers query times).2.risk.evaluateEntry query times.queried).1.allowed = false →
      ((restarted settings managers query times initialBalance).risk.evaluateEntry query times.queried).1.allowed =
        false

def RefusedByQuery (risk : RiskManager) (query : RiskQuery) : Prop :=
  query.newNotional ≤ 0 ∨ (query.openPositions : Int) ≥ risk.settings.maxOpenPositions ∨
    (query.positionsOnSymbol : Int) ≥ risk.settings.maxPositionsPerSymbol ∨
    (risk.exposureCheck query).allowed = false

-- A loss limit of zero is breached by an empty ledger.
def ZeroLimit (settings : ExecutionRiskSettings) (initialBalance : ℚ) : Prop :=
  initialBalance = 0 ∨ settings.maxDailyLossPct = 0 ∨ settings.maxWeeklyLossPct = 0 ∨
    settings.maxMonthlyLossPct = 0

-- The refusal rests on what a snapshot carries: the kill switch or the loss
-- streak, or else on the query or the configuration alone.
def Carried (risk : RiskManager) (query : RiskQuery) (initialBalance : ℚ) : Prop :=
  risk.killSwitch = true ∨ risk.lossStreak = true ∨ RefusedByQuery risk query ∨
    ZeroLimit risk.settings initialBalance

theorem evaluate_calm (risk : RiskManager) (query : RiskQuery) (now : Moment) (calm : risk.circuitBreaker = false) :
    (risk.evaluateEntry query now).1 = risk.entryCheck query now := by
  rw [RiskManager.evaluateEntry]
  split
  · rfl
  · simp [RiskManager.refreshCircuitBreaker, RiskManager.circuitElapsed, calm]

theorem period_rule_empty (risk : RiskManager) (rule : String) (limitPct : ℚ) :
    risk.periodRule rule 0 limitPct = none ↔ ¬ (risk.initialBalance = 0 ∨ limitPct = 0) := by
  rw [RiskManager.periodRule]
  have zero : (0 ≤ -|risk.initialBalance * limitPct / 100|) ↔ (risk.initialBalance = 0 ∨ limitPct = 0) := by
    rw [Left.nonneg_neg_iff, abs_nonpos_iff, div_eq_zero_iff, mul_eq_zero]
    simp
  by_cases breached : 0 ≤ -|risk.initialBalance * limitPct / 100|
  · simp only [if_pos breached, reduceCtorEq, false_iff, not_not]
    exact zero.mp breached
  · simp only [if_neg breached, true_iff]
    exact fun either => breached (zero.mpr either)

theorem period_check_empty (risk : RiskManager) (now : Moment) (empty : risk.ledger = []) :
    risk.periodCheck now = none ↔ ¬ ZeroLimit risk.settings risk.initialBalance := by
  have none_realized (since : Moment) : risk.realizedSince since = 0 := by
    simp [RiskManager.realizedSince, empty]
  simp only [RiskManager.periodCheck, Option.or_eq_none_iff, RiskManager.dailyRule, RiskManager.weeklyRule,
    RiskManager.monthlyRule, none_realized, period_rule_empty, ZeroLimit]
  tauto

theorem period_check_refuses (risk : RiskManager) (now : Moment) (check : RiskCheck)
    (found : risk.periodCheck now = some check) : check.allowed = false := by
  have refuses (rule : String) (realized limitPct : ℚ) (check : RiskCheck)
      (found : risk.periodRule rule realized limitPct = some check) : check.allowed = false := by
    simp only [RiskManager.periodRule] at found
    split at found
    · cases found
      rfl
    · cases found
  simp only [RiskManager.periodCheck, Option.or_eq_some_iff] at found
  rcases found with daily | ⟨_, weekly | ⟨_, monthly⟩⟩
  · exact refuses _ _ _ check daily
  · exact refuses _ _ _ check weekly
  · exact refuses _ _ _ check monthly

theorem exposure_settings (a b : RiskManager) (query : RiskQuery) (same : a.settings = b.settings) :
    a.exposureCheck query = b.exposureCheck query := by
  cases a
  cases b
  cases same
  rfl

theorem entry_check_empty (risk : RiskManager) (query : RiskQuery) (now : Moment)
    (calm : risk.circuitBreaker = false) (empty : risk.ledger = []) :
    (risk.entryCheck query now).allowed = false ↔ Carried risk query risk.initialBalance := by
  have periods := period_check_empty risk now empty
  rw [RiskManager.entryCheck, Carried, RefusedByQuery]
  by_cases kill : risk.killSwitch = true
  · simp [kill]
  · by_cases notional : query.newNotional ≤ 0
    · simp [kill, calm, notional]
    · by_cases streak : risk.lossStreak = true
      · simp [kill, calm, notional, streak]
      · by_cases count : (query.openPositions : Int) ≥ risk.settings.maxOpenPositions
        · simp [kill, calm, notional, streak, count]
        · by_cases symbol : (query.positionsOnSymbol : Int) ≥ risk.settings.maxPositionsPerSymbol
          · simp [kill, calm, notional, streak, count, symbol]
          · cases period : risk.periodCheck now with
            | some check =>
                have zero : ZeroLimit risk.settings risk.initialBalance := by
                  by_contra positive
                  rw [periods.mpr positive] at period
                  cases period
                simp [kill, calm, notional, streak, count, symbol, zero, period_check_refuses risk now check period]
            | none =>
                have positive := periods.mp period
                simp [kill, calm, notional, streak, count, symbol, positive]

theorem restarted_risk (settings : RecoverySettings) (managers : Managers) (query : RiskQuery) (times : Times)
    (initialBalance : ℚ)
    (young : tooOld settings (afterRefusal managers query times).1 times.restored = false) :
    (restarted settings managers query times initialBalance).risk =
      applyRisk (afterRefusal managers query times).1 (.init managers.risk.settings initialBalance) := by
  simp only [restarted, restore_managers, restoreJournal, restoreSnapshot, SnapshotFile.load, young,
    Bool.false_eq_true, if_false]
  rfl

theorem captured_risk (managers : Managers) (query : RiskQuery) (times : Times) :
    (afterRefusal managers query times).1.killSwitchActive = managers.risk.killSwitch ∧
      (afterRefusal managers query times).1.consecutiveLosses = managers.risk.consecutiveLosses := by
  obtain ⟨kill, streak, _⟩ := RiskManager.evaluate_frame managers.risk query times.refused
  exact ⟨kill, streak⟩

theorem restarted_refuses (settings : RecoverySettings) (managers : Managers) (query : RiskQuery) (times : Times)
    (initialBalance : ℚ)
    (young : tooOld settings (afterRefusal managers query times).1 times.restored = false) :
    ((restarted settings managers query times initialBalance).risk.evaluateEntry query times.queried).1.allowed =
        false ↔ Carried managers.risk query initialBalance := by
  obtain ⟨kill, streak⟩ := captured_risk managers query times
  rw [restarted_risk settings managers query times initialBalance young]
  generalize restored : applyRisk (afterRefusal managers query times).1
    (.init managers.risk.settings initialBalance) = risk
  have state : risk.killSwitch = managers.risk.killSwitch ∧
      risk.consecutiveLosses = max 0 managers.risk.consecutiveLosses ∧ risk.circuitBreaker = false ∧
      risk.ledger = [] ∧ risk.settings = managers.risk.settings ∧ risk.initialBalance = initialBalance := by
    rw [← restored, ← kill, ← streak]
    rw [applyRisk]
    split
    · rename_i engaged
      exact ⟨engaged.symm, rfl, rfl, rfl, rfl, rfl⟩
    · rename_i free
      exact ⟨(Bool.not_eq_true _ ▸ free).symm, rfl, rfl, rfl, rfl, rfl⟩
  obtain ⟨sameKill, sameStreak, calm, empty, sameSettings, balance⟩ := state
  have loss : risk.lossStreak = managers.risk.lossStreak := by
    simp only [RiskManager.lossStreak, sameStreak, sameSettings]
    by_cases positive : managers.risk.settings.maxConsecutiveLosses > 0
    · have both : max 0 managers.risk.consecutiveLosses ≥ managers.risk.settings.maxConsecutiveLosses ↔
          managers.risk.consecutiveLosses ≥ managers.risk.settings.maxConsecutiveLosses := by omega
      simp only [both]
    · simp [positive]
  have exposure := exposure_settings risk managers.risk query sameSettings
  rw [evaluate_calm risk query times.queried calm, entry_check_empty risk query times.queried calm empty]
  simp only [Carried, RefusedByQuery, sameKill, loss, exposure, sameSettings, balance]

-- A restart keeps a hard refusal exactly when the refusal rests on what the
-- snapshot carries, and not on the ledger or the circuit breaker alone.
theorem refusal_kept_iff (settings : RecoverySettings) (managers : Managers) (query : RiskQuery) (times : Times)
    (initialBalance : ℚ)
    (young : tooOld settings (afterRefusal managers query times).1 times.restored = false) :
    RefusalKept settings managers query times initialBalance ↔
      (RefusedHard (managers.risk.evaluateEntry query times.refused).1 →
        ((afterRefusal managers query times).2.risk.evaluateEntry query times.queried).1.allowed = false →
          Carried managers.risk query initialBalance) := by
  rw [RefusalKept]
  rw [restarted_refuses settings managers query times initialBalance young]

-- 2024-03-06 12:00 UTC, a Wednesday.
def noon : Moment := 1709726400000000

def times : Times := ⟨noon, noon + 1000000, noon + 5000000, noon + 6000000⟩

def afterLoss (settings : ExecutionRiskSettings) (loss : ℚ) : Managers where
  positions := {}
  portfolio := (PortfolioManager.init 10000 "USD" 1).onTradeClosed (-loss) 0
  risk := (RiskManager.init settings 10000).onTradeClosed (-loss) (noon - 3600000000)
  journal := {}

def entry : RiskQuery := ⟨"BTCUSDT", 100, 9600, 0, 0, .empty⟩

theorem refusal_kept_streak :
    RefusalKept {} (afterLoss { maxConsecutiveLosses := 1 } 10) entry times 10000 ↔
      (RefusedHard ((afterLoss { maxConsecutiveLosses := 1 } 10).risk.evaluateEntry entry times.refused).1 →
        ((afterRefusal (afterLoss { maxConsecutiveLosses := 1 } 10) entry times).2.risk.evaluateEntry entry
          times.queried).1.allowed = false →
          Carried (afterLoss { maxConsecutiveLosses := 1 } 10).risk entry 10000) :=
  refusal_kept_iff {} (afterLoss { maxConsecutiveLosses := 1 } 10) entry times 10000 (by decide +kernel)

-- A loss of 400 on 10000 breaches the daily limit of 3%; the restart forgets it.
theorem daily_loss_forgotten : ¬ RefusalKept {} (afterLoss {} 400) entry times 10000 := by
  intro kept
  have hard : RefusedHard ((afterLoss {} 400).risk.evaluateEntry entry times.refused).1 := by
    refine ⟨by decide +kernel, ?_⟩
    have rule : ((afterLoss {} 400).risk.evaluateEntry entry times.refused).1.rule = "max_daily_loss" := by
      decide +kernel
    rw [rule]
    decide
  have still : ((afterRefusal (afterLoss {} 400) entry times).2.risk.evaluateEntry entry
      times.queried).1.allowed = false := by decide +kernel
  have allowed : ((restarted {} (afterLoss {} 400) entry times 10000).risk.evaluateEntry entry
      times.queried).1.allowed = true := by decide +kernel
  rw [kept hard still] at allowed
  cases allowed

end QuantEngine.RestartLimits
