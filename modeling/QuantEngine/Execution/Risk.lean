import QuantEngine.Execution.Models
import QuantEngine.Library.Dict

set_option autoImplicit false

namespace QuantEngine

open Calendar (Moment)
open Decimal (fixed)

structure ExecutionRiskSettings where
  maxRiskPerTradePct : ℚ := 1 / 2
  maxDailyLossPct : ℚ := 3
  maxWeeklyLossPct : ℚ := 8
  maxMonthlyLossPct : ℚ := 15
  maxConsecutiveLosses : Int := 5
  maxOpenPositions : Int := 5
  maxPositionsPerSymbol : Int := 1
  maxExposurePct : ℚ := 100
  maxSymbolExposurePct : ℚ := 40
  maxCorrelationExposurePct : ℚ := 60
  correlationGroups : List (List String) := []
  minLiquidity : ℚ := 0
  maxSpreadBps : ℚ := 10
  circuitBreakerLossPct : ℚ := 5
  circuitBreakerWindowMinutes : ℚ := 15
  killSwitchDrawdownPct : ℚ := 20
  deriving DecidableEq

structure RiskQuery where
  symbol : String
  newNotional : ℚ
  equity : ℚ
  openPositions : Nat
  positionsOnSymbol : Nat
  symbolExposures : Dict String ℚ

structure RiskCheck where
  allowed : Bool
  rule : String := ""
  reason : String := ""
  deriving DecidableEq

structure RiskManager where
  settings : ExecutionRiskSettings
  initialBalance : ℚ
  ledger : List (Moment × ℚ) := []
  consecutiveLosses : Int := 0
  killSwitch : Bool := false
  killReason : String := ""
  circuitBreaker : Bool := false
  circuitReason : String := ""
  circuitUntil : Option Moment := none
  lastDrawdownPct : ℚ := 0
  deriving DecidableEq

structure RiskStatus where
  killSwitch : Bool
  killReason : String
  circuitBreaker : Bool
  circuitReason : String
  consecutiveLosses : Int
  drawdownPct : ℚ
  realizedToday : ℚ
  deriving DecidableEq

def orElseText (text fallback : String) : String := if text = "" then fallback else text

namespace RiskManager

def init (settings : ExecutionRiskSettings) (initialBalance : ℚ) : RiskManager := { settings, initialBalance }

def killSwitchActive (risk : RiskManager) : Bool := risk.killSwitch

def engageKillSwitch (risk : RiskManager) (reason : String) : RiskManager :=
  { risk with killSwitch := true, killReason := reason }

def resetKillSwitch (risk : RiskManager) : RiskManager := { risk with killSwitch := false, killReason := "" }

def resetCircuitBreaker (risk : RiskManager) : RiskManager :=
  { risk with circuitBreaker := false, circuitReason := "", circuitUntil := none }

def restore (risk : RiskManager) (consecutiveLosses : Int) : RiskManager :=
  { risk with consecutiveLosses := max 0 consecutiveLosses }

def circuitElapsed (risk : RiskManager) (now : Moment) : Bool :=
  risk.circuitBreaker && match risk.circuitUntil with
    | none => false
    | some deadline => decide (now ≥ deadline)

def refreshCircuitBreaker (risk : RiskManager) (now : Moment) : RiskManager :=
  if risk.circuitElapsed now then risk.resetCircuitBreaker else risk

-- Reading the property releases a breaker whose window has elapsed.
def circuitBreakerActive (risk : RiskManager) (now : Moment) : Bool :=
  (risk.refreshCircuitBreaker now).circuitBreaker

def checkSpread (risk : RiskManager) (spreadBps : Option ℚ) : RiskCheck :=
  match spreadBps with
  | none => ⟨true, "", ""⟩
  | some spread =>
      if spread > risk.settings.maxSpreadBps then
        ⟨false, "spread_filter",
          "spread " ++ fixed 1 spread ++ " bps > máximo " ++ fixed 1 risk.settings.maxSpreadBps⟩
      else ⟨true, "", ""⟩

def checkLiquidity (risk : RiskManager) (volume : Option ℚ) : RiskCheck :=
  match volume with
  | none => ⟨true, "", ""⟩
  | some volume =>
      if risk.settings.minLiquidity > 0 && decide (volume < risk.settings.minLiquidity) then
        ⟨false, "liquidity_filter",
          "liquidez " ++ fixed 2 volume ++ " < mínimo " ++ fixed 2 risk.settings.minLiquidity⟩
      else ⟨true, "", ""⟩

def realizedSince (risk : RiskManager) (since : Moment) : ℚ :=
  ((risk.ledger.filter (fun entry => decide (entry.1 ≥ since))).map Prod.snd).sum

def periodRule (risk : RiskManager) (rule : String) (realized limitPct : ℚ) : Option RiskCheck :=
  let limit := -|risk.initialBalance * limitPct / 100|
  if realized ≤ limit then
    some ⟨false, rule, "pérdida " ++ fixed 2 realized ++ " ≤ límite " ++ fixed 2 limit ++ " (" ++
      fixed 0 limitPct ++ "%)"⟩
  else none

def dailyRule (risk : RiskManager) (now : Moment) : Option RiskCheck :=
  risk.periodRule "max_daily_loss" (risk.realizedSince (Calendar.startOfDay now)) risk.settings.maxDailyLossPct

def weeklyRule (risk : RiskManager) (now : Moment) : Option RiskCheck :=
  risk.periodRule "max_weekly_loss" (risk.realizedSince (Calendar.startOfWeek now)) risk.settings.maxWeeklyLossPct

def monthlyRule (risk : RiskManager) (now : Moment) : Option RiskCheck :=
  risk.periodRule "max_monthly_loss" (risk.realizedSince (Calendar.startOfMonth now))
    risk.settings.maxMonthlyLossPct

def periodCheck (risk : RiskManager) (now : Moment) : Option RiskCheck :=
  (risk.dailyRule now).or ((risk.weeklyRule now).or (risk.monthlyRule now))

-- A symbol in several groups counts the exposure of each of them.
def correlatedExposure (risk : RiskManager) (symbol : String) (query : RiskQuery) : ℚ :=
  (risk.settings.correlationGroups.map (fun group =>
    let members := group.map upper
    if symbol ∈ members then
      ((query.symbolExposures.entries.filter (fun entry => decide (upper entry.1 ∈ members))).map Prod.snd).sum
    else 0)).sum

def exposureText (what : String) (projected limit limitPct equity : ℚ) : String :=
  what ++ " " ++ fixed 2 projected ++ " > límite " ++ fixed 2 limit ++ " (" ++ fixed 0 limitPct ++
    "% de un equity de " ++ fixed 2 equity ++ ")"

def exposureCheck (risk : RiskManager) (query : RiskQuery) : RiskCheck :=
  let s := risk.settings
  let equity := query.equity
  if equity ≤ 0 then ⟨false, "insufficient_capital", "equity no positivo"⟩
  else
    let projectedTotal := query.symbolExposures.values.sum + query.newNotional
    let limitTotal := equity * s.maxExposurePct / 100
    if projectedTotal > limitTotal then
      ⟨false, "max_exposure", exposureText "exposición total" projectedTotal limitTotal s.maxExposurePct equity⟩
    else
      let symbol := upper query.symbol
      let projectedSymbol := (query.symbolExposures.lookup symbol).getD 0 + query.newNotional
      let limitSymbol := equity * s.maxSymbolExposurePct / 100
      if projectedSymbol > limitSymbol then
        ⟨false, "max_symbol_exposure",
          exposureText ("exposición en " ++ symbol) projectedSymbol limitSymbol s.maxSymbolExposurePct equity⟩
      else
        let correlated := risk.correlatedExposure symbol query + query.newNotional
        let limitCorr := equity * s.maxCorrelationExposurePct / 100
        if correlated > limitCorr then
          ⟨false, "max_correlation_exposure",
            exposureText "exposición correlacionada" correlated limitCorr s.maxCorrelationExposurePct equity⟩
        else ⟨true, "", ""⟩

def lossStreak (risk : RiskManager) : Bool :=
  decide (risk.consecutiveLosses ≥ risk.settings.maxConsecutiveLosses) &&
    decide (risk.settings.maxConsecutiveLosses > 0)

def entryCheck (risk : RiskManager) (query : RiskQuery) (now : Moment) : RiskCheck :=
  let s := risk.settings
  if risk.killSwitch then ⟨false, "kill_switch", orElseText risk.killReason "kill switch activo"⟩
  else if risk.circuitBreaker then
    ⟨false, "circuit_breaker", orElseText risk.circuitReason "circuit breaker"⟩
  else if query.newNotional ≤ 0 then ⟨false, "invalid_quantity", "nocional no positivo"⟩
  else if risk.lossStreak then
    ⟨false, "max_consecutive_losses",
      toString risk.consecutiveLosses ++ " pérdidas seguidas ≥ " ++ toString s.maxConsecutiveLosses⟩
  else if (query.openPositions : Int) ≥ s.maxOpenPositions then
    ⟨false, "max_open_positions",
      toString query.openPositions ++ " posiciones ≥ máximo " ++ toString s.maxOpenPositions⟩
  else if (query.positionsOnSymbol : Int) ≥ s.maxPositionsPerSymbol then
    ⟨false, "max_positions_per_symbol",
      toString query.positionsOnSymbol ++ " en " ++ query.symbol ++ " ≥ " ++ toString s.maxPositionsPerSymbol⟩
  else match risk.periodCheck now with
    | some refused => refused
    | none => risk.exposureCheck query

-- With the kill switch engaged the breaker is not looked at.
def evaluateEntry (risk : RiskManager) (query : RiskQuery) (now : Moment) : RiskCheck × RiskManager :=
  if risk.killSwitch then (risk.entryCheck query now, risk)
  else
    let refreshed := risk.refreshCircuitBreaker now
    (refreshed.entryCheck query now, refreshed)

def window (risk : RiskManager) : Int :=
  Decimal.roundHalfEven (risk.settings.circuitBreakerWindowMinutes * 60000000)

def checkCircuitBreaker (risk : RiskManager) (now : Moment) : RiskManager :=
  let realized := ((risk.ledger.filter (fun entry => decide (now - entry.1 ≤ risk.window))).map Prod.snd).sum
  let limit := -|risk.initialBalance * risk.settings.circuitBreakerLossPct / 100|
  if realized ≤ limit then
    { risk with
      circuitBreaker := true
      circuitUntil := some (now + risk.window)
      circuitReason := "pérdida " ++ fixed 2 realized ++ " en " ++
        fixed 0 risk.settings.circuitBreakerWindowMinutes ++ " min" }
  else risk

def onTradeClosed (risk : RiskManager) (netPnl : ℚ) (moment : Moment) : RiskManager :=
  let streak := if netPnl < 0 then risk.consecutiveLosses + 1
    else if netPnl > 0 then 0 else risk.consecutiveLosses
  let noted := { risk with ledger := risk.ledger ++ [(moment, netPnl)], consecutiveLosses := streak }
  noted.checkCircuitBreaker moment

def drawdownBreached (risk : RiskManager) (drawdownPct : ℚ) : Bool :=
  decide (drawdownPct ≥ risk.settings.killSwitchDrawdownPct) && decide (risk.settings.killSwitchDrawdownPct > 0)

def updateEquity (risk : RiskManager) (drawdownPct : ℚ) : RiskManager :=
  let noted := { risk with lastDrawdownPct := drawdownPct }
  if risk.drawdownBreached drawdownPct then
    noted.engageKillSwitch ("drawdown " ++ fixed 1 drawdownPct ++ "% ≥ " ++
      fixed 1 risk.settings.killSwitchDrawdownPct ++ "%")
  else noted

def status (risk : RiskManager) (now : Moment) : RiskStatus × RiskManager :=
  let refreshed := risk.refreshCircuitBreaker now
  ({ killSwitch := risk.killSwitch
     killReason := risk.killReason
     circuitBreaker := refreshed.circuitBreaker
     circuitReason := refreshed.circuitReason
     consecutiveLosses := risk.consecutiveLosses
     drawdownPct := Decimal.roundTo 4 risk.lastDrawdownPct
     realizedToday := Decimal.roundTo 4 (risk.realizedSince (Calendar.startOfDay now)) },
   refreshed)

theorem refresh_frame (risk : RiskManager) (now : Moment) :
    (risk.refreshCircuitBreaker now).killSwitch = risk.killSwitch ∧
      (risk.refreshCircuitBreaker now).consecutiveLosses = risk.consecutiveLosses ∧
      (risk.refreshCircuitBreaker now).settings = risk.settings := by
  rw [refreshCircuitBreaker]
  split <;> exact ⟨rfl, rfl, rfl⟩

theorem active_eq (risk : RiskManager) (now : Moment) : risk.circuitBreakerActive now =
    (risk.circuitBreaker && risk.circuitUntil.all (fun deadline => decide (now < deadline))) := by
  rw [circuitBreakerActive, refreshCircuitBreaker, circuitElapsed]
  cases risk.circuitUntil with
  | none => simp
  | some deadline =>
      by_cases past : deadline ≤ now <;> cases on : risk.circuitBreaker <;>
        simp [past, on, resetCircuitBreaker, not_le.mp]

theorem refresh_active (risk : RiskManager) (now : Moment) :
    (risk.refreshCircuitBreaker now).circuitBreakerActive now = risk.circuitBreakerActive now := by
  by_cases past : risk.circuitElapsed now = true
  · simp [circuitBreakerActive, refreshCircuitBreaker, past, resetCircuitBreaker]
  · simp [refreshCircuitBreaker, past]

theorem evaluate_frame (risk : RiskManager) (query : RiskQuery) (now : Moment) :
    (risk.evaluateEntry query now).2.killSwitch = risk.killSwitch ∧
      (risk.evaluateEntry query now).2.consecutiveLosses = risk.consecutiveLosses ∧
      (risk.evaluateEntry query now).2.settings = risk.settings := by
  rw [evaluateEntry]
  split
  · exact ⟨rfl, rfl, rfl⟩
  · exact refresh_frame risk now

theorem check_breaker_settings (risk : RiskManager) (now : Moment) :
    (risk.checkCircuitBreaker now).settings = risk.settings := by
  simp only [checkCircuitBreaker]
  split <;> rfl

theorem trade_closed_noted (risk : RiskManager) (netPnl : ℚ) (moment : Moment) :
    ∃ noted : RiskManager, risk.onTradeClosed netPnl moment = noted.checkCircuitBreaker moment ∧
      noted.settings = risk.settings ∧ noted.initialBalance = risk.initialBalance ∧
      noted.ledger = risk.ledger ++ [(moment, netPnl)] ∧ noted.circuitBreaker = risk.circuitBreaker ∧
      noted.circuitUntil = risk.circuitUntil :=
  ⟨_, rfl, rfl, rfl, rfl, rfl, rfl⟩

theorem trade_closed_settings (risk : RiskManager) (netPnl : ℚ) (moment : Moment) :
    (risk.onTradeClosed netPnl moment).settings = risk.settings :=
  check_breaker_settings _ moment

theorem check_breaker_switch (risk : RiskManager) (now : Moment) :
    (risk.checkCircuitBreaker now).killSwitchActive = risk.killSwitchActive := by
  simp only [checkCircuitBreaker]
  split <;> rfl

theorem trade_closed_switch (risk : RiskManager) (netPnl : ℚ) (moment : Moment) :
    (risk.onTradeClosed netPnl moment).killSwitchActive = risk.killSwitchActive :=
  check_breaker_switch _ moment

theorem update_equity_switch (risk : RiskManager) (drawdownPct : ℚ) (active : risk.killSwitchActive = true) :
    (risk.updateEquity drawdownPct).killSwitchActive = true := by
  simp only [updateEquity]
  split
  · rfl
  · exact active

theorem update_equity_settings (risk : RiskManager) (drawdownPct : ℚ) :
    (risk.updateEquity drawdownPct).settings = risk.settings := by
  simp only [updateEquity]
  split <;> rfl

theorem update_equity_breached (risk : RiskManager) (drawdownPct : ℚ)
    (breached : risk.drawdownBreached drawdownPct = true) : (risk.updateEquity drawdownPct).killSwitchActive = true := by
  simp only [updateEquity, breached, if_true]
  rfl

theorem status_settings (risk : RiskManager) (now : Moment) : (risk.status now).2.settings = risk.settings :=
  (refresh_frame risk now).2.2

theorem entry_check_allowed (risk : RiskManager) (query : RiskQuery) (now : Moment)
    (allowed : (risk.entryCheck query now).allowed = true) :
    risk.killSwitch = false ∧ risk.circuitBreaker = false ∧
      (query.openPositions : Int) < risk.settings.maxOpenPositions ∧
      (query.positionsOnSymbol : Int) < risk.settings.maxPositionsPerSymbol := by
  simp only [entryCheck] at allowed
  by_cases kill : risk.killSwitch = true
  · rw [if_pos kill] at allowed
    cases allowed
  · rw [if_neg kill] at allowed
    by_cases breaker : risk.circuitBreaker = true
    · rw [if_pos breaker] at allowed
      cases allowed
    · rw [if_neg breaker] at allowed
      split at allowed
      · cases allowed
      · split at allowed
        · cases allowed
        · by_cases total : (query.openPositions : Int) ≥ risk.settings.maxOpenPositions
          · rw [if_pos total] at allowed
            cases allowed
          · rw [if_neg total] at allowed
            by_cases symbol : (query.positionsOnSymbol : Int) ≥ risk.settings.maxPositionsPerSymbol
            · rw [if_pos symbol] at allowed
              cases allowed
            · exact ⟨Bool.not_eq_true _ ▸ kill, Bool.not_eq_true _ ▸ breaker, not_le.mp total, not_le.mp symbol⟩

theorem evaluate_allowed (risk : RiskManager) (query : RiskQuery) (now : Moment)
    (allowed : (risk.evaluateEntry query now).1.allowed = true) :
    risk.killSwitchActive = false ∧ risk.circuitBreakerActive now = false ∧
      (query.openPositions : Int) < risk.settings.maxOpenPositions ∧
      (query.positionsOnSymbol : Int) < risk.settings.maxPositionsPerSymbol := by
  rw [evaluateEntry] at allowed
  split at allowed
  · rename_i kill
    have off := (entry_check_allowed risk query now allowed).1
    rw [kill] at off
    cases off
  · obtain ⟨kill, breaker, total, symbol⟩ := entry_check_allowed _ query now allowed
    obtain ⟨sameKill, -, sameSettings⟩ := refresh_frame risk now
    rw [sameKill] at kill
    rw [sameSettings] at total symbol
    exact ⟨kill, breaker, total, symbol⟩

end RiskManager

end QuantEngine
