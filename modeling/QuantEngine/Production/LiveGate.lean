import QuantEngine.Execution.Models
import QuantEngine.Library.Text

set_option autoImplicit false

namespace QuantEngine

open Calendar (Moment)
open Decimal (general)

structure LiveGateSettings where
  minProfitFactor : ℚ := 16 / 10
  minSharpe : ℚ := 12 / 10
  maxDrawdownPct : ℚ := 12
  minPaperTrades : Int := 200
  minPaperDays : ℚ := 30
  requireQualification : Bool := true
  requireWalkForward : Bool := true
  requireMonteCarlo : Bool := true
  requireMlStable : Bool := true
  requireNoCriticalDrift : Bool := true
  minTestCoveragePct : ℚ := 80
  maxOpenCriticalErrors : Int := 0
  requireHealthySystem : Bool := true
  requireBrokerConnected : Bool := true
  requireDiscord : Bool := true
  requireDatabase : Bool := true
  requireRedis : Bool := false
  requireWatchdog : Bool := true
  requireScheduler : Bool := true
  requireRiskManager : Bool := true
  requireOperatorApproval : Bool := true
  approvalTtlHours : ℚ := 24
  deriving DecidableEq

structure GateCheck where
  name : String
  passed : Bool
  detail : String
  blocking : Bool := true
  deriving DecidableEq

structure GateInputs where
  allowLive : Bool := false
  modeRequested : String := "paper"
  environment : String := "development"
  paperTrades : Int := 0
  paperDays : ℚ := 0
  profitFactor : Option ℚ := none
  sharpe : Option ℚ := none
  maxDrawdownPct : Option ℚ := none
  qualificationApproved : Option Bool := none
  walkForwardApproved : Option Bool := none
  monteCarloApproved : Option Bool := none
  mlStable : Option Bool := none
  criticalDrift : Option Bool := none
  testCoveragePct : Option ℚ := none
  openCriticalErrors : Int := 0
  systemHealthy : Option Bool := none
  brokerConnected : Option Bool := none
  discordOk : Option Bool := none
  databaseOk : Option Bool := none
  redisOk : Option Bool := none
  watchdogOk : Option Bool := none
  schedulerOk : Option Bool := none
  riskManagerOk : Option Bool := none
  killSwitchActive : Bool := false
  safeModeActive : Bool := false
  deriving DecidableEq

structure LiveGateReport where
  approved : Bool
  checks : List GateCheck
  reasons : List String
  reportHash : String
  evaluatedAt : Moment
  deriving DecidableEq

namespace LiveGate

-- `{text!r}` of a text without quotes and control characters.
def quoted (text : String) : String := "'" ++ text ++ "'"

def atLeast (name : String) (value : Option ℚ) (minimum : ℚ) (unit : String) : GateCheck :=
  match value with
  | none => ⟨name, false, name ++ " desconocido (mínimo " ++ general minimum ++ unit ++ ")", true⟩
  | some value => ⟨name, decide (value ≥ minimum),
      name ++ " " ++ general value ++ unit ++ " (mínimo " ++ general minimum ++ unit ++ ")", true⟩

def atMost (name : String) (value : Option ℚ) (maximum : ℚ) (unit : String) : GateCheck :=
  match value with
  | none => ⟨name, false, name ++ " desconocido (máximo " ++ general maximum ++ unit ++ ")", true⟩
  | some value => ⟨name, decide (value ≤ maximum),
      name ++ " " ++ general value ++ unit ++ " (máximo " ++ general maximum ++ unit ++ ")", true⟩

def requiredFlag (name : String) (value : Option Bool) (label : String) : GateCheck :=
  match value with
  | none => ⟨name, false, label ++ ": estado desconocido (se asume no cumplido)", true⟩
  | some value => ⟨name, value, label ++ ": " ++ (if value then "OK" else "NO disponible"), true⟩

def whenRequired (required : Bool) (check : GateCheck) : List GateCheck := if required then [check] else []

def killSwitchCheck (inputs : GateInputs) : GateCheck :=
  ⟨"kill_switch", !inputs.killSwitchActive,
    if inputs.killSwitchActive then "Kill switch activo" else "Kill switch liberado", true⟩

def safeModeCheck (inputs : GateInputs) : GateCheck :=
  ⟨"safe_mode", !inputs.safeModeActive,
    if inputs.safeModeActive then "Safe Mode activo" else "Fuera de Safe Mode", true⟩

def switchChecks (inputs : GateInputs) : List GateCheck :=
  [⟨"allow_live", inputs.allowLive,
      if inputs.allowLive then "Llave maestra production.allow_live activada"
      else "production.allow_live está en False (llave maestra cerrada)", true⟩,
    ⟨"mode_requested", inputs.modeRequested == "live",
      "execution.mode = " ++ quoted inputs.modeRequested ++
        (if inputs.modeRequested = "live" then "" else " (no se pide live)"), true⟩,
    ⟨"environment", inputs.environment == "production",
      "Ambiente " ++ quoted inputs.environment ++
        (if inputs.environment = "production" then "" else " (live exige 'production')"), true⟩,
    killSwitchCheck inputs,
    safeModeCheck inputs]

def trackRecordChecks (s : LiveGateSettings) (inputs : GateInputs) : List GateCheck :=
  [atLeast "paper_trades" (some inputs.paperTrades) s.minPaperTrades " ops",
    atLeast "paper_days" (some inputs.paperDays) s.minPaperDays " días",
    atLeast "profit_factor" inputs.profitFactor s.minProfitFactor "",
    atLeast "sharpe" inputs.sharpe s.minSharpe "",
    atMost "max_drawdown_pct" inputs.maxDrawdownPct s.maxDrawdownPct "%"]

def driftCheck (drift : Option Bool) : GateCheck :=
  ⟨"no_critical_drift", drift == some false,
    match drift with
    | some false => "Sin drift crítico"
    | some true => "Drift crítico detectado"
    | none => "Estado de drift desconocido (se asume crítico)", true⟩

def validationChecks (s : LiveGateSettings) (inputs : GateInputs) : List GateCheck :=
  whenRequired s.requireQualification
    (requiredFlag "qualification" inputs.qualificationApproved "Strategy Qualification Pipeline") ++
  whenRequired s.requireWalkForward (requiredFlag "walk_forward" inputs.walkForwardApproved "Walk Forward") ++
  whenRequired s.requireMonteCarlo (requiredFlag "monte_carlo" inputs.monteCarloApproved "Monte Carlo") ++
  whenRequired s.requireMlStable (requiredFlag "ml_stable" inputs.mlStable "Machine Learning estable") ++
  whenRequired s.requireNoCriticalDrift (driftCheck inputs.criticalDrift)

def qualityChecks (s : LiveGateSettings) (inputs : GateInputs) : List GateCheck :=
  [atLeast "test_coverage_pct" inputs.testCoveragePct s.minTestCoveragePct "%",
    ⟨"no_critical_errors", decide (inputs.openCriticalErrors ≤ s.maxOpenCriticalErrors),
      toString inputs.openCriticalErrors ++ " errores críticos abiertos (máximo " ++
        toString s.maxOpenCriticalErrors ++ ")", true⟩]

def infrastructureChecks (s : LiveGateSettings) (inputs : GateInputs) : List GateCheck :=
  whenRequired s.requireHealthySystem (requiredFlag "system_health" inputs.systemHealthy "Health del sistema") ++
  whenRequired s.requireBrokerConnected (requiredFlag "broker" inputs.brokerConnected "Broker conectado") ++
  whenRequired s.requireDiscord (requiredFlag "discord" inputs.discordOk "Discord operativo") ++
  whenRequired s.requireDatabase (requiredFlag "database" inputs.databaseOk "Base de datos disponible") ++
  whenRequired s.requireRedis (requiredFlag "redis" inputs.redisOk "Redis disponible") ++
  whenRequired s.requireWatchdog (requiredFlag "watchdog" inputs.watchdogOk "Watchdog activo") ++
  whenRequired s.requireScheduler (requiredFlag "scheduler" inputs.schedulerOk "Scheduler activo") ++
  whenRequired s.requireRiskManager (requiredFlag "risk_manager" inputs.riskManagerOk "Risk Manager activo")

def coreChecks (s : LiveGateSettings) (inputs : GateInputs) : List GateCheck :=
  switchChecks inputs ++ trackRecordChecks s inputs ++ validationChecks s inputs ++ qualityChecks s inputs ++
    infrastructureChecks s inputs

def approvalCheck (approved : Bool) : GateCheck :=
  ⟨"operator_approval", approved,
    if approved then "Aprobación explícita del operador vigente"
    else "Falta la aprobación explícita del operador para este reporte", true⟩

-- The hash of the criteria and of every outcome; SHA-256 is a parameter.
abbrev Hash := LiveGateSettings → List (String × Bool) → String

def reportHash (hash : Hash) (s : LiveGateSettings) (checks : List GateCheck) : String :=
  hash s (checks.map (fun check => (check.name, check.passed)))

-- The approval is looked up last, for the hash of everything else.
def evaluate (hash : Hash) (s : LiveGateSettings) (approvalLookup : String → Bool) (inputs : GateInputs)
    (now : Moment) : LiveGateReport :=
  let core := coreChecks s inputs
  let identity := reportHash hash s core
  let checks := core ++ whenRequired s.requireOperatorApproval (approvalCheck (approvalLookup identity))
  let reasons := (checks.filter (fun check => !check.passed && check.blocking)).map GateCheck.detail
  ⟨reasons.isEmpty, checks, reasons, identity, now⟩

theorem approved_passes (hash : Hash) (s : LiveGateSettings) (lookup : String → Bool) (inputs : GateInputs)
    (now : Moment) (approved : (evaluate hash s lookup inputs now).approved = true) (check : GateCheck)
    (member : check ∈ (evaluate hash s lookup inputs now).checks) (blocking : check.blocking = true) :
    check.passed = true := by
  simp only [evaluate, List.isEmpty_iff, List.map_eq_nil_iff, List.filter_eq_nil_iff] at approved
  have clear := approved check member
  simpa [blocking] using clear

-- What an approved report stands for: neither switch is on and, where it is
-- required, the operator's approval covers this very report.
theorem approved_conditions (hash : Hash) (s : LiveGateSettings) (lookup : String → Bool) (inputs : GateInputs)
    (now : Moment) (approved : (evaluate hash s lookup inputs now).approved = true) :
    inputs.killSwitchActive = false ∧ inputs.safeModeActive = false ∧
      (s.requireOperatorApproval = true → lookup (evaluate hash s lookup inputs now).reportHash = true) := by
  have passes := approved_passes hash s lookup inputs now approved
  refine ⟨?_, ?_, ?_⟩
  · have kill := passes (killSwitchCheck inputs) (by simp [evaluate, coreChecks, switchChecks]) rfl
    simpa [killSwitchCheck] using kill
  · have safe := passes (safeModeCheck inputs) (by simp [evaluate, coreChecks, switchChecks]) rfl
    simpa [safeModeCheck] using safe
  · intro required
    exact passes (approvalCheck (lookup (reportHash hash s (coreChecks s inputs))))
      (by simp [evaluate, whenRequired, required]) rfl

end LiveGate

structure LiveApproval where
  actor : String
  reason : String
  reportHash : String
  grantedAt : Moment
  ttlHours : ℚ
  deriving DecidableEq

namespace LiveApproval

def expiresAt (approval : LiveApproval) : Moment :=
  approval.grantedAt + Decimal.roundHalfEven (approval.ttlHours * 3600000000)

def isValidFor (approval : LiveApproval) (reportHash : String) (now : Moment) : Bool :=
  decide (reportHash = approval.reportHash) && decide (now < approval.expiresAt)

end LiveApproval

inductive ApprovalFile where
  | absent
  | unreadable
  | stored (approval : LiveApproval)
  deriving DecidableEq

structure ApprovalStore where
  hasPath : Bool := true
  ttlHours : ℚ := 24
  approval : Option LiveApproval := none
  file : ApprovalFile := .absent
  diskWrites : Bool := true
  deriving DecidableEq

namespace ApprovalStore

-- A file that cannot be read is no approval.
def load (store : ApprovalStore) : ApprovalStore :=
  if !store.hasPath then store
  else match store.file with
    | .absent => store
    | .unreadable => { store with approval := none }
    | .stored approval => { store with approval := some approval }

def persist (store : ApprovalStore) : ApprovalStore :=
  if store.hasPath && store.diskWrites then
    { store with file := match store.approval with
        | none => .absent
        | some approval => .stored approval }
  else store

-- Raises without a named actor or without a hash.
def grantError (actor reportHash : String) : Option String :=
  if Text.blank actor then some "La aprobación de live exige un actor identificable"
  else if Text.blank reportHash then some "La aprobación de live exige el hash del reporte del gate"
  else none

def grant (store : ApprovalStore) (actor reason reportHash : String) (now : Moment) :
    Except String LiveApproval × ApprovalStore :=
  match grantError actor reportHash with
  | some error => (.error error, store)
  | none =>
      let approval : LiveApproval := ⟨Text.strip actor, Text.strip reason, reportHash, now, store.ttlHours⟩
      (.ok approval, { store with approval := some approval }.persist)

def revoke (store : ApprovalStore) : ApprovalStore := { store with approval := none }.persist

def isValidFor (store : ApprovalStore) (reportHash : String) (now : Moment) : Bool :=
  match store.approval with
  | none => false
  | some approval => approval.isValidFor reportHash now

theorem persist_approval (store : ApprovalStore) : store.persist.approval = store.approval := by
  rw [persist]
  split <;> rfl

theorem persist_valid (store : ApprovalStore) (reportHash : String) (now : Moment) :
    store.persist.isValidFor reportHash now = store.isValidFor reportHash now := by
  simp only [isValidFor, persist_approval]

theorem revoke_valid (store : ApprovalStore) (reportHash : String) (now : Moment) :
    store.revoke.isValidFor reportHash now = false :=
  persist_valid { store with approval := none } reportHash now

end ApprovalStore

end QuantEngine
