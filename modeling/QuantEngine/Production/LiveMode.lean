import QuantEngine.Production.KillSwitch
import QuantEngine.Production.LiveGate
import QuantEngine.Production.SafeMode

set_option autoImplicit false

namespace QuantEngine.LiveMode

open Calendar (Moment)
open Run

inductive Mode where
  | paper
  | live
  deriving DecidableEq

structure LiveSettings where
  allowLive : Bool
  mode : String
  environment : String
  gate : LiveGateSettings
  maxReportAgeSeconds : ℚ := 300
  deriving DecidableEq

inductive LiveAudit where
  | gateEvaluated (approved : Bool) (failed : Nat) (reportHash : String)
  | approvalGranted (actor : String) (after : LiveApproval) (reason : String)
  | enableRejected (actor reason reportHash : String)
  | enabled (actor reportHash : String)
  | disabled (actor reason : String)
  deriving DecidableEq

-- What the running application observes for the gate. Coverage, validation,
-- machine learning and part of the infrastructure are left unknown by it.
structure Observed where
  paperTrades : Int
  paperDays : ℚ
  profitFactor : Option ℚ
  sharpe : Option ℚ
  maxDrawdownPct : Option ℚ
  systemHealthy : Option Bool
  brokerConnected : Option Bool
  discordOk : Bool
  riskManagerOk : Bool
  deriving DecidableEq

structure System where
  now : Moment
  settings : LiveSettings
  approvals : ApprovalStore
  lastReport : Option LiveGateReport
  killSwitch : KillSwitchController
  risk : RiskManager
  safeMode : SafeModeController
  audit : List LiveAudit

namespace System

def reportAge (report : LiveGateReport) (now : Moment) : ℚ := ((now - report.evaluatedAt : Int) : ℚ) / 1000000

def liveAuthorized (system : System) : Option String :=
  if !system.settings.allowLive then some "production.allow_live está en False (llave maestra cerrada)"
  else if system.settings.mode ≠ "live" then some "execution.mode no pide live"
  else if system.settings.environment ≠ "production" then
    some ("ambiente " ++ LiveGate.quoted system.settings.environment ++ ", live exige 'production'")
  else match system.lastReport with
    | none => some "el Live Gate no se ha evaluado todavía"
    | some report =>
        if reportAge report system.now > system.settings.maxReportAgeSeconds then
          some ("la evaluación del Live Gate tiene " ++ Decimal.fixed 0 (reportAge report system.now) ++
            "s (máximo " ++ Decimal.fixed 0 system.settings.maxReportAgeSeconds ++ "s)")
        else if !report.approved then
          some ("el Live Gate no aprueba: " ++ "; ".intercalate (report.reasons.take 3))
        else none

def resolvedMode (system : System) : Mode := if system.liveAuthorized.isNone then .live else .paper

def blockingReason (system : System) : String := system.liveAuthorized.getD ""

-- The settings and the two switches are read from the system itself.
def withSwitches (system : System) (inputs : GateInputs) : GateInputs :=
  { inputs with
    allowLive := system.settings.allowLive
    modeRequested := system.settings.mode
    environment := system.settings.environment
    killSwitchActive := system.killSwitch.active
    safeModeActive := system.safeMode.active }

def collectGateInputs (system : System) (observed : Observed) : GateInputs :=
  system.withSwitches {
    paperTrades := observed.paperTrades
    paperDays := observed.paperDays
    profitFactor := observed.profitFactor
    sharpe := observed.sharpe
    maxDrawdownPct := observed.maxDrawdownPct
    systemHealthy := observed.systemHealthy
    brokerConnected := observed.brokerConnected
    discordOk := some observed.discordOk
    riskManagerOk := some observed.riskManagerOk }

section

variable (hash : LiveGate.Hash)

def gateReport (system : System) (inputs : GateInputs) : LiveGateReport :=
  LiveGate.evaluate hash system.settings.gate
    (fun reportHash => system.approvals.isValidFor reportHash system.now) inputs system.now

def evaluateGate (system : System) (inputs : GateInputs) : System :=
  { system with lastReport := some (system.gateReport hash inputs) }

def evaluateLiveGate (system : System) (observed : Observed) : System :=
  let inputs := system.collectGateInputs observed
  let report := system.gateReport hash inputs
  let evaluated := system.evaluateGate hash inputs
  { evaluated with
    audit := evaluated.audit ++ [.gateEvaluated report.approved
      (report.checks.filter (fun check => !check.passed)).length report.reportHash] }

def grantApproval (system : System) (actor reason reportHash : String) : System :=
  { system with approvals := (system.approvals.grant actor reason reportHash system.now).2 }

-- The first evaluation fixes the hash that the approval is bound to; the
-- second one sees the approval. A refused grant leaves after the first.
def approveLiveTrading (system : System) (actor reason : String) (observed : Observed) : System :=
  let inputs := system.collectGateInputs observed
  let reviewed := system.evaluateGate hash inputs
  match (reviewed.approvals.grant actor reason (system.gateReport hash inputs).reportHash system.now).1 with
  | .error _ => reviewed
  | .ok approval =>
      let granted := reviewed.grantApproval actor reason (system.gateReport hash inputs).reportHash
      let noted := { granted with audit := granted.audit ++ [LiveAudit.approvalGranted actor approval reason] }
      noted.evaluateGate hash (noted.collectGateInputs observed)

def enableLiveTrading (system : System) (actor : String) (observed : Observed) : System :=
  let inputs := system.collectGateInputs observed
  let report := system.gateReport hash inputs
  let evaluated := system.evaluateGate hash inputs
  if !report.approved || evaluated.resolvedMode != .live then
    let reason := orElseText evaluated.blockingReason ("; ".intercalate (report.reasons.take 3))
    { evaluated with audit := evaluated.audit ++ [.enableRejected actor reason report.reportHash] }
  else { evaluated with audit := evaluated.audit ++ [.enabled actor report.reportHash] }

end

def disableLiveTrading (system : System) (actor reason : String) : System :=
  { system with approvals := system.approvals.revoke, audit := system.audit ++ [.disabled actor reason] }

end System

inductive Operation where
  | evaluate (inputs : GateInputs)
  | evaluateLiveGate (observed : Observed)
  | approveLiveTrading (actor reason : String) (observed : Observed)
  | enableLiveTrading (actor : String) (observed : Observed)
  | grant (actor reason reportHash : String)
  | disableLiveTrading (actor reason : String)
  | engageKillSwitch (trigger : KillSwitchTrigger) (reason actor : String)
  | releaseKillSwitch (actor reason : String)
  | evaluateSafeMode (observation : SafeModeObservation)
  | elapse (micros : Nat)

namespace System

def step (hash : LiveGate.Hash) (system : System) : Operation → System
  | .evaluate inputs => system.evaluateGate hash (system.withSwitches inputs)
  | .evaluateLiveGate observed => system.evaluateLiveGate hash observed
  | .approveLiveTrading actor reason observed => system.approveLiveTrading hash actor reason observed
  | .enableLiveTrading actor observed => system.enableLiveTrading hash actor observed
  | .grant actor reason reportHash => system.grantApproval actor reason reportHash
  | .disableLiveTrading actor reason => system.disableLiveTrading actor reason
  | .engageKillSwitch trigger reason actor =>
      let result := system.killSwitch.engage system.risk trigger reason actor system.now
      { system with killSwitch := result.1, risk := result.2 }
  | .releaseKillSwitch actor reason =>
      let result := system.killSwitch.release system.risk actor reason
      { system with killSwitch := result.2.1, risk := result.2.2 }
  | .evaluateSafeMode observation =>
      { system with safeMode := (system.safeMode.evaluate observation system.now).2 }
  | .elapse micros => { system with now := system.now + micros }

def standingReport (system : System) (moment : Moment) : Option LiveGateReport :=
  if system.settings.allowLive = true ∧ system.settings.mode = "live" ∧
      system.settings.environment = "production" then
    system.lastReport.filter (fun report =>
      decide (reportAge report moment ≤ system.settings.maxReportAgeSeconds) && report.approved)
  else none

-- Live trading stands on an approval of the report in force that has not run
-- out, with both switches off.
def RestsOnApproval (system : System) : Prop :=
  system.resolvedMode = .live → ∃ report, system.lastReport = some report ∧
    system.approvals.isValidFor report.reportHash system.now = true ∧
    system.killSwitch.active = false ∧ system.safeMode.active = false

-- Nothing takes away what the standing report was approved on: no revocation,
-- no approval of another report, no switch going on, and no expiry of the
-- approval before the report itself is too old.
def Undisturbed (system : System) : Operation → Prop
  | .disableLiveTrading _ _ => system.standingReport system.now = none
  | .engageKillSwitch _ _ _ => system.standingReport system.now = none
  | .grant actor _ reportHash => ApprovalStore.grantError actor reportHash = none →
      ∀ report, system.standingReport system.now = some report → reportHash = report.reportHash ∧
        0 < Decimal.roundHalfEven (system.approvals.ttlHours * 3600000000)
  | .evaluateSafeMode observation => (system.standingReport system.now).isSome = true →
      (system.safeMode.settings.enabled &&
        (SafeModeController.firstBreach system.safeMode.settings observation).isSome) = false
  | .elapse micros => ∀ approval, system.approvals.approval = some approval →
      (system.standingReport (system.now + (micros : Int))).isSome = true →
        system.now + (micros : Int) < approval.expiresAt
  | _ => True

theorem standing_report (system : System) (moment : Moment) (report : LiveGateReport)
    (standing : system.standingReport moment = some report) :
    system.lastReport = some report ∧ report.approved = true ∧
      reportAge report moment ≤ system.settings.maxReportAgeSeconds := by
  rw [standingReport] at standing
  split at standing
  · obtain ⟨last, young⟩ := Option.filter_eq_some_iff.mp standing
    simp only [Bool.and_eq_true, decide_eq_true_eq] at young
    exact ⟨last, young.2, young.1⟩
  · cases standing

theorem resolved_live_iff (system : System) :
    system.resolvedMode = .live ↔ (system.standingReport system.now).isSome = true := by
  rw [resolvedMode, liveAuthorized, standingReport]
  by_cases allow : system.settings.allowLive = true
  · by_cases mode : system.settings.mode = "live"
    · by_cases environment : system.settings.environment = "production"
      · cases system.lastReport with
        | none => simp [allow, mode, environment]
        | some report =>
            by_cases old : reportAge report system.now > system.settings.maxReportAgeSeconds
            · simp [allow, mode, environment, old, not_le.mpr old]
            · by_cases approved : report.approved = true
              · simp [allow, mode, environment, old, not_lt.mp old, approved]
              · simp [allow, mode, environment, old, approved]
      · simp [allow, mode, environment]
    · simp [allow, mode]
  · simp [allow]

theorem rests_iff (system : System) :
    system.RestsOnApproval ↔ ∀ report, system.standingReport system.now = some report →
      system.approvals.isValidFor report.reportHash system.now = true ∧
        system.killSwitch.active = false ∧ system.safeMode.active = false := by
  rw [RestsOnApproval]
  rw [resolved_live_iff]
  constructor
  · intro rests report standing
    obtain ⟨last, found, conditions⟩ := rests (by rw [standing]; rfl)
    rw [(standing_report system system.now report standing).1] at found
    cases found
    exact conditions
  · intro conditions live
    obtain ⟨report, standing⟩ := Option.isSome_iff_exists.mp live
    exact ⟨report, (standing_report system system.now report standing).1, conditions report standing⟩

theorem standing_earlier (system : System) (micros : Nat) (report : LiveGateReport)
    (standing : system.standingReport (system.now + (micros : Int)) = some report) :
    system.standingReport system.now = some report := by
  rw [standingReport] at standing ⊢
  split at standing
  · rename_i settings
    rw [if_pos settings]
    obtain ⟨last, young⟩ := Option.filter_eq_some_iff.mp standing
    simp only [Bool.and_eq_true, decide_eq_true_eq] at young
    refine Option.filter_eq_some_iff.mpr ⟨last, ?_⟩
    simp only [Bool.and_eq_true, decide_eq_true_eq]
    refine ⟨le_trans ?_ young.1, young.2⟩
    simp only [reportAge]
    have later : ((system.now - report.evaluatedAt : Int) : ℚ) ≤
        ((system.now + (micros : Int) - report.evaluatedAt : Int) : ℚ) := by
      exact_mod_cast sub_le_sub_right (le_add_of_nonneg_right (Int.natCast_nonneg micros)) _
    linarith
  · cases standing

-- Every evaluation leaves a report that was approved on the approval in force
-- and on the switches as they are, whatever else it was given.
theorem evaluate_rests (hash : LiveGate.Hash) (system : System) (inputs : GateInputs)
    (required : system.settings.gate.requireOperatorApproval = true) :
    (system.evaluateGate hash (system.withSwitches inputs)).RestsOnApproval := by
  refine (rests_iff _).mpr ?_
  intro report standing
  obtain ⟨last, approved, -⟩ := standing_report _ _ report standing
  have current : system.gateReport hash (system.withSwitches inputs) = report := Option.some.inj last
  subst current
  obtain ⟨kill, safe, valid⟩ := LiveGate.approved_conditions hash _ _ _ _ approved
  exact ⟨valid required, kill, safe⟩

theorem collected_rests (hash : LiveGate.Hash) (system : System) (observed : Observed)
    (required : system.settings.gate.requireOperatorApproval = true) :
    (system.evaluateGate hash (system.collectGateInputs observed)).RestsOnApproval :=
  system.evaluate_rests hash _ required

theorem approve_rests (hash : LiveGate.Hash) (system : System) (actor reason : String) (observed : Observed)
    (required : system.settings.gate.requireOperatorApproval = true) :
    (system.approveLiveTrading hash actor reason observed).RestsOnApproval := by
  simp only [approveLiveTrading]
  split
  · exact system.collected_rests hash observed required
  · exact collected_rests hash _ observed required

theorem enable_rests (hash : LiveGate.Hash) (system : System) (actor : String) (observed : Observed)
    (required : system.settings.gate.requireOperatorApproval = true) :
    (system.enableLiveTrading hash actor observed).RestsOnApproval := by
  have rests := system.collected_rests hash observed required
  simp only [enableLiveTrading]
  split
  · exact rests
  · exact rests

theorem disable_rests (system : System) (actor reason : String) :
    (system.disableLiveTrading actor reason).RestsOnApproval ↔ system.standingReport system.now = none := by
  rw [rests_iff]
  constructor
  · intro conditions
    cases found : system.standingReport system.now with
    | none => rfl
    | some report =>
        have valid := (conditions report found).1
        rw [show (system.disableLiveTrading actor reason).approvals = system.approvals.revoke from rfl,
          ApprovalStore.revoke_valid] at valid
        cases valid
  · intro paper report standing
    rw [show (system.disableLiveTrading actor reason).standingReport
      (system.disableLiveTrading actor reason).now = system.standingReport system.now from rfl, paper] at standing
    cases standing

theorem grant_rests (system : System) (actor reason reportHash : String) (rests : system.RestsOnApproval) :
    (system.grantApproval actor reason reportHash).RestsOnApproval ↔
      (ApprovalStore.grantError actor reportHash = none → ∀ report, system.standingReport system.now = some report →
        reportHash = report.reportHash ∧ 0 < Decimal.roundHalfEven (system.approvals.ttlHours * 3600000000)) := by
  have conditions := (rests_iff system).mp rests
  rw [rests_iff]
  cases refused : ApprovalStore.grantError actor reportHash with
  | some error =>
      have kept : system.grantApproval actor reason reportHash = system := by
        simp [grantApproval, ApprovalStore.grant, refused]
      rw [kept]
      exact iff_of_true conditions (fun impossible => by cases impossible)
  | none =>
      have valid : ∀ report, (system.grantApproval actor reason reportHash).approvals.isValidFor report system.now =
          (decide (report = reportHash) &&
            decide (system.now < system.now + Decimal.roundHalfEven (system.approvals.ttlHours * 3600000000))) := by
        intro report
        simp only [grantApproval, ApprovalStore.grant, refused]
        exact ApprovalStore.persist_valid _ _ _
      constructor
      · intro after _ report standing
        have held := (after report standing).1
        rw [show (system.grantApproval actor reason reportHash).now = system.now from rfl, valid] at held
        simp only [Bool.and_eq_true, decide_eq_true_eq] at held
        exact ⟨held.1.symm, (lt_add_iff_pos_right system.now).mp held.2⟩
      · intro same report standing
        obtain ⟨equal, positive⟩ := same rfl report standing
        refine ⟨?_, (conditions report standing).2⟩
        rw [show (system.grantApproval actor reason reportHash).now = system.now from rfl, valid]
        simp only [Bool.and_eq_true, decide_eq_true_eq]
        exact ⟨equal.symm, (lt_add_iff_pos_right system.now).mpr positive⟩

theorem engage_rests (hash : LiveGate.Hash) (system : System) (trigger : KillSwitchTrigger) (reason actor : String) :
    (system.step hash (.engageKillSwitch trigger reason actor)).RestsOnApproval ↔
      system.standingReport system.now = none := by
  have engaged : (system.step hash (.engageKillSwitch trigger reason actor)).killSwitch.active = true :=
    system.killSwitch.engage_engaged system.risk trigger reason actor system.now
  rw [rests_iff]
  constructor
  · intro conditions
    cases found : system.standingReport system.now with
    | none => rfl
    | some report =>
        rw [(conditions report found).2.1] at engaged
        cases engaged
  · intro paper report standing
    rw [show (system.step hash (.engageKillSwitch trigger reason actor)).standingReport
      (system.step hash (.engageKillSwitch trigger reason actor)).now = system.standingReport system.now from rfl,
      paper] at standing
    cases standing

theorem release_rests (hash : LiveGate.Hash) (system : System) (actor reason : String)
    (rests : system.RestsOnApproval) : (system.step hash (.releaseKillSwitch actor reason)).RestsOnApproval := by
  refine (rests_iff _).mpr ?_
  intro report standing
  obtain ⟨valid, kill, safe⟩ := (rests_iff system).mp rests report standing
  exact ⟨valid, system.killSwitch.release_inactive system.risk actor reason kill, safe⟩

theorem safe_mode_rests (hash : LiveGate.Hash) (system : System) (observation : SafeModeObservation)
    (rests : system.RestsOnApproval) :
    (system.step hash (.evaluateSafeMode observation)).RestsOnApproval ↔
      ((system.standingReport system.now).isSome = true → (system.safeMode.settings.enabled &&
        (SafeModeController.firstBreach system.safeMode.settings observation).isSome) = false) := by
  have conditions := (rests_iff system).mp rests
  rw [rests_iff]
  constructor
  · intro after standing
    obtain ⟨report, found⟩ := Option.isSome_iff_exists.mp standing
    rw [← system.safeMode.evaluate_inactive observation system.now (conditions report found).2.2]
    exact (after report found).2.2
  · intro clear report standing
    obtain ⟨valid, kill, safe⟩ := conditions report standing
    refine ⟨valid, kill, ?_⟩
    exact (system.safeMode.evaluate_inactive observation system.now safe).trans
      (clear (Option.isSome_iff_exists.mpr ⟨report, standing⟩))

theorem elapse_rests (hash : LiveGate.Hash) (system : System) (micros : Nat) (rests : system.RestsOnApproval) :
    (system.step hash (.elapse micros)).RestsOnApproval ↔
      ∀ approval, system.approvals.approval = some approval →
        (system.standingReport (system.now + (micros : Int))).isSome = true →
          system.now + (micros : Int) < approval.expiresAt := by
  have conditions := (rests_iff system).mp rests
  rw [rests_iff]
  constructor
  · intro after approval found standing
    obtain ⟨report, later⟩ := Option.isSome_iff_exists.mp standing
    have valid : system.approvals.isValidFor report.reportHash (system.now + (micros : Int)) = true :=
      (after report later).1
    simp only [ApprovalStore.isValidFor, found, LiveApproval.isValidFor, Bool.and_eq_true, decide_eq_true_eq] at valid
    exact valid.2
  · intro unexpired report later
    obtain ⟨valid, switches⟩ := conditions report (system.standing_earlier micros report later)
    refine ⟨?_, switches⟩
    change system.approvals.isValidFor report.reportHash (system.now + (micros : Int)) = true
    cases found : system.approvals.approval with
    | none => simp [ApprovalStore.isValidFor, found] at valid
    | some approval =>
        simp only [ApprovalStore.isValidFor, found, LiveApproval.isValidFor, Bool.and_eq_true,
          decide_eq_true_eq] at valid ⊢
        exact ⟨valid.1, unexpired approval found (Option.isSome_iff_exists.mpr ⟨report, later⟩)⟩

theorem step_rests (hash : LiveGate.Hash) (system : System) (operation : Operation)
    (required : system.settings.gate.requireOperatorApproval = true) (rests : system.RestsOnApproval) :
    (system.step hash operation).RestsOnApproval ↔ system.Undisturbed operation := by
  cases operation with
  | evaluate inputs => exact iff_of_true (system.evaluate_rests hash inputs required) trivial
  | evaluateLiveGate observed => exact iff_of_true (system.collected_rests hash observed required) trivial
  | approveLiveTrading actor reason observed =>
      exact iff_of_true (system.approve_rests hash actor reason observed required) trivial
  | enableLiveTrading actor observed => exact iff_of_true (system.enable_rests hash actor observed required) trivial
  | grant actor reason reportHash => exact system.grant_rests actor reason reportHash rests
  | disableLiveTrading actor reason => exact system.disable_rests actor reason
  | engageKillSwitch trigger reason actor => exact system.engage_rests hash trigger reason actor
  | releaseKillSwitch actor reason => exact iff_of_true (system.release_rests hash actor reason rests) trivial
  | evaluateSafeMode observation => exact system.safe_mode_rests hash observation rests
  | elapse micros => exact system.elapse_rests hash micros rests

theorem step_settings (hash : LiveGate.Hash) (system : System) (operation : Operation) :
    (system.step hash operation).settings = system.settings := by
  cases operation with
  | approveLiveTrading actor reason observed =>
      simp only [step, approveLiveTrading]
      split <;> rfl
  | enableLiveTrading actor observed =>
      simp only [step, enableLiveTrading]
      split <;> rfl
  | _ => rfl

-- From a start without a report, the live mode rests on a valid approval in
-- every state of a run exactly when no operation of the run disturbs what the
-- standing report was approved on.
theorem live_rests_iff (hash : LiveGate.Hash) (system : System) (operations : List Operation)
    (required : system.settings.gate.requireOperatorApproval = true) (unevaluated : system.lastReport = none) :
    Always (step hash) RestsOnApproval system operations ↔ Each (step hash) Undisturbed system operations := by
  have start : system.RestsOnApproval := by
    refine (rests_iff system).mpr ?_
    intro report standing
    rw [(standing_report system system.now report standing).1] at unevaluated
    cases unevaluated
  refine always_iff (step hash) RestsOnApproval Undisturbed
    (fun s => s.settings.gate.requireOperatorApproval = true ∧ s.RestsOnApproval) (fun _ inv => inv.2)
    (fun s operation inv => step_rests hash s operation inv.1 inv.2) ?_ system operations ⟨required, start⟩
  intro s operation inv undisturbed
  exact ⟨by rw [step_settings]; exact inv.1, (step_rests hash s operation inv.1 inv.2).mpr undisturbed⟩

end System

def passingInputs : GateInputs where
  allowLive := true
  modeRequested := "live"
  environment := "production"
  paperTrades := 500
  paperDays := 90
  profitFactor := some 2
  sharpe := some (18 / 10)
  maxDrawdownPct := some 5
  qualificationApproved := some true
  walkForwardApproved := some true
  monteCarloApproved := some true
  mlStable := some true
  criticalDrift := some false
  testCoveragePct := some 92
  systemHealthy := some true
  brokerConnected := some true
  discordOk := some true
  databaseOk := some true
  redisOk := some true
  watchdogOk := some true
  schedulerOk := some true
  riskManagerOk := some true

def fresh : System where
  now := 0
  settings := { allowLive := true, mode := "live", environment := "production", gate := {} }
  approvals := {}
  lastReport := none
  killSwitch := { settings := {} }
  risk := .init {} 10000
  safeMode := { settings := {} }
  audit := []

def sameHash : LiveGate.Hash := fun _ _ => "informe"

def approvedThenDisabled : List Operation :=
  [.evaluate passingInputs, .grant "ana" "revisado" "informe", .evaluate passingInputs,
    .disableLiveTrading "ana" "fin de la prueba"]

theorem live_rests_iff_approved :
    Always (System.step sameHash) System.RestsOnApproval fresh approvedThenDisabled ↔
      Each (System.step sameHash) System.Undisturbed fresh approvedThenDisabled :=
  System.live_rests_iff sameHash fresh approvedThenDisabled rfl rfl

-- The approval is gone and the mode is still live.
theorem live_after_revocation :
    ¬ Always (System.step sameHash) System.RestsOnApproval fresh approvedThenDisabled := by
  intro always
  have rests : (Run.final (System.step sameHash) fresh approvedThenDisabled).RestsOnApproval := always.2.2.2.2.1
  have live : (Run.final (System.step sameHash) fresh approvedThenDisabled).resolvedMode = .live := by
    decide +kernel
  have revoked : (Run.final (System.step sameHash) fresh approvedThenDisabled).approvals.approval = none := by
    decide +kernel
  obtain ⟨report, -, valid, -⟩ := rests live
  rw [ApprovalStore.isValidFor, revoked] at valid
  cases valid

end QuantEngine.LiveMode
