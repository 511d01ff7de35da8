import Mathlib.Data.List.Nodup
import Mathlib.Data.Set.Function
import QuantEngine.Library.JsonText
import QuantEngine.Production.LiveGate

set_option autoImplicit false

namespace QuantEngine.LiveGate

open Calendar (Moment)
open JsonText (FloatText dumps)

-- The dump of the settings, with its keys in the order that `sort_keys` gives.
def criteria (s : LiveGateSettings) : Json ℚ :=
  .obj [("approval_ttl_hours", .float s.approvalTtlHours), ("max_drawdown_pct", .float s.maxDrawdownPct),
    ("max_open_critical_errors", .int s.maxOpenCriticalErrors), ("min_paper_days", .float s.minPaperDays),
    ("min_paper_trades", .int s.minPaperTrades), ("min_profit_factor", .float s.minProfitFactor),
    ("min_sharpe", .float s.minSharpe), ("min_test_coverage_pct", .float s.minTestCoveragePct),
    ("require_broker_connected", .bool s.requireBrokerConnected), ("require_database", .bool s.requireDatabase),
    ("require_discord", .bool s.requireDiscord), ("require_healthy_system", .bool s.requireHealthySystem),
    ("require_ml_stable", .bool s.requireMlStable), ("require_monte_carlo", .bool s.requireMonteCarlo),
    ("require_no_critical_drift", .bool s.requireNoCriticalDrift),
    ("require_operator_approval", .bool s.requireOperatorApproval),
    ("require_qualification", .bool s.requireQualification), ("require_redis", .bool s.requireRedis),
    ("require_risk_manager", .bool s.requireRiskManager), ("require_scheduler", .bool s.requireScheduler),
    ("require_walk_forward", .bool s.requireWalkForward), ("require_watchdog", .bool s.requireWatchdog)]

def outcomeJson (outcome : String × Bool) : Json ℚ := .arr [.str outcome.1, .bool outcome.2]

def payload (s : LiveGateSettings) (outcomes : List (String × Bool)) : Json ℚ :=
  .obj [("checks", .arr (outcomes.map outcomeJson)), ("criteria", criteria s)]

section

variable (sha256 : ByteArray → String) (floats : FloatText ℚ)

def payloadBytes (s : LiveGateSettings) (outcomes : List (String × Bool)) : ByteArray :=
  (dumps floats (payload s outcomes)).toUTF8

def payloadHash : Hash := fun s outcomes => sha256 (payloadBytes floats s outcomes)

def payloads : Set ByteArray := Set.range (fun given : LiveGateSettings × List (String × Bool) =>
  payloadBytes floats given.1 given.2)

end

-- All that is required is known and within its threshold.
structure Meets (s : LiveGateSettings) (inputs : GateInputs) : Prop where
  allowLive : inputs.allowLive = true
  mode : inputs.modeRequested = "live"
  environment : inputs.environment = "production"
  killSwitch : inputs.killSwitchActive = false
  safeMode : inputs.safeModeActive = false
  paperTrades : s.minPaperTrades ≤ inputs.paperTrades
  paperDays : s.minPaperDays ≤ inputs.paperDays
  profitFactor : ∃ value, inputs.profitFactor = some value ∧ s.minProfitFactor ≤ value
  sharpe : ∃ value, inputs.sharpe = some value ∧ s.minSharpe ≤ value
  drawdown : ∃ value, inputs.maxDrawdownPct = some value ∧ value ≤ s.maxDrawdownPct
  qualification : s.requireQualification = true → inputs.qualificationApproved = some true
  walkForward : s.requireWalkForward = true → inputs.walkForwardApproved = some true
  monteCarlo : s.requireMonteCarlo = true → inputs.monteCarloApproved = some true
  mlStable : s.requireMlStable = true → inputs.mlStable = some true
  drift : s.requireNoCriticalDrift = true → inputs.criticalDrift = some false
  coverage : ∃ value, inputs.testCoveragePct = some value ∧ s.minTestCoveragePct ≤ value
  criticalErrors : inputs.openCriticalErrors ≤ s.maxOpenCriticalErrors
  system : s.requireHealthySystem = true → inputs.systemHealthy = some true
  broker : s.requireBrokerConnected = true → inputs.brokerConnected = some true
  discord : s.requireDiscord = true → inputs.discordOk = some true
  database : s.requireDatabase = true → inputs.databaseOk = some true
  redis : s.requireRedis = true → inputs.redisOk = some true
  watchdog : s.requireWatchdog = true → inputs.watchdogOk = some true
  scheduler : s.requireScheduler = true → inputs.schedulerOk = some true
  riskManager : s.requireRiskManager = true → inputs.riskManagerOk = some true

-- A criterion that both evaluations have comes out the same in both.
def SameOutcomes (checks others : List GateCheck) : Prop :=
  ∀ check ∈ checks, ∀ other ∈ others, check.name = other.name → check.passed = other.passed

@[simp]
theorem at_least_passed (name : String) (value : Option ℚ) (minimum : ℚ) (unit : String) :
    (atLeast name value minimum unit).passed = true ↔ ∃ number, value = some number ∧ minimum ≤ number := by
  cases value with
  | none => simp [atLeast]
  | some number => simp [atLeast]

@[simp]
theorem at_most_passed (name : String) (value : Option ℚ) (maximum : ℚ) (unit : String) :
    (atMost name value maximum unit).passed = true ↔ ∃ number, value = some number ∧ number ≤ maximum := by
  cases value with
  | none => simp [atMost]
  | some number => simp [atMost]

@[simp]
theorem required_flag_passed (name : String) (value : Option Bool) (label : String) :
    (requiredFlag name value label).passed = true ↔ value = some true := by
  cases value with
  | none => simp [requiredFlag]
  | some flag => simp [requiredFlag]

@[simp]
theorem drift_passed (drift : Option Bool) : (driftCheck drift).passed = true ↔ drift = some false := beq_iff_eq

@[simp]
theorem forall_when_required (required : Bool) (check : GateCheck) (p : GateCheck → Prop) :
    (∀ other ∈ whenRequired required check, p other) ↔ (required = true → p check) := by
  cases required with
  | true => simp [whenRequired]
  | false => simp [whenRequired]

theorem switch_passes_iff (inputs : GateInputs) : (∀ check ∈ switchChecks inputs, check.passed = true) ↔
    inputs.allowLive = true ∧ inputs.modeRequested = "live" ∧ inputs.environment = "production" ∧
      inputs.killSwitchActive = false ∧ inputs.safeModeActive = false := by
  simp [switchChecks, killSwitchCheck, safeModeCheck]

theorem track_record_passes_iff (s : LiveGateSettings) (inputs : GateInputs) :
    (∀ check ∈ trackRecordChecks s inputs, check.passed = true) ↔
      s.minPaperTrades ≤ inputs.paperTrades ∧ s.minPaperDays ≤ inputs.paperDays ∧
        (∃ value, inputs.profitFactor = some value ∧ s.minProfitFactor ≤ value) ∧
        (∃ value, inputs.sharpe = some value ∧ s.minSharpe ≤ value) ∧
        ∃ value, inputs.maxDrawdownPct = some value ∧ value ≤ s.maxDrawdownPct := by
  simp [trackRecordChecks]

theorem quality_passes_iff (s : LiveGateSettings) (inputs : GateInputs) :
    (∀ check ∈ qualityChecks s inputs, check.passed = true) ↔
      (∃ value, inputs.testCoveragePct = some value ∧ s.minTestCoveragePct ≤ value) ∧
        inputs.openCriticalErrors ≤ s.maxOpenCriticalErrors := by
  simp [qualityChecks]

-- The core criteria all pass just where every requirement is met.
theorem core_passes_iff (s : LiveGateSettings) (inputs : GateInputs) :
    (∀ check ∈ coreChecks s inputs, check.passed = true) ↔ Meets s inputs := by
  simp only [coreChecks, List.forall_mem_append, switch_passes_iff, track_record_passes_iff, quality_passes_iff,
    validationChecks, infrastructureChecks, forall_when_required, required_flag_passed, drift_passed, and_assoc]
  constructor
  · rintro ⟨allowLive, mode, environment, killSwitch, safeMode, paperTrades, paperDays, profitFactor, sharpe, drawdown,
      qualification, walkForward, monteCarlo, mlStable, drift, coverage, criticalErrors, system, broker, discord, database,
      redis, watchdog, scheduler, riskManager⟩
    exact ⟨allowLive, mode, environment, killSwitch, safeMode, paperTrades, paperDays, profitFactor, sharpe, drawdown,
      qualification, walkForward, monteCarlo, mlStable, drift, coverage, criticalErrors, system, broker, discord, database,
      redis, watchdog, scheduler, riskManager⟩
  · intro meets
    exact ⟨meets.allowLive, meets.mode, meets.environment, meets.killSwitch, meets.safeMode, meets.paperTrades,
      meets.paperDays, meets.profitFactor, meets.sharpe, meets.drawdown, meets.qualification, meets.walkForward,
      meets.monteCarlo, meets.mlStable, meets.drift, meets.coverage, meets.criticalErrors, meets.system, meets.broker,
      meets.discord, meets.database, meets.redis, meets.watchdog, meets.scheduler, meets.riskManager⟩

@[simp]
theorem at_least_blocking (name : String) (value : Option ℚ) (minimum : ℚ) (unit : String) :
    (atLeast name value minimum unit).blocking = true := by
  cases value <;> rfl

@[simp]
theorem at_most_blocking (name : String) (value : Option ℚ) (maximum : ℚ) (unit : String) :
    (atMost name value maximum unit).blocking = true := by
  cases value <;> rfl

@[simp]
theorem required_flag_blocking (name : String) (value : Option Bool) (label : String) :
    (requiredFlag name value label).blocking = true := by
  cases value <;> rfl

theorem core_blocking (s : LiveGateSettings) (inputs : GateInputs) : ∀ check ∈ coreChecks s inputs, check.blocking = true := by
  simp [coreChecks, switchChecks, trackRecordChecks, validationChecks, qualityChecks, infrastructureChecks,
    forall_when_required, at_least_blocking, at_most_blocking, required_flag_blocking,
    killSwitchCheck, safeModeCheck, driftCheck, or_imp, forall_and]

-- A report is approved just where every requirement is met and, if an approval
-- is required, one is found for this very report.
theorem approved_iff (hash : Hash) (s : LiveGateSettings) (lookup : String → Bool) (inputs : GateInputs) (now : Moment) :
    (evaluate hash s lookup inputs now).approved = true ↔
      Meets s inputs ∧ (s.requireOperatorApproval = true → lookup (evaluate hash s lookup inputs now).reportHash = true) := by
  have every : (evaluate hash s lookup inputs now).approved = true ↔
      ∀ check ∈ (evaluate hash s lookup inputs now).checks, check.passed = true := by
    constructor
    · intro approved check member
      apply approved_passes hash s lookup inputs now approved check member
      rcases List.mem_append.mp member with core | approval
      · exact core_blocking s inputs check core
      · exact (forall_when_required _ _ (fun check => check.blocking = true)).mpr (fun _ => rfl) check approval
    · intro passed
      rw [evaluate, List.isEmpty_iff, List.map_eq_nil_iff, List.filter_eq_nil_iff]
      intro check member
      simp [passed check member]
  rw [every, ← core_passes_iff]
  exact List.forall_mem_append.trans (and_congr Iff.rfl (forall_when_required _ _ _))

def namesWhen (required : Bool) (name : String) : List String := if required then [name] else []

-- Which criteria there are depends on the settings alone.
def coreNames (s : LiveGateSettings) : List String :=
  ["allow_live", "mode_requested", "environment", "kill_switch", "safe_mode", "paper_trades", "paper_days",
    "profit_factor", "sharpe", "max_drawdown_pct"] ++
  (namesWhen s.requireQualification "qualification" ++ namesWhen s.requireWalkForward "walk_forward" ++
    namesWhen s.requireMonteCarlo "monte_carlo" ++ namesWhen s.requireMlStable "ml_stable" ++
    namesWhen s.requireNoCriticalDrift "no_critical_drift") ++
  ["test_coverage_pct", "no_critical_errors"] ++
  (namesWhen s.requireHealthySystem "system_health" ++ namesWhen s.requireBrokerConnected "broker" ++
    namesWhen s.requireDiscord "discord" ++ namesWhen s.requireDatabase "database" ++ namesWhen s.requireRedis "redis" ++
    namesWhen s.requireWatchdog "watchdog" ++ namesWhen s.requireScheduler "scheduler" ++
    namesWhen s.requireRiskManager "risk_manager")

@[simp]
theorem at_least_name (name : String) (value : Option ℚ) (minimum : ℚ) (unit : String) :
    (atLeast name value minimum unit).name = name := by
  cases value <;> rfl

@[simp]
theorem at_most_name (name : String) (value : Option ℚ) (maximum : ℚ) (unit : String) :
    (atMost name value maximum unit).name = name := by
  cases value <;> rfl

@[simp]
theorem required_flag_name (name : String) (value : Option Bool) (label : String) :
    (requiredFlag name value label).name = name := by
  cases value <;> rfl

@[simp]
theorem when_required_names (required : Bool) (check : GateCheck) :
    (whenRequired required check).map GateCheck.name = namesWhen required check.name := by
  cases required <;> rfl

theorem core_names (s : LiveGateSettings) (inputs : GateInputs) :
    (coreChecks s inputs).map GateCheck.name = coreNames s := by
  simp [coreChecks, switchChecks, trackRecordChecks, validationChecks, qualityChecks, infrastructureChecks,
    killSwitchCheck, safeModeCheck, driftCheck, coreNames]

theorem names_when_sublist (required : Bool) (name : String) : (namesWhen required name).Sublist [name] := by
  cases required with
  | true => exact List.Sublist.refl _
  | false => exact List.nil_sublist _

theorem core_names_nodup (s : LiveGateSettings) : (coreNames s).Nodup := by
  have parts : (coreNames s).Sublist (["allow_live", "mode_requested", "environment", "kill_switch", "safe_mode",
      "paper_trades", "paper_days", "profit_factor", "sharpe", "max_drawdown_pct"] ++
    (["qualification"] ++ ["walk_forward"] ++ ["monte_carlo"] ++ ["ml_stable"] ++ ["no_critical_drift"]) ++
    ["test_coverage_pct", "no_critical_errors"] ++
    (["system_health"] ++ ["broker"] ++ ["discord"] ++ ["database"] ++ ["redis"] ++ ["watchdog"] ++ ["scheduler"] ++
      ["risk_manager"])) := by
    rw [coreNames]
    repeat' apply List.Sublist.append
    all_goals first | exact names_when_sublist _ _ | exact List.Sublist.refl _
  exact parts.nodup (by decide)

def outcomes (checks : List GateCheck) : List (String × Bool) := checks.map (fun check => (check.name, check.passed))

theorem outcomes_names (checks : List GateCheck) : (outcomes checks).map Prod.fst = checks.map GateCheck.name := by
  rw [outcomes, List.map_map]
  rfl

theorem mem_outcomes (checks : List GateCheck) (check : GateCheck) (member : check ∈ checks) :
    (check.name, check.passed) ∈ outcomes checks := List.mem_map.mpr ⟨check, member, rfl⟩

theorem outcomes_of_same (checks others : List GateCheck) (names : checks.map GateCheck.name = others.map GateCheck.name)
    (same : SameOutcomes checks others) : outcomes checks = outcomes others := by
  induction checks generalizing others with
  | nil => rw [List.map_eq_nil_iff.mp names.symm]
  | cons check checks ih =>
      cases others with
      | nil => cases names
      | cons other others =>
          obtain ⟨name, rest⟩ := List.cons.inj names
          have passed := same check List.mem_cons_self other List.mem_cons_self name
          have later := ih others rest (fun first member second member' =>
            same first (List.mem_cons_of_mem _ member) second (List.mem_cons_of_mem _ member'))
          exact congrArg₂ List.cons (Prod.ext name passed) later

-- No two criteria of one evaluation share a name, so the list of outcomes says
-- no more than each outcome does.
theorem same_outcomes_iff (s : LiveGateSettings) (inputs others : GateInputs) :
    outcomes (coreChecks s inputs) = outcomes (coreChecks s others) ↔
      SameOutcomes (coreChecks s inputs) (coreChecks s others) := by
  constructor
  · intro same check member other member' name
    have first := mem_outcomes _ check member
    have second := mem_outcomes _ other member'
    rw [same] at first
    have unique : ((outcomes (coreChecks s others)).map Prod.fst).Nodup := by
      rw [outcomes_names, core_names]
      exact core_names_nodup s
    exact congrArg Prod.snd (List.inj_on_of_nodup_map unique first second name)
  · exact outcomes_of_same _ _ ((core_names s inputs).trans (core_names s others).symm)

theorem criteria_injective (s other : LiveGateSettings) (same : criteria s = criteria other) : s = other := by
  cases s
  cases other
  simp only [criteria, Json.obj.injEq, List.cons.injEq, Prod.mk.injEq, true_and, Json.float.injEq, Json.int.injEq,
    Json.bool.injEq, and_true] at same
  simp only [same]

theorem outcome_json_injective : Function.Injective outcomeJson := by
  intro a b same
  simp only [outcomeJson, Json.arr.injEq, List.cons.injEq, Json.str.injEq, Json.bool.injEq, and_true] at same
  exact Prod.ext same.1 same.2

theorem payload_injective (s other : LiveGateSettings) (first second : List (String × Bool))
    (same : payload s first = payload other second) : s = other ∧ first = second := by
  simp only [payload, Json.obj.injEq, List.cons.injEq, Prod.mk.injEq, true_and, and_true, Json.arr.injEq] at same
  exact ⟨criteria_injective s other same.2, outcome_json_injective.list_map same.1⟩

theorem valid_for_iff (approval : LiveApproval) (reportHash : String) (moment : Moment) :
    approval.isValidFor reportHash moment = true ↔ reportHash = approval.reportHash ∧ moment < approval.expiresAt := by
  rw [LiveApproval.isValidFor, Bool.and_eq_true, decide_eq_true_eq, decide_eq_true_eq]

section

variable (sha256 : ByteArray → String) (floats : FloatText ℚ)

theorem payload_bytes_unique (s other : LiveGateSettings) (first second : List (String × Bool))
    (same : payloadBytes floats s first = payloadBytes floats other second) : s = other ∧ first = second :=
  payload_injective s other first second (JsonText.dumps_injective floats _ _ (String.toByteArray_inj.mp same))

theorem report_hash (s : LiveGateSettings) (lookup : String → Bool) (inputs : GateInputs) (now : Moment) :
    (evaluate (payloadHash sha256 floats) s lookup inputs now).reportHash =
      sha256 (payloadBytes floats s (outcomes (coreChecks s inputs))) := rfl

variable (injective : Set.InjOn sha256 (payloads floats))
include injective

theorem hash_law (s other : LiveGateSettings) (lookup lookup' : String → Bool) (inputs inputs' : GateInputs)
    (now now' : Moment) :
    (evaluate (payloadHash sha256 floats) s lookup inputs now).reportHash =
        (evaluate (payloadHash sha256 floats) other lookup' inputs' now').reportHash ↔
      s = other ∧ SameOutcomes (coreChecks s inputs) (coreChecks other inputs') := by
  rw [report_hash, report_hash]
  constructor
  · intro same
    obtain ⟨rfl, listed⟩ := payload_bytes_unique floats _ _ _ _ (injective ⟨(_, _), rfl⟩ ⟨(_, _), rfl⟩ same)
    exact ⟨rfl, (same_outcomes_iff s inputs inputs').mp listed⟩
  · rintro ⟨rfl, same⟩
    rw [(same_outcomes_iff s inputs inputs').mpr same]

-- An approval is for one outcome of every criterion. If one of them failed when
-- it was given, one fails wherever it is valid.
theorem failing_approval (s other : LiveGateSettings) (lookup : String → Bool) (inputs inputs' : GateInputs)
    (now now' moment : Moment) (failed : ∃ check ∈ coreChecks s inputs, check.passed = false) (approval : LiveApproval)
    (granted : approval.reportHash = (evaluate (payloadHash sha256 floats) s lookup inputs now).reportHash)
    (required : other.requireOperatorApproval = true) :
    (evaluate (payloadHash sha256 floats) other (fun hash => approval.isValidFor hash moment) inputs' now').approved = false := by
  rw [Bool.eq_false_iff]
  intro approved
  obtain ⟨meets, found⟩ := (approved_iff _ _ _ _ _).mp approved
  have valid := (valid_for_iff approval _ moment).mp (found required)
  obtain ⟨rfl, same⟩ := (hash_law sha256 floats injective s other lookup _ inputs inputs' now now').mp
    (granted.symm.trans valid.1.symm)
  obtain ⟨check, member, fails⟩ := failed
  have listed : check.name ∈ (coreChecks s inputs').map GateCheck.name := by
    rw [core_names, ← core_names s inputs]
    exact List.mem_map_of_mem member
  obtain ⟨twin, there, name⟩ := List.mem_map.mp listed
  have passed := (core_passes_iff s inputs').mpr meets twin there
  rw [← same check member twin there name.symm, fails] at passed
  cases passed

theorem fail_closed :
    (∀ s inputs lookup now, s.requireOperatorApproval = true →
      (evaluate (payloadHash sha256 floats) s lookup inputs now).approved = true →
        Meets s inputs ∧ lookup (evaluate (payloadHash sha256 floats) s lookup inputs now).reportHash = true) ∧
    (∀ s inputs (store : ApprovalStore) moment now, s.requireOperatorApproval = true →
      (evaluate (payloadHash sha256 floats) s (fun hash => store.isValidFor hash moment) inputs now).approved = true →
        ∃ approval, store.approval = some approval ∧ moment < approval.expiresAt ∧
          approval.reportHash = sha256 (payloadBytes floats s (outcomes (coreChecks s inputs)))) ∧
    (∀ s other lookup lookup' inputs inputs' now now',
      (evaluate (payloadHash sha256 floats) s lookup inputs now).reportHash =
          (evaluate (payloadHash sha256 floats) other lookup' inputs' now').reportHash ↔
        s = other ∧ SameOutcomes (coreChecks s inputs) (coreChecks other inputs')) ∧
    (∀ s lookup inputs now, (∃ check ∈ coreChecks s inputs, check.passed = false) →
      ∀ approval : LiveApproval,
        approval.reportHash = (evaluate (payloadHash sha256 floats) s lookup inputs now).reportHash →
      ∀ other inputs' moment now', other.requireOperatorApproval = true →
        (evaluate (payloadHash sha256 floats) other (fun hash => approval.isValidFor hash moment) inputs' now').approved =
          false) := by
  refine ⟨?_, ?_, ?_, ?_⟩
  · intro s inputs lookup now required approved
    obtain ⟨meets, found⟩ := (approved_iff _ s lookup inputs now).mp approved
    exact ⟨meets, found required⟩
  · intro s inputs store moment now required approved
    have found := ((approved_iff _ s _ inputs now).mp approved).2 required
    rw [ApprovalStore.isValidFor] at found
    cases held : store.approval with
    | none => rw [held] at found; cases found
    | some approval =>
        rw [held] at found
        obtain ⟨hash, fresh⟩ := (valid_for_iff approval _ moment).mp found
        exact ⟨approval, rfl, fresh, hash.symm⟩
  · intro s other lookup lookup' inputs inputs' now now'
    exact hash_law sha256 floats injective s other lookup lookup' inputs inputs' now now'
  · intro s lookup inputs now failed approval granted other inputs' moment now' required
    exact failing_approval sha256 floats injective s other lookup inputs inputs' now now' moment failed approval granted
      required

end

-- The floats of the default settings, as `repr` writes them.
def knownFloats : List (ℚ × String) := [(24, "24.0"), (12, "12.0"), (30, "30.0"), (8 / 5, "1.6"), (6 / 5, "1.2"), (80, "80.0")]

def ratioText (value : ℚ) : List Char := (toString value.num).toList ++ 'e' :: (toString (value.den : Int)).toList

def shortText (value : ℚ) : List Char :=
  match knownFloats.find? (fun known => decide (known.1 = value)) with
  | some known => known.2.toList
  | none => ratioText value

theorem short_text_cases (value : ℚ) :
    (∃ known ∈ knownFloats, known.1 = value ∧ shortText value = known.2.toList) ∨ shortText value = ratioText value := by
  rw [shortText]
  cases found : knownFloats.find? (fun known => decide (known.1 = value)) with
  | none => exact .inr rfl
  | some known =>
      have own : decide (known.1 = value) = true :=
        List.find?_eq_some_iff_append.mp found |>.1
      exact .inl ⟨known, List.mem_of_find?_eq_some found, of_decide_eq_true own, rfl⟩

theorem int_without_exponent (value : Int) : 'e' ∉ (toString value).toList := fun member => by
  rcases JsonText.int_chars value 'e' member with digit | minus
  · exact absurd digit (by decide)
  · exact absurd minus (by decide)

theorem ratio_text_injective (a b : ℚ) (same : ratioText a = ratioText b) : a = b := by
  obtain ⟨num, -, den⟩ := (List.append_cons_inj_of_notMem (int_without_exponent _) (int_without_exponent _)).mp same
  exact Rat.ext (JsonText.int_unique _ _ num) (Int.natCast_inj.mp (JsonText.int_unique _ _ den))

theorem exponent_in_ratio (value : ℚ) : 'e' ∈ ratioText value := List.mem_append_right _ List.mem_cons_self

theorem short_text_injective (a b : ℚ) (same : shortText a = shortText b) : a = b := by
  have apart : ∀ known ∈ knownFloats, ∀ other ∈ knownFloats, known.2.toList = other.2.toList → known.1 = other.1 := by
    decide +kernel
  have plain : ∀ known ∈ knownFloats, 'e' ∉ known.2.toList := by decide +kernel
  rcases short_text_cases a with ⟨known, member, rfl, first⟩ | first
  · rcases short_text_cases b with ⟨other, member', rfl, second⟩ | second
    · exact apart known member other member' (first.symm.trans (same.trans second))
    · have ratio := first.symm.trans (same.trans second)
      exact absurd (ratio ▸ exponent_in_ratio b) (plain known member)
  · rcases short_text_cases b with ⟨other, member', rfl, second⟩ | second
    · have ratio := second.symm.trans (same.symm.trans first)
      exact absurd (ratio ▸ exponent_in_ratio a) (plain other member')
    · exact ratio_text_injective a b (first.symm.trans (same.trans second))

theorem ratio_text_plain (value : ℚ) (c : Char) (member : c ∈ ratioText value) :
    c.isDigit = true ∨ c ∈ ['-', '+', '.', 'e'] := by
  have number (whole : Int) (inside : c ∈ (toString whole).toList) : c.isDigit = true ∨ c ∈ ['-', '+', '.', 'e'] := by
    rcases JsonText.int_chars whole c inside with digit | rfl
    · exact .inl digit
    · exact .inr (by decide)
  rcases List.mem_append.mp member with num | rest
  · exact number _ num
  · rcases List.mem_cons.mp rest with rfl | den
    · exact .inr (by decide)
    · exact number _ den

theorem ratio_text_leading (value : ℚ) : ∃ c rest, ratioText value = c :: rest ∧ (c.isDigit = true ∨ c = '-') := by
  cases text : (toString value.num).toList with
  | nil => exact absurd text (JsonText.int_some _)
  | cons c rest =>
      refine ⟨c, rest ++ 'e' :: (toString (value.den : Int)).toList, by rw [ratioText, text, List.cons_append], ?_⟩
      exact JsonText.int_chars value.num c (text ▸ List.mem_cons_self)

def shortFloats : FloatText ℚ where
  text := shortText
  injective := short_text_injective
  plain := fun value c member => by
    have known : ∀ known ∈ knownFloats, ∀ c ∈ known.2.toList, c.isDigit = true ∨ c ∈ ['-', '+', '.', 'e'] := by
      simp [knownFloats]
    rcases short_text_cases value with ⟨float, listed, -, text⟩ | text
    · exact known float listed c (text ▸ member)
    · exact ratio_text_plain value c (text ▸ member)
  leading := fun value => by
    have known : ∀ known ∈ knownFloats, known.2.toList.head?.any Char.isDigit = true := by decide +kernel
    rcases short_text_cases value with ⟨float, listed, -, text⟩ | text
    · have digit := known float listed
      rw [text]
      cases chars : float.2.toList with
      | nil => rw [chars] at digit; cases digit
      | cons c rest => exact ⟨c, rest, rfl, .inl (by rwa [chars] at digit)⟩
    · rw [text]
      exact ratio_text_leading value
  fractional := fun value => by
    have known : ∀ known ∈ knownFloats, '.' ∈ known.2.toList := by decide +kernel
    rcases short_text_cases value with ⟨float, listed, -, text⟩ | text
    · exact .inl (text ▸ known float listed)
    · exact .inr (text ▸ exponent_in_ratio value)

def ready : GateInputs where
  allowLive := true
  modeRequested := "live"
  environment := "production"
  paperTrades := 250
  paperDays := 45
  profitFactor := some 2
  sharpe := some (3 / 2)
  maxDrawdownPct := some 8
  qualificationApproved := some true
  walkForwardApproved := some true
  monteCarloApproved := some true
  mlStable := some true
  criticalDrift := some false
  testCoveragePct := some 90
  systemHealthy := some true
  brokerConnected := some true
  discordOk := some true
  databaseOk := some true
  redisOk := none
  watchdogOk := some true
  schedulerOk := some true
  riskManagerOk := some true

def readyBytes : ByteArray := payloadBytes shortFloats {} (outcomes (coreChecks {} ready))

def readyHash : String := "6e22404a62ed978784a86c9d54d57b023c2349d5f7fb21cea894432e9c711197"

def rawText (bytes : ByteArray) : String := "raw " ++ String.ofList (bytes.data.toList.map Char.ofUInt8)

-- SHA-256 of the report that is ready, and the bytes themselves of any other.
def digest (bytes : ByteArray) : String :=
  if bytes.data.toList = readyBytes.data.toList then readyHash else rawText bytes

theorem same_bytes (a b : ByteArray) (lists : a.data.toList = b.data.toList) : a = b :=
  ByteArray.ext (Array.toList_inj.mp lists)

theorem raw_text_injective (a b : ByteArray) (same : rawText a = rawText b) : a = b := by
  have bytes : Function.Injective Char.ofUInt8 := fun x y chars => UInt8.toUInt32_inj.mp (congrArg Char.val chars)
  have lists := String.ofList_inj.mp (String.append_right_inj _ |>.mp same)
  exact same_bytes a b (bytes.list_map lists)

theorem raw_not_ready (bytes : ByteArray) : rawText bytes ≠ readyHash := fun same => by
  have first := congrArg (fun text => text.toList.head?) same
  simp [rawText, readyHash] at first

theorem digest_injective (a b : ByteArray) (same : digest a = digest b) : a = b := by
  rw [digest, digest] at same
  by_cases first : a.data.toList = readyBytes.data.toList
  · rw [if_pos first] at same
    by_cases second : b.data.toList = readyBytes.data.toList
    · exact same_bytes a b (first.trans second.symm)
    · rw [if_neg second] at same
      exact absurd same.symm (raw_not_ready b)
  · rw [if_neg first] at same
    by_cases second : b.data.toList = readyBytes.data.toList
    · rw [if_pos second] at same
      exact absurd same (raw_not_ready a)
    · rw [if_neg second] at same
      exact raw_text_injective a b same

def approvedStore : ApprovalStore := { approval := some ⟨"operator", "ready", readyHash, 0, 24⟩ }

theorem ready_approved :
    (evaluate (payloadHash digest shortFloats) {} (fun hash => approvedStore.isValidFor hash 1) ready 1).approved = true := by
  rw [approved_iff, ← core_passes_iff]
  refine ⟨by decide +kernel, fun _ => ?_⟩
  have hash : digest readyBytes = readyHash := by
    rw [digest, if_pos rfl]
  rw [report_hash, ← readyBytes, hash]
  decide +kernel

theorem fail_closed_ready : Meets {} ready ∧
    ∃ approval, approvedStore.approval = some approval ∧ 1 < approval.expiresAt ∧ approval.reportHash = digest readyBytes := by
  have closed := fail_closed digest shortFloats (fun a _ b _ same => digest_injective a b same)
  exact ⟨(closed.1 {} ready _ 1 rfl ready_approved).1, closed.2.1 {} ready approvedStore 1 1 rfl ready_approved⟩

end QuantEngine.LiveGate
