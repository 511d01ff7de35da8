import QuantEngine.Library.Dict
import QuantEngine.Library.Extended
import QuantEngine.Research.Models

set_option autoImplicit false

namespace QuantEngine.Research

variable {F : Type}

-- A comparison of the values at a key that both have.
def compares (relation : F → F → Bool) (first second : Dict String F) (key : String) : Bool :=
  match first.lookup key, second.lookup key with
  | some a, some b => relation a b
  | _, _ => false

theorem compares_iff (relation : F → F → Bool) (first second : Dict String F) (key : String) :
    compares relation first second key = true ↔
      ∃ x y, first.lookup key = some x ∧ second.lookup key = some y ∧ relation x y = true := by
  rw [compares]
  cases first.lookup key with
  | none => simp
  | some x =>
      cases second.lookup key with
      | none => simp
      | some y => simp

variable [Floats F]

-- A percentage becomes a fraction; what is no number counts as zero.
def transform (key : String) (value : F) : F :=
  if Floats.isFinite value then
    if "_pct".toList.isSuffixOf key.toList then Floats.divNat value 100 else value
  else Floats.ofRat 0

def addObjective (metrics : Dict String F) (total : F) (entry : String × F) : F :=
  match metrics.lookup entry.1 with
  | some value => Floats.add total (Floats.mul entry.2 (transform entry.1 value))
  | none => total

def scalarize (metrics objectives : Dict String F) : F := objectives.entries.foldl (addObjective metrics) (Floats.ofRat 0)

def sign (weight : F) : F := if Floats.le (Floats.ofRat 0) weight then Floats.ofRat 1 else Floats.ofRat (-1)

def orient (metrics vector : Dict String F) (entry : String × F) : Dict String F :=
  match metrics.lookup entry.1 with
  | some value => vector.insert entry.1 (Floats.mul (sign entry.2) (transform entry.1 value))
  | none => vector

def goodness (metrics objectives : Dict String F) : Dict String F := objectives.entries.foldl (orient metrics) .empty

def dominates (a b objectives : Dict String F) : Bool :=
  let ga := goodness a objectives
  let gb := goodness b objectives
  let keys := ga.keys.filter (fun key => gb.contains key)
  if keys.isEmpty then false
  else keys.all (compares (fun x y => Floats.le y x) ga gb) && keys.any (compares (fun x y => Floats.lt y x) ga gb)

-- What a metric is worth, where there is an objective for it.
def worth (metrics objectives : Dict String F) (key : String) : Option F :=
  (objectives.lookup key).bind (fun weight => (metrics.lookup key).map (fun value => Floats.mul (sign weight) (transform key value)))

theorem goodness_entries (metrics : Dict String F) (entries : List (String × F)) (vector : Dict String F) (key : String)
    (unique : (entries.map Prod.fst).Nodup) :
    (entries.foldl (orient metrics) vector).lookup key =
      (((entries.find? (fun entry => decide (entry.1 = key))).map Prod.snd).bind (fun weight =>
        (metrics.lookup key).map (fun value => Floats.mul (sign weight) (transform key value)))).or (vector.lookup key) := by
  induction entries generalizing vector with
  | nil => rfl
  | cons entry rest ih =>
      obtain ⟨name, weight⟩ := entry
      obtain ⟨absent, unique⟩ := List.nodup_cons.mp unique
      rw [List.foldl_cons, ih _ unique, List.find?_cons, orient]
      dsimp only
      by_cases here : name = key
      · have nowhere : rest.find? (fun entry => decide (entry.1 = key)) = none := by
          rw [List.find?_eq_none]
          intro entry member same
          exact absent (List.mem_map.mpr ⟨entry, member, (of_decide_eq_true same).trans here.symm⟩)
        rw [nowhere, ← here]
        cases metrics.lookup name with
        | none => simp
        | some value => simp [Dict.lookup_insert]
      · rw [decide_eq_false here]
        cases metrics.lookup name with
        | none => rfl
        | some value =>
            dsimp only
            rw [Dict.lookup_insert, if_neg (Ne.symm here)]

theorem goodness_lookup (metrics objectives : Dict String F) (key : String) :
    (goodness metrics objectives).lookup key = worth metrics objectives key := by
  rw [goodness, goodness_entries metrics objectives.entries .empty key objectives.unique]
  exact Option.or_none

-- Not worse on any objective that both have, and better on one.
theorem dominates_iff (a b objectives : Dict String F) :
    dominates a b objectives = true ↔
      (∀ key x y, worth a objectives key = some x → worth b objectives key = some y → Floats.le y x = true) ∧
        ∃ key x y, worth a objectives key = some x ∧ worth b objectives key = some y ∧ Floats.lt y x = true := by
  have common (key : String) : key ∈ (goodness a objectives).keys.filter (fun key => (goodness b objectives).contains key) ↔
      ∃ x y, worth a objectives key = some x ∧ worth b objectives key = some y := by
    rw [List.mem_filter, Dict.contains, decide_eq_true_eq, Dict.mem_keys_iff, Dict.mem_keys_iff, goodness_lookup, goodness_lookup]
    exact ⟨fun ⟨⟨x, left⟩, ⟨y, right⟩⟩ => ⟨x, y, left, right⟩, fun ⟨x, y, left, right⟩ => ⟨⟨x, left⟩, ⟨y, right⟩⟩⟩
  rw [dominates]
  constructor
  · intro holds
    split at holds
    · cases holds
    · rw [Bool.and_eq_true, List.all_eq_true, List.any_eq_true] at holds
      obtain ⟨all, key, member, better⟩ := holds
      refine ⟨fun key x y left right => ?_, ?_⟩
      · obtain ⟨x', y', left', right', least⟩ := (compares_iff _ _ _ _).mp (all key ((common key).mpr ⟨x, y, left, right⟩))
        rw [goodness_lookup] at left' right'
        rw [← Option.some.inj (left'.symm.trans left), ← Option.some.inj (right'.symm.trans right)]
        exact least
      · obtain ⟨x, y, left, right, less⟩ := (compares_iff _ _ _ _).mp better
        rw [goodness_lookup] at left right
        exact ⟨key, x, y, left, right, less⟩
  · rintro ⟨all, key, x, y, left, right, less⟩
    have member := (common key).mpr ⟨x, y, left, right⟩
    rw [if_neg (by rw [List.isEmpty_iff]; exact List.ne_nil_of_mem member), Bool.and_eq_true, List.all_eq_true, List.any_eq_true]
    refine ⟨fun other both => ?_, key, member, ?_⟩
    · obtain ⟨x, y, left, right⟩ := (common other).mp both
      exact (compares_iff _ _ _ _).mpr ⟨x, y, (goodness_lookup _ _ _).trans left, (goodness_lookup _ _ _).trans right,
        all other x y left right⟩
    · exact (compares_iff _ _ _ _).mpr ⟨x, y, (goodness_lookup _ _ _).trans left, (goodness_lookup _ _ _).trans right, less⟩

end QuantEngine.Research

namespace QuantEngine.Research

variable {F : Type}

structure PromotionSettings (F : Type) where
  requireOperatorApproval : Bool
  requireBeatCurrent : Bool
  maxDrift : F
  minImprovement : F

def PromotionSettings.standard [Floats F] : PromotionSettings F := ⟨true, true, Floats.ofRat (1 / 4), Floats.ofRat (1 / 20)⟩

structure PromotionManager (F : Type) where
  settings : PromotionSettings F
  objectives : Dict String F

-- The reasons and the blockers that a requirement adds.
structure Check where
  reasons : List String := []
  blockers : List String := []

-- What a promotion is asked with.
structure PromotionRequest (F : Type) where
  operator : String := ""
  operatorApproved : Bool
  currentMetrics : Option (Dict String F)
  drift : F

-- `None` and an empty mapping are both false.
def PromotionRequest.incumbent (request : PromotionRequest F) : Option (Dict String F) :=
  request.currentMetrics.filter (fun metrics => !metrics.entries.isEmpty)

namespace PromotionManager

def checkReport (report : CandidateReport F) : Check :=
  if report.passed then { reasons := ["pipeline de validación superado"] }
  else { blockers := ["no superó el pipeline de validación"] }

theorem report_clear (report : CandidateReport F) : (checkReport report).blockers = [] ↔ report.passed = true := by
  rw [checkReport]
  split <;> simp_all

def maturedPaper (paper : Option (PaperTrialStatus F)) : Bool :=
  match paper with
  | some status => status.matured
  | none => false

def checkPaper (paper : Option (PaperTrialStatus F)) : Check :=
  if maturedPaper paper then { reasons := ["validación paper madura"] }
  else { blockers := ["validación paper no completada"] }

theorem paper_clear (paper : Option (PaperTrialStatus F)) : (checkPaper paper).blockers = [] ↔ maturedPaper paper = true := by
  rw [checkPaper]
  split <;> simp_all

variable (manager : PromotionManager F)

def checkOperator (operatorApproved : Bool) : Check :=
  if manager.settings.requireOperatorApproval then
    if operatorApproved then { reasons := ["aprobación del operador registrada"] }
    else { blockers := ["falta la aprobación explícita del operador"] }
  else {}

theorem operator_clear (operatorApproved : Bool) : (manager.checkOperator operatorApproved).blockers = [] ↔
    (manager.settings.requireOperatorApproval = true → operatorApproved = true) := by
  rw [checkOperator]
  split
  · split <;> simp_all
  · simp_all

variable [Floats F]

def checkDrift (drift : F) : Check :=
  let shown := Floats.fixed 2 drift
  let limit := Floats.fixed 2 manager.settings.maxDrift
  if Floats.le drift manager.settings.maxDrift then
    { reasons := ["sin drift significativo (" ++ shown ++ " ≤ " ++ limit ++ ")"] }
  else { blockers := ["drift " ++ shown ++ " > " ++ limit] }

def improvement (report : CandidateReport F) (incumbent : Option (Dict String F)) : F :=
  let challenger := scalarize report.statistics manager.objectives
  match incumbent with
  | some metrics => Floats.sub challenger (scalarize metrics manager.objectives)
  | none => challenger

def checkIncumbent (report : CandidateReport F) (incumbent : Option (Dict String F)) : Check :=
  let improvement := manager.improvement report incumbent
  let shown := Floats.fixed 3 improvement
  let least := Floats.fixed 3 manager.settings.minImprovement
  match incumbent with
  | some _ =>
      if manager.settings.requireBeatCurrent then
        if Floats.le manager.settings.minImprovement improvement then
          { reasons := ["supera a la vigente (mejora " ++ shown ++ ")"] }
        else { blockers := ["no supera a la vigente (mejora " ++ shown ++ " < " ++ least ++ ")"] }
      else {}
  | none => { reasons := ["no hay estrategia vigente que superar"] }

def evaluate (genome : StrategyGenome F) (report : CandidateReport F) (paper : Option (PaperTrialStatus F))
    (request : PromotionRequest F) (now : Datetime) : PromotionDecision F :=
  let checks := [checkReport report, checkPaper paper, manager.checkDrift request.drift,
    manager.checkIncumbent report request.incumbent, manager.checkOperator request.operatorApproved]
  let blockers := checks.flatMap Check.blockers
  { genomeId := genome.id
    name := genome.name
    approved := blockers.isEmpty
    operator := request.operator
    drift := request.drift
    improvement := manager.improvement report request.incumbent
    reasons := checks.flatMap Check.reasons
    blockers := blockers
    decidedAt := now }

-- The requirements but for the paper validation.
structure Cleared (report : CandidateReport F) (request : PromotionRequest F) : Prop where
  passed : report.passed = true
  drift : Floats.le request.drift manager.settings.maxDrift = true
  beaten : request.incumbent.isSome = true → manager.settings.requireBeatCurrent = true →
    Floats.le manager.settings.minImprovement (manager.improvement report request.incumbent) = true
  operator : manager.settings.requireOperatorApproval = true → request.operatorApproved = true

theorem drift_clear (drift : F) :
    (manager.checkDrift drift).blockers = [] ↔ Floats.le drift manager.settings.maxDrift = true := by
  simp only [checkDrift]
  split <;> simp_all

theorem incumbent_clear (report : CandidateReport F) (incumbent : Option (Dict String F)) :
    (manager.checkIncumbent report incumbent).blockers = [] ↔
      (incumbent.isSome = true → manager.settings.requireBeatCurrent = true →
        Floats.le manager.settings.minImprovement (manager.improvement report incumbent) = true) := by
  cases incumbent with
  | none => simp [checkIncumbent]
  | some metrics =>
      simp only [checkIncumbent]
      split
      · split <;> simp_all
      · simp_all

-- Fail-closed: approved just if every requirement is met.
theorem approved_iff (genome : StrategyGenome F) (report : CandidateReport F) (paper : Option (PaperTrialStatus F))
    (request : PromotionRequest F) (now : Datetime) :
    (manager.evaluate genome report paper request now).approved = true ↔
      manager.Cleared report request ∧ maturedPaper paper = true := by
  have each : (manager.evaluate genome report paper request now).approved = true ↔
      (checkReport report).blockers = [] ∧ (checkPaper paper).blockers = [] ∧
        (manager.checkDrift request.drift).blockers = [] ∧
        (manager.checkIncumbent report request.incumbent).blockers = [] ∧
        (manager.checkOperator request.operatorApproved).blockers = [] := by
    simp [evaluate]
  rw [each, report_clear, paper_clear, drift_clear, incumbent_clear, operator_clear]
  exact ⟨fun ⟨passed, matured, drift, beaten, operator⟩ => ⟨⟨passed, drift, beaten, operator⟩, matured⟩,
    fun ⟨cleared, matured⟩ => ⟨cleared.passed, matured, cleared.drift, cleared.beaten, cleared.operator⟩⟩

end PromotionManager

end QuantEngine.Research
