import QuantEngine.Research.Candidates
import QuantEngine.Research.Models

set_option autoImplicit false

namespace QuantEngine.Research

variable {F : Type}

def ExperimentRecord.fromDict [PyFloat F] (data : Json F) : Except PyError (ExperimentRecord F) := do
  let hyp ← data.get "hypothesis" .null
  let hypothesis ← if hyp.toBool then do
      let hypothesis ← Hypothesis.fromDict hyp
      .ok (some hypothesis)
    else .ok none
  let id ← asText (← data.item "id")
  let label ← asText (← data.item "label")
  let kind ← asText (← data.item "kind")
  let status ← ofValue ExperimentStatus.value ExperimentStatus.members (← data.item "status")
  let payload ← asObject (← data.get "payload" (.obj []))
  let conclusions ← asText (← data.get "conclusions" (.str ""))
  let createdAt ← datetimeOf (← data.item "created_at")
  .ok ⟨id, label, kind, status, hypothesis, payload, conclusions, createdAt⟩

structure ExperimentManager (F : Type) where
  records : Dict String (ExperimentRecord F) := .empty
  log : List (Json F) := []

namespace ExperimentManager

def load [PyFloat F] : List (Json F) → Dict String (ExperimentRecord F) → Except PyError (Dict String (ExperimentRecord F))
  | [], records => .ok records
  | line :: rest, records => do
      let experiment ← ExperimentRecord.fromDict line
      let id ← asText (← line.item "id")
      load rest (records.insert id experiment)

def append (manager : ExperimentManager F) (experiment : ExperimentRecord F) : ExperimentManager F :=
  ⟨manager.records.insert experiment.id experiment, manager.log ++ [experiment.toDict]⟩

def create (manager : ExperimentManager F) (id label kind : String) (hypothesis : Option Hypothesis)
    (payload : Option (Dict String (Json F))) (now : Datetime) : ExperimentManager F :=
  manager.append
    { id := id
      label := label
      kind := kind
      status := .opened
      hypothesis := hypothesis
      payload := payload.getD .empty
      createdAt := now }

-- `none` where the id is unknown, which raises.
def updatePayload (manager : ExperimentManager F) (id : String) (payload : Dict String (Json F)) : Option (ExperimentManager F) :=
  (manager.records.lookup id).map (fun current =>
    manager.append { current with payload := current.payload.insertAll payload.entries })

def transition (manager : ExperimentManager F) (id : String) (status : ExperimentStatus) (conclusions : String) :
    Option (ExperimentManager F) :=
  (manager.records.lookup id).map (fun current => manager.append { current with
    status := status, conclusions := if conclusions = "" then current.conclusions else conclusions })

def close (manager : ExperimentManager F) (id conclusions : String) : Option (ExperimentManager F) :=
  manager.transition id .closed conclusions

def archive (manager : ExperimentManager F) (id conclusions : String) : Option (ExperimentManager F) :=
  let known := match manager.records.lookup id with
    | some current => current.conclusions
    | none => ""
  manager.transition id .archived (if conclusions = "" then known else conclusions)

end ExperimentManager

end QuantEngine.Research

namespace QuantEngine.Research

variable {F : Type}

theorem combine_read (combine : Combine) : ofValue Combine.value Combine.members (.str combine.value : Json F) = .ok combine := by
  cases combine <;> rfl

theorem stage_read (stage : PipelineStage) :
    ofValue PipelineStage.value PipelineStage.members (.str stage.value : Json F) = .ok stage := by
  cases stage <;> rfl

theorem status_read (status : CandidateStatus) :
    ofValue CandidateStatus.value CandidateStatus.members (.str status.value : Json F) = .ok status := by
  cases status <;> rfl

theorem experiment_status_read (status : ExperimentStatus) :
    ofValue ExperimentStatus.value ExperimentStatus.members (.str status.value : Json F) = .ok status := by
  cases status <;> rfl

theorem object_read (object : Dict String (Json F)) : asObject (.obj object.entries) = .ok object :=
  congrArg Except.ok object.rebuilt

theorem score_read (score : Option F) : asScore (ofScore score) = .ok score := by
  cases score <;> rfl

theorem numbers_read [PyFloat F] (numbers : Dict String F) : numbersOf (ofNumbers numbers) = .ok numbers := by
  simp only [numbersOf, ofNumbers, Json.items, Json.float_items_read, Json.ok_bind, Dict.rebuilt]

theorem texts_read (texts : List String) : textsOf (ofTexts texts : Json F) = .ok texts := by
  simp only [textsOf, ofTexts, Json.iterate, Json.ok_bind]
  exact Json.map_all_inverse .str asText texts (fun _ _ => rfl)

theorem datetime_read (datetime : Datetime) : datetimeOf (.str (IsoTime.isoformat datetime) : Json F) = .ok datetime := by
  simp only [datetimeOf, asText, Json.ok_bind, IsoTime.round_trip]

namespace SignalBlock

theorem round_trip [PyFloat F] (block : SignalBlock F) : fromDict block.toDict = .ok block := by
  have params := numbers_read block.params
  simp only [fromDict, toDict, Json.get, Json.item, asText, Json.member_here, Json.member_later, Option.getD_some, ne_eq,
    String.reduceEq, not_false_eq_true, Json.ok_bind, params]

theorem each_round_trip [PyFloat F] (blocks : List (SignalBlock F)) : Json.mapAll fromDict (blocks.map toDict) = .ok blocks :=
  Json.map_all_inverse toDict fromDict blocks (fun block _ => block.round_trip)

end SignalBlock

theorem genome_round_trip [PyFloat F] (digest : Json F → String) (genome : StrategyGenome F) :
    genomeFromDict (genome.toDict digest) = .ok genome := by
  have blocks := SignalBlock.each_round_trip genome.blocks
  have filters := SignalBlock.each_round_trip genome.filters
  have combine := combine_read (F := F) genome.combine
  have metadata := object_read genome.metadata
  simp only [genomeFromDict, StrategyGenome.toDict, Json.get, Json.item, Json.iterate, asText, Json.member_here,
    Json.member_later, Option.getD_some, ne_eq, String.reduceEq, not_false_eq_true, Json.ok_bind, blocks, filters, combine,
    metadata, Json.toInt, Json.toBool]

theorem hypothesis_round_trip (hypothesis : Hypothesis) : Hypothesis.fromDict (hypothesis.toDict : Json F) = .ok hypothesis := by
  simp only [Hypothesis.fromDict, Hypothesis.toDict, Json.get, asText, Json.member_here, Json.member_later, Option.getD_some,
    ne_eq, String.reduceEq, not_false_eq_true, Json.ok_bind]

theorem stage_round_trip [PyFloat F] (result : StageResult F) : StageResult.fromDict result.toDict = .ok result := by
  have stage := stage_read (F := F) result.stage
  have score := score_read result.score
  have metrics := numbers_read result.metrics
  simp only [StageResult.fromDict, StageResult.toDict, Json.get, Json.item, asText, Json.member_here, Json.member_later,
    Option.getD_some, ne_eq, String.reduceEq, not_false_eq_true, Json.ok_bind, stage, score, metrics, Json.toBool]

theorem report_round_trip [PyFloat F] (report : CandidateReport F) : candidateReportFromDict report.toDict = .ok report := by
  have stages := Json.map_all_inverse StageResult.toDict StageResult.fromDict report.stages (fun result _ => stage_round_trip result)
  have status := status_read (F := F) report.status
  have score := score_read report.score
  have statistics := numbers_read report.statistics
  have reasons := texts_read (F := F) report.reasons
  have createdAt := datetime_read (F := F) report.createdAt
  simp only [candidateReportFromDict, CandidateReport.toDict, Json.get, Json.item, Json.iterate, asText, Json.member_here,
    Json.member_later, Option.getD_some, ne_eq, String.reduceEq, not_false_eq_true, Json.ok_bind, stages, status, score,
    statistics, reasons, createdAt, Json.toBool]

theorem experiment_round_trip [PyFloat F] (experiment : ExperimentRecord F) :
    ExperimentRecord.fromDict experiment.toDict = .ok experiment := by
  obtain ⟨id, label, kind, status, hypothesis, payload, conclusions, createdAt⟩ := experiment
  have statuses := experiment_status_read (F := F) status
  have object := object_read payload
  have created := datetime_read (F := F) createdAt
  cases hypothesis with
  | none =>
      simp only [ExperimentRecord.fromDict, ExperimentRecord.toDict, orNull, Json.get, Json.item, asText, Json.member_here,
        Json.member_later, Option.getD_some, ne_eq, String.reduceEq, not_false_eq_true, Json.ok_bind, statuses, object,
        created, Json.toBool, Bool.false_eq_true, if_false]
  | some hypothesis =>
      have read := hypothesis_round_trip (F := F) hypothesis
      have present : (hypothesis.toDict : Json F).toBool = true := rfl
      simp only [ExperimentRecord.fromDict, ExperimentRecord.toDict, orNull, Json.get, Json.item, asText, Json.member_here,
        Json.member_later, Option.getD_some, ne_eq, String.reduceEq, not_false_eq_true, Json.ok_bind, statuses, object,
        created, present, read, if_true]

section

variable [Floats F]

-- The numbers as they are written.
def PaperTrialStatus.written (status : PaperTrialStatus F) : PaperTrialStatus F :=
  { status with
    days := Floats.round 3 status.days
    profitFactor := Floats.round 4 status.profitFactor
    drawdownPct := Floats.round 4 status.drawdownPct }

def PromotionDecision.reread (now : Datetime) (decision : PromotionDecision F) : PromotionDecision F :=
  { decision with
    drift := Floats.round 4 decision.drift
    improvement := Floats.round 4 decision.improvement
    decidedAt := now }

-- What is made of a candidate's line when it is read.
def ProductionCandidate.reread (now : Datetime) (candidate : ProductionCandidate F) : ProductionCandidate F :=
  { candidate with
    paper := candidate.paper.map PaperTrialStatus.written
    promotion := candidate.promotion.map (PromotionDecision.reread now) }

theorem paper_read (paper : Option (PaperTrialStatus F)) :
    paperFromDict (orNull PaperTrialStatus.toDict paper) = .ok (paper.map PaperTrialStatus.written) := by
  cases paper with
  | none => rfl
  | some paper =>
      have reasons := texts_read (F := F) paper.reasons
      have present : paper.toDict.toBool = true := rfl
      simp only [orNull, paperFromDict, present, if_true]
      simp only [PaperTrialStatus.toDict, Json.get, Json.item, asText, Json.member_here, Json.member_later, Option.getD_some,
        ne_eq, String.reduceEq, not_false_eq_true, Json.ok_bind, reasons, Json.toFloat, Json.toInt, Json.toBool]
      rfl

theorem promotion_read (now : Datetime) (promotion : Option (PromotionDecision F)) :
    promotionFromDict now (orNull PromotionDecision.toDict promotion) = .ok (promotion.map (PromotionDecision.reread now)) := by
  cases promotion with
  | none => rfl
  | some promotion =>
      have reasons := texts_read (F := F) promotion.reasons
      have blockers := texts_read (F := F) promotion.blockers
      have present : promotion.toDict.toBool = true := rfl
      simp only [orNull, promotionFromDict, present, if_true]
      simp only [PromotionDecision.toDict, Json.get, Json.item, asText, Json.member_here, Json.member_later, Option.getD_some,
        ne_eq, String.reduceEq, not_false_eq_true, Json.ok_bind, reasons, blockers, Json.toFloat, Json.toBool]
      rfl

theorem candidate_read (digest : Json F → String) (now : Datetime) (candidate : ProductionCandidate F) :
    ProductionCandidate.fromDict now (candidate.toDict digest) = .ok (candidate.reread now) := by
  have genome := genome_round_trip digest candidate.genome
  have report := report_round_trip candidate.report
  have status := status_read (F := F) candidate.status
  have paper := paper_read candidate.paper
  have promotion := promotion_read now candidate.promotion
  simp only [ProductionCandidate.fromDict, ProductionCandidate.toDict, Json.get, Json.item, asText, Json.member_here,
    Json.member_later, Option.getD_some, ne_eq, String.reduceEq, not_false_eq_true, Json.ok_bind, genome, report, status,
    paper, promotion]
  rfl

end

end QuantEngine.Research
