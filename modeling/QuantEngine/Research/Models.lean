import QuantEngine.Library.Dict
import QuantEngine.Library.Extended
import QuantEngine.Library.IsoTime

set_option autoImplicit false

namespace QuantEngine.Research

variable {F : Type}

inductive Combine where
  | all
  | any
  | majority
deriving DecidableEq

def Combine.value : Combine → String
  | .all => "all"
  | .any => "any"
  | .majority => "majority"

inductive PipelineStage where
  | backtest
  | walkForward
  | monteCarlo
  | mlReview
  | benchmark
  | riskReview
deriving DecidableEq

def PipelineStage.value : PipelineStage → String
  | .backtest => "backtest"
  | .walkForward => "walk_forward"
  | .monteCarlo => "monte_carlo"
  | .mlReview => "ml_review"
  | .benchmark => "benchmark"
  | .riskReview => "risk_review"

inductive CandidateStatus where
  | generated
  | evaluated
  | candidate
  | paper
  | promoted
  | rejected
  | archived
deriving DecidableEq

def CandidateStatus.value : CandidateStatus → String
  | .generated => "generated"
  | .evaluated => "evaluated"
  | .candidate => "candidate"
  | .paper => "paper"
  | .promoted => "promoted"
  | .rejected => "rejected"
  | .archived => "archived"

inductive ExperimentStatus where
  | opened
  | closed
  | archived
deriving DecidableEq

def ExperimentStatus.value : ExperimentStatus → String
  | .opened => "open"
  | .closed => "closed"
  | .archived => "archived"

-- The members of each enumeration, in its order.
def Combine.members : List Combine := [.all, .any, .majority]

def PipelineStage.members : List PipelineStage :=
  [.backtest, .walkForward, .monteCarlo, .mlReview, .benchmark, .riskReview]

def CandidateStatus.members : List CandidateStatus :=
  [.generated, .evaluated, .candidate, .paper, .promoted, .rejected, .archived]

def ExperimentStatus.members : List ExperimentStatus := [.opened, .closed, .archived]

-- An enumeration called on a value.
def ofValue {α : Type} (value : α → String) (members : List α) (data : Json F) : Except PyError α :=
  match data with
  | .str text => match members.find? (fun item => decide (value item = text)) with
    | some item => .ok item
    | none => .error .value
  | _ => .error .value

-- A text, where the source takes any value and only texts are ever written.
def asText (data : Json F) : Except PyError String :=
  match data with
  | .str text => .ok text
  | _ => .error .type

-- Likewise an object, and a number or null.
def asObject (data : Json F) : Except PyError (Dict String (Json F)) :=
  match data with
  | .obj members => .ok (Dict.insertAll .empty members)
  | _ => .error .type

def asScore (data : Json F) : Except PyError (Option F) :=
  match data with
  | .float value => .ok (some value)
  | .null => .ok none
  | _ => .error .type

-- `value.to_dict() if value else None`.
def orNull {α : Type} (encode : α → Json F) (value : Option α) : Json F :=
  match value with
  | some value => encode value
  | none => .null

def ofScore (score : Option F) : Json F := orNull .float score

def ofNumbers (numbers : Dict String F) : Json F := .obj (numbers.entries.map (fun entry => (entry.1, .float entry.2)))

-- `{key: float(value) for key, value in data.items()}`.
def numbersOf [PyFloat F] (data : Json F) : Except PyError (Dict String F) := do
  let items ← Json.floatItems (← Json.items data)
  .ok (Dict.insertAll .empty items)

def ofTexts (texts : List String) : Json F := .arr (texts.map .str)

def textsOf (data : Json F) : Except PyError (List String) := do
  Json.mapAll asText (← Json.iterate data)

def datetimeOf (data : Json F) : Except PyError Datetime := do
  IsoTime.fromisoformat (← asText data)

structure SignalBlock (F : Type) where
  kind : String
  params : Dict String F

-- A context filter has the same fields.
abbrev ContextFilter (F : Type) := SignalBlock F

namespace SignalBlock

def toDict (block : SignalBlock F) : Json F := .obj [("kind", .str block.kind), ("params", ofNumbers block.params)]

def fromDict [PyFloat F] (data : Json F) : Except PyError (SignalBlock F) := do
  let kind ← asText (← data.item "kind")
  let params ← numbersOf (← data.get "params" (.obj []))
  .ok ⟨kind, params⟩

end SignalBlock

structure StrategyGenome (F : Type) where
  id : String
  name : String
  symbol : String
  timeframe : String
  blocks : List (SignalBlock F)
  filters : List (ContextFilter F) := []
  combine : Combine := .all
  allowShort : Bool := true
  seed : Int := 0
  metadata : Dict String (Json F) := .empty

namespace StrategyGenome

-- `digest` is the hash of a document with sorted keys.
def signature (digest : Json F → String) (genome : StrategyGenome F) : String :=
  digest (.obj [("symbol", .str genome.symbol), ("timeframe", .str genome.timeframe), ("combine", .str genome.combine.value),
    ("allow_short", .bool genome.allowShort), ("blocks", .arr (genome.blocks.map SignalBlock.toDict)),
    ("filters", .arr (genome.filters.map SignalBlock.toDict))])

def toDict (digest : Json F → String) (genome : StrategyGenome F) : Json F :=
  .obj [("id", .str genome.id), ("name", .str genome.name), ("symbol", .str genome.symbol),
    ("timeframe", .str genome.timeframe), ("combine", .str genome.combine.value), ("allow_short", .bool genome.allowShort),
    ("seed", .int genome.seed), ("signature", .str (genome.signature digest)),
    ("blocks", .arr (genome.blocks.map SignalBlock.toDict)), ("filters", .arr (genome.filters.map SignalBlock.toDict)),
    ("metadata", .obj genome.metadata.entries)]

end StrategyGenome

def genomeFromDict [PyFloat F] (data : Json F) : Except PyError (StrategyGenome F) := do
  let blocks ← Json.mapAll SignalBlock.fromDict (← Json.iterate (← data.get "blocks" (.arr [])))
  let filters ← Json.mapAll SignalBlock.fromDict (← Json.iterate (← data.get "filters" (.arr [])))
  let id ← asText (← data.item "id")
  let name ← asText (← data.item "name")
  let symbol ← asText (← data.item "symbol")
  let timeframe ← asText (← data.item "timeframe")
  let combine ← ofValue Combine.value Combine.members (← data.get "combine" (.str "all"))
  let allowShort ← data.get "allow_short" (.bool true)
  let seed ← Json.toInt (← data.get "seed" (.int 0))
  let metadata ← asObject (← data.get "metadata" (.obj []))
  .ok ⟨id, name, symbol, timeframe, blocks, filters, combine, allowShort.toBool, seed, metadata⟩

structure Hypothesis where
  text : String
  rationale : String := ""
  expectedEdge : String := ""

namespace Hypothesis

def toDict (hypothesis : Hypothesis) : Json F :=
  .obj [("text", .str hypothesis.text), ("rationale", .str hypothesis.rationale),
    ("expected_edge", .str hypothesis.expectedEdge)]

def fromDict (data : Json F) : Except PyError Hypothesis := do
  let text ← asText (← data.get "text" (.str ""))
  let rationale ← asText (← data.get "rationale" (.str ""))
  let expectedEdge ← asText (← data.get "expected_edge" (.str ""))
  .ok ⟨text, rationale, expectedEdge⟩

end Hypothesis

structure StageResult (F : Type) where
  stage : PipelineStage
  passed : Bool
  score : Option F := none
  detail : String := ""
  metrics : Dict String F := .empty

namespace StageResult

def toDict (result : StageResult F) : Json F :=
  .obj [("stage", .str result.stage.value), ("passed", .bool result.passed), ("score", ofScore result.score),
    ("detail", .str result.detail), ("metrics", ofNumbers result.metrics)]

def fromDict [PyFloat F] (data : Json F) : Except PyError (StageResult F) := do
  let stage ← ofValue PipelineStage.value PipelineStage.members (← data.item "stage")
  let passed ← data.item "passed"
  let score ← asScore (← data.get "score" .null)
  let detail ← asText (← data.get "detail" (.str ""))
  let metrics ← numbersOf (← data.get "metrics" (.obj []))
  .ok ⟨stage, passed.toBool, score, detail, metrics⟩

end StageResult

structure CandidateReport (F : Type) where
  genomeId : String
  name : String
  symbol : String
  status : CandidateStatus
  passed : Bool
  objective : String
  score : Option F
  stages : List (StageResult F)
  statistics : Dict String F := .empty
  reasons : List String := []
  createdAt : Datetime

def CandidateReport.toDict (report : CandidateReport F) : Json F :=
  .obj [("genome_id", .str report.genomeId), ("name", .str report.name), ("symbol", .str report.symbol),
    ("status", .str report.status.value), ("passed", .bool report.passed), ("objective", .str report.objective),
    ("score", ofScore report.score), ("stages", .arr (report.stages.map StageResult.toDict)),
    ("statistics", ofNumbers report.statistics), ("reasons", ofTexts report.reasons),
    ("created_at", .str (IsoTime.isoformat report.createdAt))]

def candidateReportFromDict [PyFloat F] (data : Json F) : Except PyError (CandidateReport F) := do
  let stages ← Json.mapAll StageResult.fromDict (← Json.iterate (← data.get "stages" (.arr [])))
  let genomeId ← asText (← data.item "genome_id")
  let name ← asText (← data.item "name")
  let symbol ← asText (← data.item "symbol")
  let status ← ofValue CandidateStatus.value CandidateStatus.members (← data.item "status")
  let passed ← data.item "passed"
  let objective ← asText (← data.item "objective")
  let score ← asScore (← data.get "score" .null)
  let statistics ← numbersOf (← data.get "statistics" (.obj []))
  let reasons ← textsOf (← data.get "reasons" (.arr []))
  let createdAt ← datetimeOf (← data.item "created_at")
  .ok ⟨genomeId, name, symbol, status, passed.toBool, objective, score, stages, statistics, reasons, createdAt⟩

structure PaperTrialStatus (F : Type) where
  genomeId : String
  matured : Bool
  days : F
  trades : Int
  profitFactor : F
  drawdownPct : F
  reasons : List String := []

def PaperTrialStatus.toDict [Floats F] (status : PaperTrialStatus F) : Json F :=
  .obj [("genome_id", .str status.genomeId), ("matured", .bool status.matured), ("days", .float (Floats.round 3 status.days)),
    ("trades", .int status.trades), ("profit_factor", .float (Floats.round 4 status.profitFactor)),
    ("drawdown_pct", .float (Floats.round 4 status.drawdownPct)), ("reasons", ofTexts status.reasons)]

structure PromotionDecision (F : Type) where
  genomeId : String
  name : String
  approved : Bool
  operator : String
  drift : F
  improvement : F
  reasons : List String := []
  blockers : List String := []
  decidedAt : Datetime

def PromotionDecision.toDict [Floats F] (decision : PromotionDecision F) : Json F :=
  .obj [("genome_id", .str decision.genomeId), ("name", .str decision.name), ("approved", .bool decision.approved),
    ("operator", .str decision.operator), ("drift", .float (Floats.round 4 decision.drift)),
    ("improvement", .float (Floats.round 4 decision.improvement)), ("reasons", ofTexts decision.reasons),
    ("blockers", ofTexts decision.blockers), ("decided_at", .str (IsoTime.isoformat decision.decidedAt))]

structure ExperimentRecord (F : Type) where
  id : String
  label : String
  kind : String
  status : ExperimentStatus
  hypothesis : Option Hypothesis := none
  payload : Dict String (Json F) := .empty
  conclusions : String := ""
  createdAt : Datetime

def ExperimentRecord.toDict (experiment : ExperimentRecord F) : Json F :=
  .obj [("id", .str experiment.id), ("label", .str experiment.label), ("kind", .str experiment.kind),
    ("status", .str experiment.status.value),
    ("hypothesis", orNull Hypothesis.toDict experiment.hypothesis),
    ("payload", .obj experiment.payload.entries), ("conclusions", .str experiment.conclusions),
    ("created_at", .str (IsoTime.isoformat experiment.createdAt))]

end QuantEngine.Research
