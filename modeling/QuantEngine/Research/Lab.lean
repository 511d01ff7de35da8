import QuantEngine.Research.Candidates
import QuantEngine.Research.Promotion

set_option autoImplicit false

namespace QuantEngine.Research

variable {F : Type}

structure PaperValidationSettings (F : Type) where
  minDays : F
  minTrades : Int
  minProfitFactor : F
  maxDrawdownPct : F

structure PaperTrial (F : Type) where
  startedAt : Datetime
  trades : Int
  profitFactor : F
  drawdownPct : F
  forcedElapsedDays : Option F

structure PaperValidationTracker (F : Type) where
  settings : PaperValidationSettings F
  trials : Dict String (PaperTrial F) := .empty

inductive ResearchEvent (F : Type) where
  | candidateQualified (genomeId name symbol objective : String) (score : Option F) (metrics : Dict String F)
  | candidateFailed (genomeId name : String) (reasons : List String)
  | strategyPromoted (genomeId name operator : String) (improvement : F)
  | strategyRejected (genomeId name : String) (reasons : List String)

structure ResearchLab (F : Type) where
  candidates : CandidateStore F := .empty
  paper : PaperValidationTracker F
  promotion : PromotionManager F
  published : List (ResearchEvent F) := []

-- A report is what the validation pipeline makes of a genome.
inductive LabCall (F : Type) where
  | validateCandidate (genome : StrategyGenome F) (report : CandidateReport F) (register : Bool) (now : Datetime)
  | startPaper (genomeId : String) (now : Datetime)
  | updatePaper (genomeId : String) (statistics : Dict String F) (now : Datetime)
  | promoteStrategy (genomeId : String) (request : PromotionRequest F) (now : Datetime)
  | rejectStrategy (genomeId reason : String)

variable [Floats F]

def PaperValidationSettings.standard : PaperValidationSettings F :=
  ⟨Floats.ofRat 7, 20, Floats.ofRat (13 / 10), Floats.ofRat 15⟩

namespace PaperValidationTracker

def open_ (tracker : PaperValidationTracker F) (genomeId : String) (startedAt : Datetime) : PaperValidationTracker F :=
  { tracker with trials := tracker.trials.insert genomeId ⟨startedAt, 0, Floats.ofRat 0, Floats.ofRat 0, none⟩ }

def update (tracker : PaperValidationTracker F) (genomeId : String) (trades : Int) (profitFactor drawdownPct : F) :
    Except PyError (PaperValidationTracker F) :=
  if genomeId ∈ tracker.trials.keys then
    .ok { tracker with trials := tracker.trials.modify genomeId (fun trial =>
      { trial with trades := trades, profitFactor := profitFactor, drawdownPct := drawdownPct }) }
  else .error .key

def updateFromStats (tracker : PaperValidationTracker F) (genomeId : String) (statistics : Dict String F) :
    Except PyError (PaperValidationTracker F) := do
  let trades ← match statistics.lookup "total_trades" with
    | some value => PyFloat.truncate value
    | none => .ok 0
  tracker.update genomeId trades ((statistics.lookup "profit_factor").getD (Floats.ofRat 0))
    ((statistics.lookup "max_drawdown_pct").getD (Floats.ofRat 0))

-- `max(0.0, …)` of the days since the start.
def daysOf (trial : PaperTrial F) (now : Datetime) : F :=
  match trial.forcedElapsedDays with
  | some days => days
  | none =>
      let seconds : F := Floats.ofRat ((now.moment - trial.startedAt.moment : Int) / 1000000)
      Floats.maxOf (Floats.ofRat 0) [Floats.divNat seconds 86400]

-- What keeps a trial from being mature.
def shortcomings (settings : PaperValidationSettings F) (trial : PaperTrial F) (days : F) : List String :=
  (if Floats.lt days settings.minDays then
    ["período " ++ Floats.fixed 1 days ++ "d < " ++ Floats.fixed 1 settings.minDays ++ "d"] else []) ++
  (if trial.trades < settings.minTrades then
    ["operaciones " ++ toString trial.trades ++ " < " ++ toString settings.minTrades] else []) ++
  (if Floats.lt trial.profitFactor settings.minProfitFactor then
    ["profit factor " ++ Floats.fixed 2 trial.profitFactor ++ " < " ++ Floats.fixed 2 settings.minProfitFactor] else []) ++
  (if Floats.lt settings.maxDrawdownPct trial.drawdownPct then
    ["drawdown " ++ Floats.fixed 1 trial.drawdownPct ++ "% > " ++ Floats.fixed 1 settings.maxDrawdownPct ++ "%"] else [])

def status (tracker : PaperValidationTracker F) (genomeId : String) (now : Datetime) : Except PyError (PaperTrialStatus F) :=
  match tracker.trials.lookup genomeId with
  | none => .error .key
  | some trial =>
      let days := daysOf trial now
      let reasons := shortcomings tracker.settings trial days
      .ok
        { genomeId := genomeId
          matured := reasons.isEmpty
          days := days
          trades := trial.trades
          profitFactor := trial.profitFactor
          drawdownPct := trial.drawdownPct
          reasons := if reasons.isEmpty then ["madura: cumple el período y los mínimos de evidencia"] else reasons }

end PaperValidationTracker

namespace ResearchLab

def opened (settings : PaperValidationSettings F) (promotion : PromotionManager F) : ResearchLab F :=
  { paper := { settings := settings }, promotion := promotion }

variable (digest : Json F → String)

def publish (lab : ResearchLab F) (event : ResearchEvent F) : ResearchLab F :=
  { lab with published := lab.published ++ [event] }

def validateCandidate (lab : ResearchLab F) (genome : StrategyGenome F) (report : CandidateReport F) (register : Bool)
    (now : Datetime) : ResearchLab F :=
  if report.passed then
    let registered := if register then { lab with candidates := lab.candidates.register digest genome report now } else lab
    registered.publish (.candidateQualified genome.id genome.name genome.symbol report.objective report.score report.statistics)
  else lab.publish (.candidateFailed genome.id genome.name report.reasons)

def startPaper (lab : ResearchLab F) (genomeId : String) (now : Datetime) : ResearchLab F :=
  { lab with paper := lab.paper.open_ genomeId now }

-- Where it raises, it does so before anything has changed. The candidates are
-- keyed by the ids of their genomes.
def updatePaper (lab : ResearchLab F) (genomeId : String) (statistics : Dict String F) (now : Datetime) : ResearchLab F :=
  match lab.paper.updateFromStats genomeId statistics with
  | .error _ => lab
  | .ok paper => match paper.status genomeId now with
    | .error _ => { lab with paper := paper }
    | .ok status => match lab.candidates.attachPaper digest genomeId status with
      | some candidates => { lab with paper := paper, candidates := candidates }
      | none => { lab with paper := paper }

def paperStatus (lab : ResearchLab F) (genomeId : String) (now : Datetime) : Except PyError (PaperTrialStatus F) :=
  lab.paper.status genomeId now

def promoteStrategy (lab : ResearchLab F) (genomeId : String) (request : PromotionRequest F) (now : Datetime) : ResearchLab F :=
  match lab.candidates.candidates.lookup genomeId with
  | none => lab
  | some candidate =>
      let decision := lab.promotion.evaluate candidate.genome candidate.report candidate.paper request now
      let recorded := match lab.candidates.attachPromotion digest genomeId decision with
        | some candidates => { lab with candidates := candidates }
        | none => lab
      recorded.publish (if decision.approved then
          .strategyPromoted genomeId candidate.genome.name request.operator decision.improvement
        else .strategyRejected genomeId candidate.genome.name decision.blockers)

def rejectStrategy (lab : ResearchLab F) (genomeId reason : String) : ResearchLab F :=
  match lab.candidates.candidates.lookup genomeId, lab.candidates.setStatus digest genomeId .rejected with
  | some candidate, some candidates =>
      { lab with candidates := candidates }.publish (.strategyRejected genomeId candidate.genome.name [reason])
  | _, _ => lab

def step (lab : ResearchLab F) : LabCall F → ResearchLab F
  | .validateCandidate genome report register now => lab.validateCandidate digest genome report register now
  | .startPaper genomeId now => lab.startPaper genomeId now
  | .updatePaper genomeId statistics now => lab.updatePaper digest genomeId statistics now
  | .promoteStrategy genomeId request now => lab.promoteStrategy digest genomeId request now
  | .rejectStrategy genomeId reason => lab.rejectStrategy digest genomeId reason

end ResearchLab

end QuantEngine.Research
