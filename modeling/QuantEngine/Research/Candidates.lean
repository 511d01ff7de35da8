import QuantEngine.Research.Models

set_option autoImplicit false

namespace QuantEngine.Research

variable {F : Type}

structure ProductionCandidate (F : Type) where
  genome : StrategyGenome F
  report : CandidateReport F
  status : CandidateStatus
  paper : Option (PaperTrialStatus F) := none
  promotion : Option (PromotionDecision F) := none
  registeredAt : String

section

variable [Floats F]

def ProductionCandidate.toDict (digest : Json F → String) (candidate : ProductionCandidate F) : Json F :=
  .obj [("genome", candidate.genome.toDict digest), ("report", candidate.report.toDict),
    ("status", .str candidate.status.value),
    ("paper", orNull PaperTrialStatus.toDict candidate.paper),
    ("promotion", orNull PromotionDecision.toDict candidate.promotion),
    ("registered_at", .str candidate.registeredAt)]

-- What `_from_dict` makes of the two parts that may be missing.
def paperFromDict (data : Json F) : Except PyError (Option (PaperTrialStatus F)) :=
  if data.toBool then do
    let genomeId ← asText (← data.item "genome_id")
    let matured ← data.item "matured"
    let days ← Json.toFloat (← data.item "days")
    let trades ← Json.toInt (← data.item "trades")
    let profitFactor ← Json.toFloat (← data.item "profit_factor")
    let drawdownPct ← Json.toFloat (← data.item "drawdown_pct")
    let reasons ← textsOf (← data.get "reasons" (.arr []))
    .ok (some ⟨genomeId, matured.toBool, days, trades, profitFactor, drawdownPct, reasons⟩)
  else .ok none

-- The moment of the decision is not read: it is that of the reading.
def promotionFromDict (now : Datetime) (data : Json F) : Except PyError (Option (PromotionDecision F)) :=
  if data.toBool then do
    let genomeId ← asText (← data.item "genome_id")
    let name ← asText (← data.item "name")
    let approved ← data.item "approved"
    let operator ← asText (← data.get "operator" (.str ""))
    let drift ← Json.toFloat (← data.get "drift" (.float (Floats.ofRat 0)))
    let improvement ← Json.toFloat (← data.get "improvement" (.float (Floats.ofRat 0)))
    let reasons ← textsOf (← data.get "reasons" (.arr []))
    let blockers ← textsOf (← data.get "blockers" (.arr []))
    .ok (some ⟨genomeId, name, approved.toBool, operator, drift, improvement, reasons, blockers, now⟩)
  else .ok none

def ProductionCandidate.fromDict (now : Datetime) (data : Json F) : Except PyError (ProductionCandidate F) := do
  let paper ← paperFromDict (← data.get "paper" .null)
  let promotion ← promotionFromDict now (← data.get "promotion" .null)
  let genome ← genomeFromDict (← data.item "genome")
  let report ← candidateReportFromDict (← data.item "report")
  let status ← ofValue CandidateStatus.value CandidateStatus.members (← data.item "status")
  let registeredAt ← asText (← data.get "registered_at" (.str (IsoTime.isoformat now)))
  .ok ⟨genome, report, status, paper, promotion, registeredAt⟩

end

-- The log is the file, line by line.
structure CandidateStore (F : Type) where
  candidates : Dict String (ProductionCandidate F)
  log : List (Json F)
  keyed : ∀ id candidate, candidates.lookup id = some candidate → candidate.genome.id = id

namespace CandidateStore

theorem empty_keyed (id : String) (candidate : ProductionCandidate F)
    (found : (Dict.empty : Dict String (ProductionCandidate F)).lookup id = some candidate) : candidate.genome.id = id :=
  nomatch found

def empty : CandidateStore F := ⟨.empty, [], empty_keyed⟩

theorem append_keyed (store : CandidateStore F) (candidate : ProductionCandidate F) (id : String)
    (found : ProductionCandidate F) (present : (store.candidates.insert candidate.genome.id candidate).lookup id = some found) :
    found.genome.id = id := by
  rw [Dict.lookup_insert] at present
  split at present
  next here => rw [← Option.some.inj present, here]
  next => exact store.keyed id found present

variable [Floats F]

-- Each line is read at a moment of its own.
def load (clock : Nat → Datetime) : Nat → List (Json F) → Dict String (ProductionCandidate F) →
    Except PyError (Dict String (ProductionCandidate F))
  | _, [], candidates => .ok candidates
  | index, line :: rest, candidates => do
      let candidate ← ProductionCandidate.fromDict (clock index) line
      let id ← asText (← (← line.item "genome").item "id")
      load clock (index + 1) rest (candidates.insert id candidate)

variable (digest : Json F → String)

def append (store : CandidateStore F) (candidate : ProductionCandidate F) : CandidateStore F :=
  ⟨store.candidates.insert candidate.genome.id candidate, store.log ++ [candidate.toDict digest],
    append_keyed store candidate⟩

def register (store : CandidateStore F) (genome : StrategyGenome F) (report : CandidateReport F) (now : Datetime) :
    CandidateStore F :=
  store.append digest { genome := genome, report := report, status := .candidate, registeredAt := IsoTime.isoformat now }

-- A candidate is one object, changed in place and written again. `none` where
-- the id is unknown, which raises.
def rewrite (store : CandidateStore F) (id : String) (f : ProductionCandidate F → ProductionCandidate F) :
    Option (CandidateStore F) :=
  (store.candidates.lookup id).map (fun current => store.append digest (f current))

theorem rewrite_lookup (store : CandidateStore F) (id : String) (f : ProductionCandidate F → ProductionCandidate F)
    (genome : ∀ candidate, (f candidate).genome = candidate.genome) (current : ProductionCandidate F)
    (found : store.candidates.lookup id = some current) :
    ∃ after, store.rewrite digest id f = some after ∧ ∀ other, after.candidates.lookup other =
      if other = id then some (f current) else store.candidates.lookup other := by
  refine ⟨store.append digest (f current), by rw [rewrite, found]; rfl, fun other => ?_⟩
  have own := store.keyed id current found
  rw [append, Dict.lookup_insert, genome, own]

def setStatus (store : CandidateStore F) (id : String) (status : CandidateStatus) : Option (CandidateStore F) :=
  store.rewrite digest id (fun current => { current with status := status })

def attachPaper (store : CandidateStore F) (id : String) (paper : PaperTrialStatus F) : Option (CandidateStore F) :=
  store.rewrite digest id (fun current => { current with paper := some paper, status := .paper })

def attachPromotion (store : CandidateStore F) (id : String) (decision : PromotionDecision F) : Option (CandidateStore F) :=
  store.rewrite digest id (fun current =>
    { current with promotion := some decision, status := if decision.approved then .promoted else .rejected })

end CandidateStore

end QuantEngine.Research
