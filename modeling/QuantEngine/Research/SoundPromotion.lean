import QuantEngine.Library.Extended
import QuantEngine.Library.Run
import QuantEngine.Research.Lab

set_option autoImplicit false

namespace QuantEngine.Research.SoundPromotion

open Run (Each Always)

variable {F : Type}

-- What an event says on a candidate, if it is a verdict on it.
def verdictOn (id : String) : ResearchEvent F → Option Bool
  | .strategyPromoted genomeId _ _ _ => if genomeId = id then some true else none
  | .strategyRejected genomeId _ _ => if genomeId = id then some false else none
  | _ => none

def latestVerdict (lab : ResearchLab F) (id : String) : Option Bool := (lab.published.filterMap (verdictOn id)).getLast?

-- A promoted candidate has an approved decision, which no rejection followed.
def Consistent (lab : ResearchLab F) : Prop :=
  ∀ id candidate, lab.candidates.candidates.lookup id = some candidate → candidate.status = .promoted →
    (∃ decision, candidate.promotion = some decision ∧ decision.approved = true) ∧ latestVerdict lab id ≠ some false

-- A call that speaks no verdict leaves each candidate as it was, or not promoted.
structure Silent (before after : ResearchLab F) : Prop where
  verdicts : ∀ id, latestVerdict after id = latestVerdict before id
  candidates : ∀ id candidate, after.candidates.candidates.lookup id = some candidate →
    before.candidates.candidates.lookup id = some candidate ∨ candidate.status ≠ .promoted

theorem silent_consistent (before after : ResearchLab F) (silent : Silent before after) (consistent : Consistent before) :
    Consistent after := by
  intro id candidate found promoted
  rw [silent.verdicts]
  rcases silent.candidates id candidate found with same | other
  · exact consistent id candidate same promoted
  · exact absurd promoted other

-- A verdict is the latest one on its candidate, and says nothing on the others.
theorem latest_of_event (lab after : ResearchLab F) (id : String) (event : ResearchEvent F) (verdict : Bool) (other : String)
    (published : after.published = lab.published ++ [event])
    (spoken : ∀ other, verdictOn other event = if id = other then some verdict else none) :
    latestVerdict after other = if other = id then some verdict else latestVerdict lab other := by
  rw [latestVerdict, published, List.filterMap_append, List.filterMap_cons, spoken]
  by_cases here : id = other
  · simp [here]
  · simp [here, Ne.symm here, latestVerdict]

theorem opened_consistent (settings : PaperValidationSettings F) (promotion : PromotionManager F) :
    Consistent (ResearchLab.opened settings promotion) :=
  fun _ _ found => nomatch found

section

variable [Floats F]

def PaperMatured (lab : ResearchLab F) (id : String) (now : Datetime) : Prop :=
  ∃ status, lab.paperStatus id now = .ok status ∧ status.matured = true

variable (digest : Json F → String)

-- What a promotion needs at its moment, if it marks the candidate as promoted.
def Justified (lab : ResearchLab F) : LabCall F → Prop
  | .promoteStrategy id request now => ∀ candidate,
      (lab.promoteStrategy digest id request now).candidates.candidates.lookup id = some candidate →
      candidate.status = .promoted →
        candidate.report.passed = true ∧ PaperMatured lab id now ∧
          Floats.le request.drift lab.promotion.settings.maxDrift = true ∧
          (lab.promotion.settings.requireOperatorApproval = true → request.operatorApproved = true)
  | _ => True

-- Where a candidate that meets all other requirements holds a mature status, its
-- trial is mature now.
def Current (lab : ResearchLab F) : LabCall F → Prop
  | .promoteStrategy id request now => ∀ candidate, lab.candidates.candidates.lookup id = some candidate →
      lab.promotion.Cleared candidate.report request → PromotionManager.maturedPaper candidate.paper = true →
        PaperMatured lab id now
  | _ => True

-- A candidate as a decision leaves it.
def judged (candidate : ProductionCandidate F) (decision : PromotionDecision F) : ProductionCandidate F :=
  { candidate with promotion := some decision, status := if decision.approved then .promoted else .rejected }

theorem promote_cases (lab : ResearchLab F) (id : String) (request : PromotionRequest F) (now : Datetime)
    (candidate : ProductionCandidate F) (found : lab.candidates.candidates.lookup id = some candidate) :
    ∃ event, (lab.promoteStrategy digest id request now).published = lab.published ++ [event] ∧
      (∀ other, verdictOn other event = if id = other then
        some (lab.promotion.evaluate candidate.genome candidate.report candidate.paper request now).approved else none) ∧
      ∀ other, (lab.promoteStrategy digest id request now).candidates.candidates.lookup other = if other = id then
        some (judged candidate (lab.promotion.evaluate candidate.genome candidate.report candidate.paper request now))
        else lab.candidates.candidates.lookup other := by
  obtain ⟨decision, same⟩ : ∃ decision,
      decision = lab.promotion.evaluate candidate.genome candidate.report candidate.paper request now := ⟨_, rfl⟩
  obtain ⟨after, rewritten, lookup⟩ := CandidateStore.rewrite_lookup digest lab.candidates id (fun current => judged current decision)
    (fun _ => rfl) candidate found
  have attached : lab.candidates.attachPromotion digest id decision = some after := rewritten
  rw [ResearchLab.promoteStrategy, found]
  simp only [← same, attached]
  refine ⟨_, rfl, fun other => ?_, lookup⟩
  cases approved : decision.approved <;> rfl

theorem reject_cases (lab : ResearchLab F) (id reason : String) (candidate : ProductionCandidate F)
    (found : lab.candidates.candidates.lookup id = some candidate) :
    ∃ event, (lab.rejectStrategy digest id reason).published = lab.published ++ [event] ∧
      (∀ other, verdictOn other event = if id = other then some false else none) ∧
      ∀ other, (lab.rejectStrategy digest id reason).candidates.candidates.lookup other =
        if other = id then some { candidate with status := .rejected } else lab.candidates.candidates.lookup other := by
  obtain ⟨after, rewritten, lookup⟩ := CandidateStore.rewrite_lookup digest lab.candidates id
    (fun current => { current with status := .rejected }) (fun _ => rfl) candidate found
  have marked : lab.candidates.setStatus digest id .rejected = some after := rewritten
  rw [ResearchLab.rejectStrategy, found, marked]
  exact ⟨_, rfl, fun _ => rfl, lookup⟩

theorem validate_silent (lab : ResearchLab F) (genome : StrategyGenome F) (report : CandidateReport F) (register : Bool)
    (now : Datetime) : Silent lab (lab.validateCandidate digest genome report register now) := by
  rw [ResearchLab.validateCandidate]
  by_cases passed : report.passed = true
  · rw [if_pos passed]
    cases register with
    | false => exact ⟨fun id => by simp [latestVerdict, ResearchLab.publish, verdictOn], fun _ _ found => .inl found⟩
    | true =>
        refine ⟨fun id => by simp [latestVerdict, ResearchLab.publish, verdictOn], fun id candidate found => ?_⟩
        change (lab.candidates.candidates.insert genome.id _).lookup id = some candidate at found
        rw [Dict.lookup_insert] at found
        split at found
        · exact .inr (by rw [← Option.some.inj found]; exact nofun)
        · exact .inl found
  · rw [if_neg passed]
    exact ⟨fun id => by simp [latestVerdict, ResearchLab.publish, verdictOn], fun _ _ found => .inl found⟩

theorem update_silent (lab : ResearchLab F) (id : String) (statistics : Dict String F) (now : Datetime) :
    Silent lab (lab.updatePaper digest id statistics now) := by
  have unchanged (paper : PaperValidationTracker F) : Silent lab { lab with paper := paper } :=
    ⟨fun _ => rfl, fun _ _ found => .inl found⟩
  rw [ResearchLab.updatePaper]
  cases lab.paper.updateFromStats id statistics with
  | error error => exact unchanged lab.paper
  | ok paper =>
      dsimp only
      cases paper.status id now with
      | error error => exact unchanged paper
      | ok status =>
          dsimp only
          cases found : lab.candidates.candidates.lookup id with
          | none =>
              rw [CandidateStore.attachPaper, CandidateStore.rewrite, found]
              exact unchanged paper
          | some current =>
              obtain ⟨after, rewritten, lookup⟩ := CandidateStore.rewrite_lookup digest lab.candidates id
                (fun current => { current with paper := some status, status := .paper }) (fun _ => rfl) current found
              rw [CandidateStore.attachPaper, rewritten]
              refine ⟨fun _ => rfl, fun other candidate present => ?_⟩
              rw [lookup] at present
              split at present
              · exact .inr (by simp [← Option.some.inj present])
              · exact .inl present

theorem step_consistent (lab : ResearchLab F) (call : LabCall F) (consistent : Consistent lab) :
    Consistent (lab.step digest call) := by
  cases call with
  | validateCandidate genome report register now =>
      exact silent_consistent _ _ (validate_silent digest lab genome report register now) consistent
  | startPaper id now => exact consistent
  | updatePaper id statistics now => exact silent_consistent _ _ (update_silent digest lab id statistics now) consistent
  | promoteStrategy id request now =>
      cases found : lab.candidates.candidates.lookup id with
      | none => rwa [ResearchLab.step, ResearchLab.promoteStrategy, found]
      | some candidate =>
          obtain ⟨event, published, spoken, lookup⟩ := promote_cases digest lab id request now candidate found
          intro other current present promoted
          rw [ResearchLab.step, lookup] at present
          rw [ResearchLab.step, latest_of_event lab _ id event _ other published spoken]
          split at present
          next here =>
            rw [if_pos here]
            cases present
            cases approved : (lab.promotion.evaluate candidate.genome candidate.report candidate.paper request now).approved with
            | false =>
                rw [judged, approved] at promoted
                cases promoted
            | true => exact ⟨⟨_, rfl, approved⟩, nofun⟩
          next elsewhere =>
            rw [if_neg elsewhere]
            exact consistent other current present promoted
  | rejectStrategy id reason =>
      cases found : lab.candidates.candidates.lookup id with
      | none => rwa [ResearchLab.step, ResearchLab.rejectStrategy, found]
      | some candidate =>
          obtain ⟨event, published, spoken, lookup⟩ := reject_cases digest lab id reason candidate found
          intro other current present promoted
          rw [ResearchLab.step, lookup] at present
          rw [ResearchLab.step, latest_of_event lab _ id event _ other published spoken]
          split at present
          next here =>
            cases present
            cases promoted
          next elsewhere =>
            rw [if_neg elsewhere]
            exact consistent other current present promoted

theorem justified_iff (lab : ResearchLab F) (call : LabCall F) : Justified digest lab call ↔ Current lab call := by
  cases call with
  | promoteStrategy id request now =>
      rw [Justified, Current]
      cases found : lab.candidates.candidates.lookup id with
      | none =>
          rw [ResearchLab.promoteStrategy, found]
          exact ⟨fun _ _ absent => (nomatch absent), fun _ _ absent => (nomatch found.symm.trans absent)⟩
      | some candidate =>
          obtain ⟨-, -, -, lookup⟩ := promote_cases digest lab id request now candidate found
          have approved := lab.promotion.approved_iff candidate.genome candidate.report candidate.paper request now
          rw [lookup, if_pos rfl]
          constructor
          · rintro justified _ same cleared matured
            cases same
            have marked : (judged candidate (lab.promotion.evaluate candidate.genome candidate.report candidate.paper request
                now)).status = .promoted := by
              rw [judged, approved.mpr ⟨cleared, matured⟩]
              rfl
            exact (justified _ rfl marked).2.1
          · rintro current _ same promoted
            cases same
            have held : (lab.promotion.evaluate candidate.genome candidate.report candidate.paper request now).approved = true := by
              by_contra refused
              rw [judged, if_neg refused] at promoted
              cases promoted
            obtain ⟨cleared, matured⟩ := approved.mp held
            exact ⟨cleared.passed, current candidate rfl cleared matured, cleared.drift, cleared.operator⟩
  | _ => exact Iff.rfl

-- Promotions are justified in exactly the runs whose promotions rest on a status
-- that is current; that a promoted candidate has its approval holds in every run.
theorem promotion_sound_iff (start : ResearchLab F) (calls : List (LabCall F)) (consistent : Consistent start) :
    (Each (ResearchLab.step digest) (Justified digest) start calls ↔ Each (ResearchLab.step digest) Current start calls) ∧
      Always (ResearchLab.step digest) Consistent start calls := by
  refine ⟨Run.each_iff _ _ _ (fun _ => True) (fun lab call _ => justified_iff digest lab call) (fun _ _ _ _ => trivial)
    start calls trivial, ?_⟩
  exact Run.always_of_invariant (ResearchLab.step digest) (fun _ _ => True) Consistent Consistent
    (fun lab call held _ => step_consistent digest lab call held) (fun _ held => held) start calls consistent
    (Run.each_of_all _ _ (fun _ _ => trivial) _ _)

end

def eightDaysLater : Datetime := ⟨1709899200000000, by decide, by decide⟩

def tried : Dict String Extended :=
  ((Dict.empty.insert "total_trades" (.finite 30)).insert "profit_factor" (.finite 2)).insert "max_drawdown_pct" (.finite 5)

def genome : StrategyGenome Extended := { id := "g", name := "ema", symbol := "BTCUSDT", timeframe := "1h", blocks := [] }

def passedReport : CandidateReport Extended :=
  { genomeId := "g", name := "ema", symbol := "BTCUSDT", status := .candidate, passed := true, objective := "sharpe", score := none,
    stages := [], createdAt := IsoTime.leapDay }

def lab : ResearchLab Extended := .opened .standard ⟨.standard, .empty⟩

def matured : List (LabCall Extended) :=
  [.validateCandidate genome passedReport true IsoTime.leapDay, .startPaper "g" IsoTime.leapDay, .updatePaper "g" tried eightDaysLater]

def promotion : LabCall Extended := .promoteStrategy "g" ⟨"ana", true, none, .finite 0⟩ eightDaysLater

theorem promotion_sound_matured : Each (ResearchLab.step (fun _ => "")) (Justified (fun _ => "")) lab (matured ++ [promotion]) := by
  obtain ⟨justified, -⟩ := promotion_sound_iff (fun _ => "") lab (matured ++ [promotion]) (opened_consistent _ _)
  refine justified.mpr ⟨trivial, trivial, trivial, fun candidate found cleared held => ?_, trivial⟩
  exact ⟨_, rfl, by decide +kernel⟩

-- A trial that was started again counts as mature, by the status of the last one.
theorem restarted_trial_promoted : ¬ Each (ResearchLab.step (fun _ => "")) (Justified (fun _ => "")) lab
    (matured ++ [.startPaper "g" eightDaysLater, promotion]) := by
  rintro ⟨-, -, -, -, justified, -⟩
  obtain ⟨-, ⟨status, current, mature⟩, -⟩ := justified _ rfl (by decide +kernel)
  have young : (Run.final (ResearchLab.step (fun _ => "")) lab (matured ++ [.startPaper "g" eightDaysLater])).paperStatus "g"
      eightDaysLater = .ok status := current
  have shown := congrArg (fun status => status.toOption.map PaperTrialStatus.matured) young
  have fresh : ((Run.final (ResearchLab.step (fun _ => "")) lab (matured ++ [.startPaper "g" eightDaysLater])).paperStatus "g"
      eightDaysLater).toOption.map PaperTrialStatus.matured = some false := by decide +kernel
  have immature : some false = some status.matured := fresh.symm.trans shown
  rw [mature] at immature
  cases immature

end QuantEngine.Research.SoundPromotion
