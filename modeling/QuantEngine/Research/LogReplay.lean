import QuantEngine.Library.Extended
import QuantEngine.Library.Replay
import QuantEngine.Library.Run
import QuantEngine.Research.Records

set_option autoImplicit false

namespace QuantEngine.Research.LogReplay

open Run (Each final)
open Versions (latest Related)

variable {F : Type}

inductive StoreCall (F : Type) where
  | register (genome : StrategyGenome F) (report : CandidateReport F) (now : Datetime)
  | setStatus (id : String) (status : CandidateStatus)
  | attachPaper (id : String) (paper : PaperTrialStatus F)
  | attachPromotion (id : String) (decision : PromotionDecision F)

inductive ManagerCall (F : Type) where
  | create (id label kind : String) (hypothesis : Option Hypothesis) (payload : Option (Dict String (Json F))) (now : Datetime)
  | updatePayload (id : String) (payload : Dict String (Json F))
  | close (id conclusions : String)
  | archive (id conclusions : String)

-- A call that raises changes nothing.
def ManagerCall.apply (manager : ExperimentManager F) : ManagerCall F → ExperimentManager F
  | .create id label kind hypothesis payload now => manager.create id label kind hypothesis payload now
  | .updatePayload id payload => (manager.updatePayload id payload).getD manager
  | .close id conclusions => (manager.close id conclusions).getD manager
  | .archive id conclusions => (manager.archive id conclusions).getD manager

-- A log that holds every version of the experiments.
def Logged (manager : ExperimentManager F) : Prop :=
  ∃ versions, manager.log = versions.map ExperimentRecord.toDict ∧ manager.records = latest ExperimentRecord.id versions

theorem manager_cases (manager : ExperimentManager F) (call : ManagerCall F) :
    call.apply manager = manager ∨ ∃ experiment, call.apply manager = manager.append experiment := by
  have mapped (id : String) (f : ExperimentRecord F → ExperimentRecord F) :
      ((manager.records.lookup id).map (fun current => manager.append (f current))).getD manager = manager ∨
        ∃ experiment, ((manager.records.lookup id).map (fun current => manager.append (f current))).getD manager =
          manager.append experiment := by
    cases manager.records.lookup id with
    | none => exact .inl rfl
    | some current => exact .inr ⟨_, rfl⟩
  cases call with
  | create id label kind hypothesis payload now => exact .inr ⟨_, rfl⟩
  | updatePayload id payload => exact mapped id _
  | close id conclusions => exact mapped id _
  | archive id conclusions => exact mapped id _

theorem manager_logged (manager : ExperimentManager F) (call : ManagerCall F) (logged : Logged manager) :
    Logged (call.apply manager) := by
  rcases manager_cases manager call with same | ⟨experiment, same⟩
  · rwa [same]
  · obtain ⟨versions, log, records⟩ := logged
    rw [same]
    refine ⟨versions ++ [experiment], ?_, ?_⟩
    · rw [ExperimentManager.append, log, List.map_append]
      rfl
    · rw [ExperimentManager.append, Versions.latest_snoc, records]

theorem manager_grows (manager : ExperimentManager F) (call : ManagerCall F) : manager.log <+: (call.apply manager).log := by
  rcases manager_cases manager call with same | ⟨experiment, same⟩
  · simp only [same, List.prefix_rfl]
  · rw [same]
    exact List.prefix_append _ _

theorem load_experiments [PyFloat F] (versions : List (ExperimentRecord F)) (records : Dict String (ExperimentRecord F)) :
    ExperimentManager.load (versions.map ExperimentRecord.toDict) records =
      .ok (Versions.latestFrom ExperimentRecord.id records versions) := by
  induction versions generalizing records with
  | nil => rfl
  | cons version rest ih =>
      have id : version.toDict.item "id" = .ok (.str version.id) := rfl
      simp only [List.map_cons, ExperimentManager.load, experiment_round_trip, id, asText, bind, Except.bind, ih]
      rfl

section

variable [Floats F] (digest : Json F → String)

def StoreCall.apply (store : CandidateStore F) : StoreCall F → CandidateStore F
  | .register genome report now => store.register digest genome report now
  | .setStatus id status => (store.setStatus digest id status).getD store
  | .attachPaper id paper => (store.attachPaper digest id paper).getD store
  | .attachPromotion id decision => (store.attachPromotion digest id decision).getD store

def genomeId (candidate : ProductionCandidate F) : String := candidate.genome.id

def Stored (store : CandidateStore F) : Prop :=
  ∃ versions, store.log = versions.map (ProductionCandidate.toDict digest) ∧ store.candidates = latest genomeId versions

theorem store_cases (store : CandidateStore F) (call : StoreCall F) :
    call.apply digest store = store ∨ ∃ candidate, call.apply digest store = store.append digest candidate := by
  have rewritten (id : String) (f : ProductionCandidate F → ProductionCandidate F) :
      (store.rewrite digest id f).getD store = store ∨
        ∃ candidate, (store.rewrite digest id f).getD store = store.append digest candidate := by
    rw [CandidateStore.rewrite]
    cases store.candidates.lookup id with
    | none => exact .inl rfl
    | some current => exact .inr ⟨_, rfl⟩
  cases call with
  | register genome report now => exact .inr ⟨_, rfl⟩
  | setStatus id status => exact rewritten id _
  | attachPaper id paper => exact rewritten id _
  | attachPromotion id decision => exact rewritten id _

theorem store_stored (store : CandidateStore F) (call : StoreCall F) (stored : Stored digest store) :
    Stored digest (call.apply digest store) := by
  rcases store_cases digest store call with same | ⟨candidate, same⟩
  · rwa [same]
  · obtain ⟨versions, log, candidates⟩ := stored
    rw [same]
    refine ⟨versions ++ [candidate], ?_, ?_⟩
    · rw [CandidateStore.append, log, List.map_append]
      rfl
    · rw [Versions.latest_snoc, ← candidates]
      rfl

theorem store_grows (store : CandidateStore F) (call : StoreCall F) : store.log <+: (call.apply digest store).log := by
  rcases store_cases digest store call with same | ⟨candidate, same⟩
  · simp only [same, List.prefix_rfl]
  · rw [same]
    exact List.prefix_append _ _

-- The versions as they are read, each at its moment.
def rereadAll (clock : Nat → Datetime) : Nat → List (ProductionCandidate F) → List (ProductionCandidate F)
  | _, [] => []
  | index, version :: rest => version.reread (clock index) :: rereadAll clock (index + 1) rest

theorem load_candidates (clock : Nat → Datetime) (index : Nat) (versions : List (ProductionCandidate F))
    (candidates : Dict String (ProductionCandidate F)) :
    CandidateStore.load clock index (versions.map (ProductionCandidate.toDict digest)) candidates =
      .ok (Versions.latestFrom genomeId candidates (rereadAll clock index versions)) := by
  induction versions generalizing index candidates with
  | nil => rfl
  | cons version rest ih =>
      have genome : (version.toDict digest).item "genome" = .ok (version.genome.toDict digest) := rfl
      have id : (version.genome.toDict digest).item "id" = .ok (.str version.genome.id) := rfl
      simp only [List.map_cons, CandidateStore.load, candidate_read, genome, id, asText, bind, Except.bind, ih]
      rfl

def Reread (held read : ProductionCandidate F) : Prop := ∃ now, read = held.reread now

theorem reread_pairs (R : ProductionCandidate F → ProductionCandidate F → Prop) (clock : Nat → Datetime) (index : Nat)
    (versions : List (ProductionCandidate F)) (each : ∀ version at_, R version (version.reread (clock at_))) :
    List.Forall₂ (fun x y => genomeId y = genomeId x ∧ R x y) versions (rereadAll clock index versions) := by
  induction versions generalizing index with
  | nil => exact .nil
  | cons version rest ih => exact .cons ⟨rfl, each version index⟩ (ih (index + 1))

-- The new store holds each candidate as its last line is read.
theorem stored_related (R : ProductionCandidate F → ProductionCandidate F → Prop) (store : CandidateStore F)
    (clock : Nat → Datetime) (each : ∀ version at_, R version (version.reread (clock at_))) (stored : Stored digest store) :
    ∃ loaded, CandidateStore.load clock 0 store.log .empty = .ok loaded ∧ Related R store.candidates loaded := by
  obtain ⟨versions, log, candidates⟩ := stored
  rw [log, candidates]
  exact ⟨_, load_candidates digest clock 0 versions .empty,
    Versions.latest_related R genomeId _ _ _ _ (reread_pairs R clock 0 versions each) (Versions.empty_related R)⟩

-- Whenever it is built, a new store on the file holds the same candidates.
def Replays (store : CandidateStore F) : Prop := ∀ clock, CandidateStore.load clock 0 store.log .empty = .ok store.candidates

-- Nothing of the candidate is rounded or left out in its line.
structure Lossless (candidate : ProductionCandidate F) : Prop where
  undecided : candidate.promotion = none
  rounded : ∀ paper, candidate.paper = some paper → Floats.round 3 paper.days = paper.days ∧
    Floats.round 4 paper.profitFactor = paper.profitFactor ∧ Floats.round 4 paper.drawdownPct = paper.drawdownPct

end

theorem other_moment (datetime : Datetime) : ∃ other, other ≠ datetime := by
  obtain ⟨first, second, apart⟩ : ∃ first second : Datetime, first ≠ second :=
    ⟨⟨0, by decide, by decide⟩, ⟨1, by decide, by decide⟩, by simp⟩
  by_cases same : first = datetime
  · exact ⟨second, fun also => apart (same.trans also.symm)⟩
  · exact ⟨first, same⟩

theorem lossless_iff [Floats F] (candidate : ProductionCandidate F) :
    (∀ now, candidate.reread now = candidate) ↔ Lossless candidate := by
  obtain ⟨genome, report, status, paper, promotion, registeredAt⟩ := candidate
  have parts (now : Datetime) : ProductionCandidate.reread now ⟨genome, report, status, paper, promotion, registeredAt⟩ =
      ⟨genome, report, status, paper, promotion, registeredAt⟩ ↔
        paper.map PaperTrialStatus.written = paper ∧ promotion.map (PromotionDecision.reread now) = promotion := by
    simp [ProductionCandidate.reread]
  simp only [parts]
  constructor
  · intro same
    refine ⟨?_, fun held known => ?_⟩
    · cases promotion with
      | none => rfl
      | some decision =>
          obtain ⟨other, apart⟩ := other_moment decision.decidedAt
          have kept := Option.some.inj (same other).2
          exact absurd (congrArg PromotionDecision.decidedAt kept) apart
    · dsimp only at known
      have kept := (same ⟨0, by decide, by decide⟩).1
      rw [known] at kept
      have held := Option.some.inj kept
      exact ⟨congrArg PaperTrialStatus.days held, congrArg PaperTrialStatus.profitFactor held,
        congrArg PaperTrialStatus.drawdownPct held⟩
  · rintro ⟨undecided, rounded⟩ now
    dsimp only at undecided
    rw [undecided]
    refine ⟨?_, rfl⟩
    cases paper with
    | none => rfl
    | some paper =>
        obtain ⟨days, profitFactor, drawdownPct⟩ := rounded paper rfl
        rw [Option.map_some, PaperTrialStatus.written, days, profitFactor, drawdownPct]

theorem replays_iff [Floats F] (digest : Json F → String) (store : CandidateStore F) (stored : Stored digest store) :
    Replays store ↔ ∀ id candidate, store.candidates.lookup id = some candidate → Lossless candidate := by
  constructor
  · intro replays id candidate found
    refine (lossless_iff candidate).mp (fun now => ?_)
    -- All lines are read at that moment.
    obtain ⟨loaded, read, related⟩ := stored_related digest (fun held read => read = held.reread now) store (fun _ => now)
      (fun _ _ => rfl) stored
    have same := Except.ok.inj (read.symm.trans (replays (fun _ => now)))
    have value := related.values id
    rw [same, found] at value
    cases value with
    | some pair => exact pair.symm
  · intro lossless clock
    obtain ⟨loaded, read, related⟩ := stored_related digest Reread store clock (fun _ at_ => ⟨clock at_, rfl⟩) stored
    rw [read, Versions.related_same Reread store.candidates loaded related]
    rintro id held _ found ⟨now, rfl⟩
    exact (lossless_iff held).mpr (lossless id held found) now

-- Both logs only grow, the experiments are all read back, the candidates but for
-- what their lines round or leave out.
theorem logs_replay_iff [Floats F] (digest : Json F → String) (storeCalls : List (StoreCall F))
    (managerCalls : List (ManagerCall F)) :
    (Each (StoreCall.apply digest) (fun store call => store.log <+: (call.apply digest store).log) .empty storeCalls ∧
        Each ManagerCall.apply (fun manager call => manager.log <+: (call.apply manager).log) {} managerCalls) ∧
      ExperimentManager.load (final ManagerCall.apply {} managerCalls).log .empty =
        .ok (final ManagerCall.apply {} managerCalls).records ∧
      (∀ clock, ∃ loaded, CandidateStore.load clock 0 (final (StoreCall.apply digest) .empty storeCalls).log .empty = .ok loaded ∧
        Related Reread (final (StoreCall.apply digest) .empty storeCalls).candidates loaded) ∧
      (Replays (final (StoreCall.apply digest) .empty storeCalls) ↔
        ∀ id candidate, (final (StoreCall.apply digest) .empty storeCalls).candidates.lookup id = some candidate →
          Lossless candidate) := by
  have stored := Run.final_preserved (StoreCall.apply digest) (Stored digest) (store_stored digest) .empty storeCalls ⟨[], rfl, rfl⟩
  obtain ⟨versions, log, records⟩ := Run.final_preserved ManagerCall.apply Logged manager_logged {} managerCalls ⟨[], rfl, rfl⟩
  refine ⟨⟨Run.each_of_all _ _ (store_grows digest) _ _, Run.each_of_all _ _ manager_grows _ _⟩, ?_, fun clock => ?_,
    replays_iff digest _ stored⟩
  · rw [log, records]
    exact load_experiments versions .empty
  · exact stored_related digest Reread _ clock (fun _ at_ => ⟨clock at_, rfl⟩) stored

def genome : StrategyGenome Extended := { id := "g", name := "ema", symbol := "BTCUSDT", timeframe := "1h", blocks := [] }

def report : CandidateReport Extended :=
  { genomeId := "g", name := "ema", symbol := "BTCUSDT", status := .candidate, passed := true, objective := "sharpe", score := none,
    stages := [], createdAt := IsoTime.leapDay }

def decision : PromotionDecision Extended :=
  { genomeId := "g", name := "ema", approved := true, operator := "ana", drift := .finite 0, improvement := .finite 1,
    decidedAt := IsoTime.leapDay }

def trial : PaperTrialStatus Extended :=
  { genomeId := "g", matured := true, days := .finite (29 / 4), trades := 30, profitFactor := .finite (200005 / 100000),
    drawdownPct := .finite 5 }

-- The moment of a decision is lost, and the fifth decimal of a profit factor.
theorem logs_lose :
    ¬ Replays (final (StoreCall.apply (fun _ => "")) .empty [.register genome report IsoTime.leapDay, .attachPromotion "g" decision]) ∧
      ¬ Replays (final (StoreCall.apply (fun _ => "")) .empty [.register genome report IsoTime.leapDay, .attachPaper "g" trial]) := by
  have stored (calls : List (StoreCall Extended)) := Run.final_preserved (StoreCall.apply (fun _ => ""))
    (Stored (fun _ => "")) (store_stored (fun _ => "")) .empty calls ⟨[], rfl, rfl⟩
  refine ⟨fun replays => ?_, fun replays => ?_⟩
  · have lossless := (replays_iff _ _ (stored _)).mp replays "g" _ rfl
    cases lossless.undecided
  · have lossless := (replays_iff _ _ (stored _)).mp replays "g" _ rfl
    exact absurd (lossless.rounded trial rfl).2.1 (by decide +kernel)

end QuantEngine.Research.LogReplay
