import QuantEngine.Signals.Consensus
import QuantEngine.Signals.DecisionEngine

set_option autoImplicit false

namespace QuantEngine.ConsideredSignals

open Calendar (Moment)
open Shelves (shelf)
open DecisionEngine
open Run (Always Each)

def ids (signals : List StrategySignal) : List String := signals.map StrategySignal.signalId

def considered (resolution : Resolution) : List String := resolution.decision.signalsConsidered

-- A signal is resolved by a decision that considered it, and no two accepted
-- decisions considered the same one.
structure OnceConsidered (resolutions : List Resolution) : Prop where
  resolved : ∀ resolution ∈ resolutions, ∀ signal ∈ resolution.resolved, signal.signalId ∈ considered resolution
  once : (resolutions.filter Resolution.accepted).Pairwise (fun a b => List.Disjoint (considered a) (considered b))

-- While the evaluation waited, no signal was admitted that is active for its
-- symbol by now; and if it passes, none that passed had read a signal it read.
def Undisturbed (engine : DecisionEngine) (evaluation : Evaluation) (context : MarketContext) (desk : Desk) : Prop :=
  (∀ signal ∈ desk.admitted.drop evaluation.admissions, signal ∉ shelf desk.signals.active evaluation.symbol) ∧
    (engine.accepts evaluation context desk = true → ∀ resolution ∈ desk.resolutions.drop evaluation.decided,
      resolution.accepted = true → List.Disjoint (considered resolution) (ids evaluation.active))

def Alone (engine : DecisionEngine) (floor : Floor) : Happens → Prop
  | .resume index (some context) => ∀ task, floor.waiting[index]? = some task → task.point.active ≠ [] →
      Undisturbed engine task.point { context with symbol := task.point.symbol } floor.state
  | _ => True

-- Identifiers of signals are unique.
def Fresh (floor : Floor) : Happens → Prop
  | .spawn (.submit signal) => signal.signalId ∉ ids floor.state.admitted
  | _ => True

instance decidableDisjoint (a b : List String) : Decidable (List.Disjoint a b) :=
  decidable_of_iff (∀ name ∈ a, name ∉ b) ⟨fun apart name first second => apart name first second,
    fun apart _ first second => apart first second⟩

instance decidableUndisturbed (engine : DecisionEngine) (evaluation : Evaluation) (context : MarketContext) (desk : Desk) :
    Decidable (Undisturbed engine evaluation context desk) :=
  inferInstanceAs (Decidable (_ ∧ _))

instance decidableAlone (engine : DecisionEngine) (floor : Floor) : ∀ action, Decidable (Alone engine floor action)
  | .resume index (some context) => inferInstanceAs (Decidable (∀ task, floor.waiting[index]? = some task →
      task.point.active ≠ [] → Undisturbed engine task.point { context with symbol := task.point.symbol } floor.state))
  | .resume _ none => inferInstanceAs (Decidable True)
  | .spawn _ => inferInstanceAs (Decidable True)
  | .environment _ => inferInstanceAs (Decidable True)

instance decidableFresh (floor : Floor) : ∀ action, Decidable (Fresh floor action)
  | .spawn (.submit signal) => inferInstanceAs (Decidable (signal.signalId ∉ ids floor.state.admitted))
  | .spawn (.evaluate _) => inferInstanceAs (Decidable True)
  | .resume _ _ => inferInstanceAs (Decidable True)
  | .environment _ => inferInstanceAs (Decidable True)

theorem once_considered_append (resolutions : List Resolution) (last : Resolution) :
    OnceConsidered (resolutions ++ [last]) ↔ OnceConsidered resolutions ∧
      (∀ signal ∈ last.resolved, signal.signalId ∈ considered last) ∧
      (last.accepted = true → ∀ resolution ∈ resolutions, resolution.accepted = true →
        List.Disjoint (considered resolution) (considered last)) := by
  have resolved : (∀ resolution ∈ resolutions ++ [last], ∀ signal ∈ resolution.resolved,
      signal.signalId ∈ considered resolution) ↔
      (∀ resolution ∈ resolutions, ∀ signal ∈ resolution.resolved, signal.signalId ∈ considered resolution) ∧
        ∀ signal ∈ last.resolved, signal.signalId ∈ considered last := by
    rw [List.forall_mem_append, List.forall_mem_singleton]
  have once : ((resolutions ++ [last]).filter Resolution.accepted).Pairwise (fun a b => List.Disjoint (considered a) (considered b)) ↔
      (resolutions.filter Resolution.accepted).Pairwise (fun a b => List.Disjoint (considered a) (considered b)) ∧
        (last.accepted = true → ∀ resolution ∈ resolutions, resolution.accepted = true →
          List.Disjoint (considered resolution) (considered last)) := by
    rw [List.filter_append, List.pairwise_append]
    by_cases accepted : last.accepted = true
    · rw [List.filter_cons_of_pos accepted, List.filter_nil]
      simp only [List.pairwise_singleton, true_and, List.mem_filter, List.mem_singleton, forall_eq, and_imp, accepted,
        forall_const]
    · rw [List.filter_cons_of_neg accepted, List.filter_nil]
      simp [accepted]
  constructor
  · intro all
    have first := resolved.mp all.resolved
    have second := once.mp all.once
    exact ⟨⟨first.1, second.1⟩, first.2, second.2⟩
  · intro parts
    exact ⟨resolved.mpr ⟨parts.1.resolved, parts.2.1⟩, once.mpr ⟨parts.1.once, parts.2.2⟩⟩

-- What a signal is active as: on the shelf of its symbol, and admitted; none
-- that an accepted decision considered is active any more.
structure Kept (desk : Desk) : Prop where
  distinct : (ids desk.admitted).Nodup
  keyed : ∀ key, ∀ signal ∈ shelf desk.signals.active key, signal.symbol = key
  logged : ∀ key, ∀ signal ∈ shelf desk.signals.active key, signal ∈ desk.admitted
  known : ∀ resolution ∈ desk.resolutions, ∀ name ∈ considered resolution, name ∈ ids desk.admitted
  spent : ∀ resolution ∈ desk.resolutions, resolution.accepted = true → ∀ key,
    ∀ signal ∈ shelf desk.signals.active key, signal.signalId ∉ considered resolution

structure Remembers (desk : Desk) (evaluation : Evaluation) : Prop where
  upperCase : upper evaluation.symbol = evaluation.symbol
  own : ∀ signal ∈ evaluation.active, signal.symbol = evaluation.symbol
  read : ∀ signal ∈ evaluation.active, signal ∈ desk.admitted.take evaluation.admissions
  admissions : evaluation.admissions ≤ desk.admitted.length
  decided : evaluation.decided ≤ desk.resolutions.length
  apart : ∀ resolution ∈ desk.resolutions.take evaluation.decided, resolution.accepted = true →
    List.Disjoint (considered resolution) (ids evaluation.active)
  listed : ∀ signal ∈ shelf desk.signals.active evaluation.symbol,
    signal ∈ evaluation.active ∨ signal ∈ desk.admitted.drop evaluation.admissions

-- What time, a reader or a strategy does to the desk: signals leave, or those
-- admitted come.
structure Moves (before after : Desk) (fresh : List StrategySignal) : Prop where
  admitted : after.admitted = before.admitted ++ fresh
  resolutions : after.resolutions = before.resolutions
  active : ∀ key, ∀ signal ∈ shelf after.signals.active key,
    signal ∈ shelf before.signals.active key ∨ (signal ∈ fresh ∧ signal.symbol = key)

theorem moves_kept (before after : Desk) (fresh : List StrategySignal) (moves : Moves before after fresh)
    (distinct : (ids (before.admitted ++ fresh)).Nodup) (kept : Kept before) : Kept after := by
  rw [ids, List.map_append] at distinct
  have apart := List.disjoint_of_nodup_append distinct
  refine ⟨?_, fun key signal active => ?_, fun key signal active => ?_, fun resolution member name inside => ?_,
    fun resolution member accepted key signal active => ?_⟩
  · rw [moves.admitted, ids, List.map_append]
    exact distinct
  · cases moves.active key signal active with
    | inl old => exact kept.keyed key signal old
    | inr new => exact new.2
  · rw [moves.admitted]
    cases moves.active key signal active with
    | inl old => exact List.mem_append_left _ (kept.logged key signal old)
    | inr new => exact List.mem_append_right _ new.1
  · rw [moves.resolutions] at member
    rw [moves.admitted, ids, List.map_append]
    exact List.mem_append_left _ (kept.known resolution member name inside)
  · rw [moves.resolutions] at member
    cases moves.active key signal active with
    | inl old => exact kept.spent resolution member accepted key signal old
    | inr new => exact fun inside => apart (kept.known resolution member _ inside) (List.mem_map_of_mem new.1)

theorem moves_remembers (before after : Desk) (fresh : List StrategySignal) (evaluation : Evaluation)
    (moves : Moves before after fresh) (remembers : Remembers before evaluation) : Remembers after evaluation := by
  refine ⟨remembers.upperCase, remembers.own, fun signal member => ?_, ?_, ?_, ?_, fun signal active => ?_⟩
  · rw [moves.admitted, List.take_append_of_le_length remembers.admissions]
    exact remembers.read signal member
  · rw [moves.admitted, List.length_append]
    exact Nat.le_add_right_of_le remembers.admissions
  · rw [moves.resolutions]
    exact remembers.decided
  · rw [moves.resolutions]
    exact remembers.apart
  · rw [moves.admitted, List.drop_append_of_le_length remembers.admissions]
    cases moves.active evaluation.symbol signal active with
    | inl old => exact (remembers.listed signal old).imp_right (List.mem_append_left fresh)
    | inr new => exact .inr (List.mem_append_right _ new.1)

theorem expire_active (engine : SignalEngine) (now : Moment) (key : String) (signal : StrategySignal)
    (active : signal ∈ shelf (engine.expireStale now).2.active key) : signal ∈ shelf engine.active key := by
  rw [SignalEngine.expireStale, Shelves.shelf_sift] at active
  exact (List.mem_filter.mp active).1

theorem stored_active (d : Shelves String StrategySignal) (key other : String) (items : List StrategySignal)
    (signal : StrategySignal) (active : signal ∈ shelf (d.insert key (SignalEngine.byPriority items)) other) :
    signal ∈ shelf d other ∨ (other = key ∧ signal ∈ items) := by
  rw [Shelves.shelf_insert] at active
  by_cases here : other = key
  · rw [if_pos here] at active
    exact .inr ⟨here, (List.perm_insertionSort _ items).mem_iff.mp active⟩
  · rw [if_neg here] at active
    exact .inl active

theorem enlist_active (engine : SignalEngine) (fresh : StrategySignal) (now : Moment) (key : String)
    (signal : StrategySignal) (active : signal ∈ shelf (engine.enlist fresh now).active key) :
    signal ∈ shelf engine.active key ∨ (signal ∈ [fresh] ∧ signal.symbol = key) := by
  have joined (items : List StrategySignal) (within : ∀ other ∈ items, other ∈ shelf engine.active fresh.symbol)
      (stored : signal ∈ shelf (engine.active.insert fresh.symbol (SignalEngine.byPriority (items ++ [fresh]))) key) :
      signal ∈ shelf engine.active key ∨ (signal ∈ [fresh] ∧ signal.symbol = key) := by
    cases stored_active engine.active fresh.symbol key _ signal stored with
    | inl old => exact .inl old
    | inr here =>
        cases List.mem_append.mp here.2 with
        | inl old =>
            rw [here.1]
            exact .inl (within signal old)
        | inr new => exact .inr ⟨new, (congrArg StrategySignal.symbol (List.mem_singleton.mp new)).trans here.1.symm⟩
  rw [SignalEngine.enlist] at active
  cases found : engine.findDuplicate (shelf engine.active fresh.symbol) fresh with
  | none =>
      rw [found] at active
      exact joined _ (fun _ member => member) active
  | some duplicate =>
      rw [found] at active
      exact joined _ (fun _ member => List.mem_of_mem_erase member) active

def arriving (signal : StrategySignal) (desk : Desk) : List StrategySignal :=
  if (submit signal desk).1 then [signal] else []

theorem submit_moves (signal : StrategySignal) (desk : Desk) :
    Moves desk (submit signal desk).2 (arriving signal desk) := by
  have submitted : (desk.signals.submit signal desk.now).1 = (submit signal desk).1 := rfl
  refine ⟨?_, rfl, fun key other active => ?_⟩
  · dsimp only [arriving]
    change (if _ then _ else _) = _
    rw [submitted]
    split
    · rfl
    · exact (List.append_nil _).symm
  · change other ∈ shelf (desk.signals.submit signal desk.now).2.active key at active
    rw [arriving, ← submitted]
    rw [SignalEngine.submit] at active ⊢
    by_cases valid : (SignalValidator.validate signal desk.now).isEmpty = true
    · simp only [if_pos valid] at active ⊢
      exact (enlist_active _ signal desk.now key other active).imp_left (expire_active _ desk.now key other)
    · simp only [if_neg valid] at active ⊢
      exact .inl active

theorem arriving_distinct (signal : StrategySignal) (desk : Desk) (kept : Kept desk)
    (fresh : signal.signalId ∉ ids desk.admitted) : (ids (desk.admitted ++ arriving signal desk)).Nodup := by
  rw [ids, List.map_append, arriving]
  split
  · exact kept.distinct.append (List.nodup_singleton _) (List.disjoint_singleton.mpr fresh)
  · exact (List.append_nil (ids desk.admitted)).symm ▸ kept.distinct

theorem begin_moves (symbol : String) (desk : Desk) : Moves desk (begin_ symbol desk).2 [] :=
  ⟨(List.append_nil _).symm, rfl, fun key signal active => .inl (expire_active desk.signals desk.now key signal active)⟩

theorem elapse_moves (micros : Nat) (desk : Desk) : Moves desk (elapse micros desk) [] :=
  ⟨(List.append_nil _).symm, rfl, fun _ _ active => .inl active⟩

theorem finish_moves (decision : Decision) (desk : Desk) : Moves desk (finish decision desk) [] :=
  ⟨(List.append_nil _).symm, rfl, fun _ _ active => .inl active⟩

theorem quiet_kept (before after : Desk) (moves : Moves before after []) (kept : Kept before) : Kept after :=
  moves_kept before after [] moves ((List.append_nil before.admitted).symm ▸ kept.distinct) kept

theorem begin_remembers (symbol : String) (desk : Desk) (kept : Kept desk) :
    Remembers (begin_ symbol desk).2 (begin_ symbol desk).1 := by
  have after := quiet_kept desk _ (begin_moves symbol desk) kept
  refine ⟨upper_upper symbol, fun signal read => ?_, fun signal read => ?_, Nat.le_refl _, Nat.le_refl _,
    fun resolution member accepted => ?_, fun signal active => ?_⟩
  all_goals
    have same : shelf (begin_ symbol desk).2.signals.active (upper (upper symbol)) = (begin_ symbol desk).1.active := rfl
    rw [upper_upper] at same
  · rw [← same] at read
    exact after.keyed _ signal read
  · rw [← same] at read
    exact (List.take_of_length_le (Nat.le_refl _)).symm ▸ after.logged _ signal read
  · intro name inside named
    obtain ⟨signal, read, identified⟩ := List.mem_map.mp named
    rw [← same] at read
    rw [← identified] at inside
    exact after.spent resolution (List.mem_of_mem_take member) accepted _ signal read inside
  · exact .inl (same ▸ active)

theorem same_of_id (desk : Desk) (kept : Kept desk) (a b : StrategySignal) (first : a ∈ desk.admitted)
    (second : b ∈ desk.admitted) (identified : a.signalId = b.signalId) : a = b :=
  List.inj_on_of_nodup_map kept.distinct first second identified

theorem admitted_read (evaluation : Evaluation) (desk : Desk) (remembers : Remembers desk evaluation)
    (signal : StrategySignal) (read : signal ∈ evaluation.active) : signal ∈ desk.admitted :=
  List.mem_of_mem_take (remembers.read signal read)

section

variable (engine : DecisionEngine) (evaluation : Evaluation) (context : MarketContext) (desk : Desk)

def resolution : Resolution :=
  ⟨(engine.resolve evaluation context desk).1, shelf desk.signals.active (upper evaluation.symbol)⟩

theorem resolve_resolutions :
    (engine.resolve evaluation context desk).2.resolutions = desk.resolutions ++ [resolution engine evaluation context desk] :=
  rfl

theorem resolve_active :
    (engine.resolve evaluation context desk).2.signals.active = desk.signals.active.erase (upper evaluation.symbol) := rfl

variable (kept : Kept desk) (remembers : Remembers desk evaluation)

include kept remembers

theorem come_unread (signal : StrategySignal) (come : signal ∈ desk.admitted.drop evaluation.admissions) :
    signal.signalId ∉ ids evaluation.active := by
  intro named
  obtain ⟨other, read, identified⟩ := List.mem_map.mp named
  have distinct := kept.distinct
  rw [← List.take_append_drop evaluation.admissions desk.admitted, ids, List.map_append] at distinct
  have former : signal.signalId ∈ (desk.admitted.take evaluation.admissions).map StrategySignal.signalId :=
    List.mem_map.mpr ⟨other, remembers.read other read, identified⟩
  exact List.disjoint_of_nodup_append distinct former (List.mem_map_of_mem come)

theorem undisturbed_iff (previous : OnceConsidered desk.resolutions) :
    OnceConsidered (engine.resolve evaluation context desk).2.resolutions ↔ Undisturbed engine evaluation context desk := by
  have resolved : (∀ signal ∈ shelf desk.signals.active evaluation.symbol, signal.signalId ∈ ids evaluation.active) ↔
      ∀ signal ∈ desk.admitted.drop evaluation.admissions, signal ∉ shelf desk.signals.active evaluation.symbol := by
    constructor
    · intro all signal come active
      exact come_unread evaluation desk kept remembers signal come (all signal active)
    · intro none signal active
      cases remembers.listed signal active with
      | inl read => exact List.mem_map_of_mem read
      | inr come => exact absurd active (none signal come)
  have once : (∀ other ∈ desk.resolutions, other.accepted = true → List.Disjoint (considered other) (ids evaluation.active)) ↔
      ∀ other ∈ desk.resolutions.drop evaluation.decided, other.accepted = true →
        List.Disjoint (considered other) (ids evaluation.active) := by
    constructor
    · exact fun all other member => all other (List.mem_of_mem_drop member)
    · intro later other member
      rw [← List.take_append_drop evaluation.decided desk.resolutions] at member
      cases List.mem_append.mp member with
      | inl before => exact remembers.apart other before
      | inr since => exact later other since
  rw [resolve_resolutions, once_considered_append, Undisturbed, ← resolved, ← once, and_iff_right previous]
  rw [resolution, remembers.upperCase]
  exact Iff.rfl

theorem resolve_kept : Kept (engine.resolve evaluation context desk).2 := by
  have left (key : String) (signal : StrategySignal)
      (active : signal ∈ shelf (engine.resolve evaluation context desk).2.signals.active key) :
      key ≠ evaluation.symbol ∧ signal ∈ shelf desk.signals.active key := by
    rw [resolve_active, Shelves.shelf_erase, remembers.upperCase] at active
    by_cases here : key = evaluation.symbol
    · rw [if_pos here] at active
      exact absurd active List.not_mem_nil
    · rw [if_neg here] at active
      exact ⟨here, active⟩
  refine ⟨kept.distinct, fun key signal active => kept.keyed key signal (left key signal active).2,
    fun key signal active => kept.logged key signal (left key signal active).2, fun other member name inside => ?_,
    fun other member accepted key signal active inside => ?_⟩
  · rw [resolve_resolutions] at member
    cases List.mem_append.mp member with
    | inl old => exact kept.known other old name inside
    | inr last =>
        rw [List.mem_singleton.mp last] at inside
        obtain ⟨signal, read, identified⟩ := List.mem_map.mp inside
        rw [← identified]
        exact List.mem_map_of_mem (admitted_read evaluation desk remembers signal read)
  · obtain ⟨elsewhere, held⟩ := left key signal active
    rw [resolve_resolutions] at member
    cases List.mem_append.mp member with
    | inl old => exact kept.spent other old accepted key signal held inside
    | inr last =>
        rw [List.mem_singleton.mp last] at inside
        obtain ⟨twin, read, identified⟩ := List.mem_map.mp inside
        have same := same_of_id desk kept twin signal (admitted_read evaluation desk remembers twin read)
          (kept.logged key signal held) identified
        rw [same] at read
        exact elsewhere ((kept.keyed key signal held).symm.trans (remembers.own signal read))

end

theorem resolve_remembers (engine : DecisionEngine) (evaluation other : Evaluation) (context : MarketContext) (desk : Desk)
    (remembers : Remembers desk other) : Remembers (engine.resolve evaluation context desk).2 other := by
  refine ⟨remembers.upperCase, remembers.own, remembers.read, remembers.admissions, ?_, ?_, fun signal active => ?_⟩
  · rw [resolve_resolutions, List.length_append]
    exact Nat.le_add_right_of_le remembers.decided
  · rw [resolve_resolutions, List.take_append_of_le_length remembers.decided]
    exact remembers.apart
  · rw [resolve_active, Shelves.shelf_erase] at active
    split at active
    · exact absurd active List.not_mem_nil
    · exact remembers.listed signal active

def answered (engine : DecisionEngine) (evaluation : Evaluation) : Option MarketContext → Desk → Desk
  | none, desk => desk
  | some context, desk => (engine.conclude evaluation { context with symbol := evaluation.symbol } desk).2

def Answers (engine : DecisionEngine) (task : Suspended Desk Evaluation (Option MarketContext)) : Prop :=
  ∀ later input waiting, Pool.settle waiting (task.resume later input) = ⟨answered engine task.point input later, waiting⟩

structure Inv (engine : DecisionEngine) (floor : Floor) : Prop where
  kept : Kept floor.state
  once : OnceConsidered floor.state.resolutions
  remembers : ∀ task ∈ floor.waiting, Remembers floor.state task.point
  answers : ∀ task ∈ floor.waiting, Answers engine task

def pending (engine : DecisionEngine) (evaluation : Evaluation) : Suspended Desk Evaluation (Option MarketContext) where
  point := evaluation
  resume := fun later input => match input with
    | none => .raised later
    | some context =>
        .done (engine.conclude evaluation { context with symbol := evaluation.symbol } later).2 ()

theorem pending_answers (engine : DecisionEngine) (evaluation : Evaluation) : Answers engine (pending engine evaluation) := by
  intro later input waiting
  cases input with
  | none => rfl
  | some context => rfl

theorem run_evaluate (engine : DecisionEngine) (floor : Floor) (symbol : String) :
    engine.run floor (.spawn (.evaluate symbol)) =
      ⟨(begin_ symbol floor.state).2, floor.waiting ++ [pending engine (begin_ symbol floor.state).1]⟩ := by
  have resumed : ((engine.perform (.evaluate symbol)) floor.state) =
      .await (begin_ symbol floor.state).2 (begin_ symbol floor.state).1
        (pending engine (begin_ symbol floor.state).1).resume := by
    change Co.await _ _ _ = _
    congr 1
    funext later input
    cases input with
    | none => rfl
    | some context => rfl
  rw [run, Pool.step, resumed]
  rfl

theorem run_resume (engine : DecisionEngine) (floor : Floor) (index : Nat) (input : Option MarketContext)
    (task : Suspended Desk Evaluation (Option MarketContext)) (found : floor.waiting[index]? = some task)
    (answers : Answers engine task) :
    engine.run floor (.resume index input) =
      ⟨answered engine task.point input floor.state, floor.waiting.eraseIdx index⟩ := by
  rw [run, Pool.step, found]
  exact answers floor.state input _

theorem run_missing (engine : DecisionEngine) (floor : Floor) (index : Nat) (input : Option MarketContext)
    (absent : floor.waiting[index]? = none) : engine.run floor (.resume index input) = floor := by
  rw [run, Pool.step, absent]

theorem moves_inv (engine : DecisionEngine) (floor : Floor) (after : Desk) (fresh : List StrategySignal)
    (moves : Moves floor.state after fresh) (distinct : (ids (floor.state.admitted ++ fresh)).Nodup)
    (waiting : List (Suspended Desk Evaluation (Option MarketContext))) (fewer : ∀ task ∈ waiting, task ∈ floor.waiting)
    (inv : Inv engine floor) : Inv engine ⟨after, waiting⟩ where
  kept := moves_kept floor.state after fresh moves distinct inv.kept
  once := moves.resolutions ▸ inv.once
  remembers := fun task member => moves_remembers floor.state after fresh task.point moves
    (inv.remembers task (fewer task member))
  answers := fun task member => inv.answers task (fewer task member)

theorem quiet_inv (engine : DecisionEngine) (floor : Floor) (after : Desk) (moves : Moves floor.state after [])
    (waiting : List (Suspended Desk Evaluation (Option MarketContext))) (fewer : ∀ task ∈ waiting, task ∈ floor.waiting)
    (inv : Inv engine floor) : Inv engine ⟨after, waiting⟩ :=
  moves_inv engine floor after [] moves ((List.append_nil floor.state.admitted).symm ▸ inv.kept.distinct) waiting fewer inv

theorem answered_inv (engine : DecisionEngine) (floor : Floor) (index : Nat) (input : Option MarketContext)
    (task : Suspended Desk Evaluation (Option MarketContext)) (found : floor.waiting[index]? = some task)
    (inv : Inv engine floor) (once : OnceConsidered (answered engine task.point input floor.state).resolutions) :
    Inv engine ⟨answered engine task.point input floor.state, floor.waiting.eraseIdx index⟩ := by
  have fewer (other : Suspended Desk Evaluation (Option MarketContext)) (member : other ∈ floor.waiting.eraseIdx index) :=
    List.mem_of_mem_eraseIdx member
  cases input with
  | none => exact ⟨inv.kept, inv.once, fun other member => inv.remembers other (fewer other member),
      fun other member => inv.answers other (fewer other member)⟩
  | some context =>
      by_cases empty : task.point.active = []
      · rw [answered, engine.conclude_empty task.point _ floor.state empty]
        exact quiet_inv engine floor _ (finish_moves _ floor.state) _ fewer inv
      · rw [answered, engine.conclude_resolve task.point _ floor.state empty] at once ⊢
        exact ⟨resolve_kept engine task.point _ floor.state inv.kept (inv.remembers task (List.mem_of_getElem? found)), once,
          fun other member => resolve_remembers engine task.point other.point _ floor.state
            (inv.remembers other (fewer other member)),
          fun other member => inv.answers other (fewer other member)⟩

theorem undisturbed_resume (engine : DecisionEngine) (floor : Floor) (index : Nat) (input : Option MarketContext)
    (task : Suspended Desk Evaluation (Option MarketContext)) (found : floor.waiting[index]? = some task)
    (inv : Inv engine floor) :
    OnceConsidered (answered engine task.point input floor.state).resolutions ↔ Alone engine floor (.resume index input) := by
  cases input with
  | none => exact iff_of_true inv.once trivial
  | some context =>
      by_cases empty : task.point.active = []
      · rw [answered, engine.conclude_empty task.point _ floor.state empty]
        refine iff_of_true inv.once (fun other taken nonempty => ?_)
        rw [Option.some.inj (found.symm.trans taken)] at empty
        exact absurd empty nonempty
      · have exactly := undisturbed_iff engine task.point { context with symbol := task.point.symbol } floor.state inv.kept
          (inv.remembers task (List.mem_of_getElem? found)) inv.once
        rw [answered, engine.conclude_resolve task.point _ floor.state empty, exactly]
        constructor
        · intro met other taken nonempty
          rw [← Option.some.inj (found.symm.trans taken)]
          exact met
        · exact fun met => met task found empty

theorem step_exact (engine : DecisionEngine) (floor : Floor) (action : Happens) (inv : Inv engine floor) :
    OnceConsidered (engine.run floor action).state.resolutions ↔ Alone engine floor action := by
  cases action with
  | spawn call =>
      cases call with
      | evaluate symbol =>
          rw [run_evaluate]
          exact iff_of_true inv.once trivial
      | submit signal => exact iff_of_true inv.once trivial
  | environment micros => exact iff_of_true inv.once trivial
  | resume index input =>
      cases found : floor.waiting[index]? with
      | none =>
          rw [run_missing engine floor index input found]
          refine iff_of_true inv.once ?_
          cases input with
          | none => trivial
          | some context => exact fun task taken => absurd (found.symm.trans taken).symm (Option.some_ne_none task)
      | some task =>
          rw [run_resume engine floor index input task found (inv.answers task (List.mem_of_getElem? found))]
          exact undisturbed_resume engine floor index input task found inv

theorem step_inv (engine : DecisionEngine) (floor : Floor) (action : Happens) (inv : Inv engine floor)
    (fresh : Fresh floor action) (alone : Alone engine floor action) : Inv engine (engine.run floor action) := by
  have once := (step_exact engine floor action inv).mpr alone
  cases action with
  | spawn call =>
      cases call with
      | evaluate symbol =>
          have moved := quiet_inv engine floor _ (begin_moves symbol floor.state) floor.waiting (fun _ member => member) inv
          rw [run_evaluate]
          refine ⟨moved.kept, moved.once, fun task member => ?_, fun task member => ?_⟩
          · cases List.mem_append.mp member with
            | inl old => exact moved.remembers task old
            | inr last =>
                rw [List.mem_singleton.mp last]
                exact begin_remembers symbol floor.state inv.kept
          · cases List.mem_append.mp member with
            | inl old => exact inv.answers task old
            | inr last =>
                rw [List.mem_singleton.mp last]
                exact pending_answers engine _
      | submit signal =>
          exact moves_inv engine floor _ _ (submit_moves signal floor.state)
            (arriving_distinct signal floor.state inv.kept fresh) floor.waiting (fun _ member => member) inv
  | environment micros =>
      exact quiet_inv engine floor _ (elapse_moves micros floor.state) floor.waiting (fun _ member => member) inv
  | resume index input =>
      cases found : floor.waiting[index]? with
      | none =>
          rw [run_missing engine floor index input found]
          exact inv
      | some task =>
          rw [run_resume engine floor index input task found (inv.answers task (List.mem_of_getElem? found))] at once ⊢
          exact answered_inv engine floor index input task found inv once

-- Before any signal is admitted; the settings and the history are any.
def opening (now : Moment) (signals : SignalEngine) : Floor :=
  ⟨{ now := now, signals := { signals with active := .empty } }, []⟩

theorem opening_inv (engine : DecisionEngine) (now : Moment) (signals : SignalEngine) : Inv engine (opening now signals) := by
  have bare (key : String) (signal : StrategySignal)
      (active : signal ∈ shelf (opening now signals).state.signals.active key) : False := List.not_mem_nil active
  exact ⟨⟨List.nodup_nil, fun key signal active => (bare key signal active).elim,
      fun key signal active => (bare key signal active).elim, fun _ member => absurd member List.not_mem_nil,
      fun _ member => absurd member List.not_mem_nil⟩,
    ⟨fun _ member => absurd member List.not_mem_nil, List.Pairwise.nil⟩,
    fun _ member => absurd member List.not_mem_nil, fun _ member => absurd member List.not_mem_nil⟩

-- However evaluations and submissions interleave, a signal is resolved by a
-- decision that considered it, and considered by one accepted decision, in
-- exactly the runs in which no evaluation that read some signals is disturbed
-- while it waits for its context.
theorem considered_iff_undisturbed (engine : DecisionEngine) (now : Moment) (signals : SignalEngine)
    (actions : List Happens) (fresh : Each engine.run Fresh (opening now signals) actions) :
    Always engine.run (fun floor => OnceConsidered floor.state.resolutions) (opening now signals) actions ↔
      Each engine.run (Alone engine) (opening now signals) actions :=
  Run.always_iff_where engine.run Fresh (fun floor => OnceConsidered floor.state.resolutions) (Alone engine) (Inv engine)
    (fun _ inv => inv.once) (fun floor action inv _ => step_exact engine floor action inv)
    (fun floor action inv allowed alone => step_inv engine floor action inv allowed alone) (opening now signals) actions
    (opening_inv engine now signals) fresh

def averaging : DecisionEngine where
  consensus := fun _ symbol signals _ => WeightedAverage.build 1 .empty symbol signals
  confidence := fun signals consensus context => ConfidenceEngine.compute {} .empty signals consensus context

def longSignal (name strategy symbol : String) : StrategySignal where
  signalId := name
  strategyName := strategy
  symbol := symbol
  timestamp := 0
  direction := .long
  confidence := 9 / 10
  score := 80
  reasons := ["momentum"]

def calmMarket (symbol : String) : MarketContext := { symbol := symbol, sessions := ["europe"], dataQuality := 1 }

def parallelSymbols : List Happens :=
  [.spawn (.submit (longSignal "a" "trend" "BTCUSDT")), .spawn (.submit (longSignal "b" "trend" "ETHUSDT")),
    .spawn (.evaluate "btcusdt"), .spawn (.evaluate "ETHUSDT"), .spawn (.submit (longSignal "c" "trend" "XAUUSD")),
    .environment 1000000, .resume 1 (some (calmMarket "ETHUSDT")), .resume 0 (some (calmMarket "BTCUSDT"))]

theorem considered_parallel_symbols :
    Always averaging.run (fun floor => OnceConsidered floor.state.resolutions) (opening 0 {}) parallelSymbols :=
  (considered_iff_undisturbed averaging 0 {} parallelSymbols (by decide +kernel)).mpr (by decide +kernel)

def lateArrival : List Happens :=
  [.spawn (.submit (longSignal "a" "trend" "BTCUSDT")), .spawn (.evaluate "BTCUSDT"),
    .spawn (.submit (longSignal "b" "breakout" "BTCUSDT")), .resume 0 (some (calmMarket "BTCUSDT"))]

def twoEvaluations : List Happens :=
  [.spawn (.submit (longSignal "a" "trend" "BTCUSDT")), .spawn (.evaluate "BTCUSDT"), .spawn (.evaluate "BTCUSDT"),
    .resume 0 (some (calmMarket "BTCUSDT")), .resume 0 (some (calmMarket "BTCUSDT"))]

-- A signal that comes while the context is built is consumed with those read
-- before; and two evaluations at once are both accepted on the same signal.
theorem late_signal_resolved :
    (¬ OnceConsidered (Run.final averaging.run (opening 0 {}) lateArrival).state.resolutions) ∧
      ¬ OnceConsidered (Run.final averaging.run (opening 0 {}) twoEvaluations).state.resolutions := by
  constructor
  · intro once
    exact absurd once.resolved (by decide +kernel)
  · intro once
    exact absurd once.once (by decide +kernel)

end QuantEngine.ConsideredSignals
