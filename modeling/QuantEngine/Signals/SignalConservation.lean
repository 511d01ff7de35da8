import QuantEngine.Library.Run
import QuantEngine.Signals.SignalEngine
import Mathlib.Data.Multiset.Count
import Mathlib.Tactic.Linarith

set_option autoImplicit false

namespace QuantEngine.SignalConservation

open Calendar (Moment)
open Shelves (shelf contents sift)
open SignalEngine
open Run (Always Each)

def isFinal : SignalStatus → Bool
  | .pending => false
  | _ => true

-- The engine, the clock, and every signal submitted so far, which only the
-- statements read.
structure Registry where
  engine : SignalEngine
  now : Moment
  submitted : List StrategySignal

inductive SignalCall where
  | submit (signal : StrategySignal)
  | activeSignals (symbol : String)
  | expireStale
  | consume (symbol : String) (status : SignalStatus) (reasons : List String)
  | elapse (micros : Nat)

def step (registry : Registry) : SignalCall → Registry
  | .submit signal => { registry with
      engine := (registry.engine.submit signal registry.now).2
      submitted := registry.submitted ++ [signal] }
  | .activeSignals symbol => { registry with engine := (registry.engine.activeSignals symbol registry.now).2 }
  | .expireStale => { registry with engine := (registry.engine.expireStale registry.now).2 }
  | .consume symbol status reasons => { registry with
      engine := registry.engine.consume symbol status reasons registry.now }
  | .elapse micros => { registry with now := registry.now + micros }

def start (ttl window : ℚ) (now : Moment) : Registry where
  engine := { signalTtlSeconds := ttl, dedupeWindowSeconds := window, history := { memoryLimit := none } }
  now := now
  submitted := []

-- Identifiers are distinct, and a decision resolves its signals for good.
def Proper (registry : Registry) : SignalCall → Prop
  | .submit signal => signal.signalId ∉ registry.submitted.map StrategySignal.signalId
  | .consume _ status _ => isFinal status = true
  | _ => True

instance decidableProper (registry : Registry) : ∀ call, Decidable (Proper registry call)
  | .submit signal => inferInstanceAs (Decidable (signal.signalId ∉ registry.submitted.map StrategySignal.signalId))
  | .consume _ status _ => inferInstanceAs (Decidable (isFinal status = true))
  | .activeSignals _ => inferInstanceAs (Decidable True)
  | .expireStale => inferInstanceAs (Decidable True)
  | .elapse _ => inferInstanceAs (Decidable True)

def activeTimes (engine : SignalEngine) (signal : StrategySignal) : Nat :=
  (contents engine.active).countP (fun other => other.signalId = signal.signalId)

def resolvedTimes (engine : SignalEngine) (signal : StrategySignal) : Nat :=
  engine.history.signals.countP (fun record => decide (record.signal.signalId = signal.signalId) && isFinal record.status)

-- Active exactly once, or resolved exactly once.
def Conserved (registry : Registry) : Prop :=
  ∀ signal ∈ registry.submitted,
    (activeTimes registry.engine signal = 1 ∧ resolvedTimes registry.engine signal = 0) ∨
      (activeTimes registry.engine signal = 0 ∧ resolvedTimes registry.engine signal = 1)

def vote (signal : StrategySignal) : String × Direction := (signal.strategyName, signal.direction)

def Ordered (signals : List StrategySignal) : Prop := signals.Pairwise (fun a b => b.priority ≤ a.priority)

-- What active_signals answers for a spelling of a symbol.
structure Answered (registry : Registry) (symbol : String) (listed : List StrategySignal) : Prop where
  unique : (listed.map vote).Nodup
  ordered : Ordered listed
  complete : ∀ signal ∈ registry.submitted, upper signal.symbol = upper symbol →
    isExpired registry.engine.signalTtlSeconds registry.now signal = false → resolvedTimes registry.engine signal = 0 →
    signal ∈ listed
  current : ∀ signal ∈ listed, isExpired registry.engine.signalTtlSeconds registry.now signal = false

def AsQueried (registry : Registry) : Prop :=
  ∀ symbol, Answered registry symbol (registry.engine.activeSignals symbol registry.now).1

-- A signal that is admitted has its symbol in upper case, unless it is expired
-- as it comes.
def UpperCase (registry : Registry) : SignalCall → Prop
  | .submit signal => SignalValidator.validate signal registry.now = [] →
      isExpired registry.engine.signalTtlSeconds registry.now signal = false → upper signal.symbol = signal.symbol
  | _ => True

instance decidableUpperCase (registry : Registry) : ∀ call, Decidable (UpperCase registry call)
  | .submit signal => inferInstanceAs (Decidable (SignalValidator.validate signal registry.now = [] →
      isExpired registry.engine.signalTtlSeconds registry.now signal = false → upper signal.symbol = signal.symbol))
  | .consume _ _ _ => inferInstanceAs (Decidable True)
  | .activeSignals _ => inferInstanceAs (Decidable True)
  | .expireStale => inferInstanceAs (Decidable True)
  | .elapse _ => inferInstanceAs (Decidable True)

def ledger (engine : SignalEngine) : Multiset StrategySignal :=
  contents engine.active + (engine.history.signals.map SignalRecord.signal : Multiset StrategySignal)

structure Orderly (active : Shelves String StrategySignal) : Prop where
  keyed : ∀ key, ∀ signal ∈ shelf active key, signal.symbol = key
  unique : ∀ key, ((shelf active key).map vote).Nodup
  ordered : ∀ key, Ordered (shelf active key)

structure Inv (registry : Registry) : Prop extends Orderly registry.engine.active where
  unbounded : registry.engine.history.memoryLimit = none
  conserved : ledger registry.engine = registry.submitted
  distinct : (registry.submitted.map StrategySignal.signalId).Nodup
  final : ∀ record ∈ registry.engine.history.signals, isFinal record.status = true

section

variable (store : SignalHistoryStore) (unbounded : store.memoryLimit = none)

include unbounded

theorem record_signals (signal : StrategySignal) (status : SignalStatus) (reasons : List String) (now : Moment) :
    (store.recordSignal signal status reasons now).signals =
      store.signals ++ [⟨signal, status, reasons, signal.timestamp, some now⟩] := by
  rw [SignalHistoryStore.recordSignal, unbounded]
  rfl

theorem record_all (status : SignalStatus) (reasons : List String) (now : Moment) (signals : List StrategySignal) :
    (recordAll status reasons now store signals).memoryLimit = none ∧
      (recordAll status reasons now store signals).signals = store.signals ++
        signals.map (fun signal => ⟨signal, status, reasons, signal.timestamp, some now⟩) := by
  induction signals generalizing store with
  | nil => exact ⟨unbounded, (List.append_nil _).symm⟩
  | cons signal rest ih =>
      obtain ⟨limit, appended⟩ := ih (store.recordSignal signal status reasons now) unbounded
      refine ⟨limit, appended.trans ?_⟩
      rw [record_signals store unbounded, List.append_assoc]
      rfl

theorem record_all_resolves (status : SignalStatus) (reasons : List String) (now : Moment)
    (signals : List StrategySignal) :
    ((recordAll status reasons now store signals).signals.map SignalRecord.signal : Multiset StrategySignal) =
      (store.signals.map SignalRecord.signal : Multiset StrategySignal) + (signals : Multiset StrategySignal) := by
  rw [(record_all store unbounded status reasons now signals).2, List.map_append, List.map_map,
    Multiset.coe_add]
  congr 2
  exact List.map_id' signals

theorem record_all_final (status : SignalStatus) (reasons : List String) (now : Moment) (signals : List StrategySignal)
    (ends : isFinal status = true) (final : ∀ record ∈ store.signals, isFinal record.status = true) :
    ∀ record ∈ (recordAll status reasons now store signals).signals, isFinal record.status = true := by
  intro record member
  rw [(record_all store unbounded status reasons now signals).2] at member
  cases List.mem_append.mp member with
  | inl old => exact final record old
  | inr fresh =>
      obtain ⟨signal, -, same⟩ := List.mem_map.mp fresh
      rw [← same]
      exact ends

end

theorem duplicate_member (engine : SignalEngine) (active : List StrategySignal) (signal duplicate : StrategySignal)
    (found : engine.findDuplicate active signal = some duplicate) :
    duplicate ∈ active ∧ vote duplicate = vote signal := by
  have same (existing : StrategySignal) (votes : sameVote signal existing = true) : vote existing = vote signal := by
    rw [sameVote, Bool.and_eq_true, decide_eq_true_iff, decide_eq_true_iff] at votes
    rw [vote, vote, votes.1, votes.2]
  cases Option.or_eq_some_iff.mp found with
  | inl recent =>
      have matched := List.find?_some recent
      rw [Bool.and_eq_true] at matched
      exact ⟨List.mem_of_find?_eq_some recent, same duplicate matched.1⟩
  | inr live => exact ⟨List.mem_of_find?_eq_some live.2, same duplicate (List.find?_some live.2)⟩

theorem no_duplicate (engine : SignalEngine) (active : List StrategySignal) (signal : StrategySignal)
    (found : engine.findDuplicate active signal = none) : vote signal ∉ active.map vote := by
  intro present
  obtain ⟨existing, member, same⟩ := List.mem_map.mp present
  have missed := List.find?_eq_none.mp (Option.or_eq_none_iff.mp found).2 existing member
  have votes : sameVote signal existing = true := by
    rw [sameVote, Bool.and_eq_true, decide_eq_true_iff, decide_eq_true_iff]
    exact ⟨congrArg Prod.fst same, congrArg Prod.snd same⟩
  exact missed votes

section

variable (engine : SignalEngine) (unbounded : engine.history.memoryLimit = none) (now : Moment)

include unbounded

theorem expire_ledger : ledger (engine.expireStale now).2 = ledger engine := by
  have resolved := record_all_resolves engine.history unbounded .expired ["TTL alcanzado"] now (engine.expiring now)
  have split := Multiset.filter_add_not (fun signal => isExpired engine.signalTtlSeconds now signal = true)
    (contents engine.active)
  have kept : contents (engine.expireStale now).2.active =
      (contents engine.active).filter (fun signal => ¬ isExpired engine.signalTtlSeconds now signal = true) := by
    refine (Shelves.contents_sift _ engine.active).trans (Multiset.filter_congr (fun signal _ => ?_))
    simp
  have gone : (engine.expiring now : Multiset StrategySignal) =
      (contents engine.active).filter (fun signal => isExpired engine.signalTtlSeconds now signal = true) := by
    rw [Shelves.contents_values, Multiset.filter_coe]
    simp only [Bool.decide_eq_true]
    rfl
  rw [ledger, kept, show (engine.expireStale now).2.history =
    recordAll .expired ["TTL alcanzado"] now engine.history (engine.expiring now) from rfl, resolved, gone, add_left_comm,
    add_comm (Multiset.filter _ _), split, add_comm, ledger]

theorem consume_ledger (symbol : String) (status : SignalStatus) (reasons : List String) :
    ledger (engine.consume symbol status reasons now) = ledger engine := by
  have resolved := record_all_resolves engine.history unbounded status reasons now (shelf engine.active (upper symbol))
  rw [ledger, show (engine.consume symbol status reasons now).history =
    recordAll status reasons now engine.history (shelf engine.active (upper symbol)) from rfl, resolved, add_left_comm,
    add_comm (contents _), show (engine.consume symbol status reasons now).active = engine.active.erase (upper symbol)
      from rfl, ← Shelves.contents_erase, add_comm, ledger]

theorem enlist_ledger (signal : StrategySignal) : ledger (engine.enlist signal now) = ledger engine + {signal} := by
  have put (items : List StrategySignal) := Shelves.contents_insert engine.active signal.symbol (byPriority items)
  have sorted (items : List StrategySignal) : (byPriority items : Multiset StrategySignal) = items :=
    Multiset.coe_eq_coe.mpr (List.perm_insertionSort _ items)
  rw [enlist]
  cases found : engine.findDuplicate (shelf engine.active signal.symbol) signal with
  | none =>
      have stored := put (shelf engine.active signal.symbol ++ [signal])
      rw [sorted, ← Multiset.coe_add, add_left_comm, add_comm, add_left_cancel_iff] at stored
      change contents _ + _ = _
      rw [stored, ledger, add_right_comm]
      rfl
  | some duplicate =>
      have member := (duplicate_member engine _ signal duplicate found).1
      have stored := put ((shelf engine.active signal.symbol).erase duplicate ++ [signal])
      have taken : (shelf engine.active signal.symbol : Multiset StrategySignal) =
          {duplicate} + ((shelf engine.active signal.symbol).erase duplicate : Multiset StrategySignal) :=
        Multiset.coe_eq_coe.mpr (List.perm_cons_erase member)
      rw [sorted, ← Multiset.coe_add, taken, ← add_assoc, ← add_assoc, add_right_comm (contents engine.active),
        add_right_cancel_iff] at stored
      have resolved : ((engine.history.recordSignal duplicate .superseded ["reemplazada por " ++ signal.signalId] now).signals.map
          SignalRecord.signal : Multiset StrategySignal) =
          (engine.history.signals.map SignalRecord.signal : Multiset StrategySignal) + {duplicate} := by
        rw [record_signals engine.history unbounded, List.map_append, ← Multiset.coe_add]
        rfl
      change contents _ + _ = _
      rw [resolved, add_left_comm, stored, ledger, add_left_comm, ← add_assoc]
      rfl

end

theorem by_priority_ordered (signals : List StrategySignal) : Ordered (byPriority signals) := by
  have total : Std.Total (fun a b : StrategySignal => a.priority ≥ b.priority) :=
    ⟨fun a b => le_total b.priority a.priority⟩
  have transitive : IsTrans StrategySignal (fun a b => a.priority ≥ b.priority) :=
    ⟨fun _ _ _ first second => le_trans second first⟩
  exact List.pairwise_insertionSort _ signals

structure Tidy (key : String) (signals : List StrategySignal) : Prop where
  keyed : ∀ signal ∈ signals, signal.symbol = key
  unique : (signals.map vote).Nodup
  ordered : Ordered signals

theorem orderly_tidy (active : Shelves String StrategySignal) (orderly : Orderly active) (key : String) :
    Tidy key (shelf active key) := ⟨orderly.keyed key, orderly.unique key, orderly.ordered key⟩

theorem tidy_orderly (active : Shelves String StrategySignal) (tidy : ∀ key, Tidy key (shelf active key)) :
    Orderly active := ⟨fun key => (tidy key).keyed, fun key => (tidy key).unique, fun key => (tidy key).ordered⟩

theorem tidy_nil (key : String) : Tidy key [] :=
  ⟨fun _ member => absurd member List.not_mem_nil, List.nodup_nil, List.Pairwise.nil⟩

theorem tidy_filter (key : String) (signals : List StrategySignal) (p : StrategySignal → Bool) (tidy : Tidy key signals) :
    Tidy key (signals.filter p) :=
  ⟨fun signal member => tidy.keyed signal (List.mem_filter.mp member).1,
    tidy.unique.sublist (List.filter_sublist.map vote), tidy.ordered.sublist List.filter_sublist⟩

theorem tidy_sorted (key : String) (items : List StrategySignal) (own : ∀ signal ∈ items, signal.symbol = key)
    (unique : (items.map vote).Nodup) : Tidy key (byPriority items) := by
  have sorted := List.perm_insertionSort (fun a b : StrategySignal => a.priority ≥ b.priority) items
  exact ⟨fun signal member => own signal (sorted.mem_iff.mp member), (sorted.map vote).nodup_iff.mpr unique,
    by_priority_ordered items⟩

theorem orderly_sift (p : StrategySignal → Bool) (active : Shelves String StrategySignal) (orderly : Orderly active) :
    Orderly (sift p active) := by
  apply tidy_orderly
  intro key
  rw [Shelves.shelf_sift]
  exact tidy_filter key _ p (orderly_tidy active orderly key)

theorem orderly_insert (active : Shelves String StrategySignal) (key : String) (items : List StrategySignal)
    (orderly : Orderly active) (own : ∀ signal ∈ items, signal.symbol = key) (unique : (items.map vote).Nodup) :
    Orderly (active.insert key (byPriority items)) := by
  apply tidy_orderly
  intro other
  rw [Shelves.shelf_insert]
  by_cases here : other = key
  · rw [if_pos here, here]
    exact tidy_sorted key items own unique
  · rw [if_neg here]
    exact orderly_tidy active orderly other

theorem orderly_erase (active : Shelves String StrategySignal) (key : String) (orderly : Orderly active) :
    Orderly (active.erase key) := by
  apply tidy_orderly
  intro other
  rw [Shelves.shelf_erase]
  by_cases here : other = key
  · rw [if_pos here]
    exact tidy_nil other
  · rw [if_neg here]
    exact orderly_tidy active orderly other

theorem joined_unique (items : List StrategySignal) (signal : StrategySignal) (unique : (items.map vote).Nodup)
    (fresh : vote signal ∉ items.map vote) : ((items ++ [signal]).map vote).Nodup := by
  rw [List.map_append]
  exact unique.append (List.nodup_singleton _) (List.disjoint_singleton.mpr fresh)

theorem orderly_enlist (engine : SignalEngine) (signal : StrategySignal) (now : Moment) (orderly : Orderly engine.active) :
    Orderly (engine.enlist signal now).active := by
  have unique := orderly.unique signal.symbol
  rw [enlist]
  cases found : engine.findDuplicate (shelf engine.active signal.symbol) signal with
  | none =>
      refine orderly_insert engine.active signal.symbol _ orderly (fun other member => ?_)
        (joined_unique _ signal unique (no_duplicate engine _ signal found))
      cases List.mem_append.mp member with
      | inl old => exact orderly.keyed signal.symbol other old
      | inr last => rw [List.mem_singleton.mp last]
  | some duplicate =>
      obtain ⟨member, same⟩ := duplicate_member engine _ signal duplicate found
      have apart := (((List.perm_cons_erase member).map vote).nodup_iff.mp unique)
      rw [List.map_cons, List.nodup_cons, same] at apart
      refine orderly_insert engine.active signal.symbol _ orderly (fun other member => ?_)
        (joined_unique _ signal apart.2 apart.1)
      cases List.mem_append.mp member with
      | inl old => exact orderly.keyed signal.symbol other (List.mem_of_mem_erase old)
      | inr last => rw [List.mem_singleton.mp last]

theorem enlist_final (engine : SignalEngine) (signal : StrategySignal) (now : Moment)
    (unbounded : engine.history.memoryLimit = none)
    (final : ∀ record ∈ engine.history.signals, isFinal record.status = true) :
    (engine.enlist signal now).history.memoryLimit = none ∧
      ∀ record ∈ (engine.enlist signal now).history.signals, isFinal record.status = true := by
  rw [enlist]
  cases engine.findDuplicate (shelf engine.active signal.symbol) signal with
  | none => exact ⟨unbounded, final⟩
  | some duplicate =>
      refine ⟨unbounded, fun record member => ?_⟩
      rw [record_signals engine.history unbounded] at member
      cases List.mem_append.mp member with
      | inl old => exact final record old
      | inr last =>
          rw [List.mem_singleton.mp last]
          rfl

theorem expire_inv (registry : Registry) (inv : Inv registry) :
    Inv { registry with engine := (registry.engine.expireStale registry.now).2 } where
  toOrderly := orderly_sift _ registry.engine.active inv.toOrderly
  unbounded := (record_all registry.engine.history inv.unbounded _ _ _ _).1
  conserved := (expire_ledger registry.engine inv.unbounded registry.now).trans inv.conserved
  distinct := inv.distinct
  final := record_all_final registry.engine.history inv.unbounded _ _ _ _ rfl inv.final

theorem submit_inv (registry : Registry) (signal : StrategySignal) (inv : Inv registry)
    (fresh : signal.signalId ∉ registry.submitted.map StrategySignal.signalId) :
    Inv (step registry (.submit signal)) := by
  have distinct : ((registry.submitted ++ [signal]).map StrategySignal.signalId).Nodup := by
    rw [List.map_append]
    exact inv.distinct.append (List.nodup_singleton _) (List.disjoint_singleton.mpr fresh)
  simp only [step, submit]
  split
  · have expired := expire_inv registry inv
    obtain ⟨limit, final⟩ := enlist_final _ signal registry.now expired.unbounded expired.final
    refine ⟨orderly_enlist _ signal registry.now expired.toOrderly, limit, ?_, distinct, final⟩
    have joined := enlist_ledger _ expired.unbounded registry.now signal
    rw [expired.conserved] at joined
    exact joined
  · have resolved := record_signals registry.engine.history inv.unbounded signal .rejected
      (SignalValidator.validate signal registry.now) registry.now
    refine ⟨inv.toOrderly, inv.unbounded, ?_, distinct, fun record member => ?_⟩
    · change contents registry.engine.active + _ = _
      rw [resolved, List.map_append, ← Multiset.coe_add, ← add_assoc]
      exact congrArg (· + _) inv.conserved
    · rw [resolved] at member
      cases List.mem_append.mp member with
      | inl old => exact inv.final record old
      | inr last =>
          rw [List.mem_singleton.mp last]
          rfl

theorem step_inv (registry : Registry) (call : SignalCall) (inv : Inv registry) (proper : Proper registry call) :
    Inv (step registry call) := by
  cases call with
  | submit signal => exact submit_inv registry signal inv proper
  | activeSignals symbol => exact expire_inv registry inv
  | expireStale => exact expire_inv registry inv
  | elapse micros => exact ⟨inv.toOrderly, inv.unbounded, inv.conserved, inv.distinct, inv.final⟩
  | consume symbol status reasons =>
      exact ⟨orderly_erase registry.engine.active _ inv.toOrderly,
        (record_all registry.engine.history inv.unbounded _ _ _ _).1,
        (consume_ledger registry.engine inv.unbounded registry.now symbol status reasons).trans inv.conserved,
        inv.distinct, record_all_final registry.engine.history inv.unbounded _ _ _ _ proper inv.final⟩

theorem submitted_once (registry : Registry) (signal : StrategySignal) (inv : Inv registry)
    (member : signal ∈ registry.submitted) :
    activeTimes registry.engine signal + resolvedTimes registry.engine signal = 1 := by
  have resolved : resolvedTimes registry.engine signal =
      (registry.engine.history.signals.map SignalRecord.signal : Multiset StrategySignal).countP
        (fun other => other.signalId = signal.signalId) := by
    rw [Multiset.coe_countP, List.countP_map, resolvedTimes]
    refine List.countP_congr (fun record held => ?_)
    simp [inv.final record held]
  have single : (registry.submitted : Multiset StrategySignal).countP (fun other => other.signalId = signal.signalId) =
      1 := by
    have counted := List.count_eq_one_of_mem inv.distinct (List.mem_map_of_mem (f := StrategySignal.signalId) member)
    rw [List.count, List.countP_map] at counted
    rw [Multiset.coe_countP, ← counted]
    exact List.countP_congr (fun other _ => by simp)
  rw [activeTimes, resolved, ← Multiset.countP_add, ← single, ← inv.conserved]
  rfl

theorem inv_conserved (registry : Registry) (inv : Inv registry) : Conserved registry := by
  intro signal member
  have once := submitted_once registry signal inv member
  omega

theorem active_submitted (registry : Registry) (key : String) (signal : StrategySignal) (inv : Inv registry)
    (member : signal ∈ shelf registry.engine.active key) :
    signal ∈ registry.submitted ∧ resolvedTimes registry.engine signal = 0 := by
  have held := (Shelves.mem_contents registry.engine.active signal).mpr ⟨key, member⟩
  have submitted : signal ∈ registry.submitted := by
    have listed : signal ∈ ledger registry.engine := Multiset.mem_add.mpr (.inl held)
    rw [inv.conserved] at listed
    exact Multiset.mem_coe.mp listed
  have active : 0 < activeTimes registry.engine signal := Multiset.countP_pos.mpr ⟨signal, held, rfl⟩
  have once := submitted_once registry signal inv submitted
  exact ⟨submitted, by omega⟩

theorem unresolved_active (registry : Registry) (signal : StrategySignal) (inv : Inv registry)
    (member : signal ∈ registry.submitted) (unresolved : resolvedTimes registry.engine signal = 0) :
    signal ∈ shelf registry.engine.active signal.symbol := by
  have listed : signal ∈ ledger registry.engine := by
    rw [inv.conserved]
    exact Multiset.mem_coe.mpr member
  cases Multiset.mem_add.mp listed with
  | inl held =>
      obtain ⟨key, there⟩ := (Shelves.mem_contents registry.engine.active signal).mp held
      rwa [inv.keyed key signal there]
  | inr recorded =>
      obtain ⟨record, held, same⟩ := List.mem_map.mp (Multiset.mem_coe.mp recorded)
      have counted : 0 < resolvedTimes registry.engine signal :=
        List.countP_pos_iff.mpr ⟨record, held, by simp [same, inv.final record held]⟩
      omega

def AllUpper (registry : Registry) : Prop :=
  ∀ key, ∀ signal ∈ shelf registry.engine.active key,
    isExpired registry.engine.signalTtlSeconds registry.now signal = false → upper signal.symbol = signal.symbol

theorem listed_iff (registry : Registry) (symbol : String) (signal : StrategySignal) :
    signal ∈ (registry.engine.activeSignals symbol registry.now).1 ↔
      signal ∈ shelf registry.engine.active (upper symbol) ∧
        isExpired registry.engine.signalTtlSeconds registry.now signal = false := by
  rw [show (registry.engine.activeSignals symbol registry.now).1 = shelf (sift (fun signal =>
      !isExpired registry.engine.signalTtlSeconds registry.now signal) registry.engine.active) (upper symbol) from rfl,
    Shelves.shelf_sift, List.mem_filter, Bool.not_eq_true']

theorem as_queried_iff (registry : Registry) (inv : Inv registry) : AsQueried registry ↔ AllUpper registry := by
  constructor
  · intro answered key signal member valid
    obtain ⟨submitted, unresolved⟩ := active_submitted registry key signal inv member
    have listed := (answered signal.symbol).complete signal submitted rfl valid unresolved
    exact (inv.keyed _ signal ((listed_iff registry signal.symbol signal).mp listed).1).symm
  · intro allUpper symbol
    have orderly := (expire_inv registry inv).toOrderly
    refine ⟨orderly.unique (upper symbol), orderly.ordered (upper symbol), ?_, ?_⟩
    · intro signal submitted same valid unresolved
      have active := unresolved_active registry signal inv submitted unresolved
      have high := allUpper signal.symbol signal active valid
      rw [listed_iff, ← same, high]
      exact ⟨active, valid⟩
    · intro signal listed
      exact ((listed_iff registry symbol signal).mp listed).2

theorem expired_later (ttl : ℚ) (now : Moment) (micros : Nat) (signal : StrategySignal)
    (valid : isExpired ttl (now + micros) signal = false) : isExpired ttl now signal = false := by
  have later := Calendar.le_later now micros
  rw [isExpired] at valid ⊢
  cases found : signal.expiration with
  | none =>
      rw [found] at valid
      have longer : secondsBetween signal.timestamp now ≤ secondsBetween signal.timestamp (now + micros) := by
        rw [secondsBetween, secondsBetween]
        have moved : ((now - signal.timestamp : Int) : ℚ) ≤ ((now + micros - signal.timestamp : Int) : ℚ) :=
          Int.cast_le.mpr (Int.sub_le_sub_right later _)
        linarith
      rw [decide_eq_false_iff_not] at valid ⊢
      exact fun old => valid (lt_of_lt_of_le old longer)
  | some deadline =>
      rw [found] at valid
      rw [decide_eq_false_iff_not] at valid ⊢
      exact fun passed => valid (le_trans passed later)

theorem admit_shelves (engine : SignalEngine) (signal : StrategySignal) (now : Moment) :
    (engine.enlist signal now).signalTtlSeconds = engine.signalTtlSeconds ∧
      signal ∈ shelf (engine.enlist signal now).active signal.symbol ∧
      ∀ key, ∀ other ∈ shelf (engine.enlist signal now).active key, other = signal ∨ other ∈ shelf engine.active key := by
  have placed (kept : List StrategySignal) (part : kept ⊆ shelf engine.active signal.symbol) :
      signal ∈ shelf (engine.active.insert signal.symbol (byPriority (kept ++ [signal]))) signal.symbol ∧
        ∀ key, ∀ other ∈ shelf (engine.active.insert signal.symbol (byPriority (kept ++ [signal]))) key,
          other = signal ∨ other ∈ shelf engine.active key := by
    have sorted := List.perm_insertionSort (fun a b : StrategySignal => a.priority ≥ b.priority) (kept ++ [signal])
    refine ⟨?_, fun key other member => ?_⟩
    · rw [Shelves.shelf_insert, if_pos rfl]
      exact sorted.mem_iff.mpr (List.mem_append_right _ (List.mem_singleton_self signal))
    · rw [Shelves.shelf_insert] at member
      by_cases here : key = signal.symbol
      · rw [if_pos here] at member
        cases List.mem_append.mp (sorted.mem_iff.mp member) with
        | inl old => exact .inr (here ▸ part old)
        | inr last => exact .inl (List.mem_singleton.mp last)
      · rw [if_neg here] at member
        exact .inr member
  rw [enlist]
  cases engine.findDuplicate (shelf engine.active signal.symbol) signal with
  | none => exact ⟨rfl, placed _ (fun _ member => member)⟩
  | some duplicate => exact ⟨rfl, placed _ List.erase_subset⟩

theorem sifted_upper (registry : Registry) (p : StrategySignal → Bool) (key : String) (signal : StrategySignal)
    (allUpper : AllUpper registry) (member : signal ∈ shelf (sift p registry.engine.active) key)
    (valid : isExpired registry.engine.signalTtlSeconds registry.now signal = false) :
    upper signal.symbol = signal.symbol := by
  rw [Shelves.shelf_sift] at member
  exact allUpper key signal (List.mem_filter.mp member).1 valid

theorem submit_upper (registry : Registry) (signal : StrategySignal) (allUpper : AllUpper registry) :
    AllUpper (step registry (.submit signal)) ↔ UpperCase registry (.submit signal) := by
  simp only [step, submit, UpperCase]
  by_cases valid : SignalValidator.validate signal registry.now = []
  · rw [valid]
    obtain ⟨ttl, placed, others⟩ := admit_shelves (registry.engine.expireStale registry.now).2 signal registry.now
    simp only [List.isEmpty_nil, if_true, AllUpper, ttl]
    constructor
    · intro every _ current
      exact every signal.symbol signal placed current
    · intro high key other member current
      cases others key other member with
      | inl same => exact same ▸ high trivial (same ▸ current)
      | inr old => exact sifted_upper registry _ key other allUpper old current
  · have refused : ¬ (SignalValidator.validate signal registry.now).isEmpty = true :=
      fun empty => valid (List.isEmpty_iff.mp empty)
    rw [if_neg refused]
    exact ⟨fun _ accepted => absurd accepted valid, fun _ => allUpper⟩

theorem step_upper (registry : Registry) (call : SignalCall) (allUpper : AllUpper registry) :
    AllUpper (step registry call) ↔ UpperCase registry call := by
  cases call with
  | submit signal => exact submit_upper registry signal allUpper
  | activeSignals symbol =>
      exact ⟨fun _ => trivial, fun _ key signal member valid => sifted_upper registry _ key signal allUpper member valid⟩
  | expireStale =>
      exact ⟨fun _ => trivial, fun _ key signal member valid => sifted_upper registry _ key signal allUpper member valid⟩
  | elapse micros =>
      exact ⟨fun _ => trivial, fun _ key signal member valid =>
        allUpper key signal member (expired_later _ registry.now micros signal valid)⟩
  | consume symbol status reasons =>
      refine ⟨fun _ => trivial, fun _ key signal member valid => ?_⟩
      change signal ∈ shelf (registry.engine.active.erase (upper symbol)) key at member
      rw [Shelves.shelf_erase] at member
      by_cases here : key = upper symbol
      · rw [if_pos here] at member
        exact absurd member List.not_mem_nil
      · rw [if_neg here] at member
        exact allUpper key signal member valid

theorem start_inv (ttl window : ℚ) (now : Moment) : Inv (start ttl window now) where
  keyed _ _ member := absurd member List.not_mem_nil
  unique _ := List.nodup_nil
  ordered _ := List.Pairwise.nil
  unbounded := rfl
  conserved := rfl
  distinct := List.nodup_nil
  final _ member := absurd member List.not_mem_nil

def longOn (id symbol : String) : StrategySignal :=
  { signalId := id, strategyName := "momentum", symbol := symbol, timestamp := 0, direction := .long, confidence := 1,
    score := 80, reasons := ["ruptura"] }

end QuantEngine.SignalConservation
