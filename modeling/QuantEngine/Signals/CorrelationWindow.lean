import QuantEngine.Signals.Consensus
import QuantEngine.Signals.DecisionEngine

set_option autoImplicit false

namespace QuantEngine.CorrelationWindow

open Calendar (Moment)
open DecisionEngine
open FilterChain (filterNamed correlationFilter groupOf groups blocks)
open SignalEngine (secondsBetween)
open Run (Always Each final)

-- Calls made one after another: an evaluation is over before the next call, and
-- while it waits for its context only time passes.
inductive DecisionCall where
  | submit (signal : StrategySignal)
  | evaluate (symbol : String) (waited : Nat) (context : Option MarketContext)
  | elapse (micros : Nat)

def actions : DecisionCall → List Happens
  | .submit signal => [.spawn (.submit signal)]
  | .evaluate symbol waited context => [.spawn (.evaluate symbol), .environment waited, .resume 0 context]
  | .elapse micros => [.environment micros]

def step (engine : DecisionEngine) (desk : Desk) (call : DecisionCall) : Desk :=
  (final engine.run ⟨desk, []⟩ (actions call)).state

-- Two decisions for different symbols that share a group, the second within the
-- window after the first.
def Correlated (settings : QuantFiltersSettings) (earlier : Decision) (symbol : String) (moment : Moment) : Prop :=
  earlier.symbol ≠ symbol ∧ (∃ group ∈ groups settings, earlier.symbol ∈ group ∧ symbol ∈ group) ∧
    secondsBetween earlier.timestamp moment ≤ settings.correlationWindowMinutes * 60

def NotTogether (settings : QuantFiltersSettings) (resolutions : List Resolution) : Prop :=
  (resolutions.filter Resolution.accepted).Pairwise
    (fun earlier later => ¬ Correlated settings earlier.decision later.decision.symbol later.decision.timestamp)

def RefusedOtherwise (engine : DecisionEngine) (evaluation : Evaluation) (context : MarketContext) (desk : Desk) : Prop :=
  let consensus := engine.consensus desk.signals.history evaluation.symbol evaluation.active context
  evaluation.active = [] ∨
    engine.thresholdRejections evaluation consensus (engine.confidence evaluation.active consensus context).1 ≠ [] ∨
    ∃ name ∈ engine.filters.enabled, name ≠ "correlation" ∧
      ∃ result ∈ filterNamed engine.filters desk.signals.history context desk.now name, result.passed = false

-- The filter is there, and one of the last fifty decisions was accepted for
-- another symbol of the first group with the symbol in it, no longer ago than
-- the window as the filter runs.
def Seen (settings : QuantFiltersSettings) (symbol : String) (desk : Desk) : Prop :=
  "correlation" ∈ settings.enabled ∧ ∃ group ∈ groupOf settings symbol,
    ∃ decision ∈ desk.signals.history.recentDecisions 50, blocks settings symbol group desk.now decision = true

def NoticesCorrelated (engine : DecisionEngine) (desk : Desk) : DecisionCall → Prop
  | .evaluate symbol waited (some context) =>
      let began := begin_ symbol desk
      let later := elapse waited began.2
      (∃ resolution ∈ desk.resolutions, resolution.accepted = true ∧
        Correlated engine.filters resolution.decision (upper symbol) desk.now) →
      RefusedOtherwise engine began.1 { context with symbol := upper symbol } later ∨
        Seen engine.filters (upper symbol) later
  | _ => True

theorem step_evaluate (engine : DecisionEngine) (desk : Desk) (symbol : String) (waited : Nat) (context : MarketContext) :
    step engine desk (.evaluate symbol waited (some context)) =
      (engine.conclude (begin_ symbol desk).1 { context with symbol := upper symbol }
        (elapse waited (begin_ symbol desk).2)).2 := rfl

theorem step_idle (engine : DecisionEngine) (desk : Desk) (call : DecisionCall) :
    final engine.run ⟨desk, []⟩ (actions call) = ⟨step engine desk call, []⟩ := by
  cases call with
  | submit signal => rfl
  | elapse micros => rfl
  | evaluate symbol waited context =>
      cases context with
      | none => rfl
      | some context => rfl

theorem calls_run (engine : DecisionEngine) (desk : Desk) (calls : List DecisionCall) :
    final engine.run ⟨desk, []⟩ (calls.flatMap actions) = ⟨final (step engine) desk calls, []⟩ := by
  induction calls generalizing desk with
  | nil => rfl
  | cons call rest ih =>
      have first := step_idle engine desk call
      rw [final] at first
      rw [List.flatMap_cons, final, List.foldl_append, first]
      exact ih (step engine desk call)

section

variable (settings : QuantFiltersSettings) (history : SignalHistoryStore) (context : MarketContext) (now : Moment)

theorem correlation_passes (recent : List Decision) :
    (correlationFilter settings recent context now).passed = true ↔
      ∀ group ∈ groupOf settings context.symbol, ∀ decision ∈ recent,
        ¬ blocks settings context.symbol group now decision = true := by
  have found : (groupOf settings context.symbol).bind
      (fun group => recent.find? (blocks settings context.symbol group now)) = none ↔
      ∀ group ∈ groupOf settings context.symbol, ∀ decision ∈ recent,
        ¬ blocks settings context.symbol group now decision = true := by
    rw [Option.bind_eq_none_iff]
    exact forall_congr' (fun group => imp_congr_right (fun _ => List.find?_eq_none))
  rw [← found, correlationFilter]
  cases (groupOf settings context.symbol).bind
      (fun group => recent.find? (blocks settings context.symbol group now)) with
  | none => exact iff_of_true rfl rfl
  | some decision => exact iff_of_false Bool.false_ne_true (Option.some_ne_none decision)

theorem correlation_named :
    filterNamed settings history context now "correlation" =
      some (correlationFilter settings (history.recentDecisions 50) context now) := rfl

end

section

variable (engine : DecisionEngine) (evaluation : Evaluation) (context : MarketContext) (desk : Desk)

theorem unblocked_iff :
    engine.blocking context desk = [] ↔ ∀ name ∈ engine.filters.enabled,
      ∀ result ∈ filterNamed engine.filters desk.signals.history context desk.now name, result.passed = true := by
  rw [blocking, List.filter_eq_nil_iff]
  constructor
  · intro all name enabled result given
    have kept := all result (List.mem_filterMap.mpr ⟨name, enabled, given⟩)
    simpa using kept
  · intro all result member
    obtain ⟨name, enabled, given⟩ := List.mem_filterMap.mp member
    simp [all name enabled result given]

theorem accepts_iff :
    engine.accepts evaluation context desk = true ↔
      engine.thresholdRejections evaluation
        (engine.consensus desk.signals.history evaluation.symbol evaluation.active context)
        (engine.confidence evaluation.active
          (engine.consensus desk.signals.history evaluation.symbol evaluation.active context) context).1 = [] ∧
        engine.blocking context desk = [] := by
  rw [accepts, rejections, List.isEmpty_iff, List.append_eq_nil_iff, List.map_eq_nil_iff]

theorem not_accepts_iff (some : evaluation.active ≠ []) (same : context.symbol = evaluation.symbol) :
    ¬ engine.accepts evaluation context desk = true ↔
      RefusedOtherwise engine evaluation context desk ∨ Seen engine.filters evaluation.symbol desk := by
  rw [accepts_iff, unblocked_iff]
  constructor
  · intro refused
    by_cases thresholds : engine.thresholdRejections evaluation
        (engine.consensus desk.signals.history evaluation.symbol evaluation.active context)
        (engine.confidence evaluation.active
          (engine.consensus desk.signals.history evaluation.symbol evaluation.active context) context).1 = []
    · rw [not_and] at refused
      have blocked := refused thresholds
      push Not at blocked
      obtain ⟨name, enabled, result, given, failed⟩ := blocked
      by_cases correlation : name = "correlation"
      · rw [correlation] at enabled given
        rw [correlation_named, Option.mem_some_iff] at given
        have seen : ¬ (correlationFilter engine.filters (desk.signals.history.recentDecisions 50) context desk.now).passed =
            true := given ▸ failed
        rw [correlation_passes] at seen
        push Not at seen
        obtain ⟨group, grouped, decision, recent, blocks⟩ := seen
        rw [same] at grouped blocks
        exact .inr ⟨enabled, group, grouped, decision, recent, blocks⟩
      · exact .inl (.inr (.inr ⟨name, enabled, correlation, result, given, Bool.eq_false_iff.mpr failed⟩))
    · exact .inl (.inr (.inl thresholds))
  · intro grounds passes
    cases grounds with
    | inl otherwise =>
        rcases otherwise with empty | thresholds | ⟨name, enabled, -, result, given, failed⟩
        · exact some empty
        · exact thresholds passes.1
        · exact Bool.false_ne_true (failed.symm.trans (passes.2 name enabled result given))
    | inr seen =>
        obtain ⟨enabled, group, grouped, decision, recent, blocks⟩ := seen
        have passed := passes.2 "correlation" enabled _ (Option.mem_some_iff.mpr rfl)
        rw [correlation_passes, same] at passed
        exact passed group grouped decision recent blocks

end

theorem not_together_append (settings : QuantFiltersSettings) (resolutions : List Resolution) (last : Resolution)
    (previous : NotTogether settings resolutions) :
    NotTogether settings (resolutions ++ [last]) ↔
      ((∃ resolution ∈ resolutions, resolution.accepted = true ∧
        Correlated settings resolution.decision last.decision.symbol last.decision.timestamp) →
        ¬ last.accepted = true) := by
  rw [NotTogether, List.filter_append, List.pairwise_append]
  constructor
  · intro all correlated accepted
    obtain ⟨resolution, member, earlier, together⟩ := correlated
    exact all.2.2 resolution (List.mem_filter.mpr ⟨member, earlier⟩) last
      (List.mem_filter.mpr ⟨List.mem_singleton_self last, accepted⟩) together
  · intro refuses
    refine ⟨previous, (List.pairwise_singleton _ last).filter _, fun resolution earlier later member together => ?_⟩
    obtain ⟨inside, accepted⟩ := List.mem_filter.mp member
    rw [List.mem_singleton.mp inside] at accepted together
    exact refuses ⟨resolution, List.mem_of_mem_filter earlier, (List.mem_filter.mp earlier).2, together⟩ accepted

theorem resolve_exact (engine : DecisionEngine) (evaluation : Evaluation) (context : MarketContext) (desk : Desk)
    (some : evaluation.active ≠ []) (same : context.symbol = evaluation.symbol)
    (previous : NotTogether engine.filters desk.resolutions) :
    NotTogether engine.filters (engine.conclude evaluation context desk).2.resolutions ↔
      ((∃ resolution ∈ desk.resolutions, resolution.accepted = true ∧
        Correlated engine.filters resolution.decision evaluation.symbol evaluation.began) →
        RefusedOtherwise engine evaluation context desk ∨ Seen engine.filters evaluation.symbol desk) := by
  rw [← not_accepts_iff engine evaluation context desk some same, engine.conclude_resolve evaluation context desk some]
  exact not_together_append engine.filters desk.resolutions _ previous

theorem step_exact (engine : DecisionEngine) (desk : Desk) (call : DecisionCall)
    (previous : NotTogether engine.filters desk.resolutions) :
    NotTogether engine.filters (step engine desk call).resolutions ↔ NoticesCorrelated engine desk call := by
  cases call with
  | submit signal => exact iff_of_true previous trivial
  | elapse micros => exact iff_of_true previous trivial
  | evaluate symbol waited context =>
      cases context with
      | none => exact iff_of_true previous trivial
      | some context =>
          rw [step_evaluate]
          by_cases empty : (begin_ symbol desk).1.active = []
          · refine iff_of_true ?_ (fun _ => .inl (.inl empty))
            rw [engine.conclude_empty _ _ _ empty]
            exact previous
          · exact resolve_exact engine (begin_ symbol desk).1 { context with symbol := upper symbol }
              (elapse waited (begin_ symbol desk).2) empty rfl previous

-- No two symbols that share a group are traded together in exactly the runs in
-- which each evaluation that a decision for another symbol of a shared group
-- precedes within the window is refused on other grounds, or sees such a
-- decision in the first group of its symbol, among the last fifty.
theorem correlated_apart_iff (engine : DecisionEngine) (desk : Desk) (calls : List DecisionCall) :
    Always (step engine) (fun reached => NotTogether engine.filters reached.resolutions) { desk with resolutions := [] }
        calls ↔
      Each (step engine) (NoticesCorrelated engine) { desk with resolutions := [] } calls :=
  Run.always_iff (step engine) (fun reached => NotTogether engine.filters reached.resolutions) (NoticesCorrelated engine)
    (fun reached => NotTogether engine.filters reached.resolutions) (fun _ inv => inv)
    (fun reached call inv => step_exact engine reached call inv)
    (fun reached call inv notices => (step_exact engine reached call inv).mpr notices) { desk with resolutions := [] } calls
    List.Pairwise.nil

instance decidableCorrelated (settings : QuantFiltersSettings) (earlier : Decision) (symbol : String) (moment : Moment) :
    Decidable (Correlated settings earlier symbol moment) :=
  inferInstanceAs (Decidable (_ ∧ _ ∧ _))

instance decidableNotTogether (settings : QuantFiltersSettings) (resolutions : List Resolution) :
    Decidable (NotTogether settings resolutions) :=
  inferInstanceAs (Decidable (List.Pairwise _ _))

def grouped (groups : List (List String)) : DecisionEngine where
  filters := { correlationGroups := groups }
  consensus := fun _ symbol signals _ => WeightedAverage.build 1 .empty symbol signals
  confidence := fun signals consensus context => ConfidenceEngine.compute {} .empty signals consensus context

def buySignal (name symbol : String) : StrategySignal where
  signalId := name
  strategyName := "trend"
  symbol := symbol
  timestamp := 0
  direction := .long
  confidence := 9 / 10
  score := 80
  reasons := ["momentum"]

def evaluated (symbol : String) : DecisionCall :=
  .evaluate symbol 0 (some { symbol := symbol, sessions := ["europe"], dataQuality := 1 })

-- The bitcoin is looked up in its first group alone; and fifty decisions on a
-- symbol without signals push the one that counts out of sight.
theorem second_group_overlooked :
    (¬ NotTogether (grouped [["BTCUSDT", "ETHUSDT"], ["BTCUSDT", "SOLUSDT"]]).filters
      (final (step (grouped [["BTCUSDT", "ETHUSDT"], ["BTCUSDT", "SOLUSDT"]])) { now := 0 }
        [.submit (buySignal "a" "SOLUSDT"), evaluated "SOLUSDT", .submit (buySignal "b" "BTCUSDT"),
          evaluated "BTCUSDT"]).resolutions) ∧
      ¬ NotTogether (grouped [["BTCUSDT", "ETHUSDT"]]).filters
        (final (step (grouped [["BTCUSDT", "ETHUSDT"]])) { now := 0 }
          ([.submit (buySignal "a" "ETHUSDT"), evaluated "ETHUSDT", .submit (buySignal "b" "BTCUSDT")] ++
            List.replicate 50 (evaluated "XAUUSD") ++ [evaluated "BTCUSDT"])).resolutions := by
  decide +kernel

end QuantEngine.CorrelationWindow
