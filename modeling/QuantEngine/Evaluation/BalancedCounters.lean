import QuantEngine.Evaluation.CounterBooks

set_option autoImplicit false

namespace QuantEngine.Evaluation

open QuantEngine.Calendar QuantEngine.Candles
open PerformanceTracker

-- A record does not put its trade in the place of one that is still open.
def Spares (tracker : PerformanceTracker) : Action → Prop
  | .record record => tracker.settings.enabled = false ∨ record.signal.signalId ∈ tracker.seenSet ∨
      virtualTrade tracker.settings record.signal = none ∨ tracker.opened.lookup record.signal.signalId = none
  | .pass _ _ => True

-- How many trades of a strategy were tracked and are neither open nor evaluated.
def lost (tracker : PerformanceTracker) (strategy : String) : Int :=
  (tracker.perf strategy).tracked - (tracker.perf strategy).evaluated - tracker.openTrades strategy

namespace PerformanceTracker

def ofStrategy (strategy : String) (trade : VirtualTrade) : Nat := if trade.strategy = strategy then 1 else 0

theorem open_trades_total (tracker : PerformanceTracker) (strategy : String) :
    tracker.openTrades strategy = tracker.opened.total (fun entry => ofStrategy strategy entry.2) := by
  rw [openTrades, Dict.total, Dict.values]
  induction tracker.opened.entries with
  | nil => rfl
  | cons entry rest ih =>
      rw [List.map_cons, List.filter_cons, List.map_cons, List.sum_cons, ← ih, ofStrategy]
      by_cases here : entry.2.strategy = strategy
      · simp [here, add_comm]
      · simp [here]

theorem resolve_lost (tracker : PerformanceTracker) (named : ∀ strategy, (tracker.perf strategy).strategy = strategy)
    (trade : VirtualTrade) (closing : Closing) (found : tracker.opened.lookup trade.signalId = some trade) (strategy : String) :
    lost (tracker.resolve trade closing) strategy = lost tracker strategy := by
  have closed : (tracker.resolve trade closing).opened = tracker.opened.erase trade.signalId := rfl
  have fewer := Dict.total_erase (fun entry => ofStrategy strategy entry.2) tracker.opened trade.signalId trade found
  have added (limit : Nat) (perf : StrategyPerformance) : (StrategyPerformance.add limit trade perf closing).tracked = perf.tracked ∧
      (StrategyPerformance.add limit trade perf closing).evaluated = perf.evaluated + 1 := ⟨rfl, rfl⟩
  rw [lost, lost, open_trades_total, open_trades_total, closed, fewer, resolve_perf tracker named]
  dsimp only
  by_cases here : strategy = trade.strategy
  · have one : ofStrategy strategy trade = 1 := if_pos here.symm
    rw [if_pos here, (added _ _).1, (added _ _).2, one, here]
    push_cast
    ring
  · have zero : ofStrategy strategy trade = 0 := if_neg (fun same => here same.symm)
    rw [if_neg here, zero, zero_add]

theorem resolve_each_lost (tracker : PerformanceTracker) (named : ∀ strategy, (tracker.perf strategy).strategy = strategy)
    (closed : List Resolution) (distinct : (closed.map (fun entry => entry.1.signalId)).Nodup)
    (open_ : ∀ entry ∈ closed, tracker.opened.lookup entry.1.signalId = some entry.1) (strategy : String) :
    lost (tracker.resolveEach closed) strategy = lost tracker strategy := by
  induction closed generalizing tracker with
  | nil => rfl
  | cons entry rest ih =>
      obtain ⟨apart, later⟩ := List.nodup_cons.mp distinct
      have here := resolve_lost tracker named entry.1 entry.2 (open_ entry List.mem_cons_self) strategy
      have still : ∀ other ∈ rest, (tracker.resolve entry.1 entry.2).opened.lookup other.1.signalId = some other.1 := by
        intro other member
        have erased : (tracker.resolve entry.1 entry.2).opened = tracker.opened.erase entry.1.signalId := rfl
        have different : other.1.signalId ≠ entry.1.signalId := fun same =>
          apart (List.mem_map.mpr ⟨other, member, same⟩)
        rw [erased, Dict.lookup_erase, if_neg different]
        exact open_ other (List.mem_cons_of_mem _ member)
      exact (ih _ (resolve_named tracker named entry.1 entry.2) later still).trans here

-- The open trade of a strategy that a step puts another in the place of.
def replaced (tracker : PerformanceTracker) (strategy : String) : Action → Nat
  | .record record =>
      if tracker.settings.enabled = false ∨ record.signal.signalId ∈ tracker.seenSet then 0
      else match virtualTrade tracker.settings record.signal, tracker.opened.lookup record.signal.signalId with
        | some _, some old => ofStrategy strategy old
        | _, _ => 0
  | .pass _ _ => 0

theorem spares_iff (tracker : PerformanceTracker) (action : Action) :
    Spares tracker action ↔ ∀ strategy, replaced tracker strategy action = 0 := by
  cases action with
  | pass market moment => exact iff_of_true trivial (fun _ => rfl)
  | record record =>
      rw [Spares]
      simp only [replaced]
      by_cases refused : tracker.settings.enabled = false ∨ record.signal.signalId ∈ tracker.seenSet
      · simp only [if_pos refused, implies_true, iff_true]
        exact refused.elim .inl (fun seen => .inr (.inl seen))
      · obtain ⟨enabled, unseen⟩ := not_or.mp refused
        simp only [enabled, unseen, false_or]
        cases virtualTrade tracker.settings record.signal with
        | none => simp
        | some trade =>
            cases tracker.opened.lookup record.signal.signalId with
            | none => simp
            | some old =>
                have own : ofStrategy old.strategy old ≠ 0 := by simp [ofStrategy]
                simpa using ⟨old.strategy, own⟩

theorem track_idle (tracker : PerformanceTracker) (signal : StrategySignal) (nothing : virtualTrade tracker.settings signal = none) :
    (tracker.track signal).opened = tracker.opened := by
  rw [track, nothing]
  rfl

theorem track_opening (tracker : PerformanceTracker) (signal : StrategySignal) (trade : VirtualTrade)
    (made : virtualTrade tracker.settings signal = some trade) :
    (tracker.track signal).opened = tracker.opened.insert signal.signalId trade := by
  rw [track, made]

theorem track_lost (tracker : PerformanceTracker) (named : ∀ strategy, (tracker.perf strategy).strategy = strategy)
    (signal : StrategySignal) (strategy : String) :
    lost (tracker.track signal) strategy = lost tracker strategy +
      match virtualTrade tracker.settings signal, tracker.opened.lookup signal.signalId with
        | some _, some old => (ofStrategy strategy old : Int)
        | _, _ => 0 := by
  have evaluated (perf : StrategyPerformance) (opened : Bool) : (noted perf opened).evaluated = perf.evaluated := rfl
  have tracked (perf : StrategyPerformance) (opened : Bool) :
      (noted perf opened).tracked = perf.tracked + if opened then 1 else 0 := rfl
  rw [lost, lost, open_trades_total, open_trades_total, track_perf tracker named]
  cases made : virtualTrade tracker.settings signal with
  | none =>
      rw [track_idle tracker signal made]
      split
      · rw [tracked, evaluated]
        simp
      · simp
  | some trade =>
      have opened := track_opening tracker signal trade made
      have own := virtual_trade_strategy tracker.settings signal trade made
      have one : (if strategy = signal.strategyName then noted (tracker.perf strategy) (some trade).isSome
            else tracker.perf strategy).tracked = (tracker.perf strategy).tracked + ofStrategy strategy trade ∧
          (if strategy = signal.strategyName then noted (tracker.perf strategy) (some trade).isSome
            else tracker.perf strategy).evaluated = (tracker.perf strategy).evaluated := by
        rw [ofStrategy, own]
        by_cases here : strategy = signal.strategyName
        · rw [if_pos here, if_pos here.symm]
          exact ⟨rfl, rfl⟩
        · rw [if_neg here, if_neg (fun same => here same.symm)]
          exact ⟨rfl, rfl⟩
      rw [one.1, one.2, opened]
      cases found : tracker.opened.lookup signal.signalId with
      | none =>
          have fresh := (Dict.lookup_none_iff _ _).mp found
          have more := Dict.total_insert_fresh (fun entry => ofStrategy strategy entry.2) tracker.opened signal.signalId trade fresh
          rw [more]
          push_cast
          ring
      | some old =>
          have moved := Dict.total_insert_over (fun entry => ofStrategy strategy entry.2) tracker.opened signal.signalId old trade found
          dsimp only at moved ⊢
          omega

end PerformanceTracker

theorem step_lost (tracker : PerformanceTracker) (signals : List StrategySignal) (closed : List Resolution)
    (books : Books tracker signals closed) (action : Action) (strategy : String) :
    lost (step tracker action) strategy = lost tracker strategy + replaced tracker strategy action := by
  cases action with
  | record record =>
      rw [step, onSignalRecord, replaced]
      split
      · exact (add_zero _).symm
      · let seen := tracker.see record.signal.signalId
        have kept := see_kept tracker record.signal.signalId
        have same : seen.perf = tracker.perf := see_perf tracker record.signal.signalId
        have before : lost seen strategy = lost tracker strategy := by
          rw [lost, lost, openTrades, openTrades, same, kept.2.2]
        rw [track_lost seen (by rw [same]; exact books.named), before, kept.1, kept.2.2]
        split <;> rfl
  | pass market moment =>
      rw [step, replaced, pass_resolves]
      refine (resolve_each_lost tracker books.named _ ?_ ?_ strategy).trans (add_zero _).symm
      · have ids : tracker.opened.values.map VirtualTrade.signalId = tracker.opened.keys := by
          rw [Dict.values, Dict.keys, List.map_map]
          refine List.map_congr_left (fun entry member => ?_)
          exact books.keyed entry.1 entry.2 (Dict.lookup_of_mem _ _ _ member)
        have distinct : (tracker.opened.values.map VirtualTrade.signalId).Nodup := by
          rw [ids]
          exact tracker.opened.keys_nodup
        exact distinct.sublist (resolved_ids tracker market moment)
      · intro entry member
        obtain ⟨here, -⟩ := mem_resolved tracker market moment entry member
        obtain ⟨⟨key, trade⟩, listed, same⟩ := List.mem_map.mp here
        have found := Dict.lookup_of_mem _ _ _ listed
        cases same
        rw [books.keyed key _ found]
        exact found

-- Trades are lost for good, so none is lost in the end only where none was at any step.
theorem run_lost (tracker : PerformanceTracker) (signals : List StrategySignal) (closed : List Resolution)
    (books : Books tracker signals closed) (actions : List Action) (nonneg : ∀ strategy, 0 ≤ lost tracker strategy) :
    (∀ strategy, lost (Run.final step tracker actions) strategy = 0) ↔
      (∀ strategy, lost tracker strategy = 0) ∧ Run.Each step Spares tracker actions := by
  induction actions generalizing tracker signals closed with
  | nil => exact ⟨fun none => ⟨none, trivial⟩, And.left⟩
  | cons action rest ih =>
      have grows := step_lost tracker signals closed books action
      have later := ih (step tracker action) _ _ (step_books tracker signals closed books action)
        (fun strategy => by rw [grows]; exact Int.add_nonneg (nonneg strategy) (Int.natCast_nonneg _))
      have now : (∀ strategy, lost (step tracker action) strategy = 0) ↔
          (∀ strategy, lost tracker strategy = 0) ∧ Spares tracker action := by
        rw [spares_iff, ← forall_and]
        refine forall_congr' (fun strategy => ?_)
        have before := nonneg strategy
        rw [grows]
        omega
      exact later.trans ((and_congr_left' now).trans and_assoc)

theorem books_balanced (tracker : PerformanceTracker) (signals : List StrategySignal) (closed : List Resolution)
    (books : Books tracker signals closed) :
    Balanced tracker signals closed ↔ ∀ strategy, lost tracker strategy = 0 := by
  have exact_ (strategy : String) : lost tracker strategy = 0 ↔
      (tracker.perf strategy).tracked = (tracker.perf strategy).evaluated + tracker.openTrades strategy := by
    rw [lost]
    omega
  constructor
  · exact fun balanced strategy => (exact_ strategy).mpr (balanced.tracked strategy)
  · intro none
    exact
      { results := fun strategy => (books.accounts strategy).results
        tracked := fun strategy => (exact_ strategy).mp (none strategy)
        gross := fun strategy => (books.accounts strategy).gross
        falseSignals := fun strategy => (books.accounts strategy).falseSignals
        counted := books.reports
        once := by
          rw [← books.seen]
          refine ⟨books.distinct, fun record member => ?_⟩
          rw [onSignalRecord, if_pos (.inr ((books.seenSet _).mpr member))]
        factor := factor_bounds tracker }

theorem balanced_iff (settings : QuantEvaluationSettings) (actions : List Action) :
    Balanced (Run.final step (new settings) actions) (gather counted (new settings) actions)
        (gather resolved (new settings) actions) ↔
      Run.Each step Spares (new settings) actions := by
  have books := run_books (new settings) [] [] (new_books settings) actions
  have empty (strategy : String) : lost (new settings) strategy = 0 := rfl
  rw [List.nil_append, List.nil_append] at books
  rw [books_balanced _ _ _ books, run_lost (new settings) [] [] (new_books settings) actions (fun strategy => (empty strategy).ge)]
  exact and_iff_right empty

-- Signals of new identifiers that open nothing are counted, one after the other.
theorem idle_run (tracker : PerformanceTracker) (signals : List StrategySignal) (closed : List Resolution)
    (books : Books tracker signals closed) (enabled : tracker.settings.enabled = true) (records : List SignalRecord)
    (idle : ∀ record ∈ records, virtualTrade tracker.settings record.signal = none)
    (fresh : (signals.map StrategySignal.signalId ++ records.map (fun record => record.signal.signalId)).Nodup) :
    gather counted tracker (records.map Action.record) = records.map SignalRecord.signal ∧
      (Run.final step tracker (records.map Action.record)).opened = tracker.opened := by
  induction records generalizing tracker signals closed with
  | nil => exact ⟨rfl, rfl⟩
  | cons record rest ih =>
      have unseen : record.signal.signalId ∉ tracker.seenSet := by
        rw [books.seenSet, books.seen]
        intro member
        have old : record.signal.signalId ∈ signals.map StrategySignal.signalId := List.mem_of_mem_drop member
        exact List.disjoint_of_nodup_append fresh old List.mem_cons_self
      have accepted : ¬ (tracker.settings.enabled = false ∨ record.signal.signalId ∈ tracker.seenSet) := by
        simp [enabled, unseen]
      have one : counted tracker (.record record) = [record.signal] := if_neg accepted
      have effects := record_cases tracker record
      have opened : (tracker.onSignalRecord record).opened = tracker.opened := by
        have kept := see_kept tracker record.signal.signalId
        have nothing : virtualTrade (tracker.see record.signal.signalId).settings record.signal = none := by
          rw [kept.1]
          exact idle record List.mem_cons_self
        rw [onSignalRecord, if_neg accepted, track_idle _ _ nothing]
        exact kept.2.2
      have next := step_books tracker signals closed books (.record record)
      rw [one] at next
      have later := ih (tracker.onSignalRecord record) _ _ next (by rw [effects.1]; exact enabled)
        (fun other member => by rw [effects.1]; exact idle other (List.mem_cons_of_mem _ member))
        (by simpa using fresh)
      rw [List.map_cons, gather, one]
      exact ⟨congrArg (record.signal :: ·) later.1, later.2.trans opened⟩

-- A strategy's signal with an entry at 100 and a stop at 99, and others without a direction.
def opening : SignalRecord where
  signal :=
    { signalId := ""
      strategyName := "trend"
      symbol := "EURUSD"
      timestamp := 0
      direction := .long
      confidence := 1
      score := 1
      entryZone := some ⟨100, 100⟩
      stopLoss := some 99 }
  status := .accepted
  recordedAt := 0

def idle (n : Nat) : SignalRecord where
  signal :=
    { signalId := String.ofList (List.replicate (n + 1) 'x')
      strategyName := "trend"
      symbol := "EURUSD"
      timestamp := 0
      direction := .neutral
      confidence := 1
      score := 1 }
  status := .accepted
  recordedAt := 0

def idles (count : Nat) : List SignalRecord := (List.range count).map idle

-- A signal, a number of others, and the signal again.
def reportedAgain (count : Nat) : List Action := (.record opening :: (idles count).map Action.record) ++ [.record opening]

theorem opening_trades (settings : QuantEvaluationSettings) : ∃ trade, virtualTrade settings opening.signal = some trade := by
  have entry : ((100 : ℚ) + 100) / 2 = 100 := by norm_num
  have risk : ¬ (opening.signal.direction = .neutral ∨ |((100 : ℚ) + 100) / 2 - 99| ≤ 0) := by
    rw [entry]
    intro either
    cases either with
    | inl flat => cases flat
    | inr small => norm_num at small
  rw [virtualTrade]
  exact ⟨_, if_neg risk⟩

theorem idles_ids (count : Nat) :
    (opening.signal.signalId :: (idles count).map (fun record => record.signal.signalId)).Nodup := by
  have lengths : (opening.signal.signalId :: (idles count).map (fun record => record.signal.signalId)).map String.length =
      List.range (count + 1) := by
    rw [List.range_succ_eq_map, idles, List.map_cons, List.map_map, List.map_map]
    refine congrArg (List.cons 0) (List.map_congr_left (fun n _ => ?_))
    simp [idle]
  exact List.Nodup.of_map String.length (lengths ▸ List.nodup_range)

theorem idles_window (count : Nat) (long : seenLimit ≤ count) :
    opening.signal.signalId ∉ window (opening.signal :: (idles count).map SignalRecord.signal) := by
  have dropped : window (opening.signal :: (idles count).map SignalRecord.signal) =
      Deque.newest seenLimit (((idles count).map SignalRecord.signal).map StrategySignal.signalId) :=
    Deque.newest_suffix seenLimit [opening.signal.signalId] _ (by simpa [idles] using long)
  rw [dropped, List.map_map]
  exact fun member => (List.nodup_cons.mp (idles_ids count)).1 (List.mem_of_mem_drop member)

-- The window has dropped the identifier, and its trade is still open.
theorem reported_again_unspared (count : Nat) (long : seenLimit ≤ count) :
    ¬ Run.Each step Spares (new {}) (reportedAgain count) := by
  rw [reportedAgain, Run.each_append]
  intro both
  have last : Spares (Run.final step (step (new {}) (.record opening)) ((idles count).map Action.record)) (.record opening) :=
    both.2.1
  obtain ⟨trade, made⟩ := opening_trades {}
  have first := step_books (new {}) [] [] (new_books {}) (.record opening)
  have accepted : ¬ ((new {}).settings.enabled = false ∨ opening.signal.signalId ∈ (new {}).seenSet) := by simp [new]
  have one : counted (new {}) (.record opening) = [opening.signal] := by
    rw [counted, if_neg accepted]
  have opened : (step (new {}) (.record opening)).opened.lookup opening.signal.signalId = some trade := by
    have kept := see_kept (new {}) opening.signal.signalId
    have tracked := track_opening ((new {}).see opening.signal.signalId) opening.signal trade (by rw [kept.1]; exact made)
    rw [step, onSignalRecord, if_neg accepted, tracked, Dict.lookup_insert, if_pos rfl]
  have settings := step_settings (new {}) (.record opening)
  rw [one, List.nil_append] at first
  have idle_ := idle_run _ _ _ first (by rw [settings]; rfl) (idles count)
    (fun record member => by
      obtain ⟨n, -, rfl⟩ := List.mem_map.mp member
      rfl)
    (idles_ids count)
  have later := run_books _ _ _ first ((idles count).map Action.record)
  rw [idle_.1] at later
  have kept : (Run.final step (step (new {}) (.record opening)) ((idles count).map Action.record)).settings = {} :=
    Run.final_preserved step (fun tracker => tracker.settings = {})
      (fun tracker action same => (step_settings tracker action).trans same) _ _ settings
  rw [Spares, later.seenSet, later.seen, kept, idle_.2, made, opened] at last
  obtain off | seen | nothing | closed := last
  · cases off
  · exact idles_window count long seen
  · cases nothing
  · cases closed

theorem reported_again_unbalanced :
    ¬ Balanced (Run.final step (new {}) (reportedAgain seenLimit)) (gather counted (new {}) (reportedAgain seenLimit))
      (gather resolved (new {}) (reportedAgain seenLimit)) := by
  have books := run_books (new {}) [] [] (new_books {}) (reportedAgain seenLimit)
  rw [List.nil_append, List.nil_append] at books
  rw [books_balanced _ _ _ books, run_lost (new {}) [] [] (new_books {}) _ (fun _ => le_refl _)]
  exact fun both => reported_again_unspared seenLimit (le_refl _) both.2

end QuantEngine.Evaluation
