import QuantEngine.Evaluation.Tracker

set_option autoImplicit false

namespace QuantEngine.Evaluation

open QuantEngine.Calendar QuantEngine.Candles

-- `None` without a resolution.
def StrategyPerformance.expectancyR (perf : StrategyPerformance) : Option ℚ :=
  if perf.rValues = [] then none else some (perf.rValues.sum / perf.rValues.length)

namespace PerformanceTracker

-- Neutral below a sample of ten.
def factor (tracker : PerformanceTracker) (strategy : String) : ℚ :=
  match tracker.stats.lookup strategy with
  | none => 1 / 2
  | some perf =>
      if perf.evaluated < 10 then 1 / 2
      else max 0 (min 1 (1 / 2 + max (-1) (min 1 (perf.expectancyR.getD 0)) / 2))

theorem factor_bounds (tracker : PerformanceTracker) (strategy : String) :
    0 ≤ tracker.factor strategy ∧ tracker.factor strategy ≤ 1 := by
  rw [factor]
  split
  · constructor <;> norm_num
  · split
    · constructor <;> norm_num
    · exact ⟨le_max_left _ _, max_le zero_le_one (min_le_left _ _)⟩

def openTrades (tracker : PerformanceTracker) (strategy : String) : Nat :=
  (tracker.opened.values.filter (fun trade => decide (trade.strategy = strategy))).length

-- A trade and what it came to.
abbrev Resolution := VirtualTrade × Closing

def resolveEach (tracker : PerformanceTracker) (closed : List Resolution) : PerformanceTracker :=
  closed.foldl (fun tracker entry => tracker.resolve entry.1 entry.2) tracker

end PerformanceTracker

open PerformanceTracker

-- The signals that a step counts, and the trades that it resolves.
def counted (tracker : PerformanceTracker) : Action → List StrategySignal
  | .record record =>
      if tracker.settings.enabled = false ∨ record.signal.signalId ∈ tracker.seenSet then [] else [record.signal]
  | .pass _ _ => []

def resolved (tracker : PerformanceTracker) : Action → List Resolution
  | .record _ => []
  | .pass market moment => tracker.opened.values.filterMap (fun trade =>
      (closingOf tracker.settings market moment trade).map (fun closing => (trade, closing)))

-- All of a run, in its order.
def gather {β : Type} (each : PerformanceTracker → Action → List β) (tracker : PerformanceTracker) : List Action → List β
  | [] => []
  | action :: rest => each tracker action ++ gather each (step tracker action) rest

-- The values in R of the trades of a strategy.
def rValuesOf (strategy : String) (closed : List Resolution) : List ℚ :=
  (closed.filter (fun entry => decide (entry.1.strategy = strategy))).map (fun entry => entry.2.1.rValue)

def signalsOf (strategy : String) (signals : List StrategySignal) : List StrategySignal :=
  signals.filter (fun signal => decide (signal.strategyName = strategy))

-- The last identifiers that were counted.
def window (signals : List StrategySignal) : List String := Deque.newest seenLimit (signals.map StrategySignal.signalId)

-- The counters of every strategy balance, where `signals` were counted and
-- `closed` resolved on the way.
structure Balanced (tracker : PerformanceTracker) (signals : List StrategySignal) (closed : List Resolution) : Prop where
  results : ∀ strategy, (tracker.perf strategy).evaluated =
    (tracker.perf strategy).wins + (tracker.perf strategy).losses + (tracker.perf strategy).timeouts
  tracked : ∀ strategy, (tracker.perf strategy).tracked = (tracker.perf strategy).evaluated + tracker.openTrades strategy
  gross : ∀ strategy, (tracker.perf strategy).grossWinR - (tracker.perf strategy).grossLossR = (rValuesOf strategy closed).sum
  falseSignals : ∀ strategy, (tracker.perf strategy).falseSignals ≤ (tracker.perf strategy).losses
  counted : ∀ strategy, (tracker.perf strategy).signals = (signalsOf strategy signals).length
  once : (window signals).Nodup ∧
    ∀ record : SignalRecord, record.signal.signalId ∈ window signals → tracker.onSignalRecord record = tracker
  factor : ∀ strategy, 0 ≤ tracker.factor strategy ∧ tracker.factor strategy ≤ 1

namespace PerformanceTracker

theorem perf_set (tracker : PerformanceTracker) (perf : StrategyPerformance) (strategy : String) :
    (tracker.setPerf perf).perf strategy = if strategy = perf.strategy then perf else tracker.perf strategy := by
  rw [PerformanceTracker.perf, setPerf, Dict.lookup_insert]
  split <;> rfl

-- The trade of a closing that is a false signal was lost.
def Sound (closing : Closing) : Prop := closing.1.falseSignal = true → closing.1.result = .loss

theorem touched_sound (settings : QuantEvaluationSettings) (trade : VirtualTrade) (index : Nat) (candle : MarketCandle)
    (closing : Closing) (found : touched settings trade index candle = some closing) : Sound closing := by
  rw [touched] at found
  split at found
  · cases found
    exact fun _ => rfl
  · obtain ⟨target, -, rfl⟩ := Option.map_eq_some_iff.mp found
    intro false_
    cases false_

theorem scan_sound (settings : QuantEvaluationSettings) (trade : VirtualTrade) (index : Nat) (candles : List MarketCandle)
    (closing : Closing) (found : scan settings trade index candles = some closing) : Sound closing := by
  induction candles generalizing index with
  | nil => cases found
  | cons candle rest ih =>
      rw [scan, Option.or_eq_some_iff] at found
      cases found with
      | inl here => exact touched_sound settings trade index candle closing here
      | inr later => exact ih (index + 1) later.2

theorem closing_sound (settings : QuantEvaluationSettings) (market : Market) (moment : Moment) (trade : VirtualTrade)
    (closing : Closing) (found : closingOf settings market moment trade = some closing) : Sound closing := by
  rw [closingOf, evaluateTrade] at found
  split at found
  · rename_i scanned
    cases found
    exact scan_sound settings trade 0 _ closing scanned
  · split at found
    · cases found
      intro false_
      cases false_
    · cases found

-- What the resolutions of a strategy add up to in its performance.
structure Account (limit : Nat) (perf : StrategyPerformance) (values : List ℚ) : Prop where
  results : perf.evaluated = perf.wins + perf.losses + perf.timeouts
  falseSignals : perf.falseSignals ≤ perf.losses
  evaluated : perf.evaluated = values.length
  rValues : perf.rValues = Deque.newest limit values
  gross : perf.grossWinR - perf.grossLossR = values.sum

theorem account_add (limit : Nat) (perf : StrategyPerformance) (values : List ℚ) (trade : VirtualTrade) (closing : Closing)
    (account : Account limit perf values) (sound : Sound closing) :
    Account limit (StrategyPerformance.add limit trade perf closing) (values ++ [closing.1.rValue]) where
  results := by
    have before := account.results
    cases result : closing.1.result <;> simp [StrategyPerformance.add, result] <;> omega
  falseSignals := by
    have before := account.falseSignals
    by_cases wrong : closing.1.falseSignal = true
    · simp [StrategyPerformance.add, wrong, sound wrong, before]
    · simp only [StrategyPerformance.add, if_neg wrong]
      split <;> omega
  evaluated := by
    rw [List.length_append, ← account.evaluated]
    rfl
  rValues := by
    have pushed : (StrategyPerformance.add limit trade perf closing).rValues = Deque.push limit perf.rValues closing.1.rValue := rfl
    rw [pushed, account.rValues, Deque.push, Deque.newest_append_newest]
  gross := by
    have before := account.gross
    rw [List.sum_append, List.sum_singleton, ← before, StrategyPerformance.add]
    dsimp only
    split <;> ring

-- The books of a tracker: each strategy's account, and the window of the
-- identifiers that it has counted last.
structure Books (tracker : PerformanceTracker) (signals : List StrategySignal) (closed : List Resolution) : Prop where
  keyed : Keyed tracker
  named : ∀ strategy, (tracker.perf strategy).strategy = strategy
  accounts : ∀ strategy, Account tracker.settings.rHistoryLimit (tracker.perf strategy) (rValuesOf strategy closed)
  reports : ∀ strategy, (tracker.perf strategy).signals = (signalsOf strategy signals).length
  seen : tracker.seen = window signals
  seenSet : ∀ signalId, signalId ∈ tracker.seenSet ↔ signalId ∈ tracker.seen
  distinct : tracker.seen.Nodup

theorem new_books (settings : QuantEvaluationSettings) : Books (new settings) [] [] where
  keyed := new_keyed settings
  named _ := rfl
  accounts strategy := ⟨rfl, le_refl _, rfl, by simp [PerformanceTracker.perf, new, Dict.lookup, Dict.empty, rValuesOf, Deque.newest],
    by simp [PerformanceTracker.perf, new, Dict.lookup, Dict.empty, rValuesOf]⟩
  reports _ := rfl
  seen := by simp [new, window, Deque.newest]
  seenSet _ := Iff.rfl
  distinct := List.nodup_nil

theorem r_values_append (strategy : String) (closed : List Resolution) (entry : Resolution) :
    rValuesOf strategy (closed ++ [entry]) =
      if entry.1.strategy = strategy then rValuesOf strategy closed ++ [entry.2.1.rValue] else rValuesOf strategy closed := by
  by_cases here : entry.1.strategy = strategy
  · simp [rValuesOf, here]
  · simp [rValuesOf, here]

theorem resolve_perf (tracker : PerformanceTracker) (named : ∀ strategy, (tracker.perf strategy).strategy = strategy)
    (trade : VirtualTrade) (closing : Closing) (strategy : String) :
    (tracker.resolve trade closing).perf strategy =
      if strategy = trade.strategy then
        StrategyPerformance.add tracker.settings.rHistoryLimit trade (tracker.perf trade.strategy) closing
      else tracker.perf strategy := by
  have own : (StrategyPerformance.add tracker.settings.rHistoryLimit trade (tracker.perf trade.strategy) closing).strategy =
      trade.strategy := named trade.strategy
  have set := perf_set tracker (StrategyPerformance.add tracker.settings.rHistoryLimit trade (tracker.perf trade.strategy) closing)
    strategy
  rw [own] at set
  exact set

theorem resolve_named (tracker : PerformanceTracker) (named : ∀ strategy, (tracker.perf strategy).strategy = strategy)
    (trade : VirtualTrade) (closing : Closing) (strategy : String) :
    ((tracker.resolve trade closing).perf strategy).strategy = strategy := by
  rw [resolve_perf tracker named]
  split
  · rename_i here
    exact (named trade.strategy).trans here.symm
  · exact named strategy

theorem resolve_books (tracker : PerformanceTracker) (signals : List StrategySignal) (closed : List Resolution)
    (books : Books tracker signals closed) (trade : VirtualTrade) (closing : Closing) (sound : Sound closing) :
    Books (tracker.resolve trade closing) signals (closed ++ [(trade, closing)]) where
  keyed := by
    intro signalId other found
    have erased : (tracker.opened.erase trade.signalId).lookup signalId = some other := found
    rw [Dict.lookup_erase] at erased
    split at erased
    · cases erased
    · exact books.keyed signalId other erased
  named := resolve_named tracker books.named trade closing
  accounts := by
    intro strategy
    rw [resolve_perf tracker books.named, r_values_append]
    by_cases here : strategy = trade.strategy
    · subst here
      rw [if_pos rfl, if_pos rfl]
      exact account_add _ _ _ trade closing (books.accounts trade.strategy) sound
    · rw [if_neg here, if_neg (fun same => here same.symm)]
      exact books.accounts strategy
  reports := by
    intro strategy
    rw [resolve_perf tracker books.named, ← books.reports strategy]
    split
    · rename_i here
      rw [here]
      rfl
    · rfl
  seen := books.seen
  seenSet := books.seenSet
  distinct := books.distinct

theorem resolve_each_books (tracker : PerformanceTracker) (signals : List StrategySignal) (closed fresh : List Resolution)
    (books : Books tracker signals closed) (sound : ∀ entry ∈ fresh, Sound entry.2) :
    Books (tracker.resolveEach fresh) signals (closed ++ fresh) := by
  induction fresh generalizing tracker closed with
  | nil =>
      rw [List.append_nil]
      exact books
  | cons entry rest ih =>
      have now := resolve_books tracker signals closed books entry.1 entry.2 (sound entry List.mem_cons_self)
      have later := ih _ _ now (fun other member => sound other (List.mem_cons_of_mem _ member))
      rw [List.append_assoc] at later
      exact later

-- A pass resolves the trades that close, in the order of the map.
theorem pass_resolves (tracker : PerformanceTracker) (market : Market) (moment : Moment) :
    (tracker.evaluateOpen market moment).1 = tracker.resolveEach (resolved tracker (.pass market moment)) := by
  have each (trades : List VirtualTrade) (turn : PerformanceTracker × Nat) :
      (trades.foldl (evaluateOne market moment) turn).1 = turn.1.resolveEach (trades.filterMap (fun trade =>
        (closingOf turn.1.settings market moment trade).map (fun closing => (trade, closing)))) := by
    induction trades generalizing turn with
    | nil => rfl
    | cons trade rest ih =>
        rw [List.foldl_cons, ih, (evaluate_one market moment turn trade).1, List.filterMap_cons, evaluateOne]
        cases closingOf turn.1.settings market moment trade with
        | none => rfl
        | some closing => rfl
  exact each tracker.opened.values (tracker, 0)

theorem mem_resolved (tracker : PerformanceTracker) (market : Market) (moment : Moment) (entry : Resolution)
    (member : entry ∈ resolved tracker (.pass market moment)) :
    entry.1 ∈ tracker.opened.values ∧ closingOf tracker.settings market moment entry.1 = some entry.2 := by
  obtain ⟨trade, here, closes⟩ := List.mem_filterMap.mp member
  obtain ⟨closing, found, rfl⟩ := Option.map_eq_some_iff.mp closes
  exact ⟨here, found⟩

theorem see_pushed (tracker : PerformanceTracker) (signalId : String) :
    (tracker.see signalId).seen = Deque.push seenLimit tracker.seen signalId := by
  rw [see]

theorem resolved_ids (tracker : PerformanceTracker) (market : Market) (moment : Moment) :
    ((resolved tracker (.pass market moment)).map (fun entry => entry.1.signalId)).Sublist
      (tracker.opened.values.map VirtualTrade.signalId) := by
  rw [resolved]
  induction tracker.opened.values with
  | nil => exact List.Sublist.slnil
  | cons trade rest ih =>
      rw [List.filterMap_cons]
      cases closingOf tracker.settings market moment trade with
      | none => exact ih.cons _
      | some closing => exact ih.cons_cons _

-- The window has dropped its oldest identifier, if it was full, and so has the set.
theorem see_window (tracker : PerformanceTracker) (signals : List StrategySignal) (signal : StrategySignal)
    (seen : tracker.seen = window signals) : (tracker.see signal.signalId).seen = window (signals ++ [signal]) := by
  rw [see_pushed, seen, window, window, Deque.push, Deque.newest_append_newest, List.map_append, List.map_singleton]

theorem see_seen (tracker : PerformanceTracker) (signalId : String) (bounded : tracker.seen.length ≤ seenLimit) :
    (tracker.see signalId).seen =
      (if tracker.seen.length = seenLimit then tracker.seen.tail else tracker.seen) ++ [signalId] := by
  have room : 0 < seenLimit := by norm_num [seenLimit]
  rw [see_pushed, Deque.push_eq seenLimit tracker.seen signalId room bounded]

theorem see_set (tracker : PerformanceTracker) (signalId : String) (bounded : tracker.seen.length ≤ seenLimit)
    (distinct : tracker.seen.Nodup) (seenSet : ∀ other, other ∈ tracker.seenSet ↔ other ∈ tracker.seen) (other : String) :
    other ∈ (tracker.see signalId).seenSet ↔ other ∈ (tracker.see signalId).seen := by
  have kept : (tracker.see signalId).seenSet =
      (if tracker.seen.length = seenLimit then tracker.seenSet.filter (fun other => decide (some other ≠ tracker.seen.head?))
        else tracker.seenSet) ++ [signalId] := by
    rw [see]
  rw [kept, see_seen tracker signalId bounded, List.mem_append, List.mem_append]
  by_cases full : tracker.seen.length = seenLimit
  · rw [if_pos full, if_pos full, List.mem_filter, decide_eq_true_eq, seenSet]
    cases window : tracker.seen with
    | nil => simp
    | cons oldest newer =>
        rw [window] at distinct
        have gone := (List.nodup_cons.mp distinct).1
        have newest : other ∈ oldest :: newer ∧ some other ≠ (oldest :: newer).head? ↔ other ∈ newer := by
          rw [List.mem_cons, List.head?_cons]
          constructor
          · intro both
            exact both.1.resolve_left (fun same => both.2 (congrArg some same))
          · intro member
            refine ⟨.inr member, fun same => gone ?_⟩
            rw [← Option.some.inj same]
            exact member
        rw [newest, List.tail_cons]
  · rw [if_neg full, if_neg full, seenSet]

theorem see_distinct (tracker : PerformanceTracker) (signalId : String) (bounded : tracker.seen.length ≤ seenLimit)
    (distinct : tracker.seen.Nodup) (absent : signalId ∉ tracker.seen) : (tracker.see signalId).seen.Nodup := by
  rw [see_seen tracker signalId bounded, List.nodup_append']
  split
  · refine ⟨distinct.sublist (List.tail_sublist _), List.nodup_singleton _, List.disjoint_singleton.mpr ?_⟩
    exact fun member => absent (List.mem_of_mem_tail member)
  · exact ⟨distinct, List.nodup_singleton _, List.disjoint_singleton.mpr absent⟩

theorem virtual_trade_strategy (settings : QuantEvaluationSettings) (signal : StrategySignal) (trade : VirtualTrade)
    (made : virtualTrade settings signal = some trade) : trade.strategy = signal.strategyName := by
  rw [virtualTrade] at made
  split at made
  · dsimp only at made
    split at made
    · cases made
    · cases made
      rfl
  · cases made

-- What a signal changes in the performance of its strategy.
def noted (perf : StrategyPerformance) (opened : Bool) : StrategyPerformance :=
  { perf with signals := perf.signals + 1, tracked := perf.tracked + if opened then 1 else 0 }

theorem track_perf (tracker : PerformanceTracker) (named : ∀ strategy, (tracker.perf strategy).strategy = strategy)
    (signal : StrategySignal) (strategy : String) :
    (tracker.track signal).perf strategy =
      if strategy = signal.strategyName then noted (tracker.perf strategy) (virtualTrade tracker.settings signal).isSome
      else tracker.perf strategy := by
  have set := perf_set tracker (noted (tracker.perf signal.strategyName) (virtualTrade tracker.settings signal).isSome) strategy
  have own : (noted (tracker.perf signal.strategyName) (virtualTrade tracker.settings signal).isSome).strategy =
      signal.strategyName := named signal.strategyName
  have tracked : (tracker.track signal).perf =
      (tracker.setPerf (noted (tracker.perf signal.strategyName) (virtualTrade tracker.settings signal).isSome)).perf := by
    rw [track]
    cases virtualTrade tracker.settings signal with
    | none => rfl
    | some trade => rfl
  rw [own] at set
  rw [tracked, set]
  split
  · rename_i here
    rw [here]
  · rfl

theorem track_frame (tracker : PerformanceTracker) (signal : StrategySignal) :
    (tracker.track signal).settings = tracker.settings ∧ (tracker.track signal).seen = tracker.seen ∧
      (tracker.track signal).seenSet = tracker.seenSet := by
  rw [track]
  cases virtualTrade tracker.settings signal with
  | none => exact ⟨rfl, rfl, rfl⟩
  | some trade => exact ⟨rfl, rfl, rfl⟩

theorem see_perf (tracker : PerformanceTracker) (signalId : String) : (tracker.see signalId).perf = tracker.perf := by
  have stats : (tracker.see signalId).stats = tracker.stats := by
    rw [see]
  funext strategy
  rw [PerformanceTracker.perf, stats, PerformanceTracker.perf]

theorem track_books (tracker : PerformanceTracker) (signals : List StrategySignal) (closed : List Resolution)
    (books : Books tracker signals closed) (signal : StrategySignal) (fresh : signal.signalId ∉ tracker.seenSet) :
    Books ((tracker.see signal.signalId).track signal) (signals ++ [signal]) closed := by
  let seen := tracker.see signal.signalId
  have kept := see_kept tracker signal.signalId
  have same : seen.perf = tracker.perf := see_perf tracker signal.signalId
  have frame := track_frame seen signal
  have perf := track_perf seen (by rw [same]; exact books.named) signal
  have bounded : tracker.seen.length ≤ seenLimit := by
    rw [books.seen, window, Deque.newest_length]
    exact Nat.min_le_left _ _
  have window := see_window tracker signals signal books.seen
  have set := see_set tracker signal.signalId bounded books.distinct books.seenSet
  have distinct := see_distinct tracker signal.signalId bounded books.distinct (fun member => fresh ((books.seenSet _).mpr member))
  constructor
  · apply track_keyed
    intro signalId trade found
    rw [kept.2.2] at found
    exact books.keyed signalId trade found
  · intro strategy
    rw [perf strategy, same]
    split <;> exact books.named strategy
  · intro strategy
    have account := books.accounts strategy
    rw [perf strategy, same, frame.1, kept.1]
    split
    · exact ⟨account.results, account.falseSignals, account.evaluated, account.rValues, account.gross⟩
    · exact account
  · intro strategy
    rw [perf strategy, same, signalsOf, List.filter_append, List.length_append]
    have before := books.reports strategy
    rw [signalsOf] at before
    by_cases here : strategy = signal.strategyName
    · have grown (perf : StrategyPerformance) (opened : Bool) : (noted perf opened).signals = perf.signals + 1 := rfl
      rw [if_pos here, grown, before]
      simp [here]
    · rw [if_neg here, before]
      simp [Ne.symm here]
  · exact frame.2.1.trans window
  · intro other
    rw [frame.2.2, frame.2.1]
    exact set other
  · rw [frame.2.1]
    exact distinct

end PerformanceTracker

theorem step_books (tracker : PerformanceTracker) (signals : List StrategySignal) (closed : List Resolution)
    (books : Books tracker signals closed) (action : Action) :
    Books (step tracker action) (signals ++ counted tracker action) (closed ++ resolved tracker action) := by
  cases action with
  | record record =>
      rw [step, onSignalRecord, counted, resolved, List.append_nil]
      split
      · rw [List.append_nil]
        exact books
      · rename_i accepted
        exact track_books tracker signals closed books record.signal (not_or.mp accepted).2
  | pass market moment =>
      rw [step, counted, List.append_nil, pass_resolves]
      exact resolve_each_books tracker signals closed _ books
        (fun entry member => closing_sound _ _ _ _ _ (mem_resolved tracker market moment entry member).2)

theorem run_books (tracker : PerformanceTracker) (signals : List StrategySignal) (closed : List Resolution)
    (books : Books tracker signals closed) (actions : List Action) :
    Books (Run.final step tracker actions) (signals ++ gather counted tracker actions)
      (closed ++ gather resolved tracker actions) := by
  induction actions generalizing tracker signals closed with
  | nil =>
      rw [gather, gather, List.append_nil, List.append_nil]
      exact books
  | cons action rest ih =>
      have later := ih _ _ _ (step_books tracker signals closed books action)
      rw [List.append_assoc, List.append_assoc] at later
      exact later

end QuantEngine.Evaluation
