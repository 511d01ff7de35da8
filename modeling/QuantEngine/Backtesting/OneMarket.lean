import QuantEngine.Backtesting.QuantSource

set_option autoImplicit false

namespace QuantEngine.Backtesting.OneMarket

open QuantEngine.Calendar QuantEngine.Candles QuantEngine.Backtesting.QuantSource

-- The candles of a run up to one of them, and the ticker of that one.
def oneMarket (symbol : String) (spreadFrac : ℚ) (candles : List MarketCandle) (index : Nat) : LiveMarket :=
  let fed := (candles.take (index + 1)).foldl LiveMarket.updateCandle LiveMarket.new
  match candles[index]? with
  | none => fed
  | some last =>
      let half := last.close * spreadFrac / 2
      fed.updateTicker ⟨symbol, "backtest", last.close - half, last.close + half, none, last.end_, last.end_⟩

-- Identifiers are drawn anew for each decision.
def verdict (bar : Bar) : Option (Option DecisionGenerated) :=
  bar.decision.map (Option.map (fun decision => { decision with decisionId := "" }))

-- Every run of a sequence decides as a fresh source would, and at every bar all
-- components read the market of that run up to that bar.
def FromScratch (settings : Settings) (symbol : String) (spreadBps : ℚ) (now : Moment) (runs : List Backtest) : Prop :=
  ∀ done run later, runs = done ++ run :: later →
    (runAsync settings (after settings (new settings symbol spreadBps now) done) run).1.map verdict =
        (runAsync settings (new settings symbol spreadBps now) run).1.map verdict ∧
      ∀ index bar, (runAsync settings (after settings (new settings symbol spreadBps now) done) run).1[index]? = some bar →
        ∀ reading ∈ bar.readings, reading.market = oneMarket (upper symbol) (spreadBps / 10000) run.candles index

-- Some strategy of the source is consulted for the symbol of a run.
def Consults (settings : Settings) (symbol : String) (run : Backtest) : Prop :=
  ∃ strategy ∈ settings.library, loads (upper symbol) strategy = true ∧ applies (upper run.symbol) strategy = true

-- What each component holds.
def held (source : QuantSource) : List Reading :=
  [⟨.featureStore, source.marketAt source.contextFeatures⟩, ⟨.regimeDetector, source.marketAt source.regimeMarket⟩,
    ⟨.contextEngine, source.marketAt source.contextMarket⟩, ⟨.strategies, source.marketAt source.state⟩,
    ⟨.featureStore, source.marketAt source.features⟩]

-- A stretch of a bar moves the desk and reads what is held.
def Within (source later : QuantSource) : Prop :=
  ∃ desk fresh, later = { source with desk := desk, readings := source.readings ++ fresh } ∧
    ∀ reading ∈ fresh, reading ∈ held source

variable (settings : Settings)

theorem within_refl (source : QuantSource) : Within source source := by
  refine ⟨source.desk, [], ?_, fun _ member => absurd member List.not_mem_nil⟩
  rw [List.append_nil]

theorem within_desk (source : QuantSource) (desk : Desk) : Within source { source with desk := desk } := by
  refine ⟨desk, [], ?_, fun _ member => absurd member List.not_mem_nil⟩
  rw [List.append_nil]

theorem within_trans (a b c : QuantSource) (first : Within a b) (second : Within b c) : Within a c := by
  obtain ⟨_, fresh, rfl, known⟩ := first
  obtain ⟨desk, more, rfl, later⟩ := second
  refine ⟨desk, fresh ++ more, ?_, fun reading member => ?_⟩
  · rw [← List.append_assoc]
  · exact (List.mem_append.mp member).elim (known reading) (later reading)

theorem build_within (source : QuantSource) (symbol : String) : Within source (buildContext settings source symbol).2 := by
  refine ⟨source.desk, _, rfl, fun reading member => ?_⟩
  exact List.mem_append_left _ member

theorem analyzing_within (source : QuantSource) (symbol : String) (context : FullContext) (strategy : Strategy) :
    Within source (analyzing source symbol context strategy).2 := by
  refine ⟨source.desk, _, rfl, fun reading member => ?_⟩
  exact List.mem_of_mem_drop (i := 3) member

theorem evaluate_within (source : QuantSource) (symbol : String) : Within source (evaluate settings source symbol).2 := by
  rw [evaluate]
  have begun := within_desk source (DecisionEngine.begin_ symbol source.desk).2
  have built := within_trans _ _ _ begun (build_within settings { source with desk := (DecisionEngine.begin_ symbol source.desk).2 }
    (DecisionEngine.begin_ symbol source.desk).1.symbol)
  split
  · exact built
  · exact within_trans _ _ _ built (within_desk _ _)

theorem judge_within (source : QuantSource) (symbol : String) (signal : StrategySignal) :
    Within source (judge settings source symbol signal).2 := by
  have submitted := within_desk source (DecisionEngine.submit signal source.desk).2
  have evaluated := within_trans _ _ _ submitted
    (evaluate_within settings { source with desk := (DecisionEngine.submit signal source.desk).2 } symbol)
  rw [judge]
  split
  · split
    · rename_i same
      rw [same] at evaluated
      exact evaluated
    · rename_i same
      rw [same] at evaluated
      exact evaluated
  · exact submitted

theorem consult_within (source : QuantSource) (symbol : String) (strategy : Strategy) :
    Within source (consult settings source symbol strategy).2 := by
  have built := build_within settings source symbol
  rw [consult]
  split
  · split
    · rename_i same
      rw [same] at built
      exact built
    · rename_i context later same
      rw [same] at built
      have analyzed := within_trans _ _ _ built (analyzing_within later symbol context strategy)
      split
      · rename_i silent
        rw [silent] at analyzed
        exact analyzed
      · rename_i signal after given
        rw [given] at analyzed
        exact within_trans source after _ analyzed (judge_within settings after symbol signal)
  · exact within_refl source

theorem consult_all_within (symbol : String) (source : QuantSource) (strategies : List Strategy) :
    Within source (consultAll settings symbol source strategies).2 := by
  induction strategies generalizing source with
  | nil => exact within_refl source
  | cons strategy rest ih =>
      have first := consult_within settings source symbol strategy
      rw [consultAll]
      split
      · rename_i later same
        rw [same] at first
        exact within_trans _ _ _ first (ih later)
      · exact first

-- What holds of a source between bars: the first market was never fed and the
-- context reads it; the strategies are those of the library.
structure Kept (symbol : String) (spreadFrac : ℚ) (source : QuantSource) : Prop where
  named : source.symbol = symbol
  spread : source.spreadFrac = spreadFrac
  first : source.heap[0]? = some LiveMarket.new
  market : source.contextMarket = 0
  features : source.contextFeatures = 0
  detector : source.regimeMarket = 0
  loaded : source.strategies = if source.initialized then settings.library.filter (loads symbol) else []

-- In a run, with some bars done.
structure Running (symbol : String) (spreadFrac : ℚ) (candles : List MarketCandle) (count : Nat) (source : QuantSource) : Prop where
  kept : Kept settings symbol spreadFrac source
  later : 0 < source.state
  shared : source.features = source.state
  fedIndex : source.fedIndex = (count : Int) - 1
  current : source.heap[source.state]? =
    some (if count = 0 then LiveMarket.new else oneMarket symbol spreadFrac candles (count - 1))

variable (symbol : String) (spreadFrac : ℚ) (candles : List MarketCandle)

theorem new_kept (spreadBps : ℚ) (now : Moment) : Kept settings (upper symbol) (spreadBps / 10000) (new settings symbol spreadBps now) :=
  ⟨rfl, rfl, rfl, rfl, rfl, rfl, rfl⟩

theorem reset_running (source : QuantSource) (kept : Kept settings symbol spreadFrac source) :
    Running settings symbol spreadFrac candles 0 source.reset := by
  have nonempty : 0 < source.heap.length := by
    by_contra none_
    have empty := List.eq_nil_of_length_eq_zero (Nat.eq_zero_of_not_pos none_)
    have first := kept.first
    rw [empty] at first
    cases first
  refine ⟨⟨kept.named, kept.spread, ?_, kept.market, kept.features, kept.detector, kept.loaded⟩, nonempty, rfl, rfl, ?_⟩
  · rw [reset, List.getElem?_append_left nonempty]
    exact kept.first
  · simp [reset]

theorem within_kept (source later : QuantSource) (within : Within source later) (kept : Kept settings symbol spreadFrac source) :
    Kept settings symbol spreadFrac later := by
  obtain ⟨_, _, rfl, _⟩ := within
  exact ⟨kept.named, kept.spread, kept.first, kept.market, kept.features, kept.detector, kept.loaded⟩

theorem within_running (source later : QuantSource) (count : Nat) (within : Within source later)
    (running : Running settings symbol spreadFrac candles count source) :
    Running settings symbol spreadFrac candles count later := by
  have kept := within_kept settings symbol spreadFrac source later within running.kept
  obtain ⟨_, _, rfl, _⟩ := within
  exact ⟨kept, running.later, running.shared, running.fedIndex, running.current⟩

theorem ensure_running (source : QuantSource) (count : Nat) (running : Running settings symbol spreadFrac candles count source) :
    Running settings symbol spreadFrac candles count (ensureInitialized settings source) ∧
      (ensureInitialized settings source).strategies = settings.library.filter (loads symbol) := by
  have loaded := running.kept.loaded
  rw [ensureInitialized]
  cases ready : source.initialized with
  | true =>
      rw [ready] at loaded
      exact ⟨running, loaded⟩
  | false =>
      rw [ready] at loaded
      have filtered : source.strategies ++ settings.library.filter (loads source.symbol) = settings.library.filter (loads symbol) := by
        rw [loaded, running.kept.named]
        rfl
      refine ⟨⟨⟨running.kept.named, running.kept.spread, running.kept.first, running.kept.market, running.kept.features,
        running.kept.detector, filtered⟩, running.later, running.shared, running.fedIndex, running.current⟩, filtered⟩

-- One more candle and its ticker make the market of the next bar.
theorem one_market_next (index : Nat) (candle : MarketCandle) (here : candles[index]? = some candle) :
    ((if index = 0 then LiveMarket.new else oneMarket symbol spreadFrac candles (index - 1)).updateCandle candle).updateTicker
        ⟨symbol, "backtest", candle.close - candle.close * spreadFrac / 2, candle.close + candle.close * spreadFrac / 2, none,
          candle.end_, candle.end_⟩ =
      oneMarket symbol spreadFrac candles index := by
  have inside := (List.getElem?_eq_some_iff.mp here).1
  have grown : candles.take (index + 1) = candles.take index ++ [candle] := by
    rw [List.take_add_one, here]
    rfl
  cases index with
  | zero =>
      rw [oneMarket, here, if_pos rfl, grown]
      rfl
  | succ index =>
      rw [if_neg (Nat.succ_ne_zero index), Nat.add_sub_cancel, oneMarket, oneMarket, here, grown, List.foldl_concat]
      rw [List.getElem?_eq_getElem (Nat.lt_of_succ_lt inside)]
      simp only [LiveMarket.updateCandle, LiveMarket.updateTicker, Dict.insert_insert]

theorem feed_running (source : QuantSource) (index : Nat) (candle : MarketCandle) (here : candles[index]? = some candle)
    (running : Running settings symbol spreadFrac candles index source) :
    Running settings symbol spreadFrac candles (index + 1) (feedUpTo source candles index candle.end_) ∧
      (feedUpTo source candles index candle.end_).strategies = source.strategies ∧
      (feedUpTo source candles index candle.end_).readings = source.readings := by
  have fresh : (candles.take (index + 1)).drop (source.fedIndex + 1).toNat = [candle] := by
    have inside := (List.getElem?_eq_some_iff.mp here).1
    rw [running.fedIndex, show ((index : Int) - 1 + 1).toNat = index by omega, List.take_add_one, here]
    rw [List.drop_left' (by rw [List.length_take]; omega)]
    rfl
  rw [feedUpTo, here, fresh]
  refine ⟨⟨⟨running.kept.named, running.kept.spread, ?_, running.kept.market, running.kept.features, running.kept.detector,
    running.kept.loaded⟩, running.later, running.shared, ?_, ?_⟩, rfl, rfl⟩
  · have apart := running.later.ne'
    simp [updateState, apart, running.kept.first]
  · simp only [updateState]
    omega
  · have next := one_market_next symbol spreadFrac candles index candle here
    simp only [updateState, List.getElem?_modify, running.current, Option.map_eq_map, Option.map_some, if_true,
      List.foldl_cons, List.foldl_nil, tickerOf, running.kept.named, running.kept.spread]
    rw [next, if_neg (Nat.succ_ne_zero index), Nat.add_sub_cancel]

theorem consult_reads (runSymbol : String) (source : QuantSource) (strategy : Strategy)
    (applied : applies runSymbol strategy = true) :
    ⟨.featureStore, source.marketAt source.contextFeatures⟩ ∈ (consult settings source runSymbol strategy).2.readings := by
  have built : ⟨.featureStore, source.marketAt source.contextFeatures⟩ ∈ (buildContext settings source runSymbol).2.readings :=
    List.mem_append_right _ List.mem_cons_self
  have kept (later : QuantSource) (within : Within (buildContext settings source runSymbol).2 later) :
      ⟨.featureStore, source.marketAt source.contextFeatures⟩ ∈ later.readings := by
    obtain ⟨_, _, rfl, _⟩ := within
    exact List.mem_append_left _ built
  rw [consult, if_pos applied]
  split
  · rename_i same
    rw [same] at built
    exact built
  · rename_i context later same
    rw [same] at kept
    have analyzed := analyzing_within later runSymbol context strategy
    split
    · rename_i silent
      rw [silent] at analyzed
      exact kept _ analyzed
    · rename_i signal mid given
      rw [given] at analyzed
      exact kept _ (within_trans later mid _ analyzed (judge_within settings mid runSymbol signal))

theorem consult_all_reads (runSymbol : String) (source : QuantSource) (strategies : List Strategy)
    (some_ : ∃ strategy ∈ strategies, applies runSymbol strategy = true) :
    ⟨.featureStore, source.marketAt source.contextFeatures⟩ ∈
      (consultAll settings runSymbol source strategies).2.readings := by
  induction strategies with
  | nil =>
      obtain ⟨_, member, _⟩ := some_
      cases member
  | cons strategy rest ih =>
      rw [consultAll]
      by_cases applied : applies runSymbol strategy = true
      · have here := consult_reads settings runSymbol source strategy applied
        split
        · rename_i later same
          rw [same] at here
          obtain ⟨_, _, after, _⟩ := consult_all_within settings runSymbol later rest
          rw [after]
          exact List.mem_append_left _ here
        · exact here
      · rw [consult, if_neg applied]
        obtain ⟨other, member, applied'⟩ := some_
        cases List.mem_cons.mp member with
        | inl same => exact absurd (same ▸ applied') applied
        | inr later => exact ih ⟨other, later, applied'⟩

theorem consult_all_silent (runSymbol : String) (source : QuantSource) (strategies : List Strategy)
    (none_ : ∀ strategy ∈ strategies, ¬ applies runSymbol strategy = true) :
    consultAll settings runSymbol source strategies = (.through, source) := by
  induction strategies with
  | nil => rfl
  | cons strategy rest ih =>
      rw [consultAll, consult, if_neg (none_ strategy List.mem_cons_self)]
      exact ih (fun other member => none_ other (List.mem_cons_of_mem _ member))

theorem decide_running (runSymbol : String) (source : QuantSource) (index : Nat) (candle : MarketCandle)
    (here : candles[index]? = some candle) (running : Running settings symbol spreadFrac candles index source) :
    ∃ fed, Running settings symbol spreadFrac candles (index + 1) fed ∧ fed.readings = [] ∧
      fed.strategies = settings.library.filter (loads symbol) ∧
      decideAsync settings source runSymbol candles index candle.end_ = consultAll settings runSymbol fed fed.strategies := by
  have cleared : Running settings symbol spreadFrac candles index
      { source with desk := { source.desk with now := candle.end_ }, readings := [] } :=
    ⟨⟨running.kept.named, running.kept.spread, running.kept.first, running.kept.market, running.kept.features,
      running.kept.detector, running.kept.loaded⟩, running.later, running.shared, running.fedIndex, running.current⟩
  obtain ⟨ready, loaded⟩ := ensure_running settings symbol spreadFrac candles _ index cleared
  obtain ⟨fed, strategies, readings⟩ := feed_running settings symbol spreadFrac candles _ index candle here ready
  refine ⟨_, fed, ?_, strategies.trans loaded, rfl⟩
  rw [readings, ensureInitialized]
  split
  · rfl
  · rfl

-- What is read at a bar of a run: the strategies read the market of the run up
-- to there; the context, where any strategy is consulted, reads an empty one.
theorem decide_reads (runSymbol : String) (source : QuantSource) (index : Nat) (candle : MarketCandle)
    (here : candles[index]? = some candle) (running : Running settings symbol spreadFrac candles index source) :
    (∀ reading ∈ (decideAsync settings source runSymbol candles index candle.end_).2.readings,
      reading.component = .strategies → reading.market = oneMarket symbol spreadFrac candles index) ∧
    ((∃ strategy ∈ settings.library, loads symbol strategy = true ∧ applies runSymbol strategy = true) →
      ⟨.featureStore, LiveMarket.new⟩ ∈ (decideAsync settings source runSymbol candles index candle.end_).2.readings) := by
  obtain ⟨fed, next, clear, strategies, same⟩ :=
    decide_running settings symbol spreadFrac candles runSymbol source index candle here running
  rw [same]
  constructor
  · intro reading member component
    obtain ⟨_, fresh, after, known⟩ := consult_all_within settings runSymbol fed fed.strategies
    rw [after, clear, List.nil_append] at member
    have current := next.current
    rw [if_neg (Nat.succ_ne_zero index), Nat.add_sub_cancel] at current
    have one := known reading member
    simp only [held, List.mem_cons, List.not_mem_nil, or_false] at one
    rcases one with rfl | rfl | rfl | rfl | rfl
    · cases component
    · cases component
    · cases component
    · rw [marketAt, current]
      rfl
    · cases component
  · rintro ⟨strategy, member, loaded, applied⟩
    have read := consult_all_reads settings runSymbol fed fed.strategies
      ⟨strategy, strategies ▸ List.mem_filter.mpr ⟨member, loaded⟩, applied⟩
    rw [marketAt, next.kept.features, next.kept.first] at read
    exact read

-- The bars still to come after some.
def barsFrom (count : Nat) : List (Nat × MarketCandle) := ((candles.drop count).zipIdx count).map Prod.swap

theorem bars_from_next (index : Nat) (candle : MarketCandle) (here : candles[index]? = some candle) :
    barsFrom candles index = (index, candle) :: barsFrom candles (index + 1) := by
  obtain ⟨inside, rfl⟩ := List.getElem?_eq_some_iff.mp here
  rw [barsFrom, List.drop_eq_getElem_cons inside, List.zipIdx_cons]
  rfl

-- What holds of every bar decided in a run holds of all its bars.
theorem bars_each (runSymbol : String) (P : Nat → Bar → Prop)
    (each : ∀ index candle source, candles[index]? = some candle →
      Running settings symbol spreadFrac candles index source →
      P index (bar runSymbol (decideAsync settings source runSymbol candles index candle.end_)))
    (rest count : Nat) (left : candles.length - count = rest) (source : QuantSource)
    (running : Running settings symbol spreadFrac candles count source) :
    (∀ index bar, (bars settings runSymbol candles source (barsFrom candles count)).1[index]? = some bar →
      P (count + index) bar) ∧
    Kept settings symbol spreadFrac (bars settings runSymbol candles source (barsFrom candles count)).2 := by
  induction rest generalizing count source with
  | zero =>
      rw [barsFrom, List.drop_of_length_le (by omega)]
      exact ⟨fun index bar found => (by cases found), running.kept⟩
  | succ rest ih =>
      have here : candles[count]? = some candles[count] := List.getElem?_eq_getElem (by omega)
      obtain ⟨fed, next, _, _, same⟩ := decide_running settings symbol spreadFrac candles runSymbol source count _ here running
      have now := each count _ source here running
      have after : Running settings symbol spreadFrac candles (count + 1)
          (decideAsync settings source runSymbol candles count candles[count].end_).2 := by
        rw [same]
        exact within_running settings symbol spreadFrac candles fed _ (count + 1)
          (consult_all_within settings runSymbol fed fed.strategies) next
      obtain ⟨later, kept⟩ := ih (count + 1) (by omega) _ after
      rw [bars_from_next candles count _ here, bars]
      dsimp only
      split
      · refine ⟨fun index bar found => ?_, after.kept⟩
        cases index with
        | zero => exact Option.some.inj found ▸ now
        | succ index => cases found
      · refine ⟨fun index bar found => ?_, kept⟩
        cases index with
        | zero => exact Option.some.inj found ▸ now
        | succ index =>
            have shifted := later index bar found
            rwa [Nat.add_assoc, Nat.add_comm 1 index] at shifted

theorem run_each (run : Backtest) (P : Nat → Bar → Prop)
    (each : ∀ index candle source, run.candles[index]? = some candle →
      Running settings symbol spreadFrac run.candles index source →
      P index (bar (upper run.symbol) (decideAsync settings source (upper run.symbol) run.candles index candle.end_)))
    (source : QuantSource) (kept : Kept settings symbol spreadFrac source) :
    (∀ index bar, (runAsync settings source run).1[index]? = some bar → P index bar) ∧
      Kept settings symbol spreadFrac (runAsync settings source run).2 := by
  rw [runAsync]
  split
  · exact ⟨fun index bar found => (by cases found), kept⟩
  · have all := bars_each settings symbol spreadFrac run.candles (upper run.symbol) P each _ 0 rfl source.reset
      (reset_running settings symbol spreadFrac run.candles source kept)
    simp only [Nat.zero_add] at all
    exact all

theorem after_kept (runs : List Backtest) (source : QuantSource) (kept : Kept settings symbol spreadFrac source) :
    Kept settings symbol spreadFrac (after settings source runs) := by
  induction runs generalizing source with
  | nil => exact kept
  | cons run rest ih =>
      exact ih _ (run_each settings symbol spreadFrac run (fun _ _ => True) (fun _ _ _ _ _ => trivial) source kept).2

theorem first_bar (run : Backtest) (candle : MarketCandle) (rest : List MarketCandle) (some_ : run.candles = candle :: rest)
    (source : QuantSource) :
    (runAsync settings source run).1[0]? =
      some (bar (upper run.symbol) (decideAsync settings source.reset (upper run.symbol) run.candles 0 candle.end_)) := by
  have start : enumerate run.candles = (0, candle) :: barsFrom run.candles 1 := by
    have here : run.candles[0]? = some candle := by rw [some_]; rfl
    exact bars_from_next run.candles 0 candle here
  rw [runAsync, if_neg (by rw [some_]; exact List.cons_ne_nil _ _), start, bars]
  dsimp only
  split
  · rfl
  · rfl

theorem bars_silent (runSymbol : String)
    (none_ : ¬ ∃ strategy ∈ settings.library, loads symbol strategy = true ∧ applies runSymbol strategy = true)
    (rest count : Nat) (left : candles.length - count = rest) (source : QuantSource)
    (running : Running settings symbol spreadFrac candles count source) :
    (bars settings runSymbol candles source (barsFrom candles count)).1 = List.replicate rest ⟨some none, []⟩ := by
  induction rest generalizing count source with
  | zero =>
      rw [barsFrom, List.drop_of_length_le (by omega)]
      rfl
  | succ rest ih =>
      have here : candles[count]? = some candles[count] := List.getElem?_eq_getElem (by omega)
      obtain ⟨fed, next, clear, strategies, same⟩ :=
        decide_running settings symbol spreadFrac candles runSymbol source count _ here running
      have silent : ∀ strategy ∈ fed.strategies, ¬ applies runSymbol strategy = true := by
        intro strategy member applied
        rw [strategies] at member
        obtain ⟨known, loaded⟩ := List.mem_filter.mp member
        exact none_ ⟨strategy, known, loaded, applied⟩
      rw [bars_from_next candles count _ here, bars, same, consult_all_silent settings runSymbol fed fed.strategies silent]
      dsimp only [bar]
      rw [clear, ih (count + 1) (by omega) fed next]
      rfl

-- A run after any others is like a fresh one, and everything read is of that
-- run, exactly where no strategy is consulted at all.
theorem from_scratch_iff (spreadBps : ℚ) (now : Moment) (runs : List Backtest) :
    FromScratch settings symbol spreadBps now runs ↔ ∀ run ∈ runs, run.candles = [] ∨ ¬ Consults settings symbol run := by
  have fresh := new_kept settings symbol spreadBps now
  constructor
  · intro scratch run member
    by_contra both
    rw [not_or, not_not] at both
    obtain ⟨some_, consults⟩ := both
    obtain ⟨done, later, split⟩ := List.append_of_mem member
    obtain ⟨candle, rest, candles⟩ := List.exists_cons_of_ne_nil some_
    have kept := after_kept settings (upper symbol) (spreadBps / 10000) done _ fresh
    have running := reset_running settings (upper symbol) (spreadBps / 10000) run.candles _ kept
    have here : run.candles[0]? = some candle := by rw [candles]; rfl
    have read := (decide_reads settings (upper symbol) (spreadBps / 10000) run.candles (upper run.symbol) _ 0 candle here
      running).2 consults
    have one := (scratch done run later split).2 0 _ (first_bar settings run candle rest candles _) _ read
    have ticker := congrArg (fun market => market.tickers.lookup (upper symbol)) one
    rw [oneMarket, here] at ticker
    simp only [LiveMarket.updateTicker, Dict.lookup_insert, if_true] at ticker
    cases ticker
  · intro quiet done run later split
    have member : run ∈ runs := by
      rw [split]
      exact List.mem_append_right _ List.mem_cons_self
    have kept := after_kept settings (upper symbol) (spreadBps / 10000) done _ fresh
    cases quiet run member with
    | inl empty =>
        rw [runAsync, runAsync, if_pos empty, if_pos empty]
        exact ⟨rfl, fun index bar found => by cases found⟩
    | inr silent =>
        have all (source : QuantSource) (held : Kept settings (upper symbol) (spreadBps / 10000) source) :
            ∃ count, (runAsync settings source run).1 = List.replicate count ⟨some none, []⟩ ∧
              count = run.candles.length := by
          rw [runAsync]
          split
          · rename_i empty
            exact ⟨0, rfl, by rw [empty]; rfl⟩
          · exact ⟨_, bars_silent settings (upper symbol) (spreadBps / 10000) run.candles (upper run.symbol) silent _ 0 rfl _
              (reset_running settings (upper symbol) (spreadBps / 10000) run.candles source held), rfl⟩
        obtain ⟨_, ran, rfl⟩ := all _ kept
        obtain ⟨_, ranFresh, rfl⟩ := all _ fresh
        rw [ran, ranFresh]
        refine ⟨rfl, fun index bar found reading read => ?_⟩
        rw [List.getElem?_replicate] at found
        split at found
        · cases found
          cases read
        · cases found

-- One strategy that never signals, and a run of one candle.
def watching : Settings where
  decisions := {
    consensus := fun _ symbol _ _ => ⟨"weighted_average", symbol, .neutral, 0, 0, [], []⟩
    confidence := fun _ _ _ => (0, []) }
  library := [⟨"watch", [], .m1, .everyCandle, true, fun _ => none⟩]

def oneCandle : Backtest where
  symbol := "ETHUSDM"
  candles := [⟨"ETHUSDM", "backtest", .m1, 0, 60000000, 100, 101, 99, 100, 1, 0, 0, 100, 1, true, "", []⟩]

-- The feature store of the context reads an empty market at the first bar of
-- the first run.
theorem context_reads_nothing : ¬ FromScratch watching "ETHUSDM" 5 0 [oneCandle] := by
  intro scratch
  have running := reset_running watching (upper "ETHUSDM") (5 / 10000) oneCandle.candles _ (new_kept watching "ETHUSDM" 5 0)
  have read := (decide_reads watching (upper "ETHUSDM") (5 / 10000) oneCandle.candles (upper "ETHUSDM") _ 0 _ rfl running).2
    ⟨_, List.mem_singleton_self _, rfl, rfl⟩
  have one := (scratch [] oneCandle [] rfl).2 0 _ (first_bar watching oneCandle _ [] rfl _) _ read
  have ticker := congrArg (fun market => market.tickers.lookup (upper "ETHUSDM")) one
  cases ticker

end QuantEngine.Backtesting.OneMarket
