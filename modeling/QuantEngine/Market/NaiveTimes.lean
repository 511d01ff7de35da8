import QuantEngine.Market.ZonedValidator

set_option autoImplicit false

namespace QuantEngine.ZonedValidator

open Validator (QualityIssue shouldDiscard)

-- What the checks of a trade read is the settings and the track of its symbol.
theorem judged_same (v : DataValidator) (symbol : String) (known : SymbolTrack) (trade : Trade)
    (same : track (setTrack v symbol known) trade.symbol = track v trade.symbol) :
    (validateTrade (setTrack v symbol known) trade).1 = (validateTrade v trade).1 := by
  have checks : commonChecks (setTrack v symbol known) trade.symbol trade.price trade.exchangeTs trade.localTs =
      commonChecks v trade.symbol trade.price trade.exchangeTs trade.localTs := rfl
  have order : late (setTrack v symbol known) (track v trade.symbol) trade = late v (track v trade.symbol) trade := rfl
  have issues : tradeIssues (setTrack v symbol known) trade = tradeIssues v trade := by
    funext common isLate
    rw [tradeIssues, same]
    rfl
  rw [validateTrade, validateTrade, checks, same, order, issues]
  cases commonChecks v trade.symbol trade.price trade.exchangeTs trade.localTs with
  | error raised => rfl
  | ok common =>
      cases late v (track v trade.symbol) trade with
      | error raised => rfl
      | ok isLate =>
          simp only
          split
          · rfl
          · cases latest (track v trade.symbol) trade <;> rfl

-- Nothing is left of a trade: the tracks are as they were, and a redelivery of
-- it is judged as if it came first.
structure Traceless (v : DataValidator) (trade : Trade) : Prop where
  tracks : ∀ symbol, track (validateTrade v trade).2 symbol = track v symbol
  redelivery : ∀ corrected : Trade, corrected.symbol = trade.symbol → corrected.tradeId = trade.tradeId →
    (validateTrade (validateTrade v trade).2 corrected).1 = (validateTrade v corrected).1

-- There is no identifier to add to those remembered.
def NothingNew (v : DataValidator) (trade : Trade) : Prop :=
  trade.tradeId = "" ∨ trade.tradeId ∈ (track v trade.symbol).recentIds ∨ v.dupWindow = 0

theorem remembers_iff (v : DataValidator) (trade : Trade) (kept : WellKept v) :
    rememberId v (track v trade.symbol) trade = (track v trade.symbol).recentIds ↔ NothingNew v trade := by
  rw [rememberId, NothingNew]
  split
  next known => exact ⟨fun _ => known.elim .inl (fun member => .inr (.inl member)), fun _ => rfl⟩
  next unknown =>
    rw [not_or] at unknown
    cases window : v.dupWindow with
    | zero =>
        have none : (track v trade.symbol).recentIds = [] :=
          List.length_eq_zero_iff.mp (Nat.le_zero.mp (window ▸ kept.bounded trade.symbol))
        simp [Deque.push, Deque.newest, none]
    | succ limit =>
        have added : trade.tradeId ∈ Deque.push (limit + 1) (track v trade.symbol).recentIds trade.tradeId :=
          Deque.mem_push (limit + 1) _ trade.tradeId (Nat.succ_pos limit)
        constructor
        · intro same
          exact absurd (same ▸ added) unknown.2
        · rintro (empty | member | closed)
          · exact absurd empty unknown.1
          · exact absurd member unknown.2
          · cases closed

theorem discarded_leaves (v : DataValidator) (trade : Trade) (issues : List QualityIssue)
    (judged : (validateTrade v trade).1 = .ok issues) (discarded : shouldDiscard issues = true) :
    (validateTrade v trade).2 = remember v trade := by
  have outcome := trade_outcome v trade
  generalize validateTrade v trade = result at outcome judged
  cases outcome with
  | untimely raised checks => cases judged
  | unordered common raised checks order => cases judged
  | discarded common isLate checks order objected => rfl
  | incomparable common isLate raised checks clean newer => cases judged
  | accepted common isLate newest checks order clean newer =>
      cases judged
      rw [clean] at discarded
      cases discarded

theorem discarded_traceless_iff (v : DataValidator) (trade : Trade) (issues : List QualityIssue)
    (reachable : Reachable v) (judged : (validateTrade v trade).1 = .ok issues)
    (discarded : shouldDiscard issues = true) : Traceless v trade ↔ NothingNew v trade := by
  rw [← remembers_iff v trade (reachable_kept v reachable)]
  have left := discarded_leaves v trade issues judged discarded
  constructor
  · intro traceless
    have here := traceless.tracks trade.symbol
    rw [left, remember, track_set, if_pos rfl] at here
    exact congrArg SymbolTrack.recentIds here
  · intro same
    have unchanged (symbol : String) : track (remember v trade) symbol = track v symbol := by
      rw [remember, track_set, same]
      split
      next here => rw [here]
      next => rfl
    rw [← left] at unchanged
    refine ⟨unchanged, fun corrected _ _ => ?_⟩
    rw [left] at unchanged ⊢
    exact judged_same v trade.symbol _ corrected (unchanged corrected.symbol)

def noon : Timestamp := ⟨1784116800000000, some 0, by decide⟩

def defaults : DataValidator := fresh (.finite 20) (.finite 1000000000000) 5000000 120000000 4096 2000000

def mispriced : Trade := ⟨"BTCUSDT", "t1", .finite (-5), .finite 1, noon, noon⟩

def corrected : Trade := { mispriced with price := .finite 100 }

theorem discarded_traceless_iff_empty : Traceless defaults { mispriced with tradeId := "" } ↔
    NothingNew defaults { mispriced with tradeId := "" } :=
  discarded_traceless_iff defaults _ [⟨.negativePrice, "BTCUSDT", true⟩]
    ⟨_, _, _, _, _, _, [], rfl⟩ (by rfl) (by rfl)

theorem bad_trade_remembered : Reachable defaults ∧
    (validateTrade defaults mispriced).1 = .ok [⟨.negativePrice, "BTCUSDT", true⟩] ∧
    (validateTrade defaults corrected).1 = .ok [] ∧
    (validateTrade (validateTrade defaults mispriced).2 corrected).1 = .ok [⟨.duplicate, "BTCUSDT", true⟩] ∧
    ¬ Traceless defaults mispriced := by
  have clean : (validateTrade defaults corrected).1 = .ok [] := by rfl
  have again : (validateTrade (validateTrade defaults mispriced).2 corrected).1 =
      .ok [⟨.duplicate, "BTCUSDT", true⟩] := by rfl
  refine ⟨⟨_, _, _, _, _, _, [], rfl⟩, by rfl, clean, again, fun traceless => ?_⟩
  have same := traceless.redelivery corrected rfl rfl
  rw [clean, again] at same
  cases same

end QuantEngine.ZonedValidator

namespace QuantEngine.ZonedValidator

open Timestamps
open Validator (QualityIssue)

def timestamps : MarketObject → List Timestamp
  | .trade trade => [trade.exchangeTs, trade.localTs]
  | .ticker ticker => [ticker.exchangeTs, ticker.localTs]
  | .candle candle => [candle.start, candle.end_]
  | .bookDelta _ => []
  | .funding funding => [funding.exchangeTs, funding.localTs] ++ funding.nextFundingTs.toList
  | .openInterest oi => [oi.exchangeTs, oi.localTs]
  | .liquidation liq => [liq.exchangeTs, liq.localTs]

-- The call returns, and an object with a naive time is discarded for that.
def Judged (v : DataValidator) (object : MarketObject) : Prop :=
  ∃ issues, (validate v object).1 = .ok issues ∧ ((∃ time ∈ timestamps object, time.aware = false) → Flagged issues)

-- The last trade of the symbol has a zone, so this one needs one too, and the
-- grace before it stays within the years there are.
def Comparable (v : DataValidator) (trade : Trade) : Prop :=
  ∀ last, (track v trade.symbol).lastTradeTs = some last →
    trade.exchangeTs.aware = true ∧ InRange (last.wall - v.oooGrace)

def Sound (v : DataValidator) : MarketObject → Prop
  | .trade trade => Timely v trade.exchangeTs trade.localTs ∧ Comparable v trade
  | .ticker ticker => Timely v ticker.exchangeTs ticker.localTs
  | .candle candle => candle.start.aware = candle.end_.aware ∧
      (candle.start.aware = true ∨ candle.end_.instant ≤ candle.start.instant)
  | .bookDelta _ => True
  | .funding funding => Timely v funding.exchangeTs funding.localTs ∧
      (Naive funding.exchangeTs funding.localTs ∨ ∀ next, funding.nextFundingTs = some next → next.aware = true)
  | .openInterest oi => Timely v oi.exchangeTs oi.localTs
  | .liquidation liq => Timely v liq.exchangeTs liq.localTs

theorem late_returns (v : DataValidator) (trade : Trade) (kept : WellKept v) :
    (∃ isLate, late v (track v trade.symbol) trade = .ok isLate) ↔ Comparable v trade := by
  rw [late, Comparable]
  cases given : (track v trade.symbol).lastTradeTs with
  | none => exact ⟨fun _ _ same => (by cases same), fun _ => ⟨false, rfl⟩⟩
  | some last =>
      have zone := kept.aware trade.symbol last given
      by_cases fits : InRange (last.wall + -v.oooGrace)
      · simp only [Timestamp.plus_fits last _ fits, Json.ok_bind]
        by_cases aware : trade.exchangeTs.aware = true
        · have same : trade.exchangeTs.aware = (⟨last.wall + -v.oooGrace, last.offset, fits⟩ : Timestamp).aware :=
            aware.trans zone.symm
          rw [Timestamp.lt, Timestamp.paired_same _ _ _ same]
          exact ⟨fun _ other equal => ⟨aware, Option.some.inj equal ▸ fits⟩, fun _ => ⟨_, rfl⟩⟩
        · have mixed : trade.exchangeTs.aware ≠ (⟨last.wall + -v.oooGrace, last.offset, fits⟩ : Timestamp).aware :=
            fun same => aware (same.trans zone)
          rw [Timestamp.lt, Timestamp.paired_mixed _ _ _ mixed]
          refine ⟨fun returned => ?_, fun all => absurd (all last rfl).1 aware⟩
          obtain ⟨isLate, returned⟩ := returned
          cases returned
      · simp only [Timestamp.plus_outside last _ fits]
        refine ⟨fun returned => ?_, fun all => absurd (all last rfl).2 fits⟩
        obtain ⟨isLate, returned⟩ := returned
        cases returned

theorem latest_returns (known : SymbolTrack) (trade : Trade) (exchange : trade.exchangeTs.aware = true)
    (aware : ∀ last, known.lastTradeTs = some last → last.aware = true) : ∃ newest, latest known trade = .ok newest := by
  rw [latest]
  split
  · exact ⟨_, rfl⟩
  · rename_i last given
    rw [Timestamp.lt, Timestamp.paired_same _ _ _ ((aware last given).trans exchange.symm), Json.ok_bind]
    split
    · exact ⟨_, rfl⟩
    · exact ⟨_, rfl⟩

theorem naive_of_pair (first second : Timestamp) (naive : ∃ time ∈ [first, second], time.aware = false) :
    Naive first second := by
  simpa [Naive] using naive

theorem extends_judged (v : DataValidator) (symbol : String) (exchangeTs localTs : Timestamp)
    (result : Except PyError (List QualityIssue)) (given : Extends v symbol exchangeTs localTs result) :
    (∃ issues, result = .ok issues ∧ ((∃ time ∈ [exchangeTs, localTs], time.aware = false) → Flagged issues)) ↔
      Timely v exchangeTs localTs := by
  rw [← given.returns]
  constructor
  · rintro ⟨issues, returned, _⟩
    exact ⟨issues, returned⟩
  · rintro ⟨issues, returned⟩
    exact ⟨issues, returned, fun naive => given.flags issues returned (naive_of_pair _ _ naive)⟩

theorem trade_judged (v : DataValidator) (trade : Trade) (kept : WellKept v) :
    Judged v (.trade trade) ↔ Timely v trade.exchangeTs trade.localTs ∧ Comparable v trade := by
  rw [← (common_extends v trade.symbol trade.price _ _).returns, ← late_returns v trade kept, Judged]
  have outcome := trade_outcome v trade
  simp only [validate]
  generalize validateTrade v trade = result at outcome
  cases outcome with
  | untimely raised checks => simp [checks]
  | unordered common raised checks order => simp [order]
  | discarded common isLate checks order objected =>
      refine ⟨fun _ => ⟨⟨common, checks⟩, ⟨isLate, order⟩⟩, fun _ => ⟨_, rfl, fun naive => ?_⟩⟩
      exact trade_flagged v trade common isLate checks (naive_of_pair _ _ naive)
  | incomparable common isLate raised checks clean newer =>
      have exchange := (clean_aware v trade common isLate checks clean).1
      obtain ⟨newest, returned⟩ := latest_returns _ trade exchange (kept.aware trade.symbol)
      rw [returned] at newer
      cases newer
  | accepted common isLate newest checks order clean newer =>
      refine ⟨fun _ => ⟨⟨common, checks⟩, ⟨isLate, order⟩⟩, fun _ => ⟨_, rfl, fun naive => ?_⟩⟩
      exact trade_flagged v trade common isLate checks (naive_of_pair _ _ naive)

theorem aware_unflagged (v : DataValidator) (symbol : String) (exchangeTs localTs : Timestamp) (issues : List QualityIssue)
    (checks : timestampChecks v symbol exchangeTs localTs = .ok issues) (aware : ¬ Naive exchangeTs localTs)
    (fits : InRange (localTs.wall + v.futureTolerance)) : ¬ Flagged issues := by
  rw [checks_aware v symbol _ _ aware fits] at checks
  cases checks
  split
  · simp [Flagged]
  · simp

theorem candle_unflagged (v : DataValidator) (candle : Candle) : ¬ Flagged (candleChecks v candle) := by
  simp [candleChecks]

theorem candle_judged (v : DataValidator) (candle : Candle) :
    Judged v (.candle candle) ↔ candle.start.aware = candle.end_.aware ∧
      (candle.start.aware = true ∨ candle.end_.instant ≤ candle.start.instant) := by
  simp only [Judged, validate, validateCandle, Timestamp.le, timestamps]
  by_cases same : candle.start.aware = candle.end_.aware
  · rw [Timestamp.paired_same _ _ _ same.symm, Json.ok_bind]
    by_cases aware : candle.start.aware = true
    · simp [← same, aware]
    · simp [← same, aware, candle_unflagged]
  · rw [Timestamp.paired_mixed _ _ _ (Ne.symm same)]
    exact ⟨fun ⟨_, returned, _⟩ => (by cases returned), fun sound => absurd sound.1 same⟩

theorem funding_judged (v : DataValidator) (funding : FundingRate) :
    Judged v (.funding funding) ↔ Timely v funding.exchangeTs funding.localTs ∧
      (Naive funding.exchangeTs funding.localTs ∨ ∀ next, funding.nextFundingTs = some next → next.aware = true) := by
  simp only [Judged, validate, validateFunding, timestamps]
  by_cases naive : Naive funding.exchangeTs funding.localTs
  · rw [checks_naive v funding.symbol _ _ naive]
    simp [Timely, naive, Flagged]
  · by_cases fits : InRange (funding.localTs.wall + v.futureTolerance)
    · have checks := checks_aware v funding.symbol _ _ naive fits
      have unflagged := aware_unflagged v funding.symbol _ _ _ checks naive fits
      rw [checks]
      obtain ⟨exchange, received⟩ := same_zone _ _ naive
      cases next : funding.nextFundingTs <;> simp [Timely, naive, fits, unflagged, exchange, received]
    · rw [checks_outside v funding.symbol _ _ naive fits]
      simp [Timely, naive, fits]

theorem judged_iff (v : DataValidator) (object : MarketObject) (kept : WellKept v) : Judged v object ↔ Sound v object := by
  cases object with
  | trade trade => exact trade_judged v trade kept
  | ticker ticker =>
      exact extends_judged v ticker.symbol _ _ _ (append_extends v _ _ _ _ _ (common_extends v _ _ _ _))
  | candle candle => exact candle_judged v candle
  | bookDelta delta => simp [Judged, Sound, validate, timestamps]
  | funding funding => exact funding_judged v funding
  | openInterest oi =>
      exact extends_judged v oi.symbol _ _ _ (append_extends v _ _ _ _ _ (checks_extend v _ _ _))
  | liquidation liq =>
      exact extends_judged v liq.symbol _ _ _ (append_extends v _ _ _ _ _ (common_extends v _ _ _ _))

theorem validation_total_iff (maxJump maxVolume : Extended) (futureTolerance stale : Int) (dupWindow : Nat)
    (oooGrace : Int) (history : List MarketObject) (object : MarketObject) :
    let start := fresh maxJump maxVolume futureTolerance stale dupWindow oooGrace
    (Judged (Run.final step start history) object ↔ Sound (Run.final step start history) object) ∧
      (Run.Each step Judged start history ↔ Run.Each step Sound start history) := by
  intro start
  have kept : WellKept start := fresh_kept _ _ _ _ _ _
  exact ⟨judged_iff _ object (run_kept start history kept),
    Run.each_iff step Judged Sound WellKept judged_iff (fun v object kept _ => step_kept v object kept) start history kept⟩

-- The second trade has no zone, and the first is there to compare it with.
def firstTrade : Trade := ⟨"BTCUSDT", "t1", .finite 100, .finite 1, noon, noon⟩

def zoneless : Trade :=
  ⟨"BTCUSDT", "t2", .finite 100, .finite 1, ⟨noon.wall, none, noon.inRange⟩, ⟨noon.wall, none, noon.inRange⟩⟩

theorem naive_trade_raises :
    let start := fresh (.finite 20) (.finite 1000000000000) 5000000 120000000 4096 2000000
    (validate start (.trade zoneless)).1 = .ok [⟨.invalidTimestamp, "BTCUSDT", true⟩] ∧
      (validate start (.trade firstTrade)).1 = .ok [] ∧
      (validate (Run.final step start [.trade firstTrade]) (.trade zoneless)).1 = .error .type ∧
      ¬ Judged (Run.final step start [.trade firstTrade]) (.trade zoneless) := by
  intro start
  have raised : (validate (Run.final step start [.trade firstTrade]) (.trade zoneless)).1 = .error .type := by rfl
  refine ⟨by rfl, by rfl, raised, fun judged => ?_⟩
  obtain ⟨issues, returned, _⟩ := judged
  rw [raised] at returned
  cases returned

end QuantEngine.ZonedValidator
