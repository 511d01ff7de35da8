import QuantEngine.Library.IsoTime
import QuantEngine.Library.Run
import QuantEngine.Market.FloatValidator

set_option autoImplicit false

namespace QuantEngine.ZonedValidator

open Timestamps
open Validator (QualityIssueType QualityIssue issueIf shouldDiscard)
open FloatValidator (zero jumpPct validateBookDelta)

structure Trade where
  symbol : String
  tradeId : String
  price : Extended
  size : Extended
  exchangeTs : Timestamp
  localTs : Timestamp

structure Ticker where
  symbol : String
  bid : Extended
  ask : Extended
  exchangeTs : Timestamp
  localTs : Timestamp

structure Candle where
  symbol : String
  start : Timestamp
  end_ : Timestamp
  open_ : Extended
  high : Extended
  low : Extended
  close : Extended
  volume : Extended

structure FundingRate where
  symbol : String
  nextFundingTs : Option Timestamp
  exchangeTs : Timestamp
  localTs : Timestamp

structure OpenInterest where
  symbol : String
  contracts : Extended
  exchangeTs : Timestamp
  localTs : Timestamp

structure Liquidation where
  symbol : String
  price : Extended
  size : Extended
  exchangeTs : Timestamp
  localTs : Timestamp

-- No identifiers yet is an empty list.
structure SymbolTrack where
  lastTradeTs : Option Timestamp
  lastPrice : Option Extended
  recentIds : List String

structure DataValidator where
  maxJump : Extended
  maxVolume : Extended
  futureTolerance : Int
  stale : Int
  dupWindow : Nat
  oooGrace : Int
  tracks : Dict String SymbolTrack

def Naive (first second : Timestamp) : Prop := first.aware = false ∨ second.aware = false

instance (first second : Timestamp) : Decidable (Naive first second) := inferInstanceAs (Decidable (_ ∨ _))

def timestampChecks (v : DataValidator) (symbol : String) (exchangeTs localTs : Timestamp) :
    Except PyError (List QualityIssue) :=
  if Naive exchangeTs localTs then .ok [⟨.invalidTimestamp, symbol, true⟩]
  else do
    let limit ← localTs.plus v.futureTolerance
    if ← limit.lt exchangeTs then .ok [⟨.futureTimestamp, symbol, true⟩]
    else do
      let age ← localTs.minus exchangeTs
      .ok (issueIf (v.stale < age) .staleTimestamp symbol false)

def commonChecks (v : DataValidator) (symbol : String) (price : Extended) (exchangeTs localTs : Timestamp) :
    Except PyError (List QualityIssue) := do
  let issues ← timestampChecks v symbol exchangeTs localTs
  .ok (issues ++ issueIf (price.le zero) .negativePrice symbol true)

def sizeChecks (v : DataValidator) (trade : Trade) : List QualityIssue :=
  if trade.size.lt zero then [⟨.negativeSize, trade.symbol, true⟩]
  else issueIf (v.maxVolume.lt trade.size) .impossibleVolume trade.symbol true

def track (v : DataValidator) (symbol : String) : SymbolTrack := (v.tracks.lookup symbol).getD ⟨none, none, []⟩

def seenId (known : SymbolTrack) (trade : Trade) : Prop := trade.tradeId ≠ "" ∧ trade.tradeId ∈ known.recentIds

instance (known : SymbolTrack) (trade : Trade) : Decidable (seenId known trade) := inferInstanceAs (Decidable (_ ∧ _))

def rememberId (v : DataValidator) (known : SymbolTrack) (trade : Trade) : List String :=
  if trade.tradeId = "" ∨ trade.tradeId ∈ known.recentIds then known.recentIds
  else Deque.push v.dupWindow known.recentIds trade.tradeId

def late (v : DataValidator) (known : SymbolTrack) (trade : Trade) : Except PyError Bool :=
  match known.lastTradeTs with
  | none => .ok false
  | some last => do
      let limit ← last.plus (-v.oooGrace)
      trade.exchangeTs.lt limit

def jumps (v : DataValidator) (known : SymbolTrack) (trade : Trade) : Bool :=
  match known.lastPrice with
  | none => false
  | some last => zero.lt last && zero.lt trade.price && v.maxJump.lt (jumpPct trade.price last)

-- `max` keeps its first argument where the second is not above it.
def latest (known : SymbolTrack) (trade : Trade) : Except PyError Timestamp :=
  match known.lastTradeTs with
  | none => .ok trade.exchangeTs
  | some last => do if ← last.lt trade.exchangeTs then .ok trade.exchangeTs else .ok last

def tradeIssues (v : DataValidator) (trade : Trade) (common : List QualityIssue) (isLate : Bool) : List QualityIssue :=
  let known := track v trade.symbol
  common ++ sizeChecks v trade ++ issueIf (seenId known trade) .duplicate trade.symbol true ++
    issueIf isLate .outOfOrder trade.symbol true ++ issueIf (jumps v known trade) .priceGap trade.symbol true

def setTrack (v : DataValidator) (symbol : String) (known : SymbolTrack) : DataValidator :=
  { v with tracks := v.tracks.insert symbol known }

def remember (v : DataValidator) (trade : Trade) : DataValidator :=
  let known := track v trade.symbol
  setTrack v trade.symbol { known with recentIds := rememberId v known trade }

def accept (v : DataValidator) (trade : Trade) (newest : Timestamp) : DataValidator :=
  setTrack v trade.symbol ⟨some newest, some trade.price, rememberId v (track v trade.symbol) trade⟩

-- The identifier is remembered before the times are compared, so also where
-- that comparison raises.
def validateTrade (v : DataValidator) (trade : Trade) : Except PyError (List QualityIssue) × DataValidator :=
  match commonChecks v trade.symbol trade.price trade.exchangeTs trade.localTs with
  | .error raised => (.error raised, v)
  | .ok common =>
      match late v (track v trade.symbol) trade with
      | .error raised => (.error raised, remember v trade)
      | .ok isLate =>
          let issues := tradeIssues v trade common isLate
          if shouldDiscard issues then (.ok issues, remember v trade)
          else match latest (track v trade.symbol) trade with
            | .error raised => (.error raised, remember v trade)
            | .ok newest => (.ok issues, accept v trade newest)

def validateTicker (v : DataValidator) (ticker : Ticker) : Except PyError (List QualityIssue) := do
  let issues ← commonChecks v ticker.symbol ticker.bid ticker.exchangeTs ticker.localTs
  .ok (issues ++ (if ticker.ask.le zero then [⟨.negativePrice, ticker.symbol, true⟩]
    else issueIf (zero.lt ticker.bid ∧ ticker.ask.lt ticker.bid) .crossedBook ticker.symbol true))

def candleChecks (v : DataValidator) (candle : Candle) : List QualityIssue :=
  issueIf (candle.high.lt (Floats.maxOf candle.open_ [candle.close]) ∨
      (Floats.minOf candle.open_ [candle.close]).lt candle.low ∨ candle.high.lt candle.low) .malformedCandle
      candle.symbol true ++
    issueIf ((Floats.minOf candle.open_ [candle.high, candle.low, candle.close]).le zero) .negativePrice
      candle.symbol true ++
    issueIf (candle.volume.lt zero ∨ v.maxVolume.lt candle.volume) .impossibleVolume candle.symbol true

def validateCandle (v : DataValidator) (candle : Candle) : Except PyError (List QualityIssue) := do
  let inverted ← candle.end_.le candle.start
  .ok (candleChecks v candle ++ issueIf inverted .invalidTimestamp candle.symbol true)

def validateFunding (v : DataValidator) (funding : FundingRate) : Except PyError (List QualityIssue) :=
  timestampChecks v funding.symbol funding.exchangeTs funding.localTs

def validateOpenInterest (v : DataValidator) (oi : OpenInterest) : Except PyError (List QualityIssue) := do
  let issues ← timestampChecks v oi.symbol oi.exchangeTs oi.localTs
  .ok (issues ++ issueIf (oi.contracts.lt zero) .negativeSize oi.symbol true)

def validateLiquidation (v : DataValidator) (liq : Liquidation) : Except PyError (List QualityIssue) := do
  let issues ← commonChecks v liq.symbol liq.price liq.exchangeTs liq.localTs
  .ok (issues ++ issueIf (liq.size.lt zero) .negativeSize liq.symbol true)

inductive MarketObject where
  | trade (trade : Trade)
  | ticker (ticker : Ticker)
  | candle (candle : Candle)
  | bookDelta (delta : FloatValidator.OrderBookDelta)
  | funding (funding : FundingRate)
  | openInterest (oi : OpenInterest)
  | liquidation (liq : Liquidation)

def validate (v : DataValidator) : MarketObject → Except PyError (List QualityIssue) × DataValidator
  | .trade trade => validateTrade v trade
  | .ticker ticker => (validateTicker v ticker, v)
  | .candle candle => (validateCandle v candle, v)
  | .bookDelta delta => (.ok (validateBookDelta delta), v)
  | .funding funding => (validateFunding v funding, v)
  | .openInterest oi => (validateOpenInterest v oi, v)
  | .liquidation liq => (validateLiquidation v liq, v)

def step (v : DataValidator) (object : MarketObject) : DataValidator := (validate v object).2

def fresh (maxJump maxVolume : Extended) (futureTolerance stale : Int) (dupWindow : Nat) (oooGrace : Int) :
    DataValidator :=
  ⟨maxJump, maxVolume, futureTolerance, stale, dupWindow, oooGrace, .empty⟩

@[simp] theorem track_set (v : DataValidator) (symbol other : String) (known : SymbolTrack) :
    track (setTrack v symbol known) other = if other = symbol then known else track v other := by
  rw [track, setTrack, Dict.lookup_insert]
  split <;> rfl

inductive TradeOutcome (v : DataValidator) (trade : Trade) : Except PyError (List QualityIssue) × DataValidator → Prop
  | untimely (raised : PyError)
      (checks : commonChecks v trade.symbol trade.price trade.exchangeTs trade.localTs = .error raised) :
      TradeOutcome v trade (.error raised, v)
  | unordered (common : List QualityIssue) (raised : PyError)
      (checks : commonChecks v trade.symbol trade.price trade.exchangeTs trade.localTs = .ok common)
      (order : late v (track v trade.symbol) trade = .error raised) :
      TradeOutcome v trade (.error raised, remember v trade)
  | discarded (common : List QualityIssue) (isLate : Bool)
      (checks : commonChecks v trade.symbol trade.price trade.exchangeTs trade.localTs = .ok common)
      (order : late v (track v trade.symbol) trade = .ok isLate)
      (objected : shouldDiscard (tradeIssues v trade common isLate) = true) :
      TradeOutcome v trade (.ok (tradeIssues v trade common isLate), remember v trade)
  | incomparable (common : List QualityIssue) (isLate : Bool) (raised : PyError)
      (checks : commonChecks v trade.symbol trade.price trade.exchangeTs trade.localTs = .ok common)
      (clean : shouldDiscard (tradeIssues v trade common isLate) = false)
      (newer : latest (track v trade.symbol) trade = .error raised) :
      TradeOutcome v trade (.error raised, remember v trade)
  | accepted (common : List QualityIssue) (isLate : Bool) (newest : Timestamp)
      (checks : commonChecks v trade.symbol trade.price trade.exchangeTs trade.localTs = .ok common)
      (order : late v (track v trade.symbol) trade = .ok isLate)
      (clean : shouldDiscard (tradeIssues v trade common isLate) = false)
      (newer : latest (track v trade.symbol) trade = .ok newest) :
      TradeOutcome v trade (.ok (tradeIssues v trade common isLate), accept v trade newest)

theorem trade_outcome (v : DataValidator) (trade : Trade) : TradeOutcome v trade (validateTrade v trade) := by
  cases checks : commonChecks v trade.symbol trade.price trade.exchangeTs trade.localTs with
  | error raised =>
      rw [validateTrade, checks]
      exact .untimely raised checks
  | ok common =>
      cases order : late v (track v trade.symbol) trade with
      | error raised =>
          simp only [validateTrade, checks, order]
          exact .unordered common raised checks order
      | ok isLate =>
          by_cases objected : shouldDiscard (tradeIssues v trade common isLate) = true
          · simp only [validateTrade, checks, order, objected, if_true]
            exact .discarded common isLate checks order objected
          · have clean := Bool.eq_false_of_not_eq_true objected
            cases newer : latest (track v trade.symbol) trade with
            | error raised =>
                simp only [validateTrade, checks, order, clean, newer]
                exact .incomparable common isLate raised checks clean newer
            | ok newest =>
                simp only [validateTrade, checks, order, clean, newer]
                exact .accepted common isLate newest checks order clean newer

def Flagged (issues : List QualityIssue) : Prop := ∃ issue ∈ issues, issue.issue = .invalidTimestamp ∧ issue.discard = true

theorem flagged_discards (issues : List QualityIssue) (flagged : Flagged issues) : shouldDiscard issues = true := by
  obtain ⟨issue, member, _, discard⟩ := flagged
  exact List.any_eq_true.mpr ⟨issue, member, discard⟩

@[simp] theorem flagged_append (a b : List QualityIssue) : Flagged (a ++ b) ↔ Flagged a ∨ Flagged b := by
  simp [Flagged, or_and_right, exists_or]

@[simp] theorem flagged_issue_if (condition : Prop) [Decidable condition] (issue : QualityIssueType) (symbol : String)
    (discard : Bool) : Flagged (issueIf condition issue symbol discard) ↔
      condition ∧ issue = .invalidTimestamp ∧ discard = true := by
  by_cases holds : condition <;> simp [Flagged, issueIf, holds]

def Timely (v : DataValidator) (exchangeTs localTs : Timestamp) : Prop :=
  Naive exchangeTs localTs ∨ InRange (localTs.wall + v.futureTolerance)

theorem checks_naive (v : DataValidator) (symbol : String) (exchangeTs localTs : Timestamp) (naive : Naive exchangeTs localTs) :
    timestampChecks v symbol exchangeTs localTs = .ok [⟨.invalidTimestamp, symbol, true⟩] := if_pos naive

theorem checks_outside (v : DataValidator) (symbol : String) (exchangeTs localTs : Timestamp)
    (aware : ¬ Naive exchangeTs localTs) (outside : ¬ InRange (localTs.wall + v.futureTolerance)) :
    timestampChecks v symbol exchangeTs localTs = .error .overflow := by
  rw [timestampChecks, if_neg aware, Timestamp.plus_outside _ _ outside]
  rfl

theorem same_zone (first second : Timestamp) (aware : ¬ Naive first second) : first.aware = true ∧ second.aware = true := by
  simpa [Naive] using aware

-- On times that are aware the checks are those of the instants.
theorem checks_aware (v : DataValidator) (symbol : String) (exchangeTs localTs : Timestamp)
    (aware : ¬ Naive exchangeTs localTs) (fits : InRange (localTs.wall + v.futureTolerance)) :
    timestampChecks v symbol exchangeTs localTs =
      .ok (if localTs.instant + v.futureTolerance < exchangeTs.instant then [⟨.futureTimestamp, symbol, true⟩]
        else issueIf (v.stale < localTs.instant - exchangeTs.instant) .staleTimestamp symbol false) := by
  obtain ⟨exchange, received⟩ := same_zone _ _ aware
  have limit := Timestamp.plus_fits localTs v.futureTolerance fits
  have moved : (⟨localTs.wall + v.futureTolerance, localTs.offset, fits⟩ : Timestamp).instant =
      localTs.instant + v.futureTolerance := add_sub_right_comm _ _ _
  have future := Timestamp.paired_same ⟨localTs.wall + v.futureTolerance, localTs.offset, fits⟩ exchangeTs
    (decide (localTs.instant + v.futureTolerance < exchangeTs.instant)) (received.trans exchange.symm)
  have age := Timestamp.paired_same localTs exchangeTs (localTs.instant - exchangeTs.instant) (received.trans exchange.symm)
  rw [timestampChecks, if_neg aware, limit]
  simp only [Json.ok_bind, Timestamp.lt, Timestamp.minus, moved, future, age]
  by_cases ahead : localTs.instant + v.futureTolerance < exchangeTs.instant
  · simp [ahead]
  · simp [ahead]

theorem checks_return (v : DataValidator) (symbol : String) (exchangeTs localTs : Timestamp) :
    (∃ issues, timestampChecks v symbol exchangeTs localTs = .ok issues) ↔ Timely v exchangeTs localTs := by
  by_cases naive : Naive exchangeTs localTs
  · exact ⟨fun _ => .inl naive, fun _ => ⟨_, checks_naive v symbol _ _ naive⟩⟩
  · by_cases fits : InRange (localTs.wall + v.futureTolerance)
    · exact ⟨fun _ => .inr fits, fun _ => ⟨_, checks_aware v symbol _ _ naive fits⟩⟩
    · simp [checks_outside v symbol _ _ naive fits, Timely, naive, fits]

theorem checks_flag (v : DataValidator) (symbol : String) (exchangeTs localTs : Timestamp) (issues : List QualityIssue)
    (checks : timestampChecks v symbol exchangeTs localTs = .ok issues) (naive : Naive exchangeTs localTs) :
    Flagged issues := by
  rw [checks_naive v symbol _ _ naive] at checks
  cases checks
  exact ⟨_, List.mem_singleton_self _, rfl, rfl⟩

theorem map_returns {α β : Type} (result : Except PyError α) (f : α → β) :
    (∃ value, (do let given ← result; .ok (f given)) = .ok value) ↔ ∃ given, result = .ok given := by
  cases result with
  | error raised => exact ⟨fun ⟨_, given⟩ => (by cases given), fun ⟨_, given⟩ => (by cases given)⟩
  | ok given => exact ⟨fun _ => ⟨given, rfl⟩, fun _ => ⟨f given, rfl⟩⟩

-- What is added to the checks of the times changes neither whether they return
-- nor what they flag.
structure Extends (v : DataValidator) (symbol : String) (exchangeTs localTs : Timestamp)
    (result : Except PyError (List QualityIssue)) : Prop where
  returns : (∃ issues, result = .ok issues) ↔ Timely v exchangeTs localTs
  flags : ∀ issues, result = .ok issues → Naive exchangeTs localTs → Flagged issues

theorem checks_extend (v : DataValidator) (symbol : String) (exchangeTs localTs : Timestamp) :
    Extends v symbol exchangeTs localTs (timestampChecks v symbol exchangeTs localTs) :=
  ⟨checks_return v symbol _ _, checks_flag v symbol _ _⟩

theorem append_extends (v : DataValidator) (symbol : String) (exchangeTs localTs : Timestamp)
    (result : Except PyError (List QualityIssue)) (more : List QualityIssue)
    (given : Extends v symbol exchangeTs localTs result) :
    Extends v symbol exchangeTs localTs (do let issues ← result; .ok (issues ++ more)) := by
  refine ⟨(map_returns result (· ++ more)).trans given.returns, fun issues returned naive => ?_⟩
  cases result with
  | error raised => cases returned
  | ok first =>
      cases returned
      exact (flagged_append first more).mpr (.inl (given.flags first rfl naive))

theorem common_extends (v : DataValidator) (symbol : String) (price : Extended) (exchangeTs localTs : Timestamp) :
    Extends v symbol exchangeTs localTs (commonChecks v symbol price exchangeTs localTs) :=
  append_extends v symbol _ _ _ _ (checks_extend v symbol _ _)

theorem trade_flagged (v : DataValidator) (trade : Trade) (common : List QualityIssue) (isLate : Bool)
    (checks : commonChecks v trade.symbol trade.price trade.exchangeTs trade.localTs = .ok common)
    (naive : Naive trade.exchangeTs trade.localTs) : Flagged (tradeIssues v trade common isLate) := by
  have flagged := (common_extends v _ _ _ _).flags common checks naive
  simp [tradeIssues, flagged]

theorem clean_aware (v : DataValidator) (trade : Trade) (common : List QualityIssue) (isLate : Bool)
    (checks : commonChecks v trade.symbol trade.price trade.exchangeTs trade.localTs = .ok common)
    (clean : shouldDiscard (tradeIssues v trade common isLate) = false) :
    trade.exchangeTs.aware = true ∧ trade.localTs.aware = true := by
  apply same_zone
  intro naive
  rw [flagged_discards _ (trade_flagged v trade common isLate checks naive)] at clean
  cases clean

-- A last trade has a zone, and no more identifiers are kept than the window holds.
structure WellKept (v : DataValidator) : Prop where
  aware : ∀ symbol last, (track v symbol).lastTradeTs = some last → last.aware = true
  bounded : ∀ symbol, (track v symbol).recentIds.length ≤ v.dupWindow

theorem remember_bounded (v : DataValidator) (trade : Trade) (kept : WellKept v) :
    (rememberId v (track v trade.symbol) trade).length ≤ v.dupWindow := by
  rw [rememberId]
  split
  · exact kept.bounded trade.symbol
  · rw [Deque.push, Deque.newest_length]
    exact Nat.min_le_left _ _

theorem set_kept (v : DataValidator) (symbol : String) (known : SymbolTrack) (kept : WellKept v)
    (aware : ∀ last, known.lastTradeTs = some last → last.aware = true) (bounded : known.recentIds.length ≤ v.dupWindow) :
    WellKept (setTrack v symbol known) := by
  constructor
  · intro other last given
    rw [track_set] at given
    split at given
    · exact aware last given
    · exact kept.aware other last given
  · intro other
    rw [track_set]
    split
    · exact bounded
    · exact kept.bounded other

theorem remember_kept (v : DataValidator) (trade : Trade) (kept : WellKept v) : WellKept (remember v trade) :=
  set_kept v trade.symbol _ kept (kept.aware trade.symbol) (remember_bounded v trade kept)

theorem latest_aware (known : SymbolTrack) (trade : Trade) (newest : Timestamp)
    (last : ∀ last, known.lastTradeTs = some last → last.aware = true) (exchange : trade.exchangeTs.aware = true)
    (newer : latest known trade = .ok newest) : newest.aware = true := by
  rw [latest] at newer
  split at newer
  · cases newer
    exact exchange
  · rename_i time given
    have here := last time given
    rw [Timestamp.lt, Timestamp.paired_same _ _ _ (here.trans exchange.symm), Json.ok_bind] at newer
    split at newer
    · cases newer
      exact exchange
    · cases newer
      exact here

theorem trade_kept (v : DataValidator) (trade : Trade) (kept : WellKept v) : WellKept (validateTrade v trade).2 := by
  have outcome := trade_outcome v trade
  generalize validateTrade v trade = result at outcome
  cases outcome with
  | untimely raised checks => exact kept
  | unordered common raised checks order => exact remember_kept v trade kept
  | discarded common isLate checks order objected => exact remember_kept v trade kept
  | incomparable common isLate raised checks clean newer => exact remember_kept v trade kept
  | accepted common isLate newest checks order clean newer =>
      have exchange := (clean_aware v trade common isLate checks clean).1
      refine set_kept v trade.symbol _ kept (fun last given => ?_) (remember_bounded v trade kept)
      cases given
      exact latest_aware _ trade newest (kept.aware trade.symbol) exchange newer

theorem step_kept (v : DataValidator) (object : MarketObject) (kept : WellKept v) : WellKept (step v object) := by
  cases object with
  | trade trade => exact trade_kept v trade kept
  | ticker ticker => exact kept
  | candle candle => exact kept
  | bookDelta delta => exact kept
  | funding funding => exact kept
  | openInterest oi => exact kept
  | liquidation liq => exact kept

theorem fresh_kept (maxJump maxVolume : Extended) (futureTolerance stale : Int) (dupWindow : Nat) (oooGrace : Int) :
    WellKept (fresh maxJump maxVolume futureTolerance stale dupWindow oooGrace) :=
  ⟨fun _ _ given => (by cases given), fun _ => Nat.zero_le _⟩

theorem run_kept (v : DataValidator) (history : List MarketObject) (kept : WellKept v) :
    WellKept (Run.final step v history) :=
  Run.final_preserved step WellKept step_kept v history kept

def Reachable (v : DataValidator) : Prop :=
  ∃ maxJump maxVolume futureTolerance stale dupWindow oooGrace history,
    v = Run.final step (fresh maxJump maxVolume futureTolerance stale dupWindow oooGrace) history

theorem reachable_kept (v : DataValidator) (reachable : Reachable v) : WellKept v := by
  obtain ⟨maxJump, maxVolume, futureTolerance, stale, dupWindow, oooGrace, history, rfl⟩ := reachable
  exact run_kept _ history (fresh_kept maxJump maxVolume futureTolerance stale dupWindow oooGrace)

end QuantEngine.ZonedValidator
