import QuantEngine.Library.Run
import QuantEngine.Market.FloatValidator

set_option autoImplicit false

namespace QuantEngine.FloatValidator

open Calendar
open Validator (QualityIssueType QualityIssue issueIf shouldDiscard should_discard_append)
open Run (Each)

def Price (number : Extended) : Prop := ∃ value : ℚ, number = .finite value ∧ 0 < value

def Size (number : Extended) : Prop := ∃ value : ℚ, number = .finite value ∧ 0 ≤ value

def Finite (number : Extended) : Prop := ∃ value : ℚ, number = .finite value

-- The fields that `validate` compares, and those it never reads. The vwap is zero
-- where there is no volume, so it counts with the sizes.
def checkedPrices : MarketObject → List Extended
  | .trade trade => [trade.price]
  | .ticker ticker => [ticker.bid, ticker.ask]
  | .candle candle => [candle.open_, candle.high, candle.low, candle.close]
  | .bookDelta delta => (delta.bids ++ delta.asks).map DepthLevel.price
  | .liquidation liq => [liq.price]

def checkedSizes : MarketObject → List Extended
  | .trade trade => [trade.size]
  | .ticker _ => []
  | .candle candle => [candle.volume]
  | .bookDelta delta => (delta.bids ++ delta.asks).map DepthLevel.size
  | .liquidation liq => [liq.size]

def otherPrices : MarketObject → List Extended
  | .ticker ticker => ticker.last.toList ++ ticker.markPrice.toList ++ ticker.indexPrice.toList
  | _ => []

def otherSizes : MarketObject → List Extended
  | .ticker ticker => [ticker.bidSize, ticker.askSize]
  | .candle candle => [candle.buyVolume, candle.sellVolume, candle.vwap]
  | _ => []

def Clean (object : MarketObject) : Prop :=
  (∀ price ∈ checkedPrices object ++ otherPrices object, Price price) ∧
    ∀ size ∈ checkedSizes object ++ otherSizes object, Size size

-- Every number that a comparison reads is finite, and those that none reads are in order.
def Unspoiled (object : MarketObject) : Prop :=
  (∀ number ∈ checkedPrices object ++ checkedSizes object, Finite number) ∧
    (∀ price ∈ otherPrices object, Price price) ∧ ∀ size ∈ otherSizes object, Size size

-- The comparisons that reject an object.
def Objected (v : DataValidator) : MarketObject → Prop
  | .trade trade => trade.localTs + v.futureTolerance < trade.exchangeTs ∨ trade.price.le zero ∨ trade.size.lt zero ∨
      v.maxVolume.lt trade.size ∨ seenId (track v trade.symbol) trade ∨ late v (track v trade.symbol) trade ∨
      jumps v (track v trade.symbol) trade
  | .ticker ticker => ticker.localTs + v.futureTolerance < ticker.exchangeTs ∨ ticker.bid.le zero ∨ ticker.ask.le zero ∨
      (zero.lt ticker.bid ∧ ticker.ask.lt ticker.bid)
  | .candle candle => malformed candle ∨
      (Floats.minOf candle.open_ [candle.high, candle.low, candle.close]).le zero ∨
      (candle.volume.lt zero ∨ v.maxVolume.lt candle.volume) ∨ candle.end_ ≤ candle.start
  | .bookDelta delta => ∃ level ∈ delta.bids ++ delta.asks, level.price.le zero ∨ level.size.lt zero
  | .liquidation liq => liq.localTs + v.futureTolerance < liq.exchangeTs ∨ liq.price.le zero ∨ liq.size.lt zero

@[simp] theorem issue_if_discards (condition : Prop) [Decidable condition] (issue : QualityIssueType) (symbol : String) :
    shouldDiscard (issueIf condition issue symbol true) = decide condition := by
  by_cases holds : condition <;> simp [issueIf, holds, shouldDiscard]

@[simp] theorem timestamp_discards (v : DataValidator) (symbol : String) (exchangeTs localTs : Moment) :
    shouldDiscard (timestampChecks v symbol exchangeTs localTs) = decide (localTs + v.futureTolerance < exchangeTs) := by
  rw [timestampChecks]
  split
  next future => simp [shouldDiscard, future]
  next timely =>
    by_cases stale : v.stale < localTs - exchangeTs <;> simp [issueIf, stale, shouldDiscard, timely]

theorem else_if_discards (first second : Prop) [Decidable first] [Decidable second] (a b : QualityIssueType)
    (symbol : String) :
    shouldDiscard (if first then [⟨a, symbol, true⟩] else issueIf second b symbol true) = decide (first ∨ second) := by
  by_cases holds : first
  · simp [holds, shouldDiscard]
  · simp [holds]

theorem level_discards (symbol : String) (levels : List DepthLevel) :
    shouldDiscard (levelIssues symbol levels) = true ↔
      ∃ level ∈ levels, level.price.le zero ∨ level.size.lt zero := by
  induction levels with
  | nil => simp [levelIssues, shouldDiscard]
  | cons level rest ih =>
      rw [levelIssues]
      by_cases price : level.price.le zero
      · simp [price, shouldDiscard]
      · by_cases size : level.size.lt zero
        · simp [price, size, shouldDiscard]
        · simp [price, size, ih]

theorem discards_iff (v : DataValidator) (object : MarketObject) :
    shouldDiscard (validate v object).1 = true ↔ Objected v object := by
  cases object with
  | trade trade =>
      simp only [validate, validateTrade, tradeIssues, commonChecks, sizeChecks, should_discard_append, timestamp_discards,
        issue_if_discards, else_if_discards, Bool.or_eq_true, decide_eq_true_eq, Objected]
      tauto
  | ticker ticker =>
      simp only [validate, validateTicker, commonChecks, should_discard_append, timestamp_discards, issue_if_discards,
        else_if_discards, Bool.or_eq_true, decide_eq_true_eq, Objected]
      tauto
  | candle candle =>
      simp only [validate, validateCandle, should_discard_append, issue_if_discards, Bool.or_eq_true, decide_eq_true_eq,
        Objected]
      tauto
  | bookDelta delta => exact level_discards delta.symbol _
  | liquidation liq =>
      simp only [validate, validateLiquidation, commonChecks, should_discard_append, timestamp_discards, issue_if_discards,
        Bool.or_eq_true, decide_eq_true_eq, Objected]
      tauto

theorem price_of_finite (number : Extended) (finite : Finite number) (above : ¬ number.le zero) : Price number := by
  obtain ⟨value, rfl⟩ := finite
  exact ⟨value, rfl, by simpa [zero] using above⟩

theorem size_of_finite (number : Extended) (finite : Finite number) (above : ¬ number.lt zero) : Size number := by
  obtain ⟨value, rfl⟩ := finite
  exact ⟨value, rfl, by simpa [zero] using above⟩

theorem candle_prices (candle : Candle) (finite : ∀ number ∈ checkedPrices (.candle candle), Finite number)
    (above : ¬ (Floats.minOf candle.open_ [candle.high, candle.low, candle.close]).le zero) :
    ∀ price ∈ checkedPrices (.candle candle), Price price := by
  obtain ⟨first, opened⟩ := finite candle.open_ List.mem_cons_self
  obtain ⟨least, same, below⟩ := Extended.min_of_finite first [candle.high, candle.low, candle.close]
    (fun number member => finite number (List.mem_cons_of_mem _ member))
  rw [opened, same] at above
  intro price member
  obtain ⟨value, rfl⟩ := finite price member
  have least_le := below value (by rw [← opened]; exact member)
  have positive : 0 < least := by simpa [zero] using above
  exact ⟨value, rfl, positive.trans_le least_le⟩

theorem checked_clean (v : DataValidator) (object : MarketObject)
    (finite : ∀ number ∈ checkedPrices object ++ checkedSizes object, Finite number) (accepted : ¬ Objected v object) :
    (∀ price ∈ checkedPrices object, Price price) ∧ ∀ size ∈ checkedSizes object, Size size := by
  have prices := fun number member => finite number (List.mem_append_left _ member)
  have sizes := fun number member => finite number (List.mem_append_right _ member)
  cases object with
  | trade trade =>
      simp only [Objected, not_or] at accepted
      obtain ⟨-, price, size, -⟩ := accepted
      simp only [checkedPrices, checkedSizes, List.forall_mem_singleton] at prices sizes ⊢
      exact ⟨price_of_finite _ prices price, size_of_finite _ sizes size⟩
  | ticker ticker =>
      simp only [Objected, not_or] at accepted
      obtain ⟨-, bid, ask, -⟩ := accepted
      simp only [checkedPrices, checkedSizes, List.forall_mem_cons] at prices ⊢
      exact ⟨⟨price_of_finite _ prices.1 bid, price_of_finite _ prices.2.1 ask, nofun⟩, nofun⟩
  | candle candle =>
      simp only [Objected, not_or] at accepted
      obtain ⟨-, least, ⟨volume, -⟩, -⟩ := accepted
      refine ⟨candle_prices candle prices least, ?_⟩
      simp only [checkedSizes, List.forall_mem_singleton] at sizes ⊢
      exact size_of_finite _ sizes volume
  | bookDelta delta =>
      have level := fun level member => not_or.mp (fun objected => accepted ⟨level, member, objected⟩)
      simp only [checkedPrices, checkedSizes, List.forall_mem_map] at prices sizes ⊢
      exact ⟨fun each member => price_of_finite _ (prices each member) (level each member).1,
        fun each member => size_of_finite _ (sizes each member) (level each member).2⟩
  | liquidation liq =>
      simp only [Objected, not_or] at accepted
      obtain ⟨-, price, size⟩ := accepted
      simp only [checkedPrices, checkedSizes, List.forall_mem_singleton] at prices sizes ⊢
      exact ⟨price_of_finite _ prices price, size_of_finite _ sizes size⟩

theorem clean_of_accepted (v : DataValidator) (object : MarketObject) (unspoiled : Unspoiled object)
    (accepted : ¬ Objected v object) : Clean object := by
  obtain ⟨finite, prices, sizes⟩ := unspoiled
  obtain ⟨checked, measured⟩ := checked_clean v object finite accepted
  exact ⟨List.forall_mem_append.mpr ⟨checked, prices⟩, List.forall_mem_append.mpr ⟨measured, sizes⟩⟩

theorem unspoiled_of_clean (object : MarketObject) (clean : Clean object) : Unspoiled object := by
  obtain ⟨prices, sizes⟩ := clean
  rw [List.forall_mem_append] at prices sizes
  refine ⟨List.forall_mem_append.mpr ⟨fun number member => ?_, fun number member => ?_⟩, prices.2, sizes.2⟩
  · obtain ⟨value, same, -⟩ := prices.1 number member
    exact ⟨value, same⟩
  · obtain ⟨value, same, -⟩ := sizes.1 number member
    exact ⟨value, same⟩

theorem accepted_clean_iff (v : DataValidator) (object : MarketObject) :
    (shouldDiscard (validate v object).1 = false → Clean object) ↔ Unspoiled object ∨ Objected v object := by
  rw [← Bool.not_eq_true, discards_iff]
  constructor
  · intro meets
    by_cases objected : Objected v object
    · exact .inr objected
    · exact .inl (unspoiled_of_clean object (meets objected))
  · rintro (unspoiled | objected) accepted
    · exact clean_of_accepted v object unspoiled accepted
    · exact absurd objected accepted

def LastPrices (v : DataValidator) : Prop := ∀ symbol last, (track v symbol).lastPrice = some last → Price last

-- The jump check compares the exact distance to the last price.
def JumpEffective (v : DataValidator) : Prop :=
  ∀ (trade : Trade) (last price : ℚ), (track v trade.symbol).lastPrice = some (.finite last) →
    trade.price = .finite price → 0 < price →
    (jumps v (track v trade.symbol) trade = true ↔ v.maxJump.lt (.finite (|price - last| / last * 100)) = true)

theorem jump_effective (v : DataValidator) (prices : LastPrices v) : JumpEffective v := by
  intro trade last price known priced above
  obtain ⟨value, same, positive⟩ := prices trade.symbol _ known
  cases same
  simp [jumps, known, priced, zero, above, positive, jump_pct_finite price last positive]

theorem last_prices_step (v : DataValidator) (object : MarketObject) (prices : LastPrices v)
    (met : shouldDiscard (validate v object).1 = false → Clean object) : LastPrices (step v object) := by
  cases object with
  | trade trade =>
      intro symbol last known
      simp only [step, validate, validateTrade, track, Dict.lookup_insert] at known
      by_cases here : symbol = trade.symbol
      · rw [if_pos here, Option.getD_some] at known
        split at known
        · exact prices trade.symbol last known
        next accepted =>
          cases known
          exact (met (Bool.eq_false_of_not_eq_true accepted)).1 trade.price List.mem_cons_self
      · rw [if_neg here] at known
        exact prices symbol last known
  | ticker | candle | bookDelta | liquidation => exact prices

theorem no_bad_numbers_iff (maxJump maxVolume : Extended) (futureTolerance stale : Int) (dupWindow : Nat) (oooGrace : Int)
    (objects : List MarketObject) :
    Each step (fun v object => (shouldDiscard (validate v object).1 = false → Clean object) ∧
        LastPrices (step v object) ∧ JumpEffective (step v object))
        (fresh maxJump maxVolume futureTolerance stale dupWindow oooGrace) objects ↔
      Each step (fun v object => Unspoiled object ∨ Objected v object)
        (fresh maxJump maxVolume futureTolerance stale dupWindow oooGrace) objects := by
  refine Run.each_iff step _ _ LastPrices (fun v object prices => ?_) (fun v object prices met => ?_) _ objects ?_
  · rw [← accepted_clean_iff]
    refine ⟨And.left, fun met => ⟨met, ?_⟩⟩
    have after := last_prices_step v object prices met
    exact ⟨after, jump_effective _ after⟩
  · exact last_prices_step v object prices ((accepted_clean_iff v object).mpr met)
  · rintro symbol last ⟨⟩

-- `as_float` reads "NaN" as a number and no comparison objects to it: it becomes the
-- last price, and the next trade may be at a thousand times the one before.
def standard : DataValidator := fresh (.finite 20) (.finite 1000000000000) 5000000 120000000 4096 2000000

def tradeAt (tradeId : String) (price : Extended) : MarketObject :=
  .trade ⟨"BTCUSDT", tradeId, price, .finite 1, 0, 0⟩

theorem nan_trade_enters :
    ¬ (∀ objects : List MarketObject,
        Each step (fun v object => (shouldDiscard (validate v object).1 = false → Clean object) ∧
          LastPrices (step v object) ∧ JumpEffective (step v object)) standard objects) ∧
      shouldDiscard (validate (step standard (tradeAt "a" (.finite 100))) (tradeAt "c" (.finite 100000))).1 = true ∧
      shouldDiscard (validate (Run.final step standard [tradeAt "a" (.finite 100), tradeAt "b" .nan])
        (tradeAt "c" (.finite 100000))).1 = false := by
  refine ⟨fun every => ?_, by decide +kernel, by decide +kernel⟩
  obtain ⟨⟨clean, -⟩, -⟩ := every [tradeAt "b" .nan]
  obtain ⟨value, same, -⟩ := (clean (by decide +kernel)).1 .nan List.mem_cons_self
  cases same

end QuantEngine.FloatValidator
