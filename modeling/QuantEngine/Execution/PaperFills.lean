import QuantEngine.Execution.Broker

set_option autoImplicit false

namespace QuantEngine.PaperFills

open Calendar (Moment)
open Decimal (roundTo scale NotAbove NotBelow)

-- The drift of an execution in which every draw of the jitter is at its end.
def maxDrift (s : LatencySettings) : ℚ :=
  if s.enabled then
    (s.networkMs + s.brokerMs + s.exchangeMs + s.internalMs + 4 * s.jitterMs) / 100 * s.priceDriftBpsPer100ms
  else 0

structure Admissible (settings : PaperSettings) : Prop where
  maxBps : 0 ≤ settings.slippage.maxBps
  networkMs : 0 ≤ settings.latency.networkMs
  brokerMs : 0 ≤ settings.latency.brokerMs
  exchangeMs : 0 ≤ settings.latency.exchangeMs
  internalMs : 0 ≤ settings.latency.internalMs
  jitterMs : 0 ≤ settings.latency.jitterMs
  drift : 0 ≤ settings.latency.priceDriftBpsPer100ms
  bounded : settings.slippage.maxBps + maxDrift settings.latency < 10000

def NoBetter (side : OrderSide) (price reference : ℚ) : Prop :=
  match side with
  | .buy => roundTo 8 reference ≤ price
  | .sell => price ≤ roundTo 8 reference

def WithinLimit (side : OrderSide) (price limit : ℚ) : Prop :=
  match side with
  | .buy => price ≤ limit
  | .sell => limit ≤ price

-- The limit of an order that has one.
def limitOf (request : OrderRequest) : Option ℚ :=
  match request.orderType with
  | .limit | .stopLimit => request.limitPrice
  | _ => none

structure FairFill (request : OrderRequest) (fill : Fill) : Prop where
  price : 0 < fill.price
  adverse : NoBetter request.side fill.price fill.referencePrice
  quantity : 0 < fill.quantity ∧ fill.quantity ≤ request.quantity
  limit : ∀ limit ∈ limitOf request, WithinLimit request.side fill.price limit

section

variable (paper : PaperBroker) (state : PaperState) (request : OrderRequest) (ticker : Ticker)
  (context : Option SlippageContext) (allowReject allowPartial : Bool)

-- The basis points that slippage and latency cost, as drawn.
def costBps : ℚ :=
  (SlippageEngine.estimateBps paper.settings.slippage paper.slippageRng state.slippageDrawn
      (context.getD { spreadBps := some ticker.spreadBps, orderQuantity := request.quantity })).1 +
    (LatencyEngine.sample paper.settings.latency paper.latencyRng state.latencyDrawn).1.driftBps

def firstDraw : Nat := if allowReject then state.drawn + 1 else state.drawn

-- The part of the order that is filled where a partial fill is drawn.
def drawnPart : ℚ :=
  Decimal.double request.quantity * paper.rng.uniform (firstDraw state allowReject + 1) (1 / 2) (9 / 10)

-- The reference moved by the costs shows in eight decimals, and so does the
-- part of a partial fill, which they do not round past the order; and past the
-- limit the costs move the reference by less than eight decimals show.
structure Visible (reference : ℚ) : Prop where
  price : 1 / 2 < PaperBroker.applyAdverse reference request.side (costBps paper state request ticker context) * scale 8
  part : allowPartial = true →
    paper.rng.draw (firstDraw state allowReject) < paper.settings.partialFillProbability →
      1 / 2 < drawnPart paper state request allowReject * scale 8 ∧
        NotAbove 8 request.quantity (drawnPart paper state request allowReject)
  limit : ∀ limit ∈ limitOf request, match request.side with
    | .buy => NotAbove 8 limit (PaperBroker.applyAdverse reference .buy (costBps paper state request ticker context))
    | .sell => NotBelow 8 limit (PaperBroker.applyAdverse reference .sell (costBps paper state request ticker context))

end

theorem slippage_bounds (s : SlippageSettings) (source : RandomSource) (drawn : Nat) (context : SlippageContext)
    (nonneg : 0 ≤ s.maxBps) : 0 ≤ (SlippageEngine.estimateBps s source drawn context).1 ∧
      (SlippageEngine.estimateBps s source drawn context).1 ≤ roundTo 4 s.maxBps := by
  simp only [SlippageEngine.estimateBps]
  split
  · exact ⟨le_refl _, Decimal.round_to_nonneg 4 _ nonneg⟩
  · exact ⟨Decimal.round_to_nonneg 4 _ (le_min (le_max_right _ _) nonneg), Decimal.round_to_mono 4 _ _ (min_le_right _ _)⟩

theorem uniform_bounds (source : RandomSource) (index : Nat) (high : ℚ) (nonneg : 0 ≤ high) :
    0 ≤ source.uniform index 0 high ∧ source.uniform index 0 high ≤ high := by
  have low := source.nonneg index
  have below := (source.belowOne index).le
  rw [RandomSource.uniform, zero_add, sub_zero]
  exact ⟨mul_nonneg nonneg low, mul_le_of_le_one_right nonneg below⟩

theorem drift_bounds (settings : PaperSettings) (admissible : Admissible settings) (source : RandomSource) (drawn : Nat) :
    0 ≤ (LatencyEngine.sample settings.latency source drawn).1.driftBps ∧
      (LatencyEngine.sample settings.latency source drawn).1.driftBps ≤ roundTo 4 (maxDrift settings.latency) := by
  have network := admissible.networkMs
  have broker := admissible.brokerMs
  have exchange := admissible.exchangeMs
  have internal := admissible.internalMs
  have first := uniform_bounds source drawn _ admissible.jitterMs
  have second := uniform_bounds source (drawn + 1) _ admissible.jitterMs
  have third := uniform_bounds source (drawn + 2) _ admissible.jitterMs
  have fourth := uniform_bounds source (drawn + 3) _ admissible.jitterMs
  simp only [LatencyEngine.sample, maxDrift]
  cases settings.latency.enabled with
  | false => exact ⟨le_refl _, Decimal.round_to_nonneg 4 _ (le_refl _)⟩
  | true =>
      constructor
      · refine Decimal.round_to_nonneg 4 _ (mul_nonneg (div_nonneg ?_ (by norm_num)) admissible.drift)
        linarith
      · refine Decimal.round_to_mono 4 _ _ (mul_le_mul_of_nonneg_right (div_le_div_of_nonneg_right ?_ (by norm_num))
          admissible.drift)
        linarith

-- Two amounts below a whole number of units in all round to at most that.
theorem round_sum_le (digits : Nat) (a b : ℚ) (n : Int) (below : a + b < n / scale digits) :
    roundTo digits a + roundTo digits b ≤ n / scale digits := by
  have positive := Decimal.scale_pos digits
  have nearA := (Decimal.round_near (a * scale digits)).2
  have nearB := (Decimal.round_near (b * scale digits)).2
  have scaled : a * scale digits + b * scale digits < n := by
    rw [← add_mul]
    exact (lt_div_iff₀ positive).mp below
  have whole : ((Decimal.roundHalfEven (a * scale digits) + Decimal.roundHalfEven (b * scale digits) : Int) : ℚ) <
      (n + 1 : Int) := by
    push_cast
    linarith
  have within : Decimal.roundHalfEven (a * scale digits) + Decimal.roundHalfEven (b * scale digits) ≤ n := by
    have strict := Int.cast_lt.mp whole
    omega
  rw [roundTo, roundTo, ← add_div]
  exact div_le_div_of_nonneg_right (by exact_mod_cast within) positive.le

theorem cost_bounds (paper : PaperBroker) (admissible : Admissible paper.settings) (state : PaperState)
    (request : OrderRequest) (ticker : Ticker) (context : Option SlippageContext) :
    0 ≤ costBps paper state request ticker context ∧ costBps paper state request ticker context ≤ 10000 := by
  have slippage := slippage_bounds paper.settings.slippage paper.slippageRng state.slippageDrawn
    (context.getD { spreadBps := some ticker.spreadBps, orderQuantity := request.quantity }) admissible.maxBps
  have drift := drift_bounds paper.settings admissible paper.latencyRng state.latencyDrawn
  have sum := round_sum_le 4 paper.settings.slippage.maxBps (maxDrift paper.settings.latency) 100000000
    (by simpa [scale] using admissible.bounded.trans_eq (by norm_num))
  have whole : ((100000000 : Int) : ℚ) / scale 4 = 10000 := by
    rw [scale]
    norm_num
  rw [whole] at sum
  rw [costBps]
  exact ⟨add_nonneg slippage.1 drift.1, by linarith⟩

section

variable (paper : PaperBroker) (state : PaperState) (now : Moment) (request : OrderRequest) (ticker : Ticker)
  (context : Option SlippageContext) (allowReject allowPartial : Bool) (fill : Fill)

structure Made (reference : ℚ) : Prop where
  referencePrice : fill.referencePrice = reference
  price : fill.price =
    roundTo 8 (PaperBroker.applyAdverse reference request.side (costBps paper state request ticker context))
  quantity : fill.quantity =
    if allowPartial ∧ paper.rng.draw (firstDraw state allowReject) < paper.settings.partialFillProbability then
      roundTo 8 (drawnPart paper state request allowReject)
    else request.quantity

theorem made_at (reference : ℚ)
    (made : (paper.fillAt (if allowReject then { state with drawn := state.drawn + 1 } else state) now request ticker context
      allowPartial reference).1.fill = some fill) :
    Made paper state request ticker context allowReject allowPartial fill reference := by
  have slippageDrawn : (if allowReject then { state with drawn := state.drawn + 1 } else state).slippageDrawn =
      state.slippageDrawn := by cases allowReject <;> rfl
  have latencyDrawn : (if allowReject then { state with drawn := state.drawn + 1 } else state).latencyDrawn =
      state.latencyDrawn := by cases allowReject <;> rfl
  have drawn : (if allowReject then { state with drawn := state.drawn + 1 } else state).drawn =
      firstDraw state allowReject := by cases allowReject <;> rfl
  simp only [PaperBroker.fillAt, slippageDrawn, latencyDrawn, drawn] at made
  cases made
  refine ⟨rfl, rfl, ?_⟩
  cases allowPartial with
  | false => simp
  | true =>
      simp only [PaperBroker.fillQuantity, drawnPart, if_true, true_and]
      split <;> rfl

theorem buy_reference_pos (reference : ℚ) (quoted : 0 < ticker.bid ∧ ticker.bid ≤ ticker.ask) (buys : request.side = .buy)
    (referenced : PaperBroker.referencePrice request ticker = some reference) : 0 < reference := by
  have ask : 0 < ticker.ask := quoted.1.trans_le quoted.2
  simp only [PaperBroker.referencePrice, buys, decide_true, if_true] at referenced
  split at referenced
  · split at referenced
    · cases referenced
      exact ask
    · rename_i limit _
      by_cases marketable : ticker.ask ≤ limit
      · simp only [marketable, decide_true, if_true, Option.some.injEq] at referenced
        exact referenced ▸ ask.trans_le marketable
      · simp [marketable] at referenced
  · split at referenced
    · cases referenced
    · split at referenced
      · cases referenced
        exact ask
      · cases referenced
  · split at referenced
    · cases referenced
    · split at referenced
      · cases referenced
        exact ask
      · cases referenced
  · cases referenced
    exact ask

end

theorem no_better (side : OrderSide) (reference cost : ℚ) (buys : side = .buy → 0 < reference)
    (bounds : 0 ≤ cost ∧ cost ≤ 10000) (shows_ : 1 / 2 < PaperBroker.applyAdverse reference side cost * scale 8) :
    NoBetter side (roundTo 8 (PaperBroker.applyAdverse reference side cost)) reference := by
  have share : 0 ≤ cost / 10000 ∧ cost / 10000 ≤ 1 := ⟨by linarith, by linarith⟩
  cases side with
  | buy =>
      refine Decimal.round_to_mono 8 _ _ ?_
      have paid := mul_nonneg (buys rfl).le share.1
      rw [PaperBroker.applyAdverse]
      linarith
  | sell =>
      refine Decimal.round_to_mono 8 _ _ ?_
      rw [PaperBroker.applyAdverse] at shows_ ⊢
      have positive : 0 < reference * (1 - cost / 10000) :=
        pos_of_mul_pos_left (by linarith : 0 < _ * scale 8) (Decimal.scale_pos 8).le
      have sold : 0 < reference := pos_of_mul_pos_left positive (by linarith)
      have paid := mul_nonneg sold.le share.1
      linarith

-- A paper fill of an order keeps all four laws exactly where its numbers show
-- in eight decimals and, for an order with a limit, its costs do not.
theorem fair_fill_iff (paper : PaperBroker) (admissible : Admissible paper.settings) (state : PaperState) (now : Moment)
    (request : OrderRequest) (ticker : Ticker) (context : Option SlippageContext) (allowReject allowPartial : Bool)
    (fill : Fill) (filled : (paper.execute state now request ticker context allowReject allowPartial).1.fill = some fill) :
    FairFill request fill ↔ ∀ reference ∈ PaperBroker.referencePrice request ticker,
      Visible paper state request ticker context allowReject allowPartial reference := by
  obtain ⟨asked, quoted, reference, referenced, at_⟩ :=
    paper.execute_filled state now request ticker context allowReject allowPartial fill filled
  obtain ⟨sameReference, price, quantity⟩ :=
    made_at paper state now request ticker context allowReject allowPartial fill reference at_
  have cost := cost_bounds paper admissible state request ticker context
  have limits (limit : ℚ) : WithinLimit request.side fill.price limit ↔ match request.side with
      | .buy => NotAbove 8 limit (PaperBroker.applyAdverse reference .buy (costBps paper state request ticker context))
      | .sell => NotBelow 8 limit (PaperBroker.applyAdverse reference .sell (costBps paper state request ticker context)) := by
    rw [price]
    cases request.side with
    | buy => exact Decimal.round_to_le_iff 8 _ _
    | sell => exact Decimal.le_round_to_iff 8 _ _
  constructor
  · intro fair other given
    cases Option.some.inj (referenced.symm.trans given)
    refine ⟨?_, fun partially drawn => ?_, fun limit has => (limits limit).mp (fair.limit limit has)⟩
    · have positive := fair.price
      rw [price] at positive
      exact (Decimal.round_to_pos_iff 8 _).mp positive
    · have bounds := fair.quantity
      rw [quantity, if_pos ⟨partially, drawn⟩] at bounds
      exact ⟨(Decimal.round_to_pos_iff 8 _).mp bounds.1, (Decimal.round_to_le_iff 8 _ _).mp bounds.2⟩
  · intro visible
    have here := visible reference referenced
    refine ⟨?_, ?_, ?_, fun limit has => (limits limit).mpr (here.limit limit has)⟩
    · rw [price]
      exact (Decimal.round_to_pos_iff 8 _).mpr here.price
    · rw [price, sameReference]
      exact no_better _ _ _ (fun buys => buy_reference_pos request ticker reference quoted buys referenced) cost here.price
    · rw [quantity]
      split
      · rename_i drawn
        obtain ⟨more, less⟩ := here.part drawn.1 drawn.2
        exact ⟨(Decimal.round_to_pos_iff 8 _).mpr more, (Decimal.round_to_le_iff 8 _ _).mpr less⟩
      · exact ⟨asked, le_refl _⟩

theorem midway_admissible : Admissible PaperBroker.midway.settings :=
  ⟨by decide +kernel, by decide +kernel, by decide +kernel, by decide +kernel, by decide +kernel, by decide +kernel,
    by decide +kernel, by decide +kernel⟩

def order (orderType : OrderType) : OrderRequest where
  requestId := .fresh 0
  symbol := "XAUUSD"
  side := .buy
  quantity := 1
  orderType := orderType
  limitPrice := some 2001
  stopPrice := some 2001

theorem fair_fill_iff_market : ∃ fill,
    (PaperBroker.midway.execute {} 0 (order .market) ⟨2000, 2001⟩ none false false).1.fill = some fill ∧
      FairFill (order .market) fill := by
  have executed : (PaperBroker.midway.execute {} 0 (order .market) ⟨2000, 2001⟩ none false false).1.fill.isSome = true := by
    decide +kernel
  refine ⟨_, (Option.some_get executed).symm, ?_⟩
  refine (fair_fill_iff PaperBroker.midway midway_admissible {} 0 (order .market) ⟨2000, 2001⟩ none false false _
    (Option.some_get executed).symm).mpr ?_
  intro reference referenced
  cases referenced
  exact ⟨by decide +kernel, fun partially => (by cases partially), fun limit has => (by cases has)⟩

-- The reference of a limit order is its limit, which the costs then move; a
-- stop-limit order is not held to its limit at all.
theorem limits_overpaid :
    (∃ fill, (PaperBroker.midway.execute {} 0 (order .limit) ⟨2000, 2001⟩ none false false).1.fill = some fill ∧
        ¬ FairFill (order .limit) fill) ∧
      ∃ fill, (PaperBroker.midway.execute {} 0 (order .stopLimit) ⟨2000, 2001⟩ none false false).1.fill = some fill ∧
        ¬ FairFill (order .stopLimit) fill := by
  have overpaid : ∀ orderType ∈ [OrderType.limit, OrderType.stopLimit], limitOf (order orderType) = some 2001 ∧
      ∃ price ∈ (PaperBroker.midway.execute {} 0 (order orderType) ⟨2000, 2001⟩ none false false).1.fill.map Fill.price,
        2001 < price := by
    decide +kernel
  have unfair : ∀ orderType ∈ [OrderType.limit, OrderType.stopLimit], ∃ fill,
      (PaperBroker.midway.execute {} 0 (order orderType) ⟨2000, 2001⟩ none false false).1.fill = some fill ∧
        ¬ FairFill (order orderType) fill := by
    intro orderType listed
    obtain ⟨limit, price, priced, above⟩ := overpaid orderType listed
    obtain ⟨fill, filled, rfl⟩ := Option.map_eq_some_iff.mp priced
    exact ⟨fill, filled, fun fair => absurd (fair.limit 2001 limit) (not_le.mpr above)⟩
  exact ⟨unfair _ (by decide), unfair _ (by decide)⟩

end QuantEngine.PaperFills
