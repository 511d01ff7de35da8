import QuantEngine.Execution.Models
import QuantEngine.Library.Dict
import Mathlib.Tactic.NormNum

set_option autoImplicit false

namespace QuantEngine

open Calendar (Moment)
open Decimal (roundTo)

-- A pseudo-random generator as the sequence of its draws from [0, 1).
structure RandomSource where
  draw : Nat → ℚ
  nonneg : ∀ index, 0 ≤ draw index
  belowOne : ∀ index, draw index < 1

def RandomSource.uniform (source : RandomSource) (index : Nat) (low high : ℚ) : ℚ :=
  low + (high - low) * source.draw index

def RandomSource.constant (value : ℚ) (nonneg : 0 ≤ value) (belowOne : value < 1) : RandomSource :=
  ⟨fun _ => value, fun _ => nonneg, fun _ => belowOne⟩

structure CommissionSettings where
  model : String := "per_notional"
  makerBps : ℚ := 1
  takerBps : ℚ := 2
  perUnit : ℚ := 0
  fixed : ℚ := 0
  minimum : ℚ := 0
  perSymbol : Dict String (Dict String ℚ) := .empty

structure CommissionQuote where
  amount : ℚ
  model : String
  liquidity : Liquidity
  deriving DecidableEq

namespace CommissionEngine

def param (s : CommissionSettings) (symbol name : String) (default : ℚ) : ℚ :=
  ((s.perSymbol.lookup (upper symbol)).bind (fun override => override.lookup name)).getD default

def rateBps (s : CommissionSettings) (symbol : String) (maker : Bool) : ℚ :=
  if maker then param s symbol "maker_bps" s.makerBps else param s symbol "taker_bps" s.takerBps

def calculate (s : CommissionSettings) (symbol : String) (quantity price : ℚ) (maker : Bool) : CommissionQuote :=
  let size := |quantity|
  let amount :=
    if s.model = "per_unit" then size * param s symbol "per_unit" s.perUnit
    else if s.model = "fixed" then param s symbol "fixed" s.fixed
    else size * price * rateBps s symbol maker / 10000
  let charged := if size > 0 then max amount (param s symbol "minimum" s.minimum) else 0
  ⟨roundTo 8 charged, s.model, if maker then .maker else .taker⟩

end CommissionEngine

structure SlippageSettings where
  model : String := "dynamic"
  baseBps : ℚ := 1
  volatilityCoeff : ℚ := 1 / 2
  liquidityCoeff : ℚ := 1 / 2
  sizeCoeff : ℚ := 3 / 10
  sessionMultipliers : Dict String ℚ :=
    (((Dict.empty.insert "asia" (12 / 10)).insert "europe" 1).insert "america" 1).insert "off" (3 / 2)
  stopOrderExtraBps : ℚ := 1
  maxBps : ℚ := 50

namespace SlippageEngine

def depthPenalty (coeff : ℚ) (context : SlippageContext) : ℚ :=
  if context.availableLiquidity ≤ 0 ∨ context.orderQuantity ≤ 0 then 0
  else coeff * min (context.orderQuantity / context.availableLiquidity) 5 * 10

def liquidityPenalty (s : SlippageSettings) (context : SlippageContext) : ℚ := depthPenalty s.liquidityCoeff context

def sizePenalty (s : SlippageSettings) (context : SlippageContext) : ℚ := depthPenalty s.sizeCoeff context

def dynamicBps (s : SlippageSettings) (context : SlippageContext) : ℚ :=
  let volatility := (context.atrPct.map (fun atrPct => s.volatilityCoeff * atrPct)).getD 0
  let stop := match context.orderType with
    | .stopMarket => s.stopOrderExtraBps
    | .stopLimit => s.stopOrderExtraBps
    | _ => 0
  let multiplier := (s.sessionMultipliers.lookup context.session).getD
    ((s.sessionMultipliers.lookup "off").getD 1)
  (s.baseBps + volatility + liquidityPenalty s context + sizePenalty s context + stop) * multiplier

-- The draws used so far are counted; the `none` model draws nothing.
def estimateBps (s : SlippageSettings) (source : RandomSource) (drawn : Nat) (context : SlippageContext) : ℚ × Nat :=
  if s.model = "none" then (0, drawn)
  else
    let bps := if s.model = "dynamic" then dynamicBps s context else s.baseBps
    let noisy := bps * (1 + source.uniform drawn 0 (1 / 10))
    (roundTo 4 (min (max noisy 0) s.maxBps), drawn + 1)

end SlippageEngine

structure LatencySettings where
  enabled : Bool := true
  networkMs : ℚ := 20
  brokerMs : ℚ := 15
  exchangeMs : ℚ := 10
  internalMs : ℚ := 5
  jitterMs : ℚ := 10
  priceDriftBpsPer100ms : ℚ := 1 / 2
  deriving DecidableEq

structure LatencyQuote where
  totalMs : ℚ
  networkMs : ℚ
  brokerMs : ℚ
  exchangeMs : ℚ
  internalMs : ℚ
  driftBps : ℚ
  deriving DecidableEq

namespace LatencyEngine

def sample (s : LatencySettings) (source : RandomSource) (drawn : Nat) : LatencyQuote × Nat :=
  if !s.enabled then (⟨0, 0, 0, 0, 0, 0⟩, drawn)
  else
    let network := s.networkMs + source.uniform drawn 0 s.jitterMs
    let broker := s.brokerMs + source.uniform (drawn + 1) 0 s.jitterMs
    let exchange := s.exchangeMs + source.uniform (drawn + 2) 0 s.jitterMs
    let internal := s.internalMs + source.uniform (drawn + 3) 0 s.jitterMs
    let total := network + broker + exchange + internal
    (⟨roundTo 3 total, roundTo 3 network, roundTo 3 broker, roundTo 3 exchange, roundTo 3 internal,
      roundTo 4 (total / 100 * s.priceDriftBpsPer100ms)⟩, drawn + 4)

end LatencyEngine

-- What the engine knows of a broker. A broker need not have the members that
-- only a real account offers. A fill is of the symbol and the side asked for.
structure Broker (β : Type) where
  execute : β → Moment → OrderRequest → Ticker → Option SlippageContext → (allowReject allowPartial : Bool) →
    BrokerExecution × β
  accountBalance : Option (β → Option ℚ) := none
  openBrokerPositions : Option (β → List BrokerPosition) := none
  openPositionTickets : Option (β → String → List Int) := none
  instrumentSpec : Option (β → String → Option InstrumentSpec) := none
  fillsRequest : ∀ state now request ticker context allowReject allowPartial fill,
    (execute state now request ticker context allowReject allowPartial).1.fill = some fill →
      fill.symbol = request.symbol ∧ fill.side = request.side

structure PaperSettings where
  rejectProbability : ℚ := 0
  partialFillProbability : ℚ := 0
  gapThresholdBps : ℚ := 30
  commission : CommissionSettings := {}
  slippage : SlippageSettings := {}
  latency : LatencySettings := {}

structure PaperBroker where
  settings : PaperSettings
  rng : RandomSource
  slippageRng : RandomSource
  latencyRng : RandomSource

-- The counters of the broker and the draws each generator has given.
structure PaperState where
  executed : Nat := 0
  rejected : Nat := 0
  drawn : Nat := 0
  slippageDrawn : Nat := 0
  latencyDrawn : Nat := 0
  deriving DecidableEq

namespace PaperBroker

def referencePrice (request : OrderRequest) (ticker : Ticker) : Option ℚ :=
  let buy := decide (request.side = .buy)
  let touch := if buy then ticker.ask else ticker.bid
  match request.orderType with
  | .limit =>
      match request.limitPrice with
      | none => some touch
      | some limit => if (if buy then decide (touch ≤ limit) else decide (touch ≥ limit)) then some limit else none
  | .stopMarket | .stopLimit =>
      match request.stopPrice with
      | none => none
      | some stop => if (if buy then decide (touch ≥ stop) else decide (touch ≤ stop)) then some touch else none
  | _ => some touch

def applyAdverse (reference : ℚ) (side : OrderSide) (adverseBps : ℚ) : ℚ :=
  match side with
  | .buy => reference * (1 + adverseBps / 10000)
  | .sell => reference * (1 - adverseBps / 10000)

-- The requested quantity is a double: half of 1e-8 is no tie but rounds up.
def fillQuantity (paper : PaperBroker) (drawn : Nat) (quantity : ℚ) : ℚ × Nat :=
  if paper.rng.draw drawn < paper.settings.partialFillProbability then
    (roundTo 8 (Decimal.double quantity * paper.rng.uniform (drawn + 1) (1 / 2) (9 / 10)), drawn + 2)
  else (quantity, drawn + 1)

theorem fill_quantity_pos (paper : PaperBroker) (drawn : Nat) (quantity : ℚ) (grid : Decimal.OnGrid 8 quantity)
    (positive : 0 < quantity) : 0 < (paper.fillQuantity drawn quantity).1 := by
  rw [fillQuantity]
  split
  · have draw := paper.rng.nonneg (drawn + 1)
    have fraction : 1 / 2 ≤ paper.rng.uniform (drawn + 1) (1 / 2) (9 / 10) := by
      rw [RandomSource.uniform]
      linarith
    exact Decimal.partial_pos quantity _ grid positive fraction
  · exact positive

def reject (state : PaperState) (reason : RejectReason) : BrokerExecution × PaperState :=
  (⟨none, reason⟩, { state with rejected := state.rejected + 1 })

def fillAt (paper : PaperBroker) (state : PaperState) (now : Moment) (request : OrderRequest) (ticker : Ticker)
    (context : Option SlippageContext) (allowPartial : Bool) (reference : ℚ) : BrokerExecution × PaperState :=
  let context := context.getD { spreadBps := some ticker.spreadBps, orderQuantity := request.quantity }
  let slippage := SlippageEngine.estimateBps paper.settings.slippage paper.slippageRng state.slippageDrawn context
  let latency := LatencyEngine.sample paper.settings.latency paper.latencyRng state.latencyDrawn
  let adverse := slippage.1 + latency.1.driftBps
  let price := applyAdverse reference request.side adverse
  let quantity := if allowPartial then paper.fillQuantity state.drawn request.quantity
    else (request.quantity, state.drawn)
  let maker := decide (request.orderType = .limit)
  let commission := CommissionEngine.calculate paper.settings.commission request.symbol quantity.1 price maker
  (⟨some {
      requestId := request.requestId
      symbol := request.symbol
      side := request.side
      quantity := quantity.1
      requestedQuantity := request.quantity
      referencePrice := reference
      price := roundTo 8 price
      slippageBps := slippage.1
      spreadBps := ticker.spreadBps
      commission := commission.amount
      latencyMs := latency.1.totalMs
      liquidity := if maker then .maker else .taker
      gapped := decide (adverse ≥ paper.settings.gapThresholdBps)
      executedAt := now }, .none⟩,
    { state with
      executed := state.executed + 1
      drawn := quantity.2
      slippageDrawn := slippage.2
      latencyDrawn := latency.2 })

def execute (paper : PaperBroker) (state : PaperState) (now : Moment) (request : OrderRequest) (ticker : Ticker)
    (context : Option SlippageContext) (allowReject allowPartial : Bool) : BrokerExecution × PaperState :=
  if request.quantity ≤ 0 then reject state .invalidQuantity
  else if ticker.bid ≤ 0 ∨ ticker.ask ≤ 0 ∨ ticker.ask < ticker.bid then reject state .noMarketData
  else
    let drawn := if allowReject then { state with drawn := state.drawn + 1 } else state
    if allowReject && decide (paper.rng.draw state.drawn < paper.settings.rejectProbability) then
      reject drawn .simulatedReject
    else match referencePrice request ticker with
      | none => reject drawn .noMarketData
      | some reference => paper.fillAt drawn now request ticker context allowPartial reference

theorem execute_filled (paper : PaperBroker) (state : PaperState) (now : Moment) (request : OrderRequest)
    (ticker : Ticker) (context : Option SlippageContext) (allowReject allowPartial : Bool) (fill : Fill)
    (filled : (paper.execute state now request ticker context allowReject allowPartial).1.fill = some fill) :
    0 < request.quantity ∧ (0 < ticker.bid ∧ ticker.bid ≤ ticker.ask) ∧
      ∃ reference, referencePrice request ticker = some reference ∧
        (paper.fillAt (if allowReject then { state with drawn := state.drawn + 1 } else state) now request ticker context
          allowPartial reference).1.fill = some fill := by
  have rejected (start : PaperState) (reason : RejectReason) (given : (reject start reason).1.fill = some fill) :
      False := by
    cases given
  simp only [execute] at filled
  split at filled
  · exact (rejected _ _ filled).elim
  · rename_i asked
    split at filled
    · exact (rejected _ _ filled).elim
    · rename_i quoted
      split at filled
      · exact (rejected _ _ filled).elim
      · cases price : referencePrice request ticker with
        | none =>
            rw [price] at filled
            exact (rejected _ _ filled).elim
        | some reference =>
            rw [price] at filled
            refine ⟨not_le.mp asked, ⟨?_, ?_⟩, reference, rfl, filled⟩
            · exact not_le.mp (fun none => quoted (.inl none))
            · exact not_lt.mp (fun crossed => quoted (.inr (.inr crossed)))

theorem execute_fill (paper : PaperBroker) (state : PaperState) (now : Moment) (request : OrderRequest)
    (ticker : Ticker) (context : Option SlippageContext) (allowReject allowPartial : Bool) (fill : Fill)
    (filled : (paper.execute state now request ticker context allowReject allowPartial).1.fill = some fill) :
    fill.symbol = request.symbol ∧ fill.side = request.side := by
  obtain ⟨-, -, reference, -, made⟩ :=
    paper.execute_filled state now request ticker context allowReject allowPartial fill filled
  cases made
  exact ⟨rfl, rfl⟩

theorem execute_quantity_pos (paper : PaperBroker) (state : PaperState) (now : Moment) (request : OrderRequest)
    (ticker : Ticker) (context : Option SlippageContext) (allowReject allowPartial : Bool) (fill : Fill)
    (filled : (paper.execute state now request ticker context allowReject allowPartial).1.fill = some fill)
    (grid : Decimal.OnGrid 8 request.quantity) : 0 < fill.quantity := by
  obtain ⟨asked, -, reference, -, made⟩ :=
    paper.execute_filled state now request ticker context allowReject allowPartial fill filled
  cases made
  cases allowPartial with
  | true => exact paper.fill_quantity_pos _ request.quantity grid asked
  | false => exact asked

theorem execute_fills (paper : PaperBroker) (state : PaperState) (now : Moment) (request : OrderRequest)
    (ticker : Ticker) (context : Option SlippageContext) (allowPartial : Bool) (market : request.orderType = .market)
    (positive : 0 < request.quantity) (bid : 0 < ticker.bid) (spread : ticker.bid ≤ ticker.ask) :
    (paper.execute state now request ticker context false allowPartial).1.fill.isSome = true := by
  have quoted : ¬ (ticker.bid ≤ 0 ∨ ticker.ask ≤ 0 ∨ ticker.ask < ticker.bid) := by
    rintro (low | none | crossed)
    · linarith
    · linarith
    · linarith
  simp only [execute, if_neg (not_le.mpr positive), if_neg quoted, Bool.false_and, Bool.false_eq_true, if_false,
    referencePrice, market]
  rfl

theorem execute_refuses (paper : PaperBroker) (state : PaperState) (now : Moment) (request : OrderRequest)
    (ticker : Ticker) (context : Option SlippageContext) (allowReject allowPartial : Bool)
    (unquoted : ¬ (0 < ticker.bid ∧ ticker.bid ≤ ticker.ask)) :
    (paper.execute state now request ticker context allowReject allowPartial).1.fill = none := by
  have refused : ticker.bid ≤ 0 ∨ ticker.ask ≤ 0 ∨ ticker.ask < ticker.bid := by
    by_cases bid : 0 < ticker.bid
    · exact .inr (.inr (not_le.mp (fun spread => unquoted ⟨bid, spread⟩)))
    · exact .inl (not_lt.mp bid)
  simp only [execute, if_pos refused]
  split <;> rfl

def broker (paper : PaperBroker) : Broker PaperState where
  execute := paper.execute
  fillsRequest := paper.execute_fill

def midway : PaperBroker where
  settings := {}
  rng := .constant (1 / 2) (by norm_num) (by norm_num)
  slippageRng := .constant (1 / 2) (by norm_num) (by norm_num)
  latencyRng := .constant (1 / 2) (by norm_num) (by norm_num)

end PaperBroker

end QuantEngine
