import QuantEngine.Library.Calendar
import QuantEngine.Library.Decimal

set_option autoImplicit false

namespace QuantEngine

open Calendar (Moment)

-- Upper case of ASCII text; symbols are ASCII.
def upper (text : String) : String := String.ofList (text.toList.map Char.toUpper)

theorem char_upper_twice (c : Char) : c.toUpper.toUpper = c.toUpper := by
  unfold Char.toUpper
  split
  · rename_i lower
    have above : ¬ ((c.val + ('A'.val - 'a'.val)) ≥ 'a'.val) := by
      have low := lower.1
      have high := lower.2
      simp only [UInt32.le_iff_toNat_le, ge_iff_le] at low high ⊢
      have sum : (c.val + ('A'.val - 'a'.val)).toNat = c.val.toNat - 32 := by
        rw [UInt32.toNat_add]
        simp at low high ⊢
        omega
      rw [sum]
      simp at low high ⊢
      omega
    rw [dif_neg (fun both => above both.1)]
  · simp_all

theorem upper_upper (text : String) : upper (upper text) = upper text := by
  simp only [upper, String.toList_ofList, List.map_map, Function.comp_def, char_upper_twice]

abbrev PositionId := Nat
abbrev OrderId := Nat

inductive OrderSide where
  | buy
  | sell
  deriving DecidableEq

def OrderSide.value : OrderSide → String
  | .buy => "buy"
  | .sell => "sell"

inductive OrderType where
  | market
  | limit
  | stopMarket
  | stopLimit
  | takeProfit
  | trailingStop
  deriving DecidableEq

def OrderType.value : OrderType → String
  | .market => "market"
  | .limit => "limit"
  | .stopMarket => "stop_market"
  | .stopLimit => "stop_limit"
  | .takeProfit => "take_profit"
  | .trailingStop => "trailing_stop"

inductive OrderStatus where
  | created
  | pending
  | partiallyFilled
  | filled
  | rejected
  | cancelled
  | expired
  deriving DecidableEq

inductive PositionSide where
  | long
  | short
  deriving DecidableEq

def PositionSide.value : PositionSide → String
  | .long => "long"
  | .short => "short"

inductive PositionStatus where
  | opened
  | closed
  deriving DecidableEq

inductive RejectReason where
  | none
  | riskBlocked
  | insufficientCapital
  | noMarketData
  | spreadTooWide
  | invalidQuantity
  | killSwitch
  | circuitBreaker
  | simulatedReject
  | brokerRejected
  | brokerUnavailable
  deriving DecidableEq

def RejectReason.value : RejectReason → String
  | .none => "none"
  | .riskBlocked => "risk_blocked"
  | .insufficientCapital => "insufficient_capital"
  | .noMarketData => "no_market_data"
  | .spreadTooWide => "spread_too_wide"
  | .invalidQuantity => "invalid_quantity"
  | .killSwitch => "kill_switch"
  | .circuitBreaker => "circuit_breaker"
  | .simulatedReject => "simulated_reject"
  | .brokerRejected => "broker_rejected"
  | .brokerUnavailable => "broker_unavailable"

inductive ExitReason where
  | takeProfit
  | stopLoss
  | trailingStop
  | breakEven
  | timeExit
  | volatilityExit
  | regimeChange
  | contextLost
  | riskExit
  | killSwitch
  | manual
  deriving DecidableEq

def ExitReason.value : ExitReason → String
  | .takeProfit => "take_profit"
  | .stopLoss => "stop_loss"
  | .trailingStop => "trailing_stop"
  | .breakEven => "break_even"
  | .timeExit => "time_exit"
  | .volatilityExit => "volatility_exit"
  | .regimeChange => "regime_change"
  | .contextLost => "context_lost"
  | .riskExit => "risk_exit"
  | .killSwitch => "kill_switch"
  | .manual => "manual"

structure Ticker where
  bid : ℚ
  ask : ℚ
  deriving DecidableEq

namespace Ticker

def mid (ticker : Ticker) : ℚ := (ticker.bid + ticker.ask) / 2

def spread (ticker : Ticker) : ℚ := ticker.ask - ticker.bid

def spreadBps (ticker : Ticker) : ℚ :=
  if ticker.mid = 0 then 0 else ticker.spread / ticker.mid * 10000

end Ticker

structure Candle where
  high : ℚ
  low : ℚ
  close : ℚ
  deriving DecidableEq

structure InstrumentSpec where
  symbol : String
  contractSize : ℚ
  volumeMin : ℚ
  volumeStep : ℚ
  volumeMax : ℚ
  deriving DecidableEq

namespace InstrumentSpec

def defaultSpec : InstrumentSpec := ⟨"", 1, 0, 0, 0⟩

def units (spec : InstrumentSpec) (lots : ℚ) : ℚ := lots * spec.contractSize

def notional (spec : InstrumentSpec) (lots price : ℚ) : ℚ := spec.units lots * price

def quantize (spec : InstrumentSpec) (lots : ℚ) : ℚ :=
  if lots ≤ 0 then 0
  else
    let capped := if spec.volumeMax > 0 then min lots spec.volumeMax else lots
    if spec.volumeStep ≤ 0 then Decimal.roundTo 8 capped
    else Decimal.roundTo 8 ((Decimal.truncate (capped / spec.volumeStep) : ℚ) * spec.volumeStep)

def fits (spec : InstrumentSpec) (lots : ℚ) : Bool :=
  decide (lots ≥ spec.volumeMin - 1 / 1000000000000)

end InstrumentSpec

structure BrokerPosition where
  ticket : Int
  symbol : String
  isLong : Bool
  volume : ℚ
  priceOpen : ℚ
  stopLoss : Option ℚ
  takeProfit : Option ℚ
  openedAt : Option Moment
  deriving DecidableEq

-- Identifiers are drawn from one counter, so that no two coincide. The fill of
-- an external close names the position instead of an order of the engine.
inductive RequestId where
  | fresh (number : Nat)
  | externalClose (position : PositionId)
  deriving DecidableEq

structure OrderRequest where
  requestId : RequestId
  symbol : String
  side : OrderSide
  quantity : ℚ
  orderType : OrderType := .market
  limitPrice : Option ℚ := none
  stopPrice : Option ℚ := none
  stopLoss : Option ℚ := none
  takeProfit : Option ℚ := none
  reduceOnly : Bool := false
  decisionId : Option String := none
  reason : String := ""
  deriving DecidableEq

inductive Liquidity where
  | maker
  | taker
  deriving DecidableEq

structure Fill where
  requestId : RequestId
  symbol : String
  side : OrderSide
  quantity : ℚ
  requestedQuantity : ℚ
  referencePrice : ℚ
  price : ℚ
  slippageBps : ℚ := 0
  spreadBps : ℚ := 0
  commission : ℚ := 0
  latencyMs : ℚ := 0
  liquidity : Liquidity := .taker
  gapped : Bool := false
  executedAt : Moment
  brokerRef : Option String := none
  deriving DecidableEq

def Fill.isPartial (fill : Fill) : Bool :=
  decide (fill.quantity + 1 / 1000000000000 < fill.requestedQuantity)

structure BrokerExecution where
  fill : Option Fill
  rejectReason : RejectReason := .none
  deriving DecidableEq

structure Order where
  request : OrderRequest
  status : OrderStatus
  filledQuantity : ℚ := 0
  averagePrice : ℚ := 0
  rejectReason : RejectReason := .none
  fills : List Fill := []
  updatedAt : Moment
  deriving DecidableEq

namespace Order

def isTerminal (order : Order) : Bool :=
  match order.status with
  | .filled => true
  | .rejected => true
  | .cancelled => true
  | .expired => true
  | _ => false

def remainingQuantity (order : Order) : ℚ := max 0 (order.request.quantity - order.filledQuantity)

def applyFill (order : Order) (fill : Fill) : Order :=
  let previous := order.averagePrice * order.filledQuantity
  let filled := order.filledQuantity + fill.quantity
  let average := if filled > 0 then (previous + fill.price * fill.quantity) / filled else order.averagePrice
  let next := { order with fills := order.fills ++ [fill], filledQuantity := filled, averagePrice := average }
  { next with
    status := if next.remainingQuantity ≤ 1 / 1000000000000 then .filled else .partiallyFilled
    updatedAt := fill.executedAt }

def reject (order : Order) (reason : RejectReason) (now : Moment) : Order :=
  { order with status := .rejected, rejectReason := reason, updatedAt := now }

end Order

-- The keys of a position's metadata dictionary that the code writes or reads;
-- `none` is an absent key or a null value.
structure PositionMetadata where
  atr : Option ℚ := none
  volatility : Option String := none
  entrySlippageBps : Option ℚ := none
  brokerRef : Option String := none
  adopted : Bool := false
  exitRegime : Option String := none
  regimeAdverseStreak : Option Int := none
  deriving DecidableEq

-- A position is identified by its key in the position manager.
structure Position where
  symbol : String
  side : PositionSide
  quantity : ℚ
  initialQuantity : ℚ
  entryPrice : ℚ
  initialStop : Option ℚ
  stopLoss : Option ℚ
  takeProfit : Option ℚ
  openedAt : Moment
  closedAt : Option Moment := none
  status : PositionStatus := .opened
  realizedPnl : ℚ := 0
  commissionPaid : ℚ := 0
  breakEvenActive : Bool := false
  trailingActive : Bool := false
  markPrice : ℚ := 0
  highestPrice : ℚ := 0
  lowestPrice : ℚ := 0
  exitReason : Option ExitReason := none
  decisionId : Option String := none
  regime : String := "unknown"
  score : ℚ := 0
  confidence : ℚ := 0
  entryReasons : List String := []
  exitReasons : List String := []
  metadata : PositionMetadata := {}
  deriving DecidableEq

namespace Position

def seeded (price entry : ℚ) : ℚ := if price = 0 then entry else price

-- Seeds the mark and the price extremes from the entry price, and the initial
-- stop from the stop.
def postInit (position : Position) : Position :=
  { position with
    markPrice := seeded position.markPrice position.entryPrice
    highestPrice := seeded position.highestPrice position.entryPrice
    lowestPrice := seeded position.lowestPrice position.entryPrice
    initialStop := position.initialStop.or position.stopLoss }

theorem seeded_twice (price entry : ℚ) : seeded (seeded price entry) entry = seeded price entry := by
  simp only [seeded]
  by_cases zero : price = 0
  · simp [zero]
  · simp [zero]

theorem post_init_twice (position : Position) : position.postInit.postInit = position.postInit := by
  have stop : (position.initialStop.or position.stopLoss).or position.stopLoss =
      position.initialStop.or position.stopLoss := by
    cases position.initialStop <;> cases position.stopLoss <;> rfl
  simp only [postInit, seeded_twice, stop]

def isLong (position : Position) : Bool := decide (position.side = .long)

def directionSign (position : Position) : ℚ := if position.isLong then 1 else -1

def notional (position : Position) : ℚ := position.quantity * position.markPrice

def costBasis (position : Position) : ℚ := position.quantity * position.entryPrice

def riskPerUnit (position : Position) : ℚ :=
  match position.initialStop with
  | none => 0
  | some stop => |position.entryPrice - stop|

def unrealizedPnlAt (position : Position) (price : ℚ) : ℚ :=
  (price - position.entryPrice) * position.quantity * position.directionSign

def unrealizedPnl (position : Position) : ℚ := position.unrealizedPnlAt position.markPrice

def rMultipleAt (position : Position) (price : ℚ) : ℚ :=
  if position.riskPerUnit ≤ 0 then 0
  else (price - position.entryPrice) * position.directionSign / position.riskPerUnit

def rMultiple (position : Position) : ℚ := position.rMultipleAt position.markPrice

def updateMark (position : Position) (mark : ℚ) : Position :=
  { position with
    markPrice := mark
    highestPrice := max position.highestPrice mark
    lowestPrice := min position.lowestPrice mark }

def holdingSeconds (position : Position) (now : Moment) : ℚ :=
  ((position.closedAt.getD now - position.openedAt : Int) : ℚ) / 1000000

end Position

structure ContextSnapshot where
  exitRegime : String
  entryRegime : String
  regimeAdverseStreak : Int
  breakEvenActive : Bool
  trailingActive : Bool
  holdingSeconds : ℚ
  deriving DecidableEq

structure TradeRecord where
  tradeId : Nat
  positionId : PositionId
  symbol : String
  side : PositionSide
  quantity : ℚ
  entryTime : Moment
  exitTime : Moment
  entryPrice : ℚ
  exitPrice : ℚ
  stopLoss : Option ℚ
  takeProfit : Option ℚ
  commission : ℚ
  slippageBps : ℚ
  spreadBps : ℚ
  pnl : ℚ
  pnlGross : ℚ
  rMultiple : ℚ
  returnPct : ℚ
  atr : Option ℚ
  volatility : String
  regime : String
  score : ℚ
  confidence : ℚ
  exitReason : ExitReason
  entryReasons : List String
  exitReasons : List String
  decisionId : Option String
  contextSnapshot : ContextSnapshot
  recordedAt : Moment
  deriving DecidableEq

def TradeRecord.isWin (trade : TradeRecord) : Bool := decide (trade.pnl > 0)

structure DecisionGenerated where
  decisionId : String
  symbol : String
  action : String
  accepted : Bool
  score : ℚ
  confidence : ℚ
  summary : String
  deriving DecidableEq

structure MarketView where
  atr : Option ℚ
  atrPct : Option ℚ
  spreadBps : Option ℚ
  regime : String
  volatility : String
  volume : Option ℚ
  lastPrice : Option ℚ
  session : String
  deriving DecidableEq

structure SlippageContext where
  atrPct : Option ℚ := none
  spreadBps : Option ℚ := none
  availableLiquidity : ℚ := 0
  orderQuantity : ℚ := 0
  session : String := "off"
  orderType : OrderType := .market
  deriving DecidableEq

structure PortfolioSnapshot where
  timestamp : Moment
  initialBalance : ℚ
  balance : ℚ
  equity : ℚ
  floatingPnl : ℚ
  realizedPnl : ℚ
  usedCapital : ℚ
  freeCapital : ℚ
  exposure : ℚ
  exposurePct : ℚ
  peakEquity : ℚ
  drawdownPct : ℚ
  openPositions : Nat
  totalTrades : Int
  baseCurrency : String
  deriving DecidableEq

end QuantEngine
