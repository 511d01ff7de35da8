import QuantEngine.Execution.Broker
import QuantEngine.Execution.Managers
import QuantEngine.Execution.Orders
import QuantEngine.Execution.Sizing

set_option autoImplicit false

namespace QuantEngine

open Calendar (Moment)
open Decimal (fixed roundTo)

-- The closed one-minute candles, oldest first, and the best bid and ask.
structure Market where
  tickers : String → Option Ticker
  candles : String → List Candle

namespace Market

def trueRanges : List Candle → List ℚ
  | previous :: current :: rest =>
      max (current.high - current.low) (max |current.high - previous.close| |current.low - previous.close|) ::
        trueRanges (current :: rest)
  | _ => []

-- The slice `ranges[-period:]` is the whole list for a period of zero.
def atr (candles : List Candle) (period : Nat) : Option ℚ :=
  let ranges := trueRanges candles
  let window := if period = 0 then ranges else Deque.newest period ranges
  if window.isEmpty then none else some (window.sum / window.length)

def symbolAtr (market : Market) (period : Nat) (symbol : String) : Option ℚ :=
  atr (Deque.newest (period + 2) (market.candles symbol)) period

end Market

inductive EntryVeto where
  | allows
  | blocks (reason : String)
  | fails
  deriving DecidableEq

-- A record of what the engine did, for the statements; no code reads it. An
-- entry carries the two switches as its risk check found them; a refresh of the
-- risk state carries the peak it found, the equity it took and the kill switch
-- it left.
inductive Happening where
  | opened (id : PositionId) (killSwitch circuitBreaker : Bool)
  | refreshed (peakEquity equity : ℚ) (killSwitch : Bool)
  | closingExecuted (id : PositionId)
  | portfolioSettled (id : PositionId)
  | riskSettled (id : PositionId)
  | journaled (id : PositionId)
  deriving DecidableEq

structure ExecutionSettings where
  initialBalance : ℚ := 10000
  baseCurrency : String := "USD"
  leverage : ℚ := 1
  rules : PositionRules := {}
  regimeExitConfirmations : Int := 2
  regimeExitFamilyOnly : Bool := true
  maxHoldingMinutes : ℚ := 240
  exitOnRegimeChange : Bool := true
  regimeChangeMinHoldingSeconds : ℚ := 180
  symbolsEnabled : Dict String Bool := .empty
  sizing : SizingSettings := {}
  risk : ExecutionRiskSettings := {}

-- The managers and everything else an execution step reads or writes. Fresh
-- identifiers of orders, positions and trades come from one counter.
structure World (β : Type) extends Managers where
  now : Moment
  market : Market
  vetoes : List EntryVeto := []
  broker : β
  orders : OrderManager := {}
  bus : Option EventBus := none
  killAnnounced : Bool := false
  cbAnnounced : Bool := false
  balanceBaselineSet : Bool := false
  specCache : Dict String InstrumentSpec := .empty
  nextId : Nat := 0
  history : List Happening := []

structure ExecutionEngine (β : Type) where
  settings : ExecutionSettings
  paper : Broker β
  hasContext : Bool := false

variable {β : Type}

namespace World

def fresh (settings : ExecutionSettings) (journal : TradeJournal) (bus : Option EventBus) (broker : β)
    (market : Market) (now : Moment) : World β where
  positions := {}
  portfolio := .init settings.initialBalance settings.baseCurrency settings.leverage
  risk := .init settings.risk settings.initialBalance
  journal := { journal with trades := [] }
  now := now
  market := market
  broker := broker
  bus := bus

-- Publishing tolerates a stopped or full bus.
def publish (event : ExecutionEvent) (world : World β) : World β :=
  { world with bus := world.bus.map (fun bus => (bus.publish event).2) }

def note (happening : Happening) (world : World β) : World β :=
  { world with history := world.history ++ [happening] }

def drawIds (count : Nat) (world : World β) : World β := { world with nextId := world.nextId + count }

def openPositions (world : World β) : List Position := world.toManagers.openPositions

def openIds (world : World β) : List PositionId := world.positions.opened.keys

end World

namespace ExecutionEngine

def sessionFor (hour : Int) : String :=
  if 0 ≤ hour ∧ hour < 9 then "asia"
  else if 7 ≤ hour ∧ hour < 16 then "europe"
  else if 13 ≤ hour ∧ hour < 22 then "america"
  else "off"

def regimeFamily (regime : String) : String :=
  if regime = "trending" ∨ regime = "breakout" ∨ regime = "expansion" then "continuation"
  else if regime = "ranging" ∨ regime = "compression" ∨ regime = "low_volatility" then "mean_reversion"
  else if regime = "reversal" ∨ regime = "high_volatility" then "adverse"
  else regime

variable (engine : ExecutionEngine β)

def entryVeto (world : World β) : Option String :=
  world.vetoes.findSome? (fun veto => match veto with
    | .allows => none
    | .blocks reason => some reason
    | .fails => some "veto de entrada con error interno")

def symbolAtr (symbol : String) (world : World β) : Option ℚ :=
  world.market.symbolAtr engine.settings.sizing.atrPeriod symbol

-- The view condensed from ticker and candles, where there is no context engine.
def candleView (symbol : String) (world : World β) : MarketView :=
  let atr := engine.symbolAtr symbol world
  let last := (world.market.tickers symbol).map Ticker.mid
  { atr := atr
    atrPct := match atr, last with
      | some atr, some last => if atr = 0 ∨ last = 0 then none else some (atr / last * 100)
      | _, _ => none
    spreadBps := (world.market.tickers symbol).map Ticker.spreadBps
    regime := "unknown"
    volatility := "normal"
    volume := none
    lastPrice := last
    session := sessionFor (Calendar.hourOf world.now) }

def stopDistance (view : MarketView) (reference : ℚ) : ℚ :=
  let s := engine.settings.sizing
  let percent := reference * (s.minStopPct / 100)
  let floor := match view.spreadBps with
    | none => percent
    | some spread =>
        if spread > 0 then max percent (reference * (spread / 10000) * s.minStopSpreadMultiple) else percent
  match view.atr with
  | none => max (reference * (5 / 1000)) floor
  | some atr => if atr > 0 then max (atr * s.atrStopMultiplier) floor else max (reference * (5 / 1000)) floor

def stops (side : OrderSide) (reference distance : ℚ) : ℚ × ℚ :=
  let rr := engine.settings.sizing.rewardRisk
  match side with
  | .buy => (roundTo 8 (reference - distance), roundTo 8 (reference + distance * rr))
  | .sell => (roundTo 8 (reference + distance), roundTo 8 (reference - distance * rr))

def slipContext (view : MarketView) (quantity : ℚ) : SlippageContext where
  atrPct := view.atrPct
  spreadBps := view.spreadBps
  availableLiquidity := view.volume.getD 0
  orderQuantity := quantity
  session := view.session
  orderType := .market

def symbolExposures (world : World β) : Dict String ℚ :=
  world.openPositions.foldl (fun exposures position =>
    exposures.insert position.symbol ((exposures.lookup position.symbol).getD 0 + position.notional)) .empty

def perfInputs (world : World β) : Option (ℚ × ℚ) :=
  if engine.settings.sizing.method ≠ "kelly" then none
  else
    let report := PerformanceEngine.compute world.journal.all
    if report.totalTrades < 10 then none else some (report.winRate, report.riskReward)

def instrumentSpec (symbol : String) (world : World β) : Option InstrumentSpec × World β :=
  match world.specCache.lookup symbol with
  | some spec => (some spec, world)
  | none => match engine.paper.instrumentSpec.bind (fun specOf => specOf world.broker symbol) with
    | none => (none, world)
    | some spec => (some spec, { world with specCache := world.specCache.insert symbol spec })

def reject (symbol : String) (side : OrderSide) (reason : RejectReason) (rule detail : String) (world : World β) :
    World β :=
  let id := world.nextId + 1
  let request : OrderRequest :=
    { requestId := .fresh world.nextId, symbol := symbol, side := side, quantity := 0, reason := detail }
  let rejected := { world.drawIds 2 with
    orders := (world.orders.create id request world.now).reject id reason world.now }
  (rejected.publish (.orderRejected id symbol side
    (if rule = "" then reason.value else rule ++ ": " ++ detail))).publish
      (.riskTriggered (orElseText rule reason.value) symbol detail)

def announceFill (orderId : OrderId) (fill : Fill) (world : World β) : World β :=
  world.publish (.orderExecuted orderId fill.symbol fill.side fill.quantity fill.price fill.commission
    fill.slippageBps fill.isPartial)

-- The decision's symbol, side and ticker, where it gets as far as the market.
structure Entry where
  symbol : String
  side : OrderSide
  ticker : Ticker
  isUpper : upper symbol = symbol

def entrySide (decision : DecisionGenerated) : Option OrderSide :=
  if !decision.accepted then none
  else if decision.action = "open_long" then some .buy
  else if decision.action = "open_short" then some .sell
  else none

def screen (decision : DecisionGenerated) (world : World β) : Option Entry × World β :=
  match entrySide decision with
  | none => (none, world)
  | some side =>
      let symbol := upper decision.symbol
      if !(engine.settings.symbolsEnabled.lookup symbol).getD true then (none, world)
      else match entryVeto world with
        | some veto => (none, reject symbol side .riskBlocked "entry_veto" veto world)
        | none => ((world.market.tickers symbol).map (fun ticker =>
            ⟨symbol, side, ticker, upper_upper decision.symbol⟩), world)

structure EntryPlan extends Entry where
  view : MarketView
  stopLoss : ℚ
  takeProfit : ℚ
  equity : ℚ
  sizing : SizingResult

def plan (decision : DecisionGenerated) (entry : Entry) (view : MarketView) (spec : Option InstrumentSpec)
    (world : World β) : EntryPlan :=
  let reference := match entry.side with
    | .buy => entry.ticker.ask
    | .sell => entry.ticker.bid
  let distance := engine.stopDistance view reference
  let stops := engine.stops entry.side reference distance
  let equity := world.portfolio.equity world.openPositions
  let performance := engine.perfInputs world
  { entry with
    view := view
    stopLoss := stops.1
    takeProfit := stops.2
    equity := equity
    sizing := PositionSizer.calculate engine.settings.sizing equity reference distance decision.confidence
      (performance.map Prod.fst) (performance.map Prod.snd) spec }

def riskQuery (plan : EntryPlan) (world : World β) : RiskQuery where
  symbol := plan.symbol
  newNotional := plan.sizing.notional
  equity := plan.equity
  openPositions := world.positions.openPositions.length
  positionsOnSymbol := (world.positions.positionsFor plan.symbol).length
  symbolExposures := symbolExposures world

def entryRequest (requestId : RequestId) (decision : DecisionGenerated) (plan : EntryPlan) : OrderRequest where
  requestId := requestId
  symbol := plan.symbol
  side := plan.side
  quantity := plan.sizing.quantity
  orderType := .market
  stopLoss := some plan.stopLoss
  takeProfit := some plan.takeProfit
  decisionId := some decision.decisionId
  reason := decision.summary

def entryPosition (decision : DecisionGenerated) (plan : EntryPlan) (fill : Fill) : Position :=
  .ofFill fill (some plan.stopLoss) (some plan.takeProfit) (some decision.decisionId) plan.view.regime
    decision.score decision.confidence (if decision.summary = "" then [] else [decision.summary]) plan.view.atr
    plan.view.volatility

def openPosition (decision : DecisionGenerated) (plan : EntryPlan) (orderId : OrderId) (fill : Fill)
    (killSwitch circuitBreaker : Bool) (world : World β) : World β :=
  let filled := announceFill orderId fill { world with orders := world.orders.applyFill orderId fill }
  let id := filled.nextId
  let position := entryPosition decision plan fill
  let booked := { filled.drawIds 1 with
    portfolio := filled.portfolio.onOpenCommission fill.commission
    positions := filled.positions.add id position }
  (booked.note (.opened id killSwitch circuitBreaker)).publish
    (.positionOpened id plan.symbol position.side position.quantity position.entryPrice (some plan.stopLoss)
      (some plan.takeProfit) (some decision.decisionId))

def placeOrder (decision : DecisionGenerated) (plan : EntryPlan) (killSwitch circuitBreaker : Bool)
    (world : World β) : World β :=
  let request := entryRequest (.fresh world.nextId) decision plan
  let orderId := world.nextId + 1
  let created := ({ world.drawIds 2 with orders := world.orders.create orderId request world.now }).publish
    (.orderCreated orderId plan.symbol plan.side plan.sizing.quantity request.orderType (some decision.decisionId))
  let execution := engine.paper.execute created.broker created.now request plan.ticker
    (some (slipContext plan.view plan.sizing.quantity)) true true
  let executed := { created with broker := execution.2 }
  match execution.1.fill with
  | none =>
      ({ executed with orders := executed.orders.reject orderId execution.1.rejectReason executed.now }).publish
        (.orderRejected orderId plan.symbol plan.side execution.1.rejectReason.value)
  | some fill => openPosition decision plan orderId fill killSwitch circuitBreaker executed

-- The risk manager is asked with the counts of this very state.
def riskChecked (decision : DecisionGenerated) (plan : EntryPlan) (world : World β) : World β :=
  let killSwitch := world.risk.killSwitchActive
  let circuitBreaker := world.risk.circuitBreakerActive world.now
  let verdict := world.risk.evaluateEntry (riskQuery plan world) world.now
  let evaluated := { world with risk := verdict.2 }
  if !verdict.1.allowed then
    reject plan.symbol plan.side .riskBlocked verdict.1.rule verdict.1.reason evaluated
  else engine.placeOrder decision plan killSwitch circuitBreaker evaluated

def enter (decision : DecisionGenerated) (entry : Entry) (view : MarketView) (world : World β) : World β :=
  let spread := world.risk.checkSpread view.spreadBps
  let liquidity := world.risk.checkLiquidity view.volume
  if !spread.allowed then reject entry.symbol entry.side .spreadTooWide spread.rule spread.reason world
  else if !liquidity.allowed then reject entry.symbol entry.side .riskBlocked liquidity.rule liquidity.reason world
  else
    let spec := engine.instrumentSpec entry.symbol world
    let plan := engine.plan decision entry view spec.1 world
    if plan.sizing.quantity ≤ 0 then
      reject entry.symbol entry.side .invalidQuantity "sizing" plan.sizing.reason spec.2
    else engine.riskChecked decision plan spec.2

def contextSnapshot (position : Position) (now : Moment) : ContextSnapshot where
  exitRegime := position.metadata.exitRegime.getD "unknown"
  entryRegime := position.regime
  regimeAdverseStreak := position.metadata.regimeAdverseStreak.getD 0
  breakEvenActive := position.breakEvenActive
  trailingActive := position.trailingActive
  holdingSeconds := roundTo 1 (position.holdingSeconds now)

def tradeRecord (tradeId : Nat) (id : PositionId) (position : Position) (exitFill : Fill) (now : Moment) :
    TradeRecord where
  tradeId := tradeId
  positionId := id
  symbol := position.symbol
  side := position.side
  quantity := position.initialQuantity
  entryTime := position.openedAt
  exitTime := position.closedAt.getD now
  entryPrice := position.entryPrice
  exitPrice := exitFill.price
  stopLoss := position.initialStop
  takeProfit := position.takeProfit
  commission := position.commissionPaid
  slippageBps := roundTo 4 ((position.metadata.entrySlippageBps.getD 0 + exitFill.slippageBps) / 2)
  spreadBps := exitFill.spreadBps
  pnl := roundTo 6 position.realizedPnl
  pnlGross := roundTo 6 (position.realizedPnl + position.commissionPaid)
  rMultiple := roundTo 4 (position.rMultipleAt exitFill.price)
  returnPct := roundTo 4 (if position.costBasis = 0 then 0 else position.realizedPnl / position.costBasis * 100)
  atr := position.metadata.atr
  volatility := position.metadata.volatility.getD "normal"
  regime := position.regime
  score := position.score
  confidence := position.confidence
  exitReason := position.exitReason.getD .manual
  entryReasons := position.entryReasons
  exitReasons := position.exitReasons
  decisionId := position.decisionId
  contextSnapshot := contextSnapshot position now
  recordedAt := now

def book (id : PositionId) (position : Position) (fill : Fill) (reason : ExitReason) (exitReasons : List String)
    (world : World β) : World β :=
  let closed := world.positions.close id position fill.price fill.commission reason exitReasons world.now
  let settled := position.settled fill.price fill.commission reason exitReasons world.now
  (({ world with
      positions := closed.2
      portfolio := world.portfolio.onTradeClosed closed.1 fill.commission
      risk := world.risk.onTradeClosed settled.realizedPnl world.now }).note (.portfolioSettled id)).note
    (.riskSettled id)

def record (id : PositionId) (position : Position) (fill : Fill) (reason : ExitReason) (exitReasons : List String)
    (world : World β) : World β :=
  let settled := position.settled fill.price fill.commission reason exitReasons world.now
  let trade := tradeRecord world.nextId id settled fill world.now
  ((({ world with journal := world.journal.record trade }).drawIds 1).note (.journaled id)).publish
    (.positionClosed id settled.symbol settled.side settled.quantity fill.price (roundTo 6 settled.realizedPnl)
      (roundTo 4 (settled.rMultipleAt fill.price)) reason (settled.holdingSeconds world.now))

def announceBreaker (world : World β) : World β :=
  let refreshed := { world with risk := world.risk.refreshCircuitBreaker world.now }
  if refreshed.risk.circuitBreaker && !refreshed.cbAnnounced then
    ({ refreshed with cbAnnounced := true }).publish
      (.circuitBreakerTriggered "pérdida rápida" engine.settings.risk.circuitBreakerLossPct
        engine.settings.risk.circuitBreakerWindowMinutes)
  else refreshed

structure ClosingOrder where
  id : PositionId
  orderId : OrderId
  ticker : Ticker
  request : OrderRequest
  reason : ExitReason
  exitReasons : List String

def closeSide (position : Position) : OrderSide := if position.isLong then .sell else .buy

def startClose (id : PositionId) (reason : ExitReason) (exitReasons : List String) (world : World β) :
    Option ClosingOrder × World β :=
  match world.positions.opened.lookup id with
  | none => (none, world)
  | some position => match world.market.tickers position.symbol with
    | none => (none, world)
    | some ticker =>
        let orderId := world.nextId + 1
        let request : OrderRequest :=
          { requestId := .fresh world.nextId
            symbol := position.symbol
            side := closeSide position
            quantity := position.quantity
            orderType := .market
            reduceOnly := true
            reason := reason.value }
        (some ⟨id, orderId, ticker, request, reason, exitReasons⟩,
          { world.drawIds 2 with orders := world.orders.create orderId request world.now })

-- Closing orders are neither rejected by chance nor filled in part.
def closeExecution (order : ClosingOrder) (position : Position) (view : MarketView) (world : World β) :
    BrokerExecution × β :=
  engine.paper.execute world.broker world.now order.request order.ticker
    (some (slipContext view position.quantity)) false false

-- Everything of a close after the market view. The position is the object the
-- close was started on, whether or not it is still open.
def finishClose (order : ClosingOrder) (view : MarketView) (world : World β) : World β :=
  match world.positions.object order.id with
  | none => world
  | some position =>
      let execution := engine.closeExecution order position view world
      let executed := { world with broker := execution.2 }
      match execution.1.fill with
      | none => executed
      | some fill =>
          let exitReasons := if order.exitReasons.isEmpty then [order.reason.value] else order.exitReasons
          let announced := announceFill order.orderId fill
            ({ executed with orders := executed.orders.applyFill order.orderId fill }.note (.closingExecuted order.id))
          record order.id position fill order.reason exitReasons
            (engine.announceBreaker (book order.id position fill order.reason exitReasons announced))

def inferExternalExit (position : Position) (exitPrice : ℚ) : ExitReason × String :=
  let risk := match position.initialStop with
    | none => 0
    | some stop => if stop = 0 then 0 else |position.entryPrice - stop|
  let tolerance := max (risk * (20 / 100)) (exitPrice * (5 / 10000))
  let near (level : Option ℚ) : Bool := match level with
    | none => false
    | some level => decide (|exitPrice - level| ≤ tolerance)
  if near position.stopLoss then
    (.stopLoss, (if position.breakEvenActive then "break-even" else "stop") ++ " ejecutado por el broker (" ++
      fixed 5 exitPrice ++ ")")
  else if near position.takeProfit then
    (.takeProfit, "objetivo ejecutado por el broker (" ++ fixed 5 exitPrice ++ ")")
  else (.manual, "cerrada fuera del bot (terminal/broker)")

-- The position is gone at the broker: it is settled at the last known price,
-- without commission.
def settleExternalClose (id : PositionId) (position : Position) (world : World β) : World β :=
  let exitPrice := match world.market.tickers position.symbol with
    | none => position.markPrice
    | some ticker => ticker.mid
  let cause := inferExternalExit position exitPrice
  let fill : Fill :=
    { requestId := .externalClose id
      symbol := position.symbol
      side := closeSide position
      quantity := position.quantity
      requestedQuantity := position.quantity
      referencePrice := exitPrice
      price := exitPrice
      executedAt := world.now }
  record id position fill cause.1 [cause.2] (book id position fill cause.1 [cause.2] world)

def brokerRef (position : Position) : Option String := position.metadata.brokerRef.filter (fun ref => decide (ref ≠ ""))

def goneAtBroker (tickets : String → List Int) (position : Position) : Bool :=
  match brokerRef position with
  | none => false
  | some ref => !decide (ref ∈ (tickets position.symbol).map toString)

def reconcileBrokerPositions (world : World β) : World β :=
  match engine.paper.openPositionTickets with
  | none => world
  | some ticketsOf =>
      let gone := world.positions.openPositions.filter (fun entry => goneAtBroker (ticketsOf world.broker) entry.2)
      gone.foldl (fun world entry => settleExternalClose entry.1 entry.2 world) world

def syncBrokerBalance (world : World β) : World β :=
  match engine.paper.accountBalance.bind (fun balanceOf => balanceOf world.broker) with
  | none => world
  | some balance =>
      { world with
        portfolio := world.portfolio.syncFromBroker balance (!world.balanceBaselineSet)
        balanceBaselineSet := true }

def adoptPosition (live : BrokerPosition) (world : World β) : World β :=
  let id := world.nextId
  let position := Position.adopted live.symbol (if live.isLong then .long else .short) live.volume live.priceOpen
    live.stopLoss live.takeProfit (toString live.ticket) (live.openedAt.getD world.now)
  ({ world.drawIds 1 with positions := world.positions.add id position }).publish
    (.positionOpened id position.symbol position.side position.quantity position.entryPrice position.stopLoss
      position.takeProfit none)

def adoptBrokerPositions (world : World β) : World β :=
  match engine.paper.openBrokerPositions with
  | none => world
  | some positionsOf =>
      let known := world.openPositions.filterMap brokerRef
      let live := (positionsOf world.broker).filter (fun live => !decide (toString live.ticket ∈ known))
      live.foldl (fun world live => adoptPosition live world) world

def onStart (world : World β) : World β :=
  engine.adoptBrokerPositions
    (engine.syncBrokerBalance { world with journal := world.journal.loadFromDisk })

def announceStop (id : PositionId) (symbol : String) (update : StopUpdate) (world : World β) : World β :=
  let announced := match update.kind with
    | .breakEven => world.publish (.breakEvenActivated id symbol update.current)
    | .trailing => world.publish (.trailingUpdated id symbol update.current)
  announced.publish (.stopMoved id symbol update.previous update.current update.kind.value)

def markPrice (position : Position) (ticker : Ticker) : ℚ :=
  match position.side with
  | .long => ticker.bid
  | .short => ticker.ask

def markAndManage (id : PositionId) (world : World β) : Bool × World β :=
  match world.positions.object id with
  | none => (false, world)
  | some position => match world.market.tickers position.symbol with
    | none => (false, world)
    | some ticker =>
        let marked := world.positions.updateMark id (markPrice position ticker)
        let managed := marked.manage engine.settings.rules id (engine.symbolAtr position.symbol world)
        (true, managed.2.foldl (fun world update => announceStop id position.symbol update world)
          { world with positions := managed.1 })

def timeExitDue (position : Position) (now : Moment) : Bool :=
  decide (engine.settings.maxHoldingMinutes > 0) &&
    decide (position.holdingSeconds now / 60 ≥ engine.settings.maxHoldingMinutes)

def regimeWatched (position : Position) (now : Moment) : Bool :=
  engine.settings.exitOnRegimeChange && engine.hasContext && !decide (position.regime ∈ ["", "unknown"]) &&
    !decide (position.holdingSeconds now < engine.settings.regimeChangeMinHoldingSeconds)

def regimeChanged (position : Position) (regime : String) : Bool :=
  if engine.settings.regimeExitFamilyOnly then decide (regimeFamily regime ≠ regimeFamily position.regime)
  else decide (regime ≠ position.regime)

def setMetadata (id : PositionId) (f : PositionMetadata → PositionMetadata) (world : World β) : World β :=
  { world with
    positions := world.positions.modify id (fun position => { position with metadata := f position.metadata }) }

def readRegime (id : PositionId) (view : MarketView) (world : World β) : Bool × World β :=
  match world.positions.object id with
  | none => (false, world)
  | some position =>
      let noted := setMetadata id (fun metadata => { metadata with exitRegime := some view.regime }) world
      if view.regime = "unknown" then (false, noted)
      else
        let streak := if engine.regimeChanged position view.regime then
          position.metadata.regimeAdverseStreak.getD 0 + 1 else 0
        (engine.regimeChanged position view.regime && decide (max 1 engine.settings.regimeExitConfirmations ≤ streak),
          setMetadata id (fun metadata => { metadata with regimeAdverseStreak := some streak }) noted)

-- The positions to flatten: every open one while the kill switch is active.
def refreshRiskState (world : World β) : List PositionId × World β :=
  let snapshot := world.portfolio.snapshot world.openPositions world.now
  let risk := world.risk.updateEquity snapshot.1.drawdownPct
  let updated := { world with portfolio := snapshot.2, risk := risk }.note
    (.refreshed world.portfolio.peakEquity (world.portfolio.equity world.openPositions) risk.killSwitchActive)
  if !updated.risk.killSwitchActive then ([], { updated with killAnnounced := false })
  else if updated.killAnnounced then (updated.openIds, updated)
  else
    let status := updated.risk.status updated.now
    (updated.openIds, ({ updated with killAnnounced := true, risk := status.2 }).publish
      (.killSwitchTriggered (orElseText status.1.killReason "drawdown") snapshot.1.drawdownPct))

def modifyStop (id : PositionId) (stopLoss : ℚ) (world : World β) : World β :=
  match world.positions.get id with
  | none => world
  | some position =>
      ({ world with positions := world.positions.modify id (fun position =>
          { position with stopLoss := some stopLoss }) }).publish
        (.stopMoved id position.symbol position.stopLoss stopLoss "manual")

def moveBreakEven (id : PositionId) (world : World β) : World β :=
  match world.positions.get id with
  | none => world
  | some position =>
      ({ world with positions := world.positions.modify id (fun position =>
          { position with stopLoss := some position.entryPrice, breakEvenActive := true }) }).publish
        (.breakEvenActivated id position.symbol position.entryPrice)

end ExecutionEngine

end QuantEngine
