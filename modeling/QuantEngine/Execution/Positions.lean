import QuantEngine.Execution.Models
import QuantEngine.Library.Dict

set_option autoImplicit false

namespace QuantEngine

open Calendar (Moment)

inductive StopKind where
  | breakEven
  | trailing
  deriving DecidableEq

def StopKind.value : StopKind → String
  | .breakEven => "break_even"
  | .trailing => "trailing"

structure StopUpdate where
  kind : StopKind
  previous : Option ℚ
  current : ℚ
  deriving DecidableEq

structure PositionRules where
  breakEvenR : ℚ := 1
  trailingEnabled : Bool := true
  trailingAtrMultiple : ℚ := 2
  trailingActivateR : ℚ := 1
  deriving DecidableEq

namespace Position

def ofFill (fill : Fill) (stopLoss takeProfit : Option ℚ) (decisionId : Option String) (regime : String)
    (score confidence : ℚ) (entryReasons : List String) (atr : Option ℚ) (volatility : String) : Position :=
  postInit {
    symbol := fill.symbol
    side := if fill.side = .buy then .long else .short
    quantity := fill.quantity
    initialQuantity := fill.quantity
    entryPrice := fill.price
    initialStop := stopLoss
    stopLoss := stopLoss
    takeProfit := takeProfit
    openedAt := fill.executedAt
    markPrice := fill.price
    commissionPaid := fill.commission
    decisionId := decisionId
    regime := regime
    score := score
    confidence := confidence
    entryReasons := entryReasons
    metadata := {
      atr := atr
      volatility := some volatility
      entrySlippageBps := some fill.slippageBps
      brokerRef := fill.brokerRef } }

def adopted (symbol : String) (side : PositionSide) (quantity entryPrice : ℚ) (stopLoss takeProfit : Option ℚ)
    (brokerRef : String) (openedAt : Moment) : Position :=
  postInit {
    symbol := upper symbol
    side := side
    quantity := quantity
    initialQuantity := quantity
    entryPrice := entryPrice
    initialStop := stopLoss
    stopLoss := stopLoss
    takeProfit := takeProfit
    openedAt := openedAt
    markPrice := entryPrice
    entryReasons := ["adoptada al arrancar (ya abierta en el broker)"]
    metadata := { brokerRef := some brokerRef, adopted := true } }

def breakEvenDue (rules : PositionRules) (position : Position) : Bool :=
  !(decide (rules.breakEvenR ≤ 0) || position.breakEvenActive) &&
    !decide (position.riskPerUnit ≤ 0) && !decide (position.rMultiple < rules.breakEvenR)

def applyBreakEven (rules : PositionRules) (position : Position) : Position × Option StopUpdate :=
  if position.breakEvenDue rules then
    ({ position with stopLoss := some position.entryPrice, breakEvenActive := true },
      some ⟨.breakEven, position.stopLoss, position.entryPrice⟩)
  else (position, none)

def trailingDistance (rules : PositionRules) (position : Position) (atr : Option ℚ) : Option ℚ :=
  match atr with
  | none => none
  | some atr =>
      if !rules.trailingEnabled || decide (atr ≤ 0) then none
      else if position.riskPerUnit ≤ 0 then none
      else if position.rMultiple < rules.trailingActivateR then none
      else some (atr * rules.trailingAtrMultiple)

def trailingCandidate (position : Position) (distance : ℚ) : ℚ :=
  if position.isLong then position.highestPrice - distance else position.lowestPrice + distance

def improves (position : Position) (candidate : ℚ) : Bool :=
  match position.stopLoss with
  | none => true
  | some stop => if position.isLong then decide (candidate > stop) else decide (candidate < stop)

def applyTrailing (rules : PositionRules) (position : Position) (atr : Option ℚ) : Position × Option StopUpdate :=
  match position.trailingDistance rules atr with
  | none => (position, none)
  | some distance =>
      let candidate := position.trailingCandidate distance
      if position.improves candidate then
        let stop := Decimal.roundTo 8 candidate
        ({ position with stopLoss := some stop, trailingActive := true },
          some ⟨.trailing, position.stopLoss, stop⟩)
      else (position, none)

def manage (rules : PositionRules) (position : Position) (atr : Option ℚ) : Position × List StopUpdate :=
  let first := position.applyBreakEven rules
  let second := first.1.applyTrailing rules atr
  (second.1, first.2.toList ++ second.2.toList)

-- A stop hit counts as trailing before break-even before plain stop loss.
def stopReason (position : Position) : ExitReason :=
  if position.trailingActive then .trailingStop
  else if position.breakEvenActive then .breakEven
  else .stopLoss

def stopHit (position : Position) : Bool :=
  match position.stopLoss with
  | none => false
  | some stop => if position.isLong then decide (position.markPrice ≤ stop) else decide (position.markPrice ≥ stop)

def targetHit (position : Position) : Bool :=
  match position.takeProfit with
  | none => false
  | some target =>
      if position.isLong then decide (position.markPrice ≥ target) else decide (position.markPrice ≤ target)

def checkExit (position : Position) : Option ExitReason :=
  if position.stopHit then some position.stopReason
  else if position.targetHit then some .takeProfit
  else none

def grossPnl (position : Position) (exitPrice : ℚ) : ℚ :=
  (exitPrice - position.entryPrice) * position.quantity * position.directionSign

def settled (position : Position) (exitPrice closeCommission : ℚ) (reason : ExitReason)
    (exitReasons : List String) (now : Moment) : Position :=
  let marked := position.updateMark exitPrice
  { marked with
    commissionPaid := position.commissionPaid + closeCommission
    realizedPnl := position.grossPnl exitPrice - (position.commissionPaid + closeCommission)
    status := .closed
    closedAt := some now
    exitReason := some reason
    exitReasons := exitReasons }

end Position

-- Open positions by id and the history of closed ones. A position is one
-- object: an entry of the history is the object that was open, and a change to
-- it shows wherever it is held.
structure PositionManager where
  opened : Dict PositionId Position := .empty
  closed : List (PositionId × Position) := []

namespace PositionManager

def restore (manager : PositionManager) (positions : List (PositionId × Position)) : PositionManager :=
  { manager with opened := manager.opened.insertAll positions }

def openPositions (manager : PositionManager) : List (PositionId × Position) := manager.opened.entries

def get (manager : PositionManager) (id : PositionId) : Option Position := manager.opened.lookup id

-- The object itself, whether it is still open or not.
def object (manager : PositionManager) (id : PositionId) : Option Position :=
  match manager.opened.lookup id with
  | some position => some position
  | none => (manager.closed.find? (fun entry => decide (entry.1 = id))).map Prod.snd

def positionsFor (manager : PositionManager) (symbol : String) : List (PositionId × Position) :=
  manager.opened.entries.filter (fun entry => decide (entry.2.symbol = upper symbol))

def add (manager : PositionManager) (id : PositionId) (position : Position) : PositionManager :=
  { manager with opened := manager.opened.insert id position }

def modify (manager : PositionManager) (id : PositionId) (f : Position → Position) : PositionManager :=
  { opened := manager.opened.modify id f
    closed := manager.closed.map (Dict.modifyEntry id f) }

def updateMark (manager : PositionManager) (id : PositionId) (mark : ℚ) : PositionManager :=
  manager.modify id (fun position => position.updateMark mark)

def manage (manager : PositionManager) (rules : PositionRules) (id : PositionId) (atr : Option ℚ) :
    PositionManager × List StopUpdate :=
  match manager.object id with
  | none => (manager, [])
  | some position =>
      (manager.modify id (fun position => (position.manage rules atr).1), (position.manage rules atr).2)

-- `pop` with a default and an unconditional append: a position that is closed
-- again is settled again.
def close (manager : PositionManager) (id : PositionId) (position : Position) (exitPrice closeCommission : ℚ)
    (reason : ExitReason) (exitReasons : List String) (now : Moment) : ℚ × PositionManager :=
  let settled := position.settled exitPrice closeCommission reason exitReasons now
  let written := manager.modify id (fun _ => settled)
  (position.grossPnl exitPrice,
    { opened := written.opened.erase id, closed := written.closed ++ [(id, settled)] })

end PositionManager

end QuantEngine
