import QuantEngine.Execution.Journal
import QuantEngine.Execution.Models
import QuantEngine.Execution.Portfolio
import QuantEngine.Execution.Positions
import QuantEngine.Execution.Risk

set_option autoImplicit false

namespace QuantEngine

inductive ExecutionEvent where
  | orderCreated (orderId : OrderId) (symbol : String) (side : OrderSide) (quantity : ℚ) (orderType : OrderType)
      (decisionId : Option String)
  | orderRejected (orderId : OrderId) (symbol : String) (side : OrderSide) (reason : String)
  | orderExecuted (orderId : OrderId) (symbol : String) (side : OrderSide)
      (quantity price commission slippageBps : ℚ) (isPartial : Bool)
  | positionOpened (positionId : PositionId) (symbol : String) (side : PositionSide) (quantity entryPrice : ℚ)
      (stopLoss takeProfit : Option ℚ) (decisionId : Option String)
  | positionClosed (positionId : PositionId) (symbol : String) (side : PositionSide)
      (quantity exitPrice pnl rMultiple : ℚ) (exitReason : ExitReason) (holdingSeconds : ℚ)
  | stopMoved (positionId : PositionId) (symbol : String) (previous : Option ℚ) (current : ℚ) (reason : String)
  | breakEvenActivated (positionId : PositionId) (symbol : String) (price : ℚ)
  | trailingUpdated (positionId : PositionId) (symbol : String) (stopLoss : ℚ)
  | riskTriggered (rule symbol detail : String)
  | killSwitchTriggered (reason : String) (drawdownPct : ℚ)
  | circuitBreakerTriggered (reason : String) (lossPct windowMinutes : ℚ)
  deriving DecidableEq

inductive EventBusError where
  | notRunning
  | queueFull
  deriving DecidableEq

-- The queue that the dispatch loop drains. A bound of zero is no bound.
structure EventBus where
  running : Bool := true
  maxQueueSize : Nat := 10000
  queue : List ExecutionEvent := []
  published : Nat := 0
  dropped : Nat := 0
  deriving DecidableEq

namespace EventBus

def full (bus : EventBus) : Bool := decide (0 < bus.maxQueueSize) && decide (bus.maxQueueSize ≤ bus.queue.length)

-- Publishing puts the event on the queue at once or raises: it never waits.
def publish (bus : EventBus) (event : ExecutionEvent) : Except EventBusError Unit × EventBus :=
  if !bus.running then (.error .notRunning, bus)
  else if bus.full then (.error .queueFull, { bus with dropped := bus.dropped + 1 })
  else (.ok (), { bus with queue := bus.queue ++ [event], published := bus.published + 1 })

end EventBus

end QuantEngine

namespace QuantEngine

-- The managers that the execution engine drives and the recovery service
-- captures and restores.
structure Managers where
  positions : PositionManager
  portfolio : PortfolioManager
  risk : RiskManager
  journal : TradeJournal

def Managers.openPositions (managers : Managers) : List Position := managers.positions.opened.values

end QuantEngine
