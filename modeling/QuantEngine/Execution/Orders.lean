import QuantEngine.Execution.Models
import QuantEngine.Library.Deque
import QuantEngine.Library.Dict

set_option autoImplicit false

namespace QuantEngine

open Calendar (Moment)

structure OcoGroup where
  orderIds : List OrderId
  active : Bool := true
  deriving DecidableEq

-- Every order stays in the table, so that an order object is its entry there.
structure OrderManager where
  historyLimit : Nat := 5000
  orders : Dict OrderId Order := .empty
  history : List OrderId := []
  oco : Dict String OcoGroup := .empty
  created : Nat := 0
  filled : Nat := 0
  rejected : Nat := 0
  cancelled : Nat := 0

namespace OrderManager

def create (manager : OrderManager) (id : OrderId) (request : OrderRequest) (now : Moment) : OrderManager :=
  { manager with
    orders := manager.orders.insert id { request := request, status := .pending, updatedAt := now }
    history := Deque.push manager.historyLimit manager.history id
    created := manager.created + 1 }

def get (manager : OrderManager) (id : OrderId) : Option Order := manager.orders.lookup id

def activeOrders (manager : OrderManager) : List (OrderId × Order) :=
  manager.orders.entries.filter (fun entry => !entry.2.isTerminal)

def reject (manager : OrderManager) (id : OrderId) (reason : RejectReason) (now : Moment) : OrderManager :=
  { manager with
    orders := manager.orders.modify id (fun order => order.reject reason now)
    rejected := manager.rejected + 1 }

def cancel (manager : OrderManager) (id : OrderId) : OrderManager :=
  match manager.get id with
  | none => manager
  | some order =>
      if order.isTerminal then manager
      else { manager with
        orders := manager.orders.modify id (fun order => { order with status := .cancelled })
        cancelled := manager.cancelled + 1 }

def createOco (manager : OrderManager) (orderIds : List OrderId) (groupId : String) : OrderManager :=
  { manager with oco := manager.oco.insert groupId { orderIds := orderIds } }

-- The group is used up and its other orders are cancelled.
def fireOco (manager : OrderManager) (filledId : OrderId) (groupId : String) : OrderManager :=
  match manager.oco.lookup groupId with
  | none => manager
  | some group =>
      if group.active && decide (filledId ∈ group.orderIds) then
        let used := { manager with oco := manager.oco.modify groupId (fun group => { group with active := false }) }
        (group.orderIds.filter (fun other => decide (other ≠ filledId))).foldl cancel used
      else manager

def cancelOcoSiblings (manager : OrderManager) (filledId : OrderId) : OrderManager :=
  manager.oco.keys.foldl (fun manager groupId => manager.fireOco filledId groupId) manager

def applyFill (manager : OrderManager) (id : OrderId) (fill : Fill) : OrderManager :=
  let filled := { manager with orders := manager.orders.modify id (fun order => order.applyFill fill) }
  match filled.get id with
  | some order =>
      if order.status = .filled then { filled with filled := filled.filled + 1 }.cancelOcoSiblings id else filled
  | none => filled

end OrderManager

end QuantEngine
