import QuantEngine.Library.Deque
import QuantEngine.Library.Dict
import QuantEngine.Library.Run

set_option autoImplicit false

namespace QuantEngine.Core

inductive ServiceState where
  | created
  | starting
  | running
  | stopping
  | stopped
  | failed
deriving DecidableEq

-- Events, their types, handlers and exceptions are any.
variable {E T H X : Type}

structure Subscription (T H : Type) where
  eventType : Option T
  handler : H

structure BusStats where
  published : Nat := 0
  dispatched : Nat := 0
  handlerErrors : Nat := 0
  dropped : Nat := 0
  subscribers : Nat := 0
  deadLetters : Nat := 0
deriving DecidableEq

structure DeadLetter (E H X : Type) where
  event : E
  handler : H
  error : X
deriving DecidableEq

-- A handler at work on an event, under the number of the dispatch.
structure Call (E H : Type) where
  number : Nat
  event : E
  handler : H
deriving DecidableEq

-- The task of the loop: waiting in `get`, or in the `gather` of one event, which
-- is over at once when a call was cancelled; or ended.
inductive Worker (E H : Type) where
  | waiting
  | gathering (calls : List (Call E H)) (cancelled : Bool)
  | ended
deriving DecidableEq

-- An event taken from the queue, with the subscriptions of that moment.
structure Dispatch (E T H : Type) where
  event : E
  subscribers : Dict (Option T) (List H)

-- `left` are the calls still at work when their gather was over. `accepted`,
-- `dispatches` and `begun` are ghosts: what was put into the queue, what was
-- taken out, and the calls made for it.
structure EventBus (E T H X : Type) where
  state : ServiceState
  maxQueueSize : Int
  deadLetterLimit : Nat
  queue : List E
  unfinished : Nat
  subscribers : Dict (Option T) (List H)
  worker : Worker E H
  left : List (Call E H)
  stats : BusStats
  deadLetters : List (DeadLetter E H X)
  accepted : List E
  dispatches : List (Dispatch E T H)
  begun : List (Call E H)

-- A bus that was created, subscribed to and started.
def started (maxQueueSize : Int) (deadLetterLimit : Nat) (subscribers : Dict (Option T) (List H)) : EventBus E T H X where
  state := .running
  maxQueueSize := maxQueueSize
  deadLetterLimit := deadLetterLimit
  queue := []
  unfinished := 0
  subscribers := subscribers
  worker := .waiting
  left := []
  stats := { subscribers := subscribers.values.flatten.length }
  deadLetters := []
  accepted := []
  dispatches := []
  begun := []

-- How a call ends.
inductive Ending (X : Type) where
  | returned
  | raised (error : X)
  | cancelled
deriving DecidableEq

-- What the tasks of the program do to the bus: any of them, a handler too, may
-- publish, subscribe and unsubscribe. The others are the turns of the worker
-- (`take`, `resume`), the ends of calls, and the stretches of `stop`.
inductive Action (E T H X : Type) where
  | publish (event : E)
  | subscribe (handler : H) (eventType : Option T)
  | unsubscribe (subscription : Subscription T H)
  | take
  | ends (index : Nat) (ending : Ending X)
  | resume
  | leftEnds (index : Nat) (ending : Ending X)
  | stop
  | drained
  | timedOut

def full (bus : EventBus E T H X) : Prop := 0 < bus.maxQueueSize ∧ bus.maxQueueSize ≤ bus.queue.length

instance (bus : EventBus E T H X) : Decidable (full bus) := inferInstanceAs (Decidable (_ ∧ _))

-- It raises where it leaves the bus as it is or only counts.
def publish (bus : EventBus E T H X) (event : E) : EventBus E T H X :=
  if bus.state ≠ .running then bus
  else if full bus then { bus with stats := { bus.stats with dropped := bus.stats.dropped + 1 } }
  else
    { bus with
      queue := bus.queue ++ [event]
      unfinished := bus.unfinished + 1
      stats := { bus.stats with published := bus.stats.published + 1 }
      accepted := bus.accepted ++ [event] }

section

variable [DecidableEq T] [DecidableEq H]

def subscribe (bus : EventBus E T H X) (handler : H) (eventType : Option T) : EventBus E T H X :=
  { bus with
    subscribers := bus.subscribers.insert eventType ((bus.subscribers.lookup eventType).getD [] ++ [handler])
    stats := { bus.stats with subscribers := bus.stats.subscribers + 1 } }

def unsubscribe (bus : EventBus E T H X) (subscription : Subscription T H) : EventBus E T H X :=
  match bus.subscribers.lookup subscription.eventType with
  | none => bus
  | some handlers =>
      if subscription.handler ∈ handlers then
        { bus with
          subscribers := bus.subscribers.insert subscription.eventType (handlers.erase subscription.handler)
          stats := { bus.stats with subscribers := bus.stats.subscribers - 1 } }
      else bus

end

section

variable (isInstance : E → T → Bool)

-- The wildcard is `none`.
def covers (eventType : Option T) (event : E) : Bool := eventType.all (isInstance event)

def handlersFor (subscribers : Dict (Option T) (List H)) (event : E) : List H :=
  subscribers.entries.flatMap (fun entry => if covers isInstance entry.1 event then entry.2 else [])

-- One turn of the loop from `get` to the gather, or to the next `get` when there
-- is no handler.
def take (bus : EventBus E T H X) : EventBus E T H X :=
  match bus.worker, bus.queue with
  | .waiting, event :: rest =>
      let calls := (handlersFor isInstance bus.subscribers event).map (Call.mk bus.dispatches.length event)
      let dispatch : Dispatch E T H := ⟨event, bus.subscribers⟩
      let taken := { bus with queue := rest, dispatches := bus.dispatches ++ [dispatch], begun := bus.begun ++ calls }
      if calls = [] then { taken with unfinished := bus.unfinished - 1 }
      else { taken with worker := .gathering calls false }
  | _, _ => bus

end

-- The end of `_run_handler`: an exception is recorded and isolated. A
-- cancellation is no Exception, so it ends the call.
def runHandlerEnds (bus : EventBus E T H X) (call : Call E H) : Ending X → EventBus E T H X
  | .raised error =>
      let deadLetters := Deque.push bus.deadLetterLimit bus.deadLetters ⟨call.event, call.handler, error⟩
      { bus with
        deadLetters := deadLetters
        stats := { bus.stats with handlerErrors := bus.stats.handlerErrors + 1, deadLetters := deadLetters.length } }
  | _ => bus

def isCancelled : Ending X → Bool
  | .cancelled => true
  | _ => false

def ends (bus : EventBus E T H X) (index : Nat) (ending : Ending X) : EventBus E T H X :=
  match bus.worker with
  | .gathering calls cancelled =>
      match calls[index]? with
      | none => bus
      | some call =>
          { runHandlerEnds bus call ending with
            worker := .gathering (calls.eraseIdx index) (cancelled || isCancelled ending) }
  | _ => bus

-- The gather is over when every call has ended, or one by cancellation: that
-- one ends the worker too.
def resume (bus : EventBus E T H X) : EventBus E T H X :=
  match bus.worker with
  | .gathering calls true => { bus with worker := .ended, left := bus.left ++ calls, unfinished := bus.unfinished - 1 }
  | .gathering [] false =>
      { bus with
        worker := .waiting
        unfinished := bus.unfinished - 1
        stats := { bus.stats with dispatched := bus.stats.dispatched + 1 } }
  | _ => bus

def leftEnds (bus : EventBus E T H X) (index : Nat) (ending : Ending X) : EventBus E T H X :=
  match bus.left[index]? with
  | none => bus
  | some call => { runHandlerEnds bus call ending with left := bus.left.eraseIdx index }

def stop (bus : EventBus E T H X) : EventBus E T H X :=
  if bus.state = .running ∨ bus.state = .failed then { bus with state := .stopping } else bus

-- Cancelling the worker cancels the calls of its gather.
def cancelWorker (bus : EventBus E T H X) : EventBus E T H X :=
  match bus.worker with
  | .gathering _ _ => { bus with worker := .ended, unfinished := bus.unfinished - 1, state := .stopped }
  | _ => { bus with worker := .ended, state := .stopped }

-- `queue.join` is over when every event taken is done.
def drained (bus : EventBus E T H X) : EventBus E T H X :=
  if bus.state = .stopping ∧ bus.unfinished = 0 then cancelWorker bus else bus

def timedOut (bus : EventBus E T H X) : EventBus E T H X :=
  if bus.state = .stopping then cancelWorker bus else bus

def step [DecidableEq T] [DecidableEq H] (isInstance : E → T → Bool) (bus : EventBus E T H X) : Action E T H X → EventBus E T H X
  | .publish event => publish bus event
  | .subscribe handler eventType => subscribe bus handler eventType
  | .unsubscribe subscription => unsubscribe bus subscription
  | .take => take isInstance bus
  | .ends index ending => ends bus index ending
  | .resume => resume bus
  | .leftEnds index ending => leftEnds bus index ending
  | .stop => stop bus
  | .drained => drained bus
  | .timedOut => timedOut bus

end QuantEngine.Core
