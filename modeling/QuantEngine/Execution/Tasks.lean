import QuantEngine.Execution.Engine
import QuantEngine.Library.Coroutine

set_option autoImplicit false

namespace QuantEngine

-- Where a task can be suspended: at the market view of an entry, of a close or
-- of a regime check, and there only while a context engine builds it.
inductive SuspensionPoint where
  | entering (symbol : String)
  | closing (order : ExecutionEngine.ClosingOrder)
  | regime (id : PositionId)

-- A suspended task is resumed with the view, or with none where building it
-- has raised.
abbrev Flow (β α : Type) := Task (World β) SuspensionPoint (Option MarketView) α

inductive Job where
  | decide (decision : DecisionGenerated)
  | manage
  | close (id : PositionId) (reason : ExitReason) (exitReasons : List String)
  | modifyStop (id : PositionId) (stopLoss : ℚ)
  | moveBreakEven (id : PositionId)

-- What goes on around the engine: time, prices, vetoes, the broker's own
-- state, the event bus, the disk and an operator at the two switches.
inductive Disturbance (β : Type) where
  | elapse (micros : Nat)
  | market (prices : Market)
  | vetoes (answers : List EntryVeto)
  | broker (state : β)
  | bus (attached : Option EventBus)
  | disk (reads writes : Bool)
  | engageKillSwitch (reason : String)
  | resetKillSwitch
  | resetCircuitBreaker

variable {β : Type}

def Disturbance.disturb (change : Disturbance β) (world : World β) : World β :=
  match change with
  | .elapse micros => { world with now := world.now + micros }
  | .market prices => { world with market := prices }
  | .vetoes answers => { world with vetoes := answers }
  | .broker state => { world with broker := state }
  | .bus attached => { world with bus := attached }
  | .disk reads writes => { world with journal := { world.journal with diskReads := reads, diskWrites := writes } }
  | .engageKillSwitch reason => { world with risk := world.risk.engageKillSwitch reason }
  | .resetKillSwitch => { world with risk := world.risk.resetKillSwitch }
  | .resetCircuitBreaker => { world with risk := world.risk.resetCircuitBreaker }

namespace ExecutionEngine

variable (engine : ExecutionEngine β)

def marketView (point : SuspensionPoint) (symbol : String) : Flow β MarketView :=
  if engine.hasContext then do
    match ← Task.suspend point with
    | some view => pure view
    | none => Task.raise
  else Task.sync (fun world => (engine.candleView symbol world, world))

def processDecision (decision : DecisionGenerated) : Flow β Unit := do
  match ← Task.sync (engine.screen decision) with
  | none => pure ()
  | some entry =>
      let view ← engine.marketView (.entering entry.symbol) entry.symbol
      Task.modify (engine.enter decision entry view)

def closePosition (id : PositionId) (reason : ExitReason) (exitReasons : List String) : Flow β Unit := do
  match ← Task.sync (startClose id reason exitReasons) with
  | none => pure ()
  | some order =>
      let view ← engine.marketView (.closing order) order.request.symbol
      Task.modify (engine.finishClose order view)

def regimeTurnedAgainst (id : PositionId) (position : Position) : Flow β Bool := do
  let world ← Task.get
  if engine.regimeWatched position world.now then
    let view ← engine.marketView (.regime id) position.symbol
    Task.sync (engine.readRegime id view)
  else pure false

def exitReason (id : PositionId) : Flow β (Option ExitReason) := do
  let world ← Task.get
  match world.positions.object id with
  | none => pure none
  | some position =>
      if engine.timeExitDue position world.now then pure (some .timeExit)
      else
        let turned ← engine.regimeTurnedAgainst id position
        if turned then pure (some .regimeChange)
        else
          let later ← Task.get
          pure ((later.positions.object id).bind Position.checkExit)

def managePosition (id : PositionId) : Flow β Unit := do
  let priced ← Task.sync (engine.markAndManage id)
  if priced then
    match ← engine.exitReason id with
    | none => pure ()
    | some reason => engine.closePosition id reason []
  else pure ()

def refreshRisk : Flow β Unit := do
  let doomed ← Task.sync refreshRiskState
  Task.each (fun id => engine.closePosition id .killSwitch []) doomed

-- The list of positions is taken once, before the first of them is managed.
def manageOnce : Flow β Unit := do
  Task.modify engine.syncBrokerBalance
  Task.modify engine.reconcileBrokerPositions
  let ids ← Task.sync (fun world => (world.openIds, world))
  Task.each engine.managePosition ids
  engine.refreshRisk

def perform : Job → Flow β Unit
  | .decide decision => engine.processDecision decision
  | .manage => engine.manageOnce
  | .close id reason exitReasons => engine.closePosition id reason exitReasons
  | .modifyStop id stopLoss => Task.modify (modifyStop id stopLoss)
  | .moveBreakEven id => Task.modify (moveBreakEven id)

abbrev Session (β : Type) := Pool (World β) SuspensionPoint (Option MarketView)

abbrev Event (β : Type) := Action Job (Option MarketView) (Disturbance β)

-- One step of the event loop: a job starts, a suspended task is resumed, or
-- something happens outside.
def run : Session β → Event β → Session β := Pool.step engine.perform Disturbance.disturb

end ExecutionEngine

end QuantEngine
