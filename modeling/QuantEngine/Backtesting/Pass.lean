import QuantEngine.Backtesting.InsideTheBar

set_option autoImplicit false

namespace QuantEngine.BacktestEngine.Backtest

open ExecutionEngine (startClose)

variable {σ : Type} (backtest : Backtest σ)

-- The tasks of an engine without context, which run through.
def closeNow (id : PositionId) (reason : ExitReason) (world : World PaperState) : World PaperState :=
  match startClose id reason [] world with
  | (none, later) => later
  | (some order, later) =>
      backtest.engine.finishClose order (backtest.engine.candleView order.request.symbol later) later

def exitNow (id : PositionId) (world : World PaperState) : Option ExitReason :=
  match world.positions.object id with
  | none => none
  | some position => if backtest.engine.timeExitDue position world.now then some .timeExit else position.checkExit

def manageNow (id : PositionId) (world : World PaperState) : World PaperState :=
  match backtest.engine.markAndManage id world with
  | (false, later) => later
  | (true, later) => match backtest.exitNow id later with
    | none => later
    | some reason => backtest.closeNow id reason later

def flatten (ids : List PositionId) (world : World PaperState) : World PaperState :=
  ids.foldl (fun world id => backtest.closeNow id .killSwitch world) world

def pass (world : World PaperState) : World PaperState :=
  let managed := world.openIds.foldl (fun world id => backtest.manageNow id world) world
  let refreshed := ExecutionEngine.refreshRiskState managed
  backtest.flatten refreshed.1 refreshed.2

theorem close_done (id : PositionId) (reason : ExitReason) (world : World PaperState) :
    backtest.engine.closePosition id reason [] world = .done (backtest.closeNow id reason world) () := by
  rw [closeNow, ExecutionEngine.closePosition, Task.sync_bind]
  cases startClose id reason [] world with
  | mk outcome later =>
      cases outcome with
      | none => rfl
      | some order => rfl

theorem exit_done (id : PositionId) (world : World PaperState) :
    backtest.engine.exitReason id world = .done world (backtest.exitNow id world) := by
  have found : backtest.engine.exitReason id world = match world.positions.object id with
      | none => .done world none
      | some position =>
          if backtest.engine.timeExitDue position world.now then .done world (some .timeExit)
          else .done world position.checkExit := by
    change (match world.positions.object id with
      | none => (pure none : Flow PaperState (Option ExitReason))
      | some position => _) world = _
    cases here : world.positions.object id with
    | none => rfl
    | some position =>
        dsimp only
        split
        · rfl
        · have unwatched : backtest.engine.regimeWatched position world.now = false := by
            rw [ExecutionEngine.regimeWatched]
            simp [engine]
          have turned : backtest.engine.regimeTurnedAgainst id position world = .done world false := by
            change (if backtest.engine.regimeWatched position world.now then _ else (pure false : Flow PaperState Bool)) world = _
            rw [unwatched]
            rfl
          change Co.bind (backtest.engine.regimeTurnedAgainst id position world) _ = _
          rw [turned]
          change Co.done world ((world.positions.object id).bind Position.checkExit) = _
          rw [here]
          rfl
  rw [found, exitNow]
  cases world.positions.object id with
  | none => rfl
  | some position =>
      dsimp only
      split
      · rfl
      · rfl

theorem manage_done (id : PositionId) (world : World PaperState) :
    backtest.engine.managePosition id world = .done (backtest.manageNow id world) () := by
  rw [manageNow, ExecutionEngine.managePosition, Task.sync_bind]
  cases backtest.engine.markAndManage id world with
  | mk priced later =>
      cases priced with
      | false => rfl
      | true =>
          change Co.bind (backtest.engine.exitReason id later) _ = _
          rw [exit_done]
          change (match backtest.exitNow id later with
            | none => (pure () : Flow PaperState Unit)
            | some reason => backtest.engine.closePosition id reason []) later = _
          dsimp only
          cases backtest.exitNow id later with
          | none => rfl
          | some reason => exact backtest.close_done id reason later

theorem each_done (body : PositionId → Flow PaperState Unit) (now : PositionId → World PaperState → World PaperState)
    (done : ∀ id world, body id world = .done (now id world) ()) (ids : List PositionId) (world : World PaperState) :
    Task.each body ids world = .done (ids.foldl (fun world id => now id world) world) () := by
  induction ids generalizing world with
  | nil => rfl
  | cons id rest ih =>
      change Co.bind (body id world) _ = _
      rw [done]
      exact ih (now id world)

theorem pass_done (world : World PaperState) : perform backtest.engine.manageOnce world = backtest.pass world := by
  have managed := each_done backtest.engine.managePosition backtest.manageNow backtest.manage_done world.openIds world
  have flattened (ids : List PositionId) (later : World PaperState) :=
    each_done (fun id => backtest.engine.closePosition id .killSwitch []) (fun id => backtest.closeNow id .killSwitch)
      (fun id => backtest.close_done id .killSwitch) ids later
  rw [perform, pass]
  change (Co.bind (Task.each backtest.engine.managePosition world.openIds world) _).finish _ = _
  rw [managed]
  change (Task.each (fun id => backtest.engine.closePosition id .killSwitch []) _ _).finish _ = _
  rw [flattened]
  rfl

end QuantEngine.BacktestEngine.Backtest
