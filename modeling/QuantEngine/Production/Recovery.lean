import QuantEngine.Execution.Managers

set_option autoImplicit false

namespace QuantEngine

open Calendar (Moment)

structure PositionState where
  positionId : PositionId
  symbol : String
  side : PositionSide
  quantity : ℚ
  initialQuantity : ℚ
  entryPrice : ℚ
  initialStop : Option ℚ
  stopLoss : Option ℚ
  takeProfit : Option ℚ
  openedAt : Moment
  status : PositionStatus
  realizedPnl : ℚ
  commissionPaid : ℚ
  breakEvenActive : Bool
  trailingActive : Bool
  markPrice : ℚ
  highestPrice : ℚ
  lowestPrice : ℚ
  decisionId : Option String
  regime : String
  score : ℚ
  confidence : ℚ
  entryReasons : List String
  metadata : PositionMetadata
  deriving DecidableEq

def positionToState (entry : PositionId × Position) : PositionState where
  positionId := entry.1
  symbol := entry.2.symbol
  side := entry.2.side
  quantity := entry.2.quantity
  initialQuantity := entry.2.initialQuantity
  entryPrice := entry.2.entryPrice
  initialStop := entry.2.initialStop
  stopLoss := entry.2.stopLoss
  takeProfit := entry.2.takeProfit
  openedAt := entry.2.openedAt
  status := entry.2.status
  realizedPnl := entry.2.realizedPnl
  commissionPaid := entry.2.commissionPaid
  breakEvenActive := entry.2.breakEvenActive
  trailingActive := entry.2.trailingActive
  markPrice := entry.2.markPrice
  highestPrice := entry.2.highestPrice
  lowestPrice := entry.2.lowestPrice
  decisionId := entry.2.decisionId
  regime := entry.2.regime
  score := entry.2.score
  confidence := entry.2.confidence
  entryReasons := entry.2.entryReasons
  metadata := entry.2.metadata

def PositionState.fields (data : PositionState) : Position where
  symbol := data.symbol
  side := data.side
  quantity := data.quantity
  initialQuantity := data.initialQuantity
  entryPrice := data.entryPrice
  initialStop := data.initialStop
  stopLoss := data.stopLoss
  takeProfit := data.takeProfit
  openedAt := data.openedAt
  status := data.status
  realizedPnl := data.realizedPnl
  commissionPaid := data.commissionPaid
  breakEvenActive := data.breakEvenActive
  trailingActive := data.trailingActive
  markPrice := data.markPrice
  highestPrice := data.highestPrice
  lowestPrice := data.lowestPrice
  decisionId := data.decisionId
  regime := data.regime
  score := data.score
  confidence := data.confidence
  entryReasons := data.entryReasons
  metadata := data.metadata

def positionFromState (data : PositionState) : PositionId × Position := (data.positionId, data.fields.postInit)

-- One element of a snapshot's list of positions. An element that lacks a field
-- or holds one that does not convert is skipped by the restore.
inductive RawPosition where
  | unreadable
  | state (data : PositionState)
  deriving DecidableEq

def RawPosition.rehydrate : RawPosition → Option (PositionId × Position)
  | .unreadable => none
  | .state data => some (positionFromState data)

structure EngineState where
  capturedAt : Moment
  positions : List RawPosition := []
  balance : ℚ := 0
  peakEquity : ℚ := 0
  totalTrades : Int := 0
  wins : Int := 0
  losses : Int := 0
  commissionPaid : ℚ := 0
  consecutiveLosses : Int := 0
  safeModeActive : Bool := false
  killSwitchActive : Bool := false
  deriving DecidableEq

def EngineState.ageSeconds (state : EngineState) (now : Moment) : ℚ := ((now - state.capturedAt : Int) : ℚ) / 1000000

inductive SnapshotFile where
  | absent
  | unreadable
  | stored (state : EngineState)
  deriving DecidableEq

namespace SnapshotFile

def load : SnapshotFile → Option EngineState
  | .stored state => some state
  | _ => none

-- The file is replaced as a whole, so that a failed write leaves the old one.
def save (file : SnapshotFile) (state : EngineState) (written : Bool) : SnapshotFile :=
  if written then .stored state else file

end SnapshotFile

structure RecoverySettings where
  enabled : Bool := true
  reloadJournal : Bool := true
  maxAgeHours : ℚ := 72
  deriving DecidableEq

structure RecoveryReport where
  positionsRestored : Nat := 0
  tradesRestored : Nat := 0
  snapshotAgeSeconds : ℚ := 0
  killSwitchRestored : Bool := false
  skippedReason : String := ""
  deriving DecidableEq

-- `audit` holds the reports of the restores that brought something back.
structure RecoveryService where
  settings : RecoverySettings
  file : SnapshotFile
  running : Bool := false
  restored : Bool := false
  lastReport : Option RecoveryReport := none
  audit : List RecoveryReport := []
  deriving DecidableEq

namespace RecoveryService

def restoredReason : String := "kill switch restaurado tras reinicio"

-- Reading the risk status releases a breaker whose window has elapsed.
def capture (managers : Managers) (now : Moment) : EngineState × Managers :=
  let status := managers.risk.status now
  ({ capturedAt := now
     positions := managers.positions.openPositions.map (fun entry => .state (positionToState entry))
     balance := managers.portfolio.balance
     peakEquity := managers.portfolio.peakEquity
     totalTrades := managers.portfolio.totalTrades
     wins := managers.portfolio.wins
     losses := managers.portfolio.losses
     commissionPaid := managers.portfolio.commissionPaid
     consecutiveLosses := status.1.consecutiveLosses
     killSwitchActive := status.1.killSwitch },
   { managers with risk := status.2 })

def applyRisk (state : EngineState) (risk : RiskManager) : RiskManager :=
  let streak := risk.restore state.consecutiveLosses
  if state.killSwitchActive then streak.engageKillSwitch restoredReason else streak

def applyState (state : EngineState) (managers : Managers) : Managers :=
  { managers with
    positions := managers.positions.restore (state.positions.filterMap RawPosition.rehydrate)
    portfolio := managers.portfolio.restore state.balance state.peakEquity state.totalTrades state.wins
      state.losses state.commissionPaid
    risk := applyRisk state managers.risk }

def tooOld (settings : RecoverySettings) (state : EngineState) (now : Moment) : Bool :=
  decide (settings.maxAgeHours * 3600 > 0) && decide (state.ageSeconds now > settings.maxAgeHours * 3600)

-- The snapshot that a restore applies: the stored one, unless it is too old.
def applicable (service : RecoveryService) (now : Moment) : Option EngineState :=
  service.file.load.filter (fun state => !tooOld service.settings state now)

def restoreSnapshot (service : RecoveryService) (now : Moment) (managers : Managers) : RecoveryReport × Managers :=
  match service.file.load with
  | none => ({ skippedReason := "no hay snapshot previo" }, managers)
  | some state =>
      let age := state.ageSeconds now
      if tooOld service.settings state now then
        ({ snapshotAgeSeconds := age,
           skippedReason := "snapshot demasiado viejo (" ++ Decimal.fixed 1 (age / 3600) ++ " h)" }, managers)
      else
        ({ snapshotAgeSeconds := age,
           positionsRestored := (state.positions.filterMap RawPosition.rehydrate).length,
           killSwitchRestored := state.killSwitchActive }, applyState state managers)

def journalTrades (settings : RecoverySettings) (journal : TradeJournal) : List TradeRecord :=
  if !settings.reloadJournal || !journal.persists then []
  else match journal.file with
    | none => []
    | some lines => if journal.diskReads then TradeJournal.readTrades lines else []

def restoreJournal (service : RecoveryService) (managers : Managers) : Managers :=
  { managers with journal := managers.journal.restore (journalTrades service.settings managers.journal) }

def restore (service : RecoveryService) (now : Moment) (managers : Managers) : RecoveryService × Managers :=
  let snapshot := service.restoreSnapshot now managers
  let report := { snapshot.1 with tradesRestored := (journalTrades service.settings managers.journal).length }
  let something := report.positionsRestored != 0 || report.tradesRestored != 0 || report.killSwitchRestored
  ({ service with
     restored := true
     lastReport := some report
     audit := if something then service.audit ++ [report] else service.audit },
   service.restoreJournal snapshot.2)

def start (service : RecoveryService) (now : Moment) (managers : Managers) : RecoveryService × Managers :=
  if service.running then (service, managers)
  else if service.settings.enabled then
    let result := service.restore now managers
    ({ result.1 with running := true }, result.2)
  else ({ service with running := true }, managers)

def stop (service : RecoveryService) (now : Moment) (written : Bool) (managers : Managers) :
    RecoveryService × Managers :=
  if !service.running then (service, managers)
  else if service.settings.enabled then
    let captured := capture managers now
    ({ service with running := false, file := service.file.save captured.1 written }, captured.2)
  else ({ service with running := false }, managers)

theorem restore_snapshot_managers (service : RecoveryService) (now : Moment) (managers : Managers) :
    (service.restoreSnapshot now managers).2 = match service.applicable now with
      | none => managers
      | some state => applyState state managers := by
  simp only [restoreSnapshot, applicable]
  cases service.file.load with
  | none => rfl
  | some state =>
      by_cases old : tooOld service.settings state now = true
      · simp [Option.filter, old]
      · simp [Option.filter, old]

theorem restore_managers (service : RecoveryService) (now : Moment) (managers : Managers) :
    (service.restore now managers).2 =
      service.restoreJournal (service.restoreSnapshot now managers).2 := rfl

theorem restore_snapshot_journal (service : RecoveryService) (now : Moment) (managers : Managers) :
    (service.restoreSnapshot now managers).2.journal = managers.journal := by
  rw [restore_snapshot_managers]
  split <;> rfl

end RecoveryService

end QuantEngine
