import QuantEngine.Execution.Tasks
import QuantEngine.Library.Lockstep

set_option autoImplicit false

namespace QuantEngine.MarketReads

open ExecutionEngine World

variable {β : Type}

def withMarket (world : World β) (market : Market) : World β := { world with market := market }

section

variable (world : World β) (market : Market)

@[simp] theorem with_market : (withMarket world market).market = market := rfl

@[simp] theorem with_managers : (withMarket world market).toManagers = world.toManagers := rfl

@[simp] theorem with_now : (withMarket world market).now = world.now := rfl

@[simp] theorem with_broker : (withMarket world market).broker = world.broker := rfl

end

-- `second` stands in the right state where `first` stands in the left, and
-- nothing else tells them apart.
def Swapped (first second : Market) (left right : World β) : Prop :=
  left.market = first ∧ right = withMarket left second

-- Views that no regime check and no closing fill tells apart.
def SameView (engine : ExecutionEngine β) (left right : MarketView) : Prop :=
  left.regime = right.regime ∧ ∀ order position world,
    engine.closeExecution order position left world = engine.closeExecution order position right world

-- What managing and closing positions reads of a market: the quotes, and the
-- ATR for the trailing stop and for the view of a close.
structure Interchangeable (engine : ExecutionEngine β) (first second : Market) : Prop where
  tickers : first.tickers = second.tickers
  stops : ∀ symbol (position : Position),
    position.manage engine.settings.rules (first.symbolAtr engine.settings.sizing.atrPeriod symbol) =
      position.manage engine.settings.rules (second.symbolAtr engine.settings.sizing.atrPeriod symbol)
  views : ∀ symbol (world : World β), SameView engine (engine.candleView symbol (withMarket world first))
    (engine.candleView symbol (withMarket world second))

variable {engine : ExecutionEngine β} {first second : Market}

theorem settle_external_swapped (same : first.tickers = second.tickers) (id : PositionId) (position : Position)
    (left right : World β) (swapped : Swapped first second left right) :
    Swapped first second (settleExternalClose id position left) (settleExternalClose id position right) := by
  obtain ⟨rfl, rfl⟩ := swapped
  refine ⟨rfl, ?_⟩
  simp only [settleExternalClose, with_market, ← same]
  rfl

theorem settle_all_swapped (same : first.tickers = second.tickers) (gone : List (PositionId × Position))
    (left right : World β) (swapped : Swapped first second left right) :
    Swapped first second (gone.foldl (fun world entry => settleExternalClose entry.1 entry.2 world) left)
      (gone.foldl (fun world entry => settleExternalClose entry.1 entry.2 world) right) := by
  induction gone generalizing left right with
  | nil => exact swapped
  | cons entry rest ih => exact ih _ _ (settle_external_swapped same entry.1 entry.2 left right swapped)

theorem reconcile_swapped (same : first.tickers = second.tickers) (left right : World β)
    (swapped : Swapped first second left right) :
    Swapped first second (engine.reconcileBrokerPositions left) (engine.reconcileBrokerPositions right) := by
  obtain ⟨rfl, rfl⟩ := swapped
  simp only [reconcileBrokerPositions, with_managers, with_broker]
  cases engine.paper.openPositionTickets with
  | none => exact ⟨rfl, rfl⟩
  | some tickets => exact settle_all_swapped same _ _ _ ⟨rfl, rfl⟩

theorem sync_swapped (left right : World β) (swapped : Swapped first second left right) :
    Swapped first second (engine.syncBrokerBalance left) (engine.syncBrokerBalance right) := by
  obtain ⟨rfl, rfl⟩ := swapped
  simp only [syncBrokerBalance, with_broker]
  cases engine.paper.accountBalance.bind (fun balanceOf => balanceOf left.broker) with
  | none => exact ⟨rfl, rfl⟩
  | some balance => exact ⟨rfl, rfl⟩

theorem announce_stops_swapped (id : PositionId) (symbol : String) (updates : List StopUpdate) (left right : World β)
    (swapped : Swapped first second left right) :
    Swapped first second (updates.foldl (fun world update => announceStop id symbol update world) left)
      (updates.foldl (fun world update => announceStop id symbol update world) right) := by
  induction updates generalizing left right with
  | nil => exact swapped
  | cons update rest ih =>
      refine ih _ _ ?_
      obtain ⟨rfl, rfl⟩ := swapped
      simp only [announceStop]
      cases update.kind with
      | breakEven => exact ⟨rfl, rfl⟩
      | trailing => exact ⟨rfl, rfl⟩

theorem mark_and_manage_swapped (same : Interchangeable engine first second) (id : PositionId) (left right : World β)
    (swapped : Swapped first second left right) :
    (engine.markAndManage id left).1 = (engine.markAndManage id right).1 ∧
      Swapped first second (engine.markAndManage id left).2 (engine.markAndManage id right).2 := by
  obtain ⟨rfl, rfl⟩ := swapped
  simp only [markAndManage, with_market, with_managers, ← same.tickers]
  cases found : left.positions.object id with
  | none => exact ⟨rfl, rfl, rfl⟩
  | some position =>
      dsimp only
      cases left.market.tickers position.symbol with
      | none => exact ⟨rfl, rfl, rfl⟩
      | some ticker =>
          have managed : (left.positions.updateMark id (markPrice position ticker)).manage engine.settings.rules id
                (engine.symbolAtr position.symbol left) =
              (left.positions.updateMark id (markPrice position ticker)).manage engine.settings.rules id
                (engine.symbolAtr position.symbol (withMarket left second)) := by
            simp only [PositionManager.manage, ExecutionEngine.symbolAtr, with_market, same.stops position.symbol]
          refine ⟨rfl, ?_⟩
          dsimp only
          rw [← managed]
          exact announce_stops_swapped id position.symbol _ _ _ ⟨rfl, rfl⟩

theorem start_close_swapped (same : first.tickers = second.tickers) (id : PositionId) (reason : ExitReason)
    (exitReasons : List String) (left right : World β) (swapped : Swapped first second left right) :
    (startClose id reason exitReasons left).1 = (startClose id reason exitReasons right).1 ∧
      Swapped first second (startClose id reason exitReasons left).2 (startClose id reason exitReasons right).2 := by
  obtain ⟨rfl, rfl⟩ := swapped
  simp only [startClose, with_market, with_managers, ← same]
  cases left.positions.opened.lookup id with
  | none => exact ⟨rfl, rfl, rfl⟩
  | some position =>
      dsimp only
      cases left.market.tickers position.symbol with
      | none => exact ⟨rfl, rfl, rfl⟩
      | some ticker => exact ⟨rfl, rfl, rfl⟩

theorem book_swapped (id : PositionId) (position : Position) (fill : Fill) (reason : ExitReason)
    (exitReasons : List String) (left right : World β) (swapped : Swapped first second left right) :
    Swapped first second (book id position fill reason exitReasons left) (book id position fill reason exitReasons right) := by
  obtain ⟨rfl, rfl⟩ := swapped
  exact ⟨rfl, rfl⟩

theorem breaker_swapped (left right : World β) (swapped : Swapped first second left right) :
    Swapped first second (engine.announceBreaker left) (engine.announceBreaker right) := by
  obtain ⟨rfl, rfl⟩ := swapped
  simp only [announceBreaker, with_managers, with_now]
  split
  next announced => exact ⟨rfl, if_pos announced⟩
  next silent => exact ⟨rfl, if_neg silent⟩

theorem record_swapped (id : PositionId) (position : Position) (fill : Fill) (reason : ExitReason)
    (exitReasons : List String) (left right : World β) (swapped : Swapped first second left right) :
    Swapped first second (record id position fill reason exitReasons left)
      (record id position fill reason exitReasons right) := by
  obtain ⟨rfl, rfl⟩ := swapped
  exact ⟨rfl, rfl⟩

theorem finish_close_swapped (order : ClosingOrder) (view other : MarketView) (alike : SameView engine view other)
    (left right : World β) (swapped : Swapped first second left right) :
    Swapped first second (engine.finishClose order view left) (engine.finishClose order other right) := by
  obtain ⟨rfl, rfl⟩ := swapped
  simp only [finishClose, with_managers]
  cases left.positions.object order.id with
  | none => exact ⟨rfl, rfl⟩
  | some position =>
      have executed : engine.closeExecution order position other (withMarket left second) =
          engine.closeExecution order position view left := (alike.2 order position left).symm
      dsimp only
      rw [executed]
      cases (engine.closeExecution order position view left).1.fill with
      | none => exact ⟨rfl, rfl⟩
      | some fill =>
          refine record_swapped order.id position fill order.reason _ _ _ (breaker_swapped _ _ ?_)
          exact book_swapped order.id position fill order.reason _ _ _ ⟨rfl, rfl⟩

theorem read_regime_swapped (id : PositionId) (view other : MarketView) (alike : SameView engine view other)
    (left right : World β) (swapped : Swapped first second left right) :
    (engine.readRegime id view left).1 = (engine.readRegime id other right).1 ∧
      Swapped first second (engine.readRegime id view left).2 (engine.readRegime id other right).2 := by
  obtain ⟨rfl, rfl⟩ := swapped
  simp only [readRegime, with_managers, ← alike.1]
  cases left.positions.object id with
  | none => exact ⟨rfl, rfl, rfl⟩
  | some position =>
      dsimp only
      by_cases known : view.regime = "unknown"
      · rw [if_pos known, if_pos known]
        exact ⟨rfl, rfl, rfl⟩
      · rw [if_neg known, if_neg known]
        exact ⟨rfl, rfl, rfl⟩

theorem refresh_risk_swapped (left right : World β) (swapped : Swapped first second left right) :
    (refreshRiskState left).1 = (refreshRiskState right).1 ∧
      Swapped first second (refreshRiskState left).2 (refreshRiskState right).2 := by
  obtain ⟨rfl, rfl⟩ := swapped
  let risk := left.risk.updateEquity (left.portfolio.snapshot left.openPositions left.now).1.drawdownPct
  by_cases off : (!risk.killSwitchActive) = true
  · have here : refreshRiskState left = (_, _) := if_pos off
    have there : refreshRiskState (withMarket left second) = (_, _) := if_pos off
    rw [here, there]
    exact ⟨rfl, rfl, rfl⟩
  · by_cases announced : left.killAnnounced = true
    · have here : refreshRiskState left = (_, _) := (if_neg off).trans (if_pos announced)
      have there : refreshRiskState (withMarket left second) = (_, _) := (if_neg off).trans (if_pos announced)
      rw [here, there]
      exact ⟨rfl, rfl, rfl⟩
    · have here : refreshRiskState left = (_, _) := (if_neg off).trans (if_neg announced)
      have there : refreshRiskState (withMarket left second) = (_, _) := (if_neg off).trans (if_neg announced)
      rw [here, there]
      exact ⟨rfl, rfl, rfl⟩

section

variable (same : Interchangeable engine first second)

include same

theorem view_lockstep (point : SuspensionPoint) (symbol : String) :
    Task.Lockstep (Swapped first second) (SameView engine) (engine.marketView point symbol) (engine.marketView point symbol) := by
  rw [marketView]
  by_cases context : engine.hasContext = true
  · rw [if_pos context]
    refine Task.lockstep_seq _ Eq _ _ _ _ _ (Task.lockstep_suspend _ point) ?_
    rintro input _ rfl
    cases input with
    | none => exact Task.lockstep_raise _ _
    | some view => exact Task.lockstep_pure _ _ view view ⟨rfl, fun _ _ _ => rfl⟩
  · rw [if_neg context]
    refine Task.lockstep_sync _ _ _ _ ?_
    rintro left right ⟨rfl, rfl⟩
    exact ⟨same.views symbol left, rfl, rfl⟩

theorem close_position_lockstep (id : PositionId) (reason : ExitReason) (exitReasons : List String) :
    Task.Lockstep (Swapped first second) Eq (engine.closePosition id reason exitReasons)
      (engine.closePosition id reason exitReasons) := by
  rw [closePosition]
  refine Task.lockstep_seq _ Eq _ _ _ _ _
    (Task.lockstep_sync _ _ _ _ (start_close_swapped same.tickers id reason exitReasons)) ?_
  rintro found _ rfl
  cases found with
  | none => exact Task.lockstep_pure _ _ () () rfl
  | some order =>
      refine Task.lockstep_seq _ (SameView engine) _ _ _ _ _ (view_lockstep same _ _) ?_
      exact fun view other alike => Task.lockstep_modify _ _ _ (finish_close_swapped order view other alike)

theorem regime_lockstep (id : PositionId) (position : Position) :
    Task.Lockstep (Swapped first second) Eq (engine.regimeTurnedAgainst id position)
      (engine.regimeTurnedAgainst id position) := by
  refine Task.lockstep_read _ _ _ _ ?_
  rintro left right ⟨-, rfl⟩
  rw [with_now]
  by_cases watched : engine.regimeWatched position left.now = true
  · simp only [watched, if_true]
    refine Task.lockstep_seq _ (SameView engine) _ _ _ _ _ (view_lockstep same _ _) ?_
    exact fun view other alike => Task.lockstep_sync _ _ _ _ (read_regime_swapped id view other alike)
  · rw [if_neg watched]
    exact Task.lockstep_pure _ _ false false rfl

theorem exit_reason_lockstep (id : PositionId) :
    Task.Lockstep (Swapped first second) Eq (engine.exitReason id) (engine.exitReason id) := by
  refine Task.lockstep_read _ _ _ _ ?_
  rintro left right ⟨-, rfl⟩
  rw [with_managers, with_now]
  cases left.positions.object id with
  | none => exact Task.lockstep_pure _ _ _ _ rfl
  | some position =>
      dsimp only
      split
      · exact Task.lockstep_pure _ _ _ _ rfl
      · refine Task.lockstep_seq _ Eq _ _ _ _ _ (regime_lockstep same id position) ?_
        rintro turned _ rfl
        cases turned with
        | true => exact Task.lockstep_pure _ _ _ _ rfl
        | false =>
            refine Task.lockstep_read _ _ _ _ ?_
            rintro first' later ⟨-, rfl⟩
            exact Task.lockstep_pure _ _ _ _ rfl

theorem manage_position_lockstep (id : PositionId) :
    Task.Lockstep (Swapped first second) Eq (engine.managePosition id) (engine.managePosition id) := by
  refine Task.lockstep_seq _ Eq _ _ _ _ _ (Task.lockstep_sync _ _ _ _ (mark_and_manage_swapped same id)) ?_
  rintro priced _ rfl
  cases priced with
  | false => exact Task.lockstep_pure _ _ _ _ rfl
  | true =>
      refine Task.lockstep_seq _ Eq _ _ _ _ _ (exit_reason_lockstep same id) ?_
      rintro reason _ rfl
      cases reason with
      | none => exact Task.lockstep_pure _ _ _ _ rfl
      | some reason => exact close_position_lockstep same id reason []

theorem refresh_risk_lockstep : Task.Lockstep (Swapped first second) Eq engine.refreshRisk engine.refreshRisk := by
  refine Task.lockstep_seq _ Eq _ _ _ _ _ (Task.lockstep_sync _ _ _ _ refresh_risk_swapped) ?_
  rintro doomed _ rfl
  exact Task.lockstep_each _ _ (fun id => close_position_lockstep same id .killSwitch []) doomed

theorem manage_once_lockstep : Task.Lockstep (Swapped first second) Eq engine.manageOnce engine.manageOnce := by
  refine Task.lockstep_seq _ Eq _ _ _ _ _ (Task.lockstep_modify _ _ _ sync_swapped) (fun _ _ _ => ?_)
  refine Task.lockstep_seq _ Eq _ _ _ _ _ (Task.lockstep_modify _ _ _ (reconcile_swapped same.tickers)) (fun _ _ _ => ?_)
  refine Task.lockstep_seq _ Eq _ _ _ _ _ (Task.lockstep_sync _ Eq _ _ ?_) ?_
  · rintro left right ⟨rfl, rfl⟩
    exact ⟨rfl, rfl, rfl⟩
  · rintro ids _ rfl
    exact Task.lockstep_seq _ Eq _ _ _ _ _ (Task.lockstep_each _ _ (manage_position_lockstep same) ids)
      (fun _ _ _ => refresh_risk_lockstep same)

end

end QuantEngine.MarketReads
