import QuantEngine.Production.Recovery
import QuantEngine.Library.Run

set_option autoImplicit false

namespace QuantEngine.RestoreIdempotence

open Calendar (Moment)
open RecoveryService

-- The recovery service in one process, with the managers it works on.
structure Process where
  now : Moment
  service : RecoveryService
  managers : Managers

-- What the watchdog's restarter does: stop, where the final snapshot may fail
-- to be written, and start again. The waits are in microseconds.
structure Restart where
  wait : Nat
  written : Bool
  pause : Nat
  deriving DecidableEq

namespace Process

def start (process : Process) : Process :=
  let result := process.service.start process.now process.managers
  { process with service := result.1, managers := result.2 }

def stop (process : Process) (written : Bool) : Process :=
  let result := process.service.stop process.now written process.managers
  { process with service := result.1, managers := result.2 }

def elapse (process : Process) (micros : Nat) : Process := { process with now := process.now + micros }

def restart (process : Process) (restart : Restart) : Process :=
  (((process.elapse restart.wait).stop restart.written).elapse restart.pause).start

def Fresh (process : Process) : Prop :=
  process.service.running = false ∧ process.managers.positions = {} ∧
    process.managers.portfolio = .init process.managers.portfolio.initialBalance
      process.managers.portfolio.baseCurrency process.managers.portfolio.leverage ∧
    process.managers.risk = .init process.managers.risk.settings process.managers.risk.initialBalance ∧
    process.managers.journal.trades = []

end Process

def SameState (a b : Managers) : Prop :=
  a.journal.all = b.journal.all ∧ a.positions.openPositions = b.positions.openPositions ∧
    a.portfolio = b.portfolio ∧ a.risk = b.risk

-- Nothing is read back from the journal's file, or so much that the bounded
-- memory holds only trades of the last reading.
def ReadsJournalOnce (settings : RecoverySettings) (journal : TradeJournal) : Prop :=
  settings.enabled = false ∨ journalTrades settings journal = [] ∨
    journal.memoryLimit ≤ (journalTrades settings journal).length

-- A position that comes out of a snapshot goes through another one unchanged.
def Lossless (entry : PositionId × Position) : Prop := positionFromState (positionToState entry) = entry

theorem rehydrated_lossless (data : PositionState) : Lossless (positionFromState data) := by
  exact Prod.ext rfl (Position.post_init_twice data.fields)

theorem rehydrate_lossless (raw : List RawPosition) (entry : PositionId × Position)
    (member : entry ∈ raw.filterMap RawPosition.rehydrate) : Lossless entry := by
  obtain ⟨element, _, read⟩ := List.mem_filterMap.mp member
  cases element with
  | unreadable => cases read
  | state data =>
      cases Option.some.inj read
      exact rehydrated_lossless data

structure Settled (managers : Managers) : Prop where
  positions : ∀ entry ∈ managers.positions.opened.entries, Lossless entry
  peak : managers.portfolio.balance ≤ managers.portfolio.peakEquity
  streak : 0 ≤ managers.risk.consecutiveLosses
  breaker : managers.risk.circuitBreaker = false
  kill : managers.risk.killSwitch = true → managers.risk.killReason = restoredReason

theorem restore_own (portfolio : PortfolioManager) (peak : portfolio.balance ≤ portfolio.peakEquity) :
    portfolio.restore portfolio.balance portfolio.peakEquity portfolio.totalTrades portfolio.wins
      portfolio.losses portfolio.commissionPaid = portfolio := by
  simp only [PortfolioManager.restore, max_eq_left peak]

theorem capture_settled (managers : Managers) (now : Moment) (settled : Settled managers) :
    (capture managers now).2 = managers := by
  have calm : managers.risk.refreshCircuitBreaker now = managers.risk := by
    simp [RiskManager.refreshCircuitBreaker, RiskManager.circuitElapsed, settled.breaker]
  simp only [capture, RiskManager.status, calm]

theorem captured_positions (managers : Managers) (settled : Settled managers) :
    (managers.positions.openPositions.map (fun entry => RawPosition.state (positionToState entry))).filterMap
      RawPosition.rehydrate = managers.positions.opened.entries := by
  rw [List.filterMap_map]
  have same : ∀ entry ∈ managers.positions.opened.entries,
      (RawPosition.rehydrate ∘ fun entry => RawPosition.state (positionToState entry)) entry = some entry := by
    intro entry member
    simp only [Function.comp_apply, RawPosition.rehydrate]
    rw [settled.positions entry member]
  rw [PositionManager.openPositions, List.filterMap_congr same, List.filterMap_some]

theorem apply_captured (managers : Managers) (now : Moment) (settled : Settled managers) :
    applyState (capture managers now).1 managers = managers := by
  have positions : managers.positions.restore
      ((capture managers now).1.positions.filterMap RawPosition.rehydrate) = managers.positions := by
    rw [capture, captured_positions managers settled, PositionManager.restore,
      Dict.insert_all_own _ _ (fun _ member => member)]
  have portfolio := restore_own managers.portfolio settled.peak
  have risk : applyRisk (capture managers now).1 managers.risk = managers.risk := by
    have streak : managers.risk.restore managers.risk.consecutiveLosses = managers.risk := by
      simp only [RiskManager.restore, max_eq_right settled.streak]
    simp only [applyRisk, capture, RiskManager.status, streak]
    by_cases kill : managers.risk.killSwitch = true
    · rw [if_pos kill, RiskManager.engageKillSwitch, ← settled.kill kill, ← kill]
    · rw [if_neg kill]
  simp only [applyState, positions, risk]
  simp only [capture, portfolio]

theorem apply_twice (state : EngineState) (managers : Managers) :
    applyState state (applyState state managers) = applyState state managers := by
  have risk : applyRisk state (applyRisk state managers.risk) = applyRisk state managers.risk := by
    simp only [applyRisk]
    split <;> rfl
  simp only [applyState, risk, PositionManager.restore, Dict.insert_all_twice, PortfolioManager.restore]

theorem apply_settled (state : EngineState) (managers : Managers) (settled : Settled managers) :
    Settled (applyState state managers) where
  positions := by
    intro entry member
    cases Dict.mem_entries_insert_all _ _ entry member with
      | inl old => exact settled.positions entry old
      | inr read => exact rehydrate_lossless state.positions entry read
  peak := le_max_right _ _
  streak := by
    have streak : (applyRisk state managers.risk).consecutiveLosses = max 0 state.consecutiveLosses := by
      simp only [applyRisk]
      split <;> rfl
    simp only [applyState, streak]
    exact le_max_left _ _
  breaker := by
    have breaker : (applyRisk state managers.risk).circuitBreaker = managers.risk.circuitBreaker := by
      simp only [applyRisk]
      split <;> rfl
    simp only [applyState, breaker, settled.breaker]
  kill := by
    simp only [applyState, applyRisk]
    split
    · exact fun _ => rfl
    · exact settled.kill

theorem fresh_settled (process : Process) (fresh : process.Fresh) : Settled process.managers := by
  obtain ⟨_, positions, portfolio, risk, _⟩ := fresh
  constructor
  · rw [positions]
    intro entry member
    cases member
  · rw [portfolio]
    exact le_refl _
  · rw [risk]
    exact le_refl _
  · rw [risk]
    rfl
  · rw [risk]
    intro kill
    cases kill

theorem settled_journal (managers : Managers) (journal : TradeJournal) (settled : Settled managers) :
    Settled { managers with journal := journal } :=
  ⟨settled.positions, settled.peak, settled.streak, settled.breaker, settled.kill⟩

theorem too_old_mono (settings : RecoverySettings) (state : EngineState) (a b : Moment) (le : a ≤ b)
    (young : tooOld settings state b = false) : tooOld settings state a = false := by
  have ages : state.ageSeconds a ≤ state.ageSeconds b := by
    have micros : ((a - state.capturedAt : Int) : ℚ) ≤ (b - state.capturedAt : Int) := by
      exact_mod_cast Int.sub_le_sub_right le _
    exact div_le_div_of_nonneg_right micros (by decide +kernel)
  simp only [tooOld, Bool.and_eq_false_iff, decide_eq_false_iff_not, not_lt] at young ⊢
  cases young with
    | inl off => exact .inl off
    | inr young => exact .inr (le_trans ages young)

theorem journal_trades_restore (settings : RecoverySettings) (journal : TradeJournal) (trades : List TradeRecord) :
    journalTrades settings (journal.restore trades) = journalTrades settings journal := rfl

theorem journal_again (settings : RecoverySettings) (journal : TradeJournal) (empty : journal.trades = [])
    (once : journalTrades settings journal = [] ∨
      journal.memoryLimit ≤ (journalTrades settings journal).length) :
    (journal.restore (journalTrades settings journal)).restore (journalTrades settings journal) =
      journal.restore (journalTrades settings journal) := by
  cases once with
    | inl nothing =>
        rw [nothing]
        rfl
    | inr enough =>
        have first : Deque.extend journal.memoryLimit [] (journalTrades settings journal) =
            Deque.newest journal.memoryLimit (journalTrades settings journal) := by
          rw [Deque.extend_eq _ _ _ (Nat.zero_le _), List.nil_append]
        have second : Deque.extend journal.memoryLimit
            (Deque.newest journal.memoryLimit (journalTrades settings journal)) (journalTrades settings journal) =
              Deque.newest journal.memoryLimit (journalTrades settings journal) := by
          rw [Deque.extend_eq _ _ _ (by rw [Deque.newest_length]; omega), Deque.newest_append_newest,
            Deque.newest_suffix _ _ _ enough]
        simp only [TradeJournal.restore, empty, first, second]

-- While the process only restarts, its managers stay as they are, and so does
-- what the stored snapshot would make of them at any later moment.
structure Steady (settled : Managers) (settings : RecoverySettings) (process : Process) : Prop where
  managers : process.managers = settled
  settings : process.service.settings = settings
  running : process.service.running = true
  snapshot : ∀ later state, process.now ≤ later → process.service.applicable later = some state →
    applyState state settled = settled

theorem start_managers (process : Process) (idle : process.service.running = false)
    (enabled : process.service.settings.enabled = true) :
    process.start.managers = process.service.restoreJournal
      (process.service.restoreSnapshot process.now process.managers).2 := by
  simp only [Process.start, RecoveryService.start, idle, enabled, Bool.false_eq_true, if_false, if_true]
  rfl

theorem start_service (process : Process) (idle : process.service.running = false) :
    process.start.service.file = process.service.file ∧
      process.start.service.settings = process.service.settings ∧ process.start.service.running = true := by
  simp only [Process.start, RecoveryService.start, idle, Bool.false_eq_true, if_false]
  split
  · exact ⟨rfl, rfl, rfl⟩
  · exact ⟨rfl, rfl, rfl⟩

theorem applicable_file (a b : RecoveryService) (now : Moment) (file : a.file = b.file)
    (settings : a.settings = b.settings) : a.applicable now = b.applicable now := by
  simp only [applicable, file, settings]

theorem applicable_mono (service : RecoveryService) (a b : Moment) (state : EngineState) (le : a ≤ b)
    (later : service.applicable b = some state) : service.applicable a = some state := by
  simp only [applicable, Option.filter_eq_some_iff, Bool.not_eq_true'] at later ⊢
  exact ⟨later.1, too_old_mono service.settings state a b le later.2⟩

theorem stop_steady (settled : Managers) (settings : RecoverySettings) (process : Process) (written : Bool)
    (own : Settled settled) (enabled : settings.enabled = true) (steady : Steady settled settings process) :
    (process.stop written).managers = settled ∧ (process.stop written).service.settings = settings ∧
      (process.stop written).service.running = false ∧
      ∀ later state, process.now ≤ later → (process.stop written).service.applicable later = some state →
        applyState state settled = settled := by
  obtain ⟨managers, same, running, snapshot⟩ := steady
  have on : process.service.settings.enabled = true := by rw [same, enabled]
  simp only [Process.stop, RecoveryService.stop, running, on, managers, Bool.not_true, Bool.false_eq_true,
    if_false, if_true]
  refine ⟨capture_settled settled process.now own, same, trivial, ?_⟩
  intro later state after applied
  cases written with
  | false => exact snapshot later state after applied
  | true =>
      simp only [applicable, SnapshotFile.save, if_true, SnapshotFile.load, Option.filter_eq_some_iff] at applied
      cases Option.some.inj applied.1
      exact apply_captured settled process.now own

theorem restart_steady (settled : Managers) (settings : RecoverySettings) (process : Process) (restart : Restart)
    (own : Settled settled) (enabled : settings.enabled = true)
    (journal : settled.journal.restore (journalTrades settings settled.journal) = settled.journal)
    (steady : Steady settled settings process) : Steady settled settings (process.restart restart) := by
  have waited : Steady settled settings (process.elapse restart.wait) :=
    ⟨steady.managers, steady.settings, steady.running, fun later state after applied =>
      steady.snapshot later state (le_trans (Calendar.le_later process.now restart.wait) after) applied⟩
  obtain ⟨managers, same, idle, snapshot⟩ := stop_steady settled settings _ restart.written own enabled waited
  let stopped := ((process.elapse restart.wait).stop restart.written).elapse restart.pause
  have stopped_now : (process.elapse restart.wait).now ≤ stopped.now := Calendar.le_later _ restart.pause
  obtain ⟨file, settingsKept, running⟩ := start_service stopped idle
  have restored : (stopped.service.restoreSnapshot stopped.now stopped.managers).2 = settled := by
    rw [restore_snapshot_managers]
    cases applied : stopped.service.applicable stopped.now with
    | none => exact managers
    | some state =>
        have kept := snapshot stopped.now state stopped_now applied
        exact (congrArg (applyState state) managers).trans kept
  constructor
  · have started := start_managers stopped idle
      (show ((process.elapse restart.wait).stop restart.written).service.settings.enabled = true by rw [same, enabled])
    rw [restored] at started
    refine started.trans ?_
    simp only [restoreJournal, stopped, Process.elapse] at same ⊢
    rw [same, journal]
  · exact settingsKept.trans same
  · exact running
  · intro later state after applied
    refine snapshot later state (le_trans stopped_now after) ?_
    rw [← applied]
    exact applicable_file _ _ later file.symm settingsKept.symm

theorem start_steady (process : Process) (fresh : process.Fresh)
    (enabled : process.service.settings.enabled = true) :
    Settled process.start.managers ∧ Steady process.start.managers process.service.settings process.start := by
  have own := fresh_settled process fresh
  have idle := fresh.1
  obtain ⟨file, settings, running⟩ := start_service process idle
  have started := start_managers process idle enabled
  have restored := restore_snapshot_managers process.service process.now process.managers
  refine ⟨?_, rfl, settings, running, ?_⟩
  · rw [started, restored]
    apply settled_journal
    cases process.service.applicable process.now with
    | none => exact own
    | some state => exact apply_settled state process.managers own
  · intro later state after applied
    have early : process.service.applicable process.now = some state := by
      apply applicable_mono process.service process.now later state after
      rw [← applied]
      exact applicable_file _ _ later file.symm settings.symm
    rw [early] at restored
    rw [started, restored]
    have twice := apply_twice state process.managers
    exact congrArg (fun managers : Managers => { managers with
      journal := (process.service.restoreJournal (applyState state process.managers)).journal }) twice

theorem restart_disabled (process : Process) (restart : Restart)
    (off : process.service.settings.enabled = false) :
    (process.restart restart).managers = process.managers ∧
      (process.restart restart).service.settings.enabled = false := by
  cases running : process.service.running <;>
    simp [Process.restart, Process.start, Process.stop, Process.elapse, RecoveryService.start,
      RecoveryService.stop, running, off]

theorem restarts_keep (process : Process) (fresh : process.Fresh)
    (once : ReadsJournalOnce process.service.settings process.managers.journal) (restarts : List Restart) :
    (Run.final Process.restart process.start restarts).managers = process.start.managers := by
  by_cases enabled : process.service.settings.enabled = true
  · obtain ⟨own, steady⟩ := start_steady process fresh enabled
    have journal : process.start.managers.journal =
        process.managers.journal.restore (journalTrades process.service.settings process.managers.journal) := by
      rw [start_managers process fresh.1 enabled]
      simp only [restoreJournal, restore_snapshot_journal]
    have again := journal_again process.service.settings process.managers.journal fresh.2.2.2.2
      (once.resolve_left (by simp [enabled]))
    have kept := Run.final_preserved Process.restart (Steady process.start.managers process.service.settings)
      (fun other restart steady => restart_steady _ _ other restart own enabled
        (by rw [journal, journal_trades_restore]; exact again) steady)
      process.start restarts steady
    exact kept.managers
  · -- A disabled service starts and stops without touching anything.
    have off : process.service.settings.enabled = false := by simpa using enabled
    have kept := Run.final_preserved Process.restart
      (fun other => other.managers = process.managers ∧ other.service.settings.enabled = false)
      (fun other restart inv => ⟨(restart_disabled other restart inv.2).1.trans inv.1,
        (restart_disabled other restart inv.2).2⟩)
      process.start restarts (by simp [Process.start, RecoveryService.start, fresh.1, off])
    rw [kept.1]
    simp [Process.start, RecoveryService.start, fresh.1, off]

theorem restart_journal (process : Process) (restart : Restart) (running : process.service.running = true)
    (enabled : process.service.settings.enabled = true) :
    (process.restart restart).managers.journal = process.managers.journal.restore
      (journalTrades process.service.settings process.managers.journal) := by
  let stopped := ((process.elapse restart.wait).stop restart.written).elapse restart.pause
  have idle : stopped.service.running = false ∧ stopped.service.settings = process.service.settings ∧
      stopped.managers.journal = process.managers.journal := by
    simp only [stopped, Process.stop, Process.elapse, RecoveryService.stop, running, enabled, Bool.not_true,
      Bool.false_eq_true, if_false, if_true]
    exact ⟨trivial, trivial, rfl⟩
  have started := start_managers stopped idle.1 (by rw [idle.2.1]; exact enabled)
  have journal : stopped.start.managers.journal = stopped.managers.journal.restore
      (journalTrades stopped.service.settings stopped.managers.journal) := by
    rw [started]
    simp only [restoreJournal, restore_snapshot_journal]
  rw [idle.2.1, idle.2.2] at journal
  exact journal

theorem restart_repeats (process : Process) (fresh : process.Fresh)
    (enabled : process.service.settings.enabled = true)
    (some : journalTrades process.service.settings process.managers.journal ≠ [])
    (room : (journalTrades process.service.settings process.managers.journal).length <
      process.managers.journal.memoryLimit) :
    (process.start.restart ⟨0, false, 0⟩).managers.journal.all ≠ process.start.managers.journal.all := by
  obtain ⟨_, settings, running⟩ := start_service process fresh.1
  have first : process.start.managers.journal =
      process.managers.journal.restore (journalTrades process.service.settings process.managers.journal) := by
    rw [start_managers process fresh.1 enabled]
    simp only [restoreJournal, restore_snapshot_journal]
  have second := restart_journal process.start ⟨0, false, 0⟩ running (by rw [settings, enabled])
  rw [settings, first, journal_trades_restore] at second
  have held : (process.managers.journal.restore
      (journalTrades process.service.settings process.managers.journal)).trades =
        journalTrades process.service.settings process.managers.journal := by
    simp only [TradeJournal.restore, fresh.2.2.2.2]
    rw [Deque.extend_eq _ _ _ (Nat.zero_le _), List.nil_append, Deque.newest_all _ _ (le_of_lt room)]
  intro same
  have lengths := congrArg List.length same
  rw [second, first] at lengths
  have twice : ((process.managers.journal.restore
      (journalTrades process.service.settings process.managers.journal)).restore
        (journalTrades process.service.settings process.managers.journal)).trades.length =
      min process.managers.journal.memoryLimit
        ((journalTrades process.service.settings process.managers.journal).length +
          (journalTrades process.service.settings process.managers.journal).length) := by
    have limit : (process.managers.journal.restore
        (journalTrades process.service.settings process.managers.journal)).memoryLimit =
          process.managers.journal.memoryLimit := rfl
    rw [TradeJournal.restore, held, limit]
    simp only
    rw [Deque.extend_eq _ _ _ (le_of_lt room), Deque.newest_length, List.length_append]
  have positive := List.length_pos_iff.mpr some
  simp only [TradeJournal.all] at lengths
  rw [twice, held] at lengths
  omega

def trade : TradeRecord where
  tradeId := 7
  positionId := 1
  symbol := "BTCUSDT"
  side := .long
  quantity := 1
  entryTime := 0
  exitTime := 60000000
  entryPrice := 100
  exitPrice := 101
  stopLoss := some 99
  takeProfit := none
  commission := 0
  slippageBps := 0
  spreadBps := 0
  pnl := 1
  pnlGross := 1
  rMultiple := 1
  returnPct := 1
  atr := none
  volatility := "normal"
  regime := "trending"
  score := 0
  confidence := 0
  exitReason := .takeProfit
  entryReasons := []
  exitReasons := []
  decisionId := none
  contextSnapshot := ⟨"trending", "trending", 0, false, false, 60⟩
  recordedAt := 60000000

def booted (settings : RecoverySettings) (lines : List JournalLine) : Process where
  now := 120000000
  service := { settings := settings, file := .absent }
  managers := {
    positions := {}
    portfolio := .init 10000 "USD" 1
    risk := .init {} 10000
    journal := { file := some lines } }

theorem booted_fresh (settings : RecoverySettings) (lines : List JournalLine) :
    (booted settings lines).Fresh :=
  ⟨rfl, rfl, by simp [booted, PortfolioManager.init], rfl, rfl⟩

end QuantEngine.RestoreIdempotence
