import QuantEngine.Execution.Risk
import QuantEngine.Library.Latch
import QuantEngine.Library.Run

set_option autoImplicit false

namespace QuantEngine.BreakerWindow

open Calendar (Moment)
open Deadline (Holds)

-- What is done with a risk manager, a manual reset of the breaker apart.
inductive Use where
  | onTradeClosed (netPnl : ℚ) (moment : Moment)
  | circuitBreakerActive (now : Moment)
  | evaluateEntry (query : RiskQuery) (now : Moment)
  | status (now : Moment)
  | updateEquity (drawdownPct : ℚ)
  | engageKillSwitch (reason : String)
  | resetKillSwitch
  | restore (consecutiveLosses : Int)

def use (risk : RiskManager) : Use → RiskManager
  | .onTradeClosed netPnl moment => risk.onTradeClosed netPnl moment
  | .circuitBreakerActive now => risk.refreshCircuitBreaker now
  | .evaluateEntry query now => (risk.evaluateEntry query now).2
  | .status now => (risk.status now).2
  | .updateEquity drawdownPct => risk.updateEquity drawdownPct
  | .engageKillSwitch reason => risk.engageKillSwitch reason
  | .resetKillSwitch => risk.resetKillSwitch
  | .restore consecutiveLosses => risk.restore consecutiveLosses

def Use.close : Use → Option (Moment × ℚ)
  | .onTradeClosed netPnl moment => some (moment, netPnl)
  | _ => none

def Use.moment : Use → Option Moment
  | .onTradeClosed _ moment => some moment
  | .circuitBreakerActive now => some now
  | .evaluateEntry _ now => some now
  | .status now => some now
  | _ => none

def closes (uses : List Use) : List (Moment × ℚ) := uses.filterMap Use.close

-- The net PnL of the closes from `first` to `last`.
def netPnl (closes : List (Moment × ℚ)) (first last : Moment) : ℚ :=
  ((closes.filter (fun close => decide (first ≤ close.1 ∧ close.1 ≤ last))).map Prod.snd).sum

def lossLimit (settings : ExecutionRiskSettings) (initialBalance : ℚ) : ℚ :=
  initialBalance * settings.circuitBreakerLossPct / 100

def window (settings : ExecutionRiskSettings) : Int :=
  Decimal.roundHalfEven (settings.circuitBreakerWindowMinutes * 60000000)

-- Where the last close of the log trips the breaker, its window ends then.
def trip (settings : ExecutionRiskSettings) (initialBalance : ℚ) (log : List (Moment × ℚ)) : Option Moment :=
  log.getLast?.bind (fun close =>
    if netPnl log (close.1 - window settings) close.1 ≤ -lossLimit settings initialBalance then
      some (close.1 + window settings)
    else none)

theorem trip_snoc (settings : ExecutionRiskSettings) (initialBalance : ℚ) (log : List (Moment × ℚ)) (closed : Moment × ℚ) :
    trip settings initialBalance (log ++ [closed]) =
      if netPnl (log ++ [closed]) (closed.1 - window settings) closed.1 ≤ -lossLimit settings initialBalance then
        some (closed.1 + window settings)
      else none := by
  simp only [trip, List.getLast?_append, List.getLast?_singleton, Option.some_or, Option.bind_some]

def armed (risk : RiskManager) : Option Moment := if risk.circuitBreaker then risk.circuitUntil else none

section

variable (settings : ExecutionRiskSettings) (initialBalance : ℚ)

structure Latched (horizon : Moment) (log : List (Moment × ℚ)) (risk : RiskManager) : Prop where
  limits : risk.settings = settings
  balance : risk.initialBalance = initialBalance
  ledger : risk.ledger = log
  deadline : risk.circuitBreaker = risk.circuitUntil.isSome
  holds : Holds horizon (Deadline.deadlines (trip settings initialBalance) [] log) (armed risk)

variable {settings initialBalance} {horizon : Moment} {log : List (Moment × ℚ)} {risk : RiskManager}

theorem refresh_latched (now : Moment) (early : now ≤ horizon) (latched : Latched settings initialBalance horizon log risk) :
    Latched settings initialBalance horizon log (risk.refreshCircuitBreaker now) := by
  rw [RiskManager.refreshCircuitBreaker]
  split
  · rename_i elapsed
    obtain ⟨on, past⟩ := Bool.and_eq_true_iff.mp elapsed
    cases deadline : risk.circuitUntil with
    | none =>
        rw [deadline] at past
        cases past
    | some moment =>
        rw [deadline] at past
        have held : armed risk = some moment := by rw [armed, if_pos on, deadline]
        have holds := latched.holds
        rw [held] at holds
        exact ⟨latched.limits, latched.balance, latched.ledger, rfl,
          Deadline.holds_released horizon moment _ ((of_decide_eq_true past).trans early) holds⟩
  · exact latched

theorem trips_before (closed : Moment × ℚ) (latest : ∀ close ∈ log, close.1 ≤ closed.1) (deadline : Moment)
    (member : deadline ∈ Deadline.deadlines (trip settings initialBalance) [] log) :
    deadline ≤ closed.1 + window settings := by
  obtain ⟨before, close, after, rfl, given⟩ := (Deadline.mem_deadlines _ [] log deadline).mp member
  have early := latest close (by simp)
  rw [List.nil_append, trip_snoc] at given
  split at given
  · cases given
    exact Int.add_le_add_right early _
  · cases given

end

-- The ledger is summed from the first entry of the window on. No entry is later
-- than the close that has just been noted.
theorem realized_window (span : Int) (log : List (Moment × ℚ)) (moment : Moment) (latest : ∀ close ∈ log, close.1 ≤ moment) :
    ((log.filter (fun close => decide (moment - close.1 ≤ span))).map Prod.snd).sum =
      netPnl log (moment - span) moment := by
  rw [netPnl]
  refine congrArg (fun entries => (List.map Prod.snd entries).sum) (List.filter_congr ?_)
  intro close member
  exact decide_eq_decide.mpr ⟨fun within => ⟨Int.sub_le_of_sub_le within, latest close member⟩,
    fun within => Int.sub_le_of_sub_le within.1⟩

theorem noted_latest (log : List (Moment × ℚ)) (closed : Moment × ℚ) (latest : ∀ close ∈ log, close.1 ≤ closed.1) :
    ∀ close ∈ log ++ [closed], close.1 ≤ closed.1 := by
  intro close member
  rcases List.mem_append.mp member with old | new
  · exact latest close old
  · exact (congrArg Prod.fst (List.mem_singleton.mp new)).le

theorem check_keeps (risk : RiskManager) (now : Moment) :
    (risk.checkCircuitBreaker now).settings = risk.settings ∧
      (risk.checkCircuitBreaker now).initialBalance = risk.initialBalance ∧
      (risk.checkCircuitBreaker now).ledger = risk.ledger := by
  rw [RiskManager.checkCircuitBreaker]
  split <;> exact ⟨rfl, rfl, rfl⟩

-- What the check does to the breaker, once the close of its moment is noted.
theorem check_breaker (risk : RiskManager) (now : Moment) (log : List (Moment × ℚ)) (pnl : ℚ)
    (ledger : risk.ledger = log ++ [(now, pnl)]) (latest : ∀ close ∈ log, close.1 ≤ now)
    (positive : 0 < lossLimit risk.settings risk.initialBalance) :
    (risk.checkCircuitBreaker now).circuitBreaker =
        ((trip risk.settings risk.initialBalance risk.ledger).isSome || risk.circuitBreaker) ∧
      (risk.checkCircuitBreaker now).circuitUntil =
        (trip risk.settings risk.initialBalance risk.ledger).or risk.circuitUntil := by
  have realized := realized_window (window risk.settings) _ now (noted_latest log (now, pnl) latest)
  have limit : |risk.initialBalance * risk.settings.circuitBreakerLossPct / 100| =
      lossLimit risk.settings risk.initialBalance := abs_of_pos positive
  rw [← ledger] at realized
  have trips := trip_snoc risk.settings risk.initialBalance log (now, pnl)
  rw [← ledger] at trips
  rw [trips, ← realized, ← limit, RiskManager.checkCircuitBreaker]
  by_cases tripped : ((risk.ledger.filter (fun close => decide (now - close.1 ≤ window risk.settings))).map Prod.snd).sum ≤
      -|risk.initialBalance * risk.settings.circuitBreakerLossPct / 100|
  · rw [if_pos tripped]
    exact ⟨congrArg RiskManager.circuitBreaker (if_pos tripped), congrArg RiskManager.circuitUntil (if_pos tripped)⟩
  · rw [if_neg tripped]
    exact ⟨congrArg RiskManager.circuitBreaker (if_neg tripped), congrArg RiskManager.circuitUntil (if_neg tripped)⟩

section

variable {settings : ExecutionRiskSettings} {initialBalance : ℚ} {horizon : Moment} {log : List (Moment × ℚ)} {risk : RiskManager}

theorem close_latched (positive : 0 < lossLimit settings initialBalance) (pnl : ℚ) (moment : Moment)
    (latest : ∀ close ∈ log, close.1 ≤ moment) (latched : Latched settings initialBalance horizon log risk) :
    Latched settings initialBalance horizon (log ++ [(moment, pnl)]) (risk.onTradeClosed pnl moment) := by
  obtain ⟨rfl, rfl, rfl, deadline, holds⟩ := latched
  obtain ⟨noted, same, limits, balance, ledger, on, deadlineKept⟩ := risk.trade_closed_noted pnl moment
  obtain ⟨limitsKept, balanceKept, ledgerKept⟩ := check_keeps noted moment
  rw [← limits, ← balance] at positive
  obtain ⟨breaker, lasts⟩ := check_breaker noted moment risk.ledger pnl ledger latest positive
  rw [limits, balance, ledger, on] at breaker
  rw [limits, balance, ledger, deadlineKept] at lasts
  have before (deadline : Moment)
      (member : deadline ∈ Deadline.deadlines (trip risk.settings risk.initialBalance) [] risk.ledger) :
      deadline ≤ moment + window risk.settings := trips_before (moment, pnl) latest deadline member
  rw [same]
  refine ⟨limitsKept.trans limits, balanceKept.trans balance, ledgerKept.trans ledger, ?_, ?_⟩
  · rw [breaker, lasts, deadline]
    cases trip risk.settings risk.initialBalance (risk.ledger ++ [(moment, pnl)]) <;> rfl
  · rw [Deadline.deadlines_snoc, armed, breaker, lasts]
    cases tripped : trip risk.settings risk.initialBalance (risk.ledger ++ [(moment, pnl)]) with
    | none => simpa [armed] using holds
    | some moment' =>
        have ends : moment + window risk.settings = moment' := by
          rw [trip_snoc] at tripped
          split at tripped
          · exact Option.some.inj tripped
          · cases tripped
        rw [← ends]
        exact Deadline.holds_set horizon _ _ before

theorem latched_congr {other : RiskManager} (latched : Latched settings initialBalance horizon log risk)
    (limits : other.settings = risk.settings)
    (balance : other.initialBalance = risk.initialBalance) (ledger : other.ledger = risk.ledger)
    (on : other.circuitBreaker = risk.circuitBreaker) (deadline : other.circuitUntil = risk.circuitUntil) :
    Latched settings initialBalance horizon log other := by
  refine ⟨limits.trans latched.limits, balance.trans latched.balance, ledger.trans latched.ledger, ?_, ?_⟩
  · rw [on, deadline]
    exact latched.deadline
  · rw [armed, on, deadline]
    exact latched.holds

theorem use_latched (positive : 0 < lossLimit settings initialBalance) (action : Use)
    (early : ∀ moment ∈ action.moment, moment ≤ horizon)
    (latest : ∀ closed ∈ action.close, ∀ close ∈ log, close.1 ≤ closed.1)
    (latched : Latched settings initialBalance horizon log risk) :
    Latched settings initialBalance horizon (log ++ action.close.toList) (use risk action) := by
  cases action with
  | onTradeClosed pnl moment => exact close_latched positive pnl moment (latest _ rfl) latched
  | circuitBreakerActive now => simpa [Use.close, use] using refresh_latched now (early now rfl) latched
  | evaluateEntry query now =>
      simp only [Use.close, use, RiskManager.evaluateEntry, Option.toList_none, List.append_nil]
      split
      · exact latched
      · exact refresh_latched now (early now rfl) latched
  | status now => simpa [Use.close, use, RiskManager.status] using refresh_latched now (early now rfl) latched
  | updateEquity drawdownPct =>
      simp only [Use.close, use, RiskManager.updateEquity, Option.toList_none, List.append_nil]
      split
      · exact latched_congr latched rfl rfl rfl rfl rfl
      · exact latched_congr latched rfl rfl rfl rfl rfl
  | _ =>
      simp only [Use.close, use, Option.toList_none, List.append_nil]
      exact latched_congr latched rfl rfl rfl rfl rfl

theorem run_latched (positive : 0 < lossLimit settings initialBalance) (uses : List Use)
    (early : ∀ action ∈ uses, ∀ moment ∈ action.moment, moment ≤ horizon)
    (ordered : (log ++ closes uses).Pairwise (fun first second => first.1 ≤ second.1))
    (latched : Latched settings initialBalance horizon log risk) :
    Latched settings initialBalance horizon (log ++ closes uses) (Run.final use risk uses) := by
  induction uses generalizing log risk with
  | nil => simpa [closes, Run.final] using latched
  | cons action rest ih =>
      have split : closes (action :: rest) = action.close.toList ++ closes rest := by
        cases closed : action.close <;> simp [closes, closed]
      rw [split, ← List.append_assoc] at ordered ⊢
      have latest : ∀ closed ∈ action.close, ∀ close ∈ log, close.1 ≤ closed.1 := by
        intro closed given close member
        have pairs := (List.pairwise_append.mp (List.pairwise_append.mp ordered).1).2.2
        exact pairs close member closed (Option.mem_toList.mpr given)
      exact ih (fun other member => early other (List.mem_cons_of_mem _ member)) ordered
        (use_latched positive action (early action List.mem_cons_self) latest latched)

theorem close_moment (uses : List Use) (closed : Moment × ℚ) (member : closed ∈ closes uses) :
    ∃ action ∈ uses, closed.1 ∈ action.moment := by
  obtain ⟨action, taken, given⟩ := List.mem_filterMap.mp member
  cases action with
  | onTradeClosed pnl moment =>
      cases given
      exact ⟨_, taken, rfl⟩
  | _ => cases given

theorem init_latched : Latched settings initialBalance horizon [] (RiskManager.init settings initialBalance) :=
  ⟨rfl, rfl, rfl, rfl, Deadline.holds_start horizon⟩

theorem active_iff (latched : Latched settings initialBalance horizon log risk) :
    risk.circuitBreakerActive horizon = true ↔ ∃ deadline, armed risk = some deadline ∧ horizon < deadline := by
  have deadline := latched.deadline
  rw [RiskManager.active_eq, armed]
  cases given : risk.circuitUntil with
  | none =>
      rw [given] at deadline
      simp [deadline]
  | some moment =>
      rw [given] at deadline
      simp [deadline]

end

-- The breaker is looked at after any sequence of uses without a manual reset,
-- and none of them is after that moment.
theorem blocks_full_window (settings : ExecutionRiskSettings) (initialBalance : ℚ) (uses : List Use) (t : Moment)
    (positive : 0 < initialBalance * settings.circuitBreakerLossPct / 100)
    (ordered : (closes uses).Pairwise (fun first second => first.1 ≤ second.1))
    (early : ∀ action ∈ uses, ∀ moment ∈ action.moment, moment ≤ t) :
    (Run.final use (RiskManager.init settings initialBalance) uses).circuitBreakerActive t = true ↔
      ∃ before closed after, closes uses = before ++ closed :: after ∧ closed.1 ≤ t ∧ t < closed.1 + window settings ∧
        netPnl (before ++ [closed]) (closed.1 - window settings) closed.1 ≤
          -(initialBalance * settings.circuitBreakerLossPct / 100) := by
  have latched : Latched settings initialBalance t (closes uses)
      (Run.final use (RiskManager.init settings initialBalance) uses) :=
    run_latched positive uses early ordered init_latched
  rw [active_iff latched, Deadline.held_iff _ _ _ latched.holds]
  constructor
  · rintro ⟨deadline, member, ahead⟩
    obtain ⟨before, closed, after, split, trips⟩ := (Deadline.mem_deadlines _ [] _ deadline).mp member
    rw [List.nil_append, trip_snoc] at trips
    split at trips
    · rename_i loss
      cases trips
      obtain ⟨action, taken, moment⟩ := close_moment uses closed (by simp [split])
      exact ⟨before, closed, after, split, early action taken closed.1 moment, ahead, loss⟩
    · cases trips
  · rintro ⟨before, closed, after, split, noLater, ahead, loss⟩
    refine ⟨closed.1 + window settings, (Deadline.mem_deadlines _ [] _ _).mpr ⟨before, closed, after, split, ?_⟩, ahead⟩
    rw [List.nil_append, trip_snoc]
    exact if_pos loss

-- Two losses of 300 and 250 a minute apart against a limit of 500. The breaker
-- still blocks in the last microsecond of its quarter of an hour.
theorem blocks_full_window_last :
    (Run.final use (RiskManager.init {} 10000)
      [.onTradeClosed (-300) 0, .circuitBreakerActive 1000000, .onTradeClosed (-250) 60000000,
        .status 90000000]).circuitBreakerActive 959999999 = true :=
  (blocks_full_window {} 10000
    [.onTradeClosed (-300) 0, .circuitBreakerActive 1000000, .onTradeClosed (-250) 60000000, .status 90000000] 959999999
    (by decide +kernel) (by decide) (by decide)).mpr
    ⟨[(0, -300)], (60000000, -250), [], by decide +kernel, by decide, by decide +kernel, by decide +kernel⟩

end QuantEngine.BreakerWindow
