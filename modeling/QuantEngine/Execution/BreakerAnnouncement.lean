import QuantEngine.Execution.Reconciliation
import QuantEngine.Library.Run

set_option autoImplicit false

namespace QuantEngine.BreakerAnnouncement

open ExecutionEngine World
open Run (Always Each)

variable {β : Type}

-- The two stretches of `close_position`, the settlement of a position that is
-- gone at the broker, a read of the breaker by whoever asks for it, and what
-- goes on around the engine: time, a manual reset and the rest.
inductive Stretch (β : Type) where
  | startClose (id : PositionId) (reason : ExitReason) (exitReasons : List String)
  | finishClose (order : ClosingOrder) (view : MarketView)
  | externalClose (id : PositionId) (position : Position)
  | look
  | outside (change : Disturbance β)

namespace Stretch

def closes : Stretch β → Bool
  | .finishClose _ _ => true
  | .externalClose _ _ => true
  | _ => false

def inside : Stretch β → Bool
  | .outside _ => false
  | _ => true

end Stretch

def step (engine : ExecutionEngine β) (world : World β) : Stretch β → World β
  | .startClose id reason exitReasons => (startClose id reason exitReasons world).2
  | .finishClose order view => engine.finishClose order view world
  | .externalClose id position => settleExternalClose id position world
  | .look => { world with risk := world.risk.refreshCircuitBreaker world.now }
  | .outside change => change.disturb world

def isTrigger : ExecutionEvent → Bool
  | .circuitBreakerTriggered _ _ _ => true
  | _ => false

def triggers (world : World β) : Nat := world.bus.elim 0 (fun bus => bus.queue.countP isTrigger)

def active (world : World β) : Bool := world.risk.circuitBreakerActive world.now

def trip (before after : World β) : Nat := if !active before && active after then 1 else 0

-- A run with what it has published so far and how often a close has tripped the
-- breaker.
structure Tally (β : Type) where
  world : World β
  published : Nat := 0
  trips : Nat := 0

def tally (engine : ExecutionEngine β) (before : Tally β) (stretch : Stretch β) : Tally β :=
  let later := step engine before.world stretch
  { world := later
    published := before.published + (if stretch.inside then triggers later - triggers before.world else 0)
    trips := before.trips + (if stretch.closes then trip before.world later else 0) }

-- A close of this result trips the breaker.
def Trips (world : World β) (netPnl : ℚ) : Prop :=
  active world = false ∧ 0 < world.risk.window ∧
    (((world.risk.ledger ++ [(world.now, netPnl)]).filter
        (fun entry => decide (world.now - entry.1 ≤ world.risk.window))).map Prod.snd).sum ≤
      -|world.risk.initialBalance * world.risk.settings.circuitBreakerLossPct / 100|

-- The bus runs and has room behind one more event, that of the fill.
def Takes (world : World β) : Prop :=
  ∃ bus, world.bus = some bus ∧ bus.running = true ∧ (bus.maxQueueSize = 0 ∨ bus.queue.length + 1 < bus.maxQueueSize)

def netPnl (position : Position) (price commission : ℚ) : ℚ :=
  position.grossPnl price - (position.commissionPaid + commission)

-- Where the stretch trips the breaker, it is a close of the engine's own, the
-- first that is announced, and the bus takes the event.
def Announced (engine : ExecutionEngine β) (world : World β) : Stretch β → Prop
  | .finishClose order view =>
      ∀ position fill, world.positions.object order.id = some position →
        (engine.closeExecution order position view world).1.fill = some fill →
          Trips world (netPnl position fill.price fill.commission) →
            world.cbAnnounced = false ∧ Takes world
  | .externalClose _ position => ¬ Trips world (netPnl position (lastPrice world position) 0)
  | _ => True

def accepts (bus : EventBus) : Bool := bus.running && !bus.full

theorem publish_triggers (bus : EventBus) (event : ExecutionEvent) : (bus.publish event).2.queue.countP isTrigger =
    bus.queue.countP isTrigger + if isTrigger event && accepts bus then 1 else 0 := by
  rw [EventBus.publish, accepts]
  cases bus.running <;> cases bus.full <;> simp [List.countP_append, List.countP_singleton]

theorem full_iff (bus : EventBus) : bus.full = true ↔ 0 < bus.maxQueueSize ∧ bus.maxQueueSize ≤ bus.queue.length := by
  simp [EventBus.full]

theorem accepts_publish (bus : EventBus) (event : ExecutionEvent) : accepts (bus.publish event).2 = true ↔
    bus.running = true ∧ (bus.maxQueueSize = 0 ∨ bus.queue.length + 1 < bus.maxQueueSize) := by
  rw [accepts, Bool.and_eq_true, Bool.not_eq_true', Bool.eq_false_iff, Ne, full_iff, EventBus.publish]
  cases running : bus.running with
  | false => simp [running]
  | true =>
      by_cases full : bus.full = true
      · have bound := (full_iff bus).mp full
        simp only [full, if_true, Bool.not_true, Bool.false_eq_true, if_false, true_and]
        omega
      · have bound : ¬ (0 < bus.maxQueueSize ∧ bus.maxQueueSize ≤ bus.queue.length) := (full_iff bus).not.mp full
        simp only [full, if_false, Bool.not_true, Bool.false_eq_true, List.length_append, List.length_singleton, true_and]
        omega

section

variable (world : World β) (event : ExecutionEvent)

theorem triggers_publish : triggers (world.publish event) =
    triggers world + if isTrigger event && world.bus.any accepts then 1 else 0 := by
  rw [triggers, triggers, show (world.publish event).bus = world.bus.map (fun bus => (bus.publish event).2) from rfl]
  cases world.bus with
  | none => simp
  | some bus => simp [publish_triggers]

theorem triggers_other (other : isTrigger event = false) : triggers (world.publish event) = triggers world := by
  simp [triggers_publish, other]

theorem takes_iff : (world.publish event).bus.any accepts = true ↔ Takes world := by
  rw [Takes, show (world.publish event).bus = world.bus.map (fun bus => (bus.publish event).2) from rfl]
  cases world.bus with
  | none => simp
  | some bus => simp [accepts_publish]

theorem announce_active (engine : ExecutionEngine β) : active (engine.announceBreaker world) = active world := by
  simp only [announceBreaker]
  split <;> exact world.risk.refresh_active world.now

theorem announce_latch (engine : ExecutionEngine β) :
    (engine.announceBreaker world).cbAnnounced = (world.cbAnnounced || active world) := by
  simp only [announceBreaker, active, RiskManager.circuitBreakerActive]
  cases (world.risk.refreshCircuitBreaker world.now).circuitBreaker <;> cases world.cbAnnounced <;> simp [publish]

theorem announce_triggers (engine : ExecutionEngine β) : triggers (engine.announceBreaker world) =
    triggers world + if active world && !world.cbAnnounced && world.bus.any accepts then 1 else 0 := by
  by_cases first : (active world && !world.cbAnnounced) = true
  · have announced : engine.announceBreaker world =
        ({ world with risk := world.risk.refreshCircuitBreaker world.now, cbAnnounced := true }).publish
          (.circuitBreakerTriggered "pérdida rápida" engine.settings.risk.circuitBreakerLossPct
            engine.settings.risk.circuitBreakerWindowMinutes) := if_pos first
    rw [announced, triggers_publish, first]
    rfl
  · have silent : engine.announceBreaker world =
        { world with risk := world.risk.refreshCircuitBreaker world.now } := if_neg first
    rw [silent, Bool.eq_false_iff.mpr first]
    rfl

end

theorem check_active (risk : RiskManager) (now : Calendar.Moment) :
    (risk.checkCircuitBreaker now).circuitBreakerActive now =
      if ((risk.ledger.filter (fun entry => decide (now - entry.1 ≤ risk.window))).map Prod.snd).sum ≤
          -|risk.initialBalance * risk.settings.circuitBreakerLossPct / 100| then
        decide (0 < risk.window)
      else risk.circuitBreakerActive now := by
  simp only [RiskManager.checkCircuitBreaker]
  split
  · simp [RiskManager.active_eq]
  · rfl

theorem trips_iff (world : World β) (netPnl : ℚ) : Trips world netPnl ↔
    active world = false ∧ (world.risk.onTradeClosed netPnl world.now).circuitBreakerActive world.now = true := by
  obtain ⟨noted, same, limits, balance, ledger, on, deadline⟩ := world.risk.trade_closed_noted netPnl world.now
  have kept : noted.circuitBreakerActive world.now = active world := by
    rw [active, RiskManager.active_eq, RiskManager.active_eq, on, deadline]
  have span : noted.window = world.risk.window := by rw [RiskManager.window, limits, RiskManager.window]
  rw [Trips, same, check_active, kept, span, ledger, balance, limits]
  refine and_congr_right (fun off => ?_)
  rw [off]
  split
  · rename_i loss
    rw [decide_eq_true_iff]
    exact and_iff_left loss
  · rename_i small
    exact ⟨fun both => absurd both.2 small, fun tripped => by cases tripped⟩

-- A close that announces, where it finds or leaves the breaker active for the
-- first time, and one that does not look at it.
structure Own (before after : World β) : Prop where
  latch : after.cbAnnounced = (before.cbAnnounced || active after)
  announces : active after = true → before.cbAnnounced = false → Takes before → triggers after = triggers before + 1
  silent : ¬ (active after = true ∧ before.cbAnnounced = false ∧ Takes before) → triggers after = triggers before

structure Unnoticed (before after : World β) : Prop where
  latch : after.cbAnnounced = before.cbAnnounced
  silent : triggers after = triggers before

section

variable (engine : ExecutionEngine β) (world : World β)

theorem announce_own (booked : World β) (event : ExecutionEvent) (other : isTrigger event = false)
    (bus : booked.bus = (world.publish event).bus) (latch : booked.cbAnnounced = world.cbAnnounced) :
    Own world (engine.announceBreaker booked) := by
  have counted : triggers booked = triggers world := by
    rw [← triggers_other world event other, triggers, triggers, bus]
  have taken : booked.bus.any accepts = true ↔ Takes world := by rw [bus, takes_iff]
  have on := announce_active booked engine
  have announced := announce_triggers booked engine
  rw [counted, latch] at announced
  refine ⟨by rw [announce_latch, latch, on], fun active first takes => ?_, fun quiet => ?_⟩
  · rw [announced, ← on, active, first, taken.mpr takes]
    rfl
  · rw [announced, if_neg]
    · rfl
    · intro all
      simp only [Bool.and_eq_true, Bool.not_eq_true'] at all
      exact quiet ⟨on.trans all.1.1, all.1.2, taken.mp all.2⟩

theorem record_own (id : PositionId) (position : Position) (fill : Fill) (reason : ExitReason) (exitReasons : List String)
    (middle : World β) (own : Own world middle) : Own world (record id position fill reason exitReasons middle) := by
  have counted : triggers (record id position fill reason exitReasons middle) = triggers middle := triggers_other _ _ rfl
  exact ⟨own.latch, fun active first takes => counted.trans (own.announces active first takes),
    fun quiet => counted.trans (own.silent quiet)⟩

theorem own_close (order : ClosingOrder) (view : MarketView) (position : Position) (fill : Fill)
    (found : world.positions.object order.id = some position)
    (filled : (engine.closeExecution order position view world).1.fill = some fill) :
    Own world (engine.finishClose order view world) ∧ active (engine.finishClose order view world) =
      (world.risk.onTradeClosed (netPnl position fill.price fill.commission) world.now).circuitBreakerActive world.now := by
  simp only [finishClose, found, filled]
  refine ⟨record_own world order.id position fill order.reason _ _ ?_, ?_⟩
  · exact announce_own engine world _ (.orderExecuted order.orderId fill.symbol fill.side fill.quantity fill.price
      fill.commission fill.slippageBps fill.isPartial) rfl rfl rfl
  · exact announce_active _ engine

theorem external_close (id : PositionId) (position : Position) :
    Unnoticed world (settleExternalClose id position world) ∧ active (settleExternalClose id position world) =
      (world.risk.onTradeClosed (netPnl position (lastPrice world position) 0) world.now).circuitBreakerActive world.now := by
  refine ⟨⟨rfl, ?_⟩, rfl⟩
  exact triggers_other _ _ rfl

end

theorem later_active (risk : RiskManager) (now : Calendar.Moment) (micros : Nat)
    (active : risk.circuitBreakerActive (now + micros) = true) : risk.circuitBreakerActive now = true := by
  rw [RiskManager.active_eq, Bool.and_eq_true] at active ⊢
  refine ⟨active.1, ?_⟩
  cases given : risk.circuitUntil with
  | none => rfl
  | some deadline =>
      have ahead := active.2
      rw [given] at ahead
      simp only [Option.all_some, decide_eq_true_eq] at ahead ⊢
      exact (Calendar.le_later now micros).trans_lt ahead

theorem disturb_active (change : Disturbance β) (world : World β) (on : active (change.disturb world) = true) :
    active world = true := by
  cases change with
  | elapse micros => exact later_active world.risk world.now micros on
  | resetCircuitBreaker => cases on
  | engageKillSwitch reason =>
      rw [active, RiskManager.active_eq] at on ⊢
      exact on
  | resetKillSwitch =>
      rw [active, RiskManager.active_eq] at on ⊢
      exact on
  | _ => exact on

theorem started_orders (id : PositionId) (reason : ExitReason) (exitReasons : List String) (world : World β) :
    (startClose id reason exitReasons world).2 = world ∨
      ∃ orders, (startClose id reason exitReasons world).2 = { world.drawIds 2 with orders := orders } := by
  rw [startClose]
  split
  · exact .inl rfl
  · split
    · exact .inl rfl
    · exact .inr ⟨_, rfl⟩

-- What is not a close neither publishes the event nor trips the breaker.
theorem others_unnoticed (engine : ExecutionEngine β) (world : World β) (stretch : Stretch β) (other : stretch.closes = false) :
    (step engine world stretch).cbAnnounced = world.cbAnnounced ∧
      (stretch.inside = true → triggers (step engine world stretch) = triggers world) ∧
      (active (step engine world stretch) = true → active world = true) := by
  cases stretch with
  | finishClose order view => cases other
  | externalClose id position => cases other
  | look => exact ⟨rfl, fun _ => rfl, fun on => (world.risk.refresh_active world.now).symm.trans on⟩
  | startClose id reason exitReasons =>
      rcases started_orders id reason exitReasons world with same | ⟨orders, same⟩
      · rw [step, same]
        exact ⟨rfl, fun _ => rfl, fun on => on⟩
      · rw [step, same]
        exact ⟨rfl, fun _ => rfl, fun on => on⟩
  | outside change =>
      exact ⟨by cases change <;> rfl, (fun inside => by cases inside), disturb_active change world⟩

theorem trip_one (before after : World β) : trip before after = 1 ↔ active before = false ∧ active after = true := by
  cases off : active before <;> cases on : active after <;> simp [trip, off, on]

theorem trip_zero (before after : World β) : trip before after = 0 ↔ ¬ (active before = false ∧ active after = true) := by
  cases off : active before <;> cases on : active after <;> simp [trip, off, on]

theorem own_counts (before after : World β) (own : Own before after)
    (latch : active before = true → before.cbAnnounced = true) : triggers after - triggers before = trip before after ↔
      (active before = false ∧ active after = true → before.cbAnnounced = false ∧ Takes before) := by
  by_cases tripped : active before = false ∧ active after = true
  · rw [(trip_one before after).mpr tripped]
    constructor
    · intro counted _
      by_contra missed
      have silent := own.silent (fun all => missed all.2)
      omega
    · intro given
      obtain ⟨first, takes⟩ := given tripped
      have announces := own.announces tripped.2 first takes
      omega
  · have silent : triggers after = triggers before := by
      refine own.silent (fun all => tripped ⟨?_, all.1⟩)
      cases on : active before with
      | false => rfl
      | true =>
          rw [latch on] at all
          cases all.2.1
    rw [(trip_zero before after).mpr tripped]
    exact ⟨fun _ both => absurd both tripped, fun _ => by omega⟩

theorem unnoticed_counts (before after : World β) (silent : triggers after = triggers before) :
    triggers after - triggers before = trip before after ↔ ¬ (active before = false ∧ active after = true) := by
  rw [← trip_zero, silent]
  omega

-- What a close publishes is what it trips exactly where the condition is met,
-- and then the latch is set while the breaker is active.
structure Answered (engine : ExecutionEngine β) (world : World β) (stretch : Stretch β) : Prop where
  counts : triggers (step engine world stretch) - triggers world = trip world (step engine world stretch) ↔
    Announced engine world stretch
  latch : active (step engine world stretch) = true → Announced engine world stretch →
    (step engine world stretch).cbAnnounced = true

structure Balanced (run : Tally β) : Prop where
  counts : run.published = run.trips
  latch : active run.world = true → run.world.cbAnnounced = true

section

variable (engine : ExecutionEngine β)

theorem tally_other (run : Tally β) (stretch : Stretch β) (other : stretch.closes = false) :
    (tally engine run stretch).published = run.published ∧ (tally engine run stretch).trips = run.trips := by
  obtain ⟨-, counted, -⟩ := others_unnoticed engine run.world stretch other
  simp only [tally, other]
  cases inside : stretch.inside with
  | true => simp [counted inside]
  | false => simp

theorem tally_close (run : Tally β) (stretch : Stretch β) (close : stretch.closes = true) (counts : run.published = run.trips) :
    (tally engine run stretch).published = (tally engine run stretch).trips ↔
      triggers (step engine run.world stretch) - triggers run.world = trip run.world (step engine run.world stretch) := by
  have inside : stretch.inside = true := by cases stretch <;> first | rfl | cases close
  simp only [tally, close, inside, counts, if_true]
  omega

theorem unfilled_unnoticed (order : ClosingOrder) (view : MarketView) (world : World β)
    (unfilled : ∀ position fill, world.positions.object order.id = some position →
      (engine.closeExecution order position view world).1.fill ≠ some fill) :
    Unnoticed world (engine.finishClose order view world) ∧
      active (engine.finishClose order view world) = active world := by
  cases found : world.positions.object order.id with
  | none =>
      have nothing : engine.finishClose order view world = world := by simp only [finishClose, found]
      rw [nothing]
      exact ⟨⟨rfl, rfl⟩, rfl⟩
  | some position =>
      cases filled : (engine.closeExecution order position view world).1.fill with
      | some fill => exact absurd filled (unfilled position fill found)
      | none =>
          simp only [finishClose, found, filled]
          exact ⟨⟨rfl, rfl⟩, rfl⟩

theorem finish_close_answered (order : ClosingOrder) (view : MarketView) (world : World β)
    (latch : active world = true → world.cbAnnounced = true) : Answered engine world (.finishClose order view) := by
  by_cases unfilled : ∀ position fill, world.positions.object order.id = some position →
      (engine.closeExecution order position view world).1.fill ≠ some fill
  · obtain ⟨unnoticed, on⟩ := unfilled_unnoticed engine order view world unfilled
    have quiet : Announced engine world (.finishClose order view) :=
      fun position fill found filled => absurd filled (unfilled position fill found)
    refine ⟨?_, fun active _ => unnoticed.latch.trans (latch (on.symm.trans active))⟩
    rw [step, unnoticed_counts _ _ unnoticed.silent, on]
    exact iff_of_true (fun both => by simp [both.1] at both) quiet
  · simp only [ne_eq, not_forall, not_not, exists_prop] at unfilled
    obtain ⟨position, fill, found, filled⟩ := unfilled
    obtain ⟨own, on⟩ := own_close engine world order view position fill found filled
    have trips := trips_iff world (netPnl position fill.price fill.commission)
    rw [← on] at trips
    refine ⟨?_, fun active _ => ?_⟩
    · rw [step, own_counts world _ own latch, ← trips]
      constructor
      · intro given other filledBy foundToo filledToo
        cases Option.some.inj (found.symm.trans foundToo)
        cases Option.some.inj (filled.symm.trans filledToo)
        exact given
      · intro given
        exact given position fill found filled
    · rw [step] at active ⊢
      rw [own.latch, active, Bool.or_true]

theorem external_close_answered (id : PositionId) (position : Position) (world : World β)
    (latch : active world = true → world.cbAnnounced = true) : Answered engine world (.externalClose id position) := by
  obtain ⟨unnoticed, on⟩ := external_close world id position
  have trips := trips_iff world (netPnl position (lastPrice world position) 0)
  rw [← on] at trips
  refine ⟨?_, fun active quiet => unnoticed.latch.trans (latch ?_)⟩
  · rw [step, unnoticed_counts _ _ unnoticed.silent, ← trips]
    exact Iff.rfl
  · by_contra off
    exact quiet (trips.mpr ⟨Bool.eq_false_iff.mpr off, active⟩)

theorem close_answered (world : World β) (stretch : Stretch β) (close : stretch.closes = true)
    (latch : active world = true → world.cbAnnounced = true) : Answered engine world stretch := by
  cases stretch with
  | finishClose order view => exact finish_close_answered engine order view world latch
  | externalClose id position => exact external_close_answered engine id position world latch
  | startClose id reason exitReasons => cases close
  | look => cases close
  | outside change => cases close

theorem stretch_balanced (run : Tally β) (stretch : Stretch β) (balanced : Balanced run) :
    ((tally engine run stretch).published = (tally engine run stretch).trips ↔ Announced engine run.world stretch) ∧
      (Announced engine run.world stretch → Balanced (tally engine run stretch)) := by
  cases close : stretch.closes with
  | false =>
      obtain ⟨published, trips⟩ := tally_other engine run stretch close
      obtain ⟨latch, -, on⟩ := others_unnoticed engine run.world stretch close
      have counts : (tally engine run stretch).published = (tally engine run stretch).trips := by
        rw [published, trips, balanced.counts]
      refine ⟨iff_of_true counts ?_, fun _ => ⟨counts, fun active => latch.trans (balanced.latch (on active))⟩⟩
      cases stretch with
      | finishClose order view => cases close
      | externalClose id position => cases close
      | _ => trivial
  | true =>
      have answered := close_answered engine run.world stretch close balanced.latch
      have counts := (tally_close engine run stretch close balanced.counts).trans answered.counts
      exact ⟨counts, fun announced => ⟨counts.mpr announced, fun active => answered.latch active announced⟩⟩

theorem tally_world (run : Tally β) (stretches : List (Stretch β)) :
    (Run.final (tally engine) run stretches).world = Run.final (step engine) run.world stretches := by
  induction stretches generalizing run with
  | nil => rfl
  | cons stretch rest ih => exact ih (tally engine run stretch)

-- Every task that closes a position moves the world by such stretches, and so
-- does the reconciliation with the broker.
theorem close_position_runs (id : PositionId) (reason : ExitReason) (exitReasons : List String) :
    (engine.closePosition id reason exitReasons).Guarantees
      (fun before after => ∃ stretches, Run.final (step engine) before stretches = after) := by
  refine close_position_stretches (fun world => ⟨[], rfl⟩) ?_ id reason exitReasons
    (fun world => ⟨[.startClose id reason exitReasons], rfl⟩) (fun order view world => ⟨[.finishClose order view], rfl⟩)
  rintro before middle after ⟨first, rfl⟩ ⟨second, rfl⟩
  exact ⟨first ++ second, List.foldl_append⟩

theorem reconcile_runs (world : World β) :
    ∃ stretches, Run.final (step engine) world stretches = engine.reconcileBrokerPositions world := by
  rw [reconcileBrokerPositions]
  cases engine.paper.openPositionTickets with
  | none => exact ⟨[], rfl⟩
  | some ticketsOf =>
      let gone := world.positions.openPositions.filter (fun entry => goneAtBroker (ticketsOf world.broker) entry.2)
      refine ⟨gone.map (fun entry => .externalClose entry.1 entry.2), ?_⟩
      rw [Run.final, List.foldl_map]
      rfl

end

-- In a run from a moment at which the breaker is off, every trip has been
-- announced at every point exactly where each stretch meets the condition.
theorem announced_once_iff (engine : ExecutionEngine β) (world : World β) (stretches : List (Stretch β))
    (off : world.risk.circuitBreakerActive world.now = false) :
    Always (tally engine) (fun run => run.published = run.trips) { world := world } stretches ↔
      Each (tally engine) (fun run stretch => Announced engine run.world stretch) { world := world } stretches := by
  have start : Balanced ({ world := world } : Tally β) := ⟨rfl, fun on => by rw [active, off] at on; cases on⟩
  exact Run.always_iff (tally engine) _ _ Balanced (fun run balanced => balanced.counts)
    (fun run stretch balanced => (stretch_balanced engine run stretch balanced).1)
    (fun run stretch balanced => (stretch_balanced engine run stretch balanced).2) _ _ start

def simulated : ExecutionEngine PaperState where
  settings := {}
  paper := PaperBroker.midway.broker

def falling : Ticker := ⟨1990, 1991⟩

-- A long position that loses more than 900 where the breaker's limit is 500.
def losing : Position := .postInit {
  symbol := "XAUUSD", side := .long, quantity := 100, initialQuantity := 100, entryPrice := 2000, initialStop := some 1900
  stopLoss := some 1900, takeProfit := none, openedAt := 0 }

def twoLosing : World PaperState :=
  { World.fresh {} {} (some {}) {} ⟨fun _ => some falling, fun _ => []⟩ 0 with
    positions := { opened := (Dict.empty.insert 0 losing).insert 1 losing }
    nextId := 2 }

def closing (id : PositionId) (orderId : OrderId) : ClosingOrder where
  id := id
  orderId := orderId
  ticker := falling
  request :=
    { requestId := .fresh (orderId - 1), symbol := "XAUUSD", side := .sell, quantity := 100, orderType := .market
      reduceOnly := true, reason := "manual" }
  reason := .manual
  exitReasons := []

def unknownView : MarketView := ⟨none, none, none, "unknown", "normal", none, none, "europe"⟩

theorem announced_once_iff_one :
    Always (tally simulated) (fun run => run.published = run.trips) { world := twoLosing }
      [.startClose 0 .manual [], .finishClose (closing 0 3) unknownView, .look] :=
  (announced_once_iff simulated twoLosing
    [.startClose 0 .manual [], .finishClose (closing 0 3) unknownView, .look] (by decide)).mpr
    ⟨trivial, fun _ _ _ _ _ => ⟨rfl, {}, rfl, rfl, .inr (by decide)⟩, trivial, trivial⟩

-- The window of the first loss has passed when the second position is closed.
def twoLosses : List (Stretch PaperState) :=
  [.startClose 0 .manual [], .finishClose (closing 0 3) unknownView, .outside (.elapse 960000000),
    .startClose 1 .manual [], .finishClose (closing 1 6) unknownView]

theorem second_trip_unannounced :
    ¬ Always (tally simulated) (fun run => run.published = run.trips) { world := twoLosing } twoLosses := by
  intro always
  have counts : ((Run.final (tally simulated) { world := twoLosing } twoLosses).published,
      (Run.final (tally simulated) { world := twoLosing } twoLosses).trips) = (1, 2) := by decide +kernel
  have same := Run.always_final _ _ _ _ always
  rw [(Prod.mk.inj counts).1, (Prod.mk.inj counts).2] at same
  cases same

end QuantEngine.BreakerAnnouncement
