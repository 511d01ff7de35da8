import QuantEngine.Brokers.Mt5
import QuantEngine.Execution.Rules
import QuantEngine.Library.Ranking

set_option autoImplicit false

namespace QuantEngine

variable {τ : Type}

namespace Mt5Broker

variable (adapter : Mt5Broker τ)

-- What a stretch of sending adds to the orders sent: each of them names the
-- position that the payload names.
structure SendsFor (position : Option Int) (before after : Mt5State τ) (added : List Payload) : Prop where
  sent : after.sent = before.sent ++ added
  named : ∀ payload ∈ added, payload.position = position

theorem SendsFor.trans {position : Option Int} {a b c : Mt5State τ} {first second : List Payload}
    (left : SendsFor position a b first) (right : SendsFor position b c second) :
    SendsFor position a c (first ++ second) where
  sent := by rw [right.sent, left.sent, List.append_assoc]
  named payload member := (List.mem_append.mp member).elim (left.named payload) (right.named payload)

theorem send_sends (state : Mt5State τ) (payload : Payload) :
    SendsFor payload.position state (adapter.send state payload).2 [payload] where
  sent := rfl
  named _ member := congrArg Payload.position (List.mem_singleton.mp member)

theorem send_mode_sends (state : Mt5State τ) (payload : Payload) :
    (adapter.sendMode state payload).2.1.position = payload.position ∧
      ∃ rest, SendsFor payload.position state (adapter.sendMode state payload).2.2 (payload :: rest) := by
  have first := adapter.send_sends state payload
  simp only [sendMode]
  split
  · have second := adapter.send_sends (adapter.send state payload).2 { payload with comment := none }
    exact ⟨rfl, _, first.trans second⟩
  · exact ⟨rfl, [], first⟩

theorem send_modes_sends (state : Mt5State τ) (payload : Payload) (last : Option OrderResult) (modes : List Int) :
    ∃ added, SendsFor payload.position state (adapter.sendModes state payload last modes).2 added ∧
      (modes ≠ [] → added ≠ []) := by
  induction modes generalizing state payload last with
  | nil => exact ⟨[], ⟨(List.append_nil _).symm, List.forall_mem_nil _⟩, fun some => (some rfl).elim⟩
  | cons mode rest ih =>
      obtain ⟨same, others, tried⟩ := adapter.send_mode_sends state { payload with typeFilling := some mode }
      have first : ∃ added, SendsFor payload.position state
          (adapter.sendMode state { payload with typeFilling := some mode }).2.2 added ∧
            (mode :: rest ≠ [] → added ≠ []) :=
        ⟨_, tried, fun _ => List.cons_ne_nil _ _⟩
      simp only [sendModes]
      split
      · exact first
      · rename_i result found
        split
        · exact first
        · obtain ⟨added, later, -⟩ :=
            ih _ (adapter.sendMode state { payload with typeFilling := some mode }).2.1 (some result)
          rw [same] at later
          exact ⟨_, tried.trans later, fun _ => List.cons_ne_nil _ _⟩

theorem filling_modes_some (state : Mt5State τ) (symbol : String) : adapter.fillingModes state symbol ≠ [] := by
  have added (modes : List Int) (mode : Int) : addMode modes mode ≠ [] := by
    rw [addMode]
    split
    · rename_i member
      exact List.ne_nil_of_mem member
    · exact List.append_ne_nil_of_right_ne_nil _ (List.cons_ne_nil _ _)
  exact added _ _

theorem answer_sends (state : Mt5State τ) (request : OrderRequest) (payload : Payload) :
    ∃ added, SendsFor payload.position state (adapter.answer state request payload).2 added ∧ added ≠ [] := by
  obtain ⟨added, sent, some⟩ := adapter.send_modes_sends (adapter.resolved state request.symbol) payload none
    (adapter.fillingModes (adapter.resolved state request.symbol) (adapter.resolveSymbol state request.symbol).1)
  exact ⟨added, ⟨sent.sent, sent.named⟩, some (adapter.filling_modes_some _ _)⟩

theorem interpret_sent (state : Mt5State τ) (result : Option OrderResult) (request : OrderRequest) (ticker : Ticker)
    (volume : ℚ) (now : Calendar.Moment) : (interpret state result request ticker volume now).2.sent = state.sent := by
  cases result with
  | none => rfl
  | some report =>
      simp only [interpret]
      split <;> rfl

theorem interpret_done (state : Mt5State τ) (report : OrderResult) (request : OrderRequest) (ticker : Ticker)
    (volume : ℚ) (now : Calendar.Moment) (done : report.retcode.getD (-1) = Mt5.retcodeDone) :
    (interpret state (some report) request ticker volume now).1.fill =
      some (filledOf report request ticker volume now) := by
  simp only [interpret, done, ne_eq, not_true_eq_false, if_false]

end Mt5Broker

namespace ExecutionEngine

theorem finish_close_broker {β : Type} (engine : ExecutionEngine β) (order : ClosingOrder) (view : MarketView)
    (world : World β) (position : Position) (found : world.positions.object order.id = some position) :
    (engine.finishClose order view world).broker = (engine.closeExecution order position view world).2 := by
  have announced (booked : World β) : (engine.announceBreaker booked).broker = booked.broker := by
    simp only [announceBreaker]
    split <;> rfl
  simp only [finishClose, found]
  split
  · rfl
  · exact announced _

end ExecutionEngine

namespace ClosingTicket

open ExecutionEngine World

def directionOf (position : Position) : Int :=
  if position.isLong then Mt5.positionTypeBuy else Mt5.positionTypeSell

section

variable (adapter : Mt5Broker τ) (settings : ExecutionSettings) (hasContext : Bool) (order : ClosingOrder)
  (view : MarketView) (position : Position) (world : World (Mt5State τ))

def execution : BrokerExecution × Mt5State τ :=
  (adapter.engine settings hasContext).closeExecution order position view world

def finished : World (Mt5State τ) := (adapter.engine settings hasContext).finishClose order view world

-- Every order that the close sends names the position's own ticket, and a fill
-- books the result of the filled volume and closes nothing but the whole.
structure ClosesNamed : Prop where
  named : ∀ payload ∈ (finished adapter settings hasContext order view world).broker.sent.drop world.broker.sent.length,
    payload.position.map toString = brokerRef position
  booked : ∀ fill, (execution adapter settings hasContext order view position world).1.fill = some fill →
    (finished adapter settings hasContext order view world).portfolio.balance = world.portfolio.balance +
      (fill.price - position.entryPrice) * fill.quantity * position.directionSign - fill.commission
  closed : ∀ fill, (execution adapter settings hasContext order view position world).1.fill = some fill →
    order.id ∉ (finished adapter settings hasContext order view world).openIds → fill.quantity = position.quantity

def alike : List LivePosition :=
  ((adapter.positionsOf (adapter.resolved world.broker order.request.symbol)
    (adapter.resolveSymbol world.broker order.request.symbol).1).getD []).filter
      (fun live => decide (live.kind.getD (-1) = directionOf position))

-- Of the live positions that go its way the position is the oldest, and the
-- volume that the terminal reports filled, or was sent where it reports none,
-- is all of it.
structure OldestInFull : Prop where
  oldest : ∀ volume live, adapter.Ready world.broker order.request order.ticker volume →
    Ranking.FirstLeast (fun live => live.time.getD 0) (alike adapter order position world) live →
      some (toString live.ticket) = brokerRef position
  full : ∀ volume payload report, adapter.Sends world.broker order.request order.ticker volume payload →
    (adapter.answer world.broker order.request payload).1 = some report →
      report.retcode.getD (-1) = Mt5.retcodeDone → numberOr report.volume volume = position.quantity

theorem matching_ticket_iff (made : order.For position) (ticket : Int) :
    adapter.matchingPositionTicket (adapter.resolved world.broker order.request.symbol)
        (adapter.resolveSymbol world.broker order.request.symbol).1 (decide (order.request.side = .buy)) = some ticket ↔
      ∃ live, Ranking.FirstLeast (fun live => live.time.getD 0) (alike adapter order position world) live ∧
        live.ticket = ticket := by
  have target : (if decide (order.request.side = .buy) = true then Mt5.positionTypeSell else Mt5.positionTypeBuy) =
      directionOf position := by
    rw [made.side, closeSide, directionOf]
    cases position.isLong with
    | true => rfl
    | false => rfl
  simp only [Mt5Broker.matchingPositionTicket, target, Option.map_eq_some_iff, ← Ranking.head_sorted_iff]
  rfl

theorem addressed_iff (made : order.For position) (payload : Payload) (symbol : payload.symbol =
      (adapter.resolveSymbol world.broker order.request.symbol).1) (sent : Payload) :
    adapter.addressed (adapter.resolved world.broker order.request.symbol) order.request payload = some sent ↔
      ∃ live, Ranking.FirstLeast (fun live => live.time.getD 0) (alike adapter order position world) live ∧
        { payload with position := some live.ticket } = sent := by
  simp only [Mt5Broker.addressed, made.reduceOnly, if_true, symbol, Option.map_eq_some_iff,
    matching_ticket_iff adapter order position world made]
  constructor
  · rintro ⟨ticket, ⟨live, first, rfl⟩, same⟩
    exact ⟨live, first, same⟩
  · rintro ⟨live, first, same⟩
    exact ⟨live.ticket, ⟨live, first, rfl⟩, same⟩

theorem execution_sends (volume : ℚ) (payload : Payload)
    (sends : adapter.Sends world.broker order.request order.ticker volume payload) :
    execution adapter settings hasContext order view position world =
      Mt5Broker.interpret (adapter.answer world.broker order.request payload).2
        (adapter.answer world.broker order.request payload).1 order.request order.ticker volume world.now :=
  adapter.execute_sends world.broker world.now order.request order.ticker (some (slipContext view position.quantity))
    false false volume payload sends

theorem finished_sent (found : world.positions.opened.lookup order.id = some position) :
    (finished adapter settings hasContext order view world).broker =
      (execution adapter settings hasContext order view position world).2 := by
  refine (adapter.engine settings hasContext).finish_close_broker order view world position ?_
  rw [PositionManager.object, found]

theorem finished_settled (found : world.positions.opened.lookup order.id = some position) (fill : Fill)
    (filled : (execution adapter settings hasContext order view position world).1.fill = some fill) :
    world.Settled (finished adapter settings hasContext order view world) order.id position fill
      [.closingExecuted order.id] := by
  have object : world.positions.object order.id = some position := by rw [PositionManager.object, found]
  rcases (adapter.engine settings hasContext).finish_close_effect order view world position object with
    ⟨none, -⟩ | ⟨other, same, settled⟩
  · cases filled.symm.trans none
  · cases Option.some.inj (filled.symm.trans same)
    exact settled

theorem finished_adds (found : world.positions.opened.lookup order.id = some position) (volume : ℚ) (payload : Payload)
    (sends : adapter.Sends world.broker order.request order.ticker volume payload) :
    ∃ added, (finished adapter settings hasContext order view world).broker.sent.drop world.broker.sent.length = added ∧
      added ≠ [] ∧ ∀ sent ∈ added, sent.position = payload.position := by
  obtain ⟨added, adds, some⟩ := adapter.answer_sends world.broker order.request payload
  refine ⟨added, ?_, some, adds.named⟩
  rw [finished_sent adapter settings hasContext order view position world found,
    execution_sends adapter settings hasContext order view position world volume payload sends,
    Mt5Broker.interpret_sent, adds.sent, List.drop_left]

theorem closes_oldest (made : order.For position) (found : world.positions.opened.lookup order.id = some position)
    (closes : ClosesNamed adapter settings hasContext order view position world) (volume : ℚ) (live : LivePosition)
    (ready : adapter.Ready world.broker order.request order.ticker volume)
    (first : Ranking.FirstLeast (fun live => live.time.getD 0) (alike adapter order position world) live) :
    some (toString live.ticket) = brokerRef position := by
  have sends : adapter.Sends world.broker order.request order.ticker volume _ :=
    ⟨ready, (addressed_iff adapter order position world made _ rfl _).mpr ⟨live, first, rfl⟩⟩
  obtain ⟨added, drops, some, named⟩ :=
    finished_adds adapter settings hasContext order view position world found volume _ sends
  obtain ⟨sent, member⟩ := List.exists_mem_of_ne_nil added some
  have references := closes.named sent (drops ▸ member)
  rw [named sent member] at references
  exact references

theorem closes_full (found : world.positions.opened.lookup order.id = some position)
    (closes : ClosesNamed adapter settings hasContext order view position world) (volume : ℚ) (payload : Payload)
    (report : OrderResult) (sends : adapter.Sends world.broker order.request order.ticker volume payload)
    (answered : (adapter.answer world.broker order.request payload).1 = some report)
    (done : report.retcode.getD (-1) = Mt5.retcodeDone) : numberOr report.volume volume = position.quantity := by
  have filled : (execution adapter settings hasContext order view position world).1.fill =
      some (Mt5Broker.filledOf report order.request order.ticker volume world.now) := by
    rw [execution_sends adapter settings hasContext order view position world volume payload sends, answered]
    exact Mt5Broker.interpret_done _ report _ _ volume _ done
  have settled := finished_settled adapter settings hasContext order view position world found _ filled
  refine closes.closed _ filled ?_
  exact fun member => (settled_keys world _ order.id position _ _ settled order.id member).2 rfl

theorem sent_closes (made : order.For position) (found : world.positions.opened.lookup order.id = some position)
    (holds : OldestInFull adapter order position world) (volume : ℚ) (payload : Payload)
    (sends : adapter.Sends world.broker order.request order.ticker volume payload) :
    ClosesNamed adapter settings hasContext order view position world := by
  have whole (fill : Fill)
      (filled : (execution adapter settings hasContext order view position world).1.fill = some fill) :
      fill.quantity = position.quantity := by
    rw [execution_sends adapter settings hasContext order view position world volume payload sends] at filled
    obtain ⟨report, answered, done, rfl⟩ := Mt5Broker.interpret_fill _ _ _ _ volume _ fill filled
    exact holds.full volume payload report sends answered done
  refine ⟨?_, ?_, fun fill filled _ => whole fill filled⟩
  · obtain ⟨live, first, rfl⟩ := (addressed_iff adapter order position world made _ rfl _).mp sends.addressed
    obtain ⟨added, drops, -, named⟩ :=
      finished_adds adapter settings hasContext order view position world found volume _ sends
    intro sent member
    rw [drops] at member
    rw [named sent member]
    exact holds.oldest volume live sends.toReady first
  · intro fill filled
    have settled := finished_settled adapter settings hasContext order view position world found fill filled
    rw [settled.portfolio, whole fill filled, PortfolioManager.onTradeClosed, Position.grossPnl]
    ring

theorem unsent_closes (found : world.positions.opened.lookup order.id = some position)
    (idle : ∀ volume payload, ¬ adapter.Sends world.broker order.request order.ticker volume payload) :
    ClosesNamed adapter settings hasContext order view position world := by
  have quiet := adapter.execute_idle world.broker world.now order.request order.ticker
    (some (slipContext view position.quantity)) false false idle
  have unfilled : (execution adapter settings hasContext order view position world).1.fill = none := quiet.1
  have unsent : (execution adapter settings hasContext order view position world).2.sent = world.broker.sent := quiet.2
  refine ⟨?_, fun fill filled => ?_, fun fill filled => ?_⟩
  · rw [finished_sent adapter settings hasContext order view position world found, unsent, List.drop_length]
    exact List.forall_mem_nil _
  · cases filled.symm.trans unfilled
  · cases filled.symm.trans unfilled

-- A close keeps to the position it is for exactly where that is the oldest
-- live one that goes its way and the terminal fills it in full.
theorem close_names_iff (made : order.For position) (found : world.positions.opened.lookup order.id = some position) :
    ClosesNamed adapter settings hasContext order view position world ↔
      OldestInFull adapter order position world := by
  constructor
  · intro closes
    exact ⟨closes_oldest adapter settings hasContext order view position world made found closes,
      closes_full adapter settings hasContext order view position world found closes⟩
  · intro holds
    by_cases sending : ∃ volume payload, adapter.Sends world.broker order.request order.ticker volume payload
    · obtain ⟨volume, payload, sends⟩ := sending
      exact sent_closes adapter settings hasContext order view position world made found holds volume payload sends
    · exact unsent_closes adapter settings hasContext order view position world found
        (fun volume payload sends => sending ⟨volume, payload, sends⟩)

end

-- A hedging account with two longs of gold, ticket 7 and then ticket 9. The
-- terminal fills what it is sent, or the volume it is told to report.
def twoLongs (reported : Option ℚ) : Terminal Unit where
  symbolInfo _ _ := some { tradeContractSize := some 100 }
  symbolsGet _ := none
  positionsGet _ _ := some [⟨7, "XAUUSD", some 0, some 100, some 777001, 1 / 10, 1990, 1980, 2005⟩,
    ⟨9, "XAUUSD", some 0, some 200, some 777001, 1 / 10, 1995, 1985, 2010⟩]
  accountInfo _ := some (some 10000)
  orderSend _ payload := (some ⟨some 10009, some payload.price, reported, some 11, none⟩, ())
  lastError _ := 0

def gold (ticket : String) (entryPrice : ℚ) : Position := .postInit {
  symbol := "XAUUSD", side := .long, quantity := 1 / 10, initialQuantity := 1 / 10, entryPrice := entryPrice
  initialStop := none, stopLoss := none, takeProfit := none, openedAt := 0
  metadata := { brokerRef := some ticket } }

def hedged : World (Mt5State Unit) :=
  { World.fresh {} {} none { connected := true, terminal := () } ⟨fun _ => some ⟨2000, 2001⟩, fun _ => []⟩ 60000000 with
    positions := { opened := (Dict.empty.insert 0 (gold "7" 1990)).insert 1 (gold "9" 1995) }
    nextId := 2 }

def closing (id : PositionId) : ClosingOrder where
  id := id
  orderId := 3
  ticker := ⟨2000, 2001⟩
  request := { requestId := .fresh 2, symbol := "XAUUSD", side := .sell, quantity := 1 / 10, reduceOnly := true
               reason := "stop_loss" }
  reason := .stopLoss
  exitReasons := []

def quiet : MarketView := ⟨none, none, none, "unknown", "normal", none, none, "asia"⟩

theorem close_names_iff_older :
    ClosesNamed ⟨twoLongs none, 20, 777001⟩ {} false (closing 0) quiet (gold "7" 1990) hedged ↔
      OldestInFull ⟨twoLongs none, 20, 777001⟩ (closing 0) (gold "7" 1990) hedged :=
  close_names_iff _ _ _ _ _ _ _ ⟨rfl, rfl, rfl, rfl, rfl⟩ (by decide +kernel)

-- The close of ticket 9 is sent for ticket 7; and where half of ticket 7 is
-- filled, all of it is booked and closed.
theorem newer_closes_older :
    ¬ ClosesNamed ⟨twoLongs none, 20, 777001⟩ {} false (closing 1) quiet (gold "9" 1995) hedged ∧
      ¬ ClosesNamed ⟨twoLongs (some (1 / 20)), 20, 777001⟩ {} false (closing 0) quiet (gold "7" 1990) hedged := by
  constructor
  · intro closes
    exact absurd closes.named (by decide +kernel)
  · intro closes
    have filled : (execution ⟨twoLongs (some (1 / 20)), 20, 777001⟩ {} false (closing 0) quiet (gold "7" 1990)
        hedged).1.fill.map Fill.quantity = some (1 / 20) := by decide +kernel
    obtain ⟨fill, found, half⟩ := Option.map_eq_some_iff.mp filled
    have whole := closes.closed fill found (by decide +kernel)
    rw [half] at whole
    exact absurd whole (by decide +kernel)

end ClosingTicket

end QuantEngine
