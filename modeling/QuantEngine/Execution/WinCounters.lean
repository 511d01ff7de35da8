import QuantEngine.Execution.Effects
import Mathlib.Tactic.Linarith

set_option autoImplicit false

namespace QuantEngine.WinCounters

open ExecutionEngine World
open Run (Always Each)

variable {β : Type}

-- An entry that was filled, a close that was filled, with whatever price and
-- commission, and what goes on around the engine.
inductive Booking (β : Type) where
  | opens (decision : DecisionGenerated) (plan : EntryPlan) (orderId : OrderId) (fill : Fill)
  | closes (id : PositionId) (fill : Fill) (reason : ExitReason) (exitReasons : List String)
  | outside (change : Disturbance β)

section

variable (engine : ExecutionEngine β)

def settle (id : PositionId) (position : Position) (fill : Fill) (reason : ExitReason) (exitReasons : List String)
    (world : World β) : World β :=
  record id position fill reason exitReasons (engine.announceBreaker (book id position fill reason exitReasons world))

def step (world : World β) : Booking β → World β
  | .opens decision plan orderId fill => openPosition decision plan orderId fill false false world
  | .closes id fill reason exitReasons =>
      match world.positions.get id with
      | none => world
      | some position => settle engine id position fill reason exitReasons world
  | .outside change => change.disturb world

end

def won (entry : PositionId × Position) : Bool := decide (0 < entry.2.realizedPnl)

def lost (entry : PositionId × Position) : Bool := decide (entry.2.realizedPnl < 0)

structure Tallied (world : World β) : Prop where
  wins : world.portfolio.wins = (world.positions.closed.countP won : Int)
  losses : world.portfolio.losses = (world.positions.closed.countP lost : Int)

-- One trade in the counters, in the record of the journal and in the streak of
-- the risk manager.
structure CountedOnce (before after : World β) (settled : Position) (trade : TradeRecord) : Prop where
  wins : after.portfolio.wins = before.portfolio.wins + if 0 < settled.realizedPnl then 1 else 0
  losses : after.portfolio.losses = before.portfolio.losses + if settled.realizedPnl < 0 then 1 else 0
  winner : trade.isWin = true ↔ 0 < settled.realizedPnl
  streak : after.risk.consecutiveLosses = if settled.realizedPnl < 0 then before.risk.consecutiveLosses + 1
    else if settled.realizedPnl > 0 then 0 else before.risk.consecutiveLosses

def SameTrades (engine : ExecutionEngine β) (world : World β) : Booking β → Prop
  | .closes id fill reason exitReasons => ∀ position, world.positions.get id = some position →
      CountedOnce world (settle engine id position fill reason exitReasons world)
        (position.settled fill.price fill.commission reason exitReasons world.now)
        (tradeRecord world.nextId id (position.settled fill.price fill.commission reason exitReasons world.now) fill
          world.now)
  | _ => True

-- The result that the opening commission, which the portfolio leaves out, does
-- not turn, and that does not vanish in the six decimals of the record.
structure Plain (result opening : ℚ) : Prop where
  unturned : opening = 0 ∨ result < min 0 opening ∨ max 0 opening < result
  visible : result - opening ≤ 0 ∨ 1 / 2000000 < result - opening

def PlainResult (world : World β) : Booking β → Prop
  | .closes id fill _ _ => ∀ position, world.positions.get id = some position →
      Plain (position.grossPnl fill.price - fill.commission) position.commissionPaid
  | _ => True

theorem unturned_iff (result opening : ℚ) :
    (opening = 0 ∨ result < min 0 opening ∨ max 0 opening < result) ↔
      (0 < result ↔ 0 < result - opening) ∧ (result < 0 ↔ result - opening < 0) := by
  rw [lt_min_iff, max_lt_iff]
  constructor
  · rintro (free | ⟨negative, below⟩ | ⟨positive, above⟩)
    · rw [free, sub_zero]
      exact ⟨Iff.rfl, Iff.rfl⟩
    · exact ⟨⟨fun high => by linarith, fun high => by linarith⟩, ⟨fun _ => by linarith, fun _ => negative⟩⟩
    · exact ⟨⟨fun _ => by linarith, fun _ => positive⟩, ⟨fun low => by linarith, fun low => by linarith⟩⟩
  · rintro ⟨gains, losses⟩
    by_cases positive : 0 < result
    · have kept := gains.mp positive
      exact .inr (.inr ⟨positive, by linarith⟩)
    · by_cases negative : result < 0
      · have kept := losses.mp negative
        exact .inr (.inl ⟨negative, by linarith⟩)
      · have even : result = 0 := le_antisymm (not_lt.mp positive) (not_lt.mp negative)
        have noGain := fun gain => positive (gains.mpr gain)
        have noLoss := fun loss => negative (losses.mpr loss)
        rw [even] at noGain noLoss
        exact .inl (le_antisymm (by linarith [not_lt.mp noLoss]) (by linarith [not_lt.mp noGain]))

theorem visible_iff (pnl : ℚ) :
    (pnl ≤ 0 ∨ 1 / 2000000 < pnl) ↔ (decide (Decimal.roundTo 6 pnl > 0) = true ↔ 0 < pnl) := by
  rw [decide_eq_true_iff, gt_iff_lt, Decimal.round_to_pos_iff,
    show Decimal.scale 6 = 1000000 by norm_num [Decimal.scale]]
  constructor
  · intro visible
    constructor
    · intro rounded
      linarith
    · intro positive
      cases visible with
      | inl none => linarith
      | inr large => linarith
  · intro same
    by_cases positive : 0 < pnl
    · have rounded := same.mpr positive
      exact .inr (by linarith)
    · exact .inl (not_lt.mp positive)

theorem counter_iff (count : Int) (p q : Prop) [Decidable p] [Decidable q] :
    (if p then count + 1 else count) = count + (if q then 1 else 0) ↔ (p ↔ q) := by
  by_cases left : p
  · by_cases right : q
    · simp [left, right]
    · simp [left, right]
  · by_cases right : q
    · simp [left, right]
    · simp [left, right]

theorem lost_else (result : ℚ) (count : Int) :
    (if result > 0 then count else if result < 0 then count + 1 else count) = if result < 0 then count + 1 else count := by
  by_cases positive : result > 0
  · rw [if_pos positive, if_neg (not_lt.mpr (le_of_lt positive))]
  · rw [if_neg positive]

theorem breaker_streak (risk : RiskManager) (now : Calendar.Moment) :
    (risk.checkCircuitBreaker now).consecutiveLosses = risk.consecutiveLosses := by
  simp only [RiskManager.checkCircuitBreaker]
  split <;> rfl

section

variable (engine : ExecutionEngine β) (id : PositionId) (position : Position) (fill : Fill) (reason : ExitReason)
  (exitReasons : List String) (world : World β)

theorem announce_streak : (engine.announceBreaker world).risk.consecutiveLosses = world.risk.consecutiveLosses := by
  have same := (world.risk.refresh_frame world.now).2.1
  simp only [announceBreaker]
  split <;> exact same

theorem settle_portfolio : (settle engine id position fill reason exitReasons world).portfolio =
    world.portfolio.onTradeClosed (position.grossPnl fill.price) fill.commission :=
  (engine.breaker_quiet (book id position fill reason exitReasons world)).portfolio

theorem settle_streak : (settle engine id position fill reason exitReasons world).risk.consecutiveLosses =
    (world.risk.onTradeClosed (position.settled fill.price fill.commission reason exitReasons world.now).realizedPnl
      world.now).consecutiveLosses :=
  announce_streak engine (book id position fill reason exitReasons world)

theorem settle_positions : (settle engine id position fill reason exitReasons world).positions =
    (world.positions.close id position fill.price fill.commission reason exitReasons world.now).2 :=
  (engine.breaker_quiet (book id position fill reason exitReasons world)).positions

theorem settled_result : (position.settled fill.price fill.commission reason exitReasons world.now).realizedPnl =
    position.grossPnl fill.price - fill.commission - position.commissionPaid := by
  change position.grossPnl fill.price - (position.commissionPaid + fill.commission) = _
  ring

theorem counted_iff :
    CountedOnce world (settle engine id position fill reason exitReasons world)
        (position.settled fill.price fill.commission reason exitReasons world.now)
        (tradeRecord world.nextId id (position.settled fill.price fill.commission reason exitReasons world.now) fill
          world.now) ↔
      Plain (position.grossPnl fill.price - fill.commission) position.commissionPaid := by
  have result := settled_result position fill reason exitReasons world
  have winner : (tradeRecord world.nextId id (position.settled fill.price fill.commission reason exitReasons world.now)
      fill world.now).isWin = decide (Decimal.roundTo 6
        (position.grossPnl fill.price - fill.commission - position.commissionPaid) > 0) := by
    rw [← result]
    rfl
  have wins : (settle engine id position fill reason exitReasons world).portfolio.wins =
      if position.grossPnl fill.price - fill.commission > 0 then world.portfolio.wins + 1 else world.portfolio.wins := by
    rw [settle_portfolio]
    rfl
  have losses : (settle engine id position fill reason exitReasons world).portfolio.losses =
      if position.grossPnl fill.price - fill.commission < 0 then world.portfolio.losses + 1
      else world.portfolio.losses := by
    rw [settle_portfolio, ← lost_else]
    rfl
  constructor
  · intro counted
    have gains := counted.wins
    have falls := counted.losses
    have seen := counted.winner
    rw [wins, result, counter_iff] at gains
    rw [losses, result, counter_iff] at falls
    rw [winner, result] at seen
    exact ⟨(unturned_iff _ _).mpr ⟨gains, falls⟩, (visible_iff _).mpr seen⟩
  · intro plain
    obtain ⟨gains, falls⟩ := (unturned_iff _ _).mp plain.unturned
    refine ⟨?_, ?_, ?_, ?_⟩
    · rw [wins, result, counter_iff]
      exact gains
    · rw [losses, result, counter_iff]
      exact falls
    · rw [winner, result]
      exact (visible_iff _).mp plain.visible
    · rw [settle_streak]
      exact breaker_streak _ _

end

structure Inv (world : World β) : Prop extends Tallied world where
  apart : ∀ entry ∈ world.positions.closed, entry.1 ∉ world.openIds
  below : ∀ id ∈ world.openIds, id < world.nextId
  closedBelow : ∀ entry ∈ world.positions.closed, entry.1 < world.nextId

theorem quiet_inv (world later : World β) (quiet : world.Quiet later) (inv : Inv world) : Inv later := by
  refine ⟨⟨?_, ?_⟩, ?_, ?_, ?_⟩
  · rw [quiet.portfolio, quiet.positions]
    exact inv.wins
  · rw [quiet.portfolio, quiet.positions]
    exact inv.losses
  · rw [openIds, quiet.positions]
    exact inv.apart
  · intro id member
    rw [openIds, quiet.positions] at member
    exact Nat.lt_of_lt_of_le (inv.below id member) quiet.ids
  · intro entry member
    rw [quiet.positions] at member
    exact Nat.lt_of_lt_of_le (inv.closedBelow entry member) quiet.ids

theorem opens_inv (decision : DecisionGenerated) (plan : EntryPlan) (orderId : OrderId) (fill : Fill) (world : World β)
    (inv : Inv world) : Inv (openPosition decision plan orderId fill false false world) := by
  have ids : (openPosition decision plan orderId fill false false world).nextId = world.nextId + 1 := rfl
  have keys (id : PositionId) (member : id ∈ (openPosition decision plan orderId fill false false world).openIds) :
      id = world.nextId ∨ id ∈ world.openIds := (Dict.mem_keys_insert _ _ _ _).mp member
  refine ⟨⟨inv.wins, inv.losses⟩, ?_, ?_, ?_⟩
  · intro entry member present
    cases keys entry.1 present with
    | inl fresh => exact Nat.lt_irrefl _ (fresh ▸ inv.closedBelow entry member)
    | inr old => exact inv.apart entry member old
  · intro id member
    rw [ids]
    cases keys id member with
    | inl fresh => exact fresh ▸ Nat.lt_succ_self _
    | inr old => exact Nat.lt_succ_of_lt (inv.below id old)
  · intro entry member
    rw [ids]
    exact Nat.lt_succ_of_lt (inv.closedBelow entry member)

section

variable (engine : ExecutionEngine β) (id : PositionId) (position : Position) (fill : Fill) (reason : ExitReason)
  (exitReasons : List String) (world : World β)

theorem settle_closed (found : world.positions.get id = some position) (inv : Inv world) :
    (settle engine id position fill reason exitReasons world).positions.closed = world.positions.closed ++
      [(id, position.settled fill.price fill.commission reason exitReasons world.now)] := by
  rw [settle_positions]
  change world.positions.closed.map _ ++ _ = _
  congr 1
  refine (List.map_congr_left (fun entry member => ?_)).trans (List.map_id' _)
  have other : entry.1 ≠ id :=
    fun same => inv.apart entry member (same ▸ Dict.mem_keys_of_lookup _ id position found)
  rw [Dict.modifyEntry, if_neg other]

theorem settle_keys (other : PositionId)
    (member : other ∈ (settle engine id position fill reason exitReasons world).openIds) :
    other ≠ id ∧ other ∈ world.openIds := by
  rw [openIds, settle_positions] at member
  have erased := (Dict.mem_keys_erase _ id other).mp member
  rw [PositionManager.modify, Dict.keys_modify] at erased
  exact ⟨erased.2, erased.1⟩

theorem settle_inv (found : world.positions.get id = some position) (inv : Inv world)
    (plain : Plain (position.grossPnl fill.price - fill.commission) position.commissionPaid) :
    Inv (settle engine id position fill reason exitReasons world) := by
  have counted := (counted_iff engine id position fill reason exitReasons world).mpr plain
  have closed := settle_closed engine id position fill reason exitReasons world found inv
  have present := Dict.mem_keys_of_lookup _ id position found
  have ids : world.nextId ≤ (settle engine id position fill reason exitReasons world).nextId :=
    Nat.le_succ_of_le (engine.breaker_quiet (book id position fill reason exitReasons world)).ids
  refine ⟨⟨?_, ?_⟩, ?_, ?_, ?_⟩
  · rw [counted.wins, closed, inv.wins, List.countP_append, List.countP_singleton, won]
    push_cast
    simp only [decide_eq_true_eq]
  · rw [counted.losses, closed, inv.losses, List.countP_append, List.countP_singleton, lost]
    push_cast
    simp only [decide_eq_true_eq]
  · intro entry member open_
    obtain ⟨other, old⟩ := settle_keys engine id position fill reason exitReasons world entry.1 open_
    rw [closed] at member
    cases List.mem_append.mp member with
    | inl before => exact inv.apart entry before old
    | inr last =>
        rw [List.mem_singleton.mp last] at other
        exact other rfl
  · intro other open_
    have old := (settle_keys engine id position fill reason exitReasons world other open_).2
    exact Nat.lt_of_lt_of_le (inv.below other old) ids
  · intro entry member
    rw [closed] at member
    cases List.mem_append.mp member with
    | inl before => exact Nat.lt_of_lt_of_le (inv.closedBelow entry before) ids
    | inr last =>
        rw [List.mem_singleton.mp last]
        exact Nat.lt_of_lt_of_le (inv.below id present) ids

end

theorem step_inv (engine : ExecutionEngine β) (world : World β) (booking : Booking β) (inv : Inv world)
    (plain : PlainResult world booking) : Inv (step engine world booking) := by
  cases booking with
  | opens decision plan orderId fill => exact opens_inv decision plan orderId fill world inv
  | outside change => exact quiet_inv world _ (disturb_quiet world change) inv
  | closes id fill reason exitReasons =>
      rw [step]
      cases found : world.positions.get id with
      | none => exact inv
      | some position =>
          exact settle_inv engine id position fill reason exitReasons world found inv (plain position found)

theorem same_trades_iff (engine : ExecutionEngine β) (world : World β) (booking : Booking β) :
    SameTrades engine world booking ↔ PlainResult world booking := by
  cases booking with
  | opens decision plan orderId fill => exact Iff.rfl
  | outside change => exact Iff.rfl
  | closes id fill reason exitReasons =>
      exact forall_congr' (fun position => imp_congr_right (fun _ =>
        counted_iff engine id position fill reason exitReasons world))

-- From a fresh engine, the counters are those of the ledger after every step
-- and every trade counts alike everywhere, in just the runs whose closes all
-- have a plain result.
theorem counters_agree_iff (engine : ExecutionEngine β) (settings : ExecutionSettings) (journal : TradeJournal)
    (bus : Option EventBus) (broker : β) (market : Market) (now : Calendar.Moment) (bookings : List (Booking β)) :
    Each (step engine) (fun world booking => SameTrades engine world booking ∧ Tallied (step engine world booking))
        (.fresh settings journal bus broker market now) bookings ↔
      Each (step engine) PlainResult (.fresh settings journal bus broker market now) bookings := by
  refine Run.each_iff (step engine) _ PlainResult Inv (fun world booking inv => ?_)
    (fun world booking inv plain => step_inv engine world booking inv plain) _ bookings ?_
  · constructor
    · intro agree
      exact (same_trades_iff engine world booking).mp agree.1
    · intro plain
      exact ⟨(same_trades_iff engine world booking).mpr plain, (step_inv engine world booking inv plain).toTallied⟩
  · refine ⟨⟨rfl, rfl⟩, ?_, ?_, ?_⟩
    · exact fun _ member => absurd member List.not_mem_nil
    · exact fun _ member => absurd member List.not_mem_nil
    · exact fun _ member => absurd member List.not_mem_nil

def midwayEngine : ExecutionEngine PaperState := { settings := {}, paper := PaperBroker.midway.broker }

theorem gold_upper : upper "XAUUSD" = "XAUUSD" := by decide

def goldPlan : EntryPlan where
  symbol := "XAUUSD"
  side := .buy
  ticker := ⟨1999, 2000⟩
  isUpper := gold_upper
  view := ⟨none, none, none, "trending", "normal", none, none, "europe"⟩
  stopLoss := 1990
  takeProfit := 2020
  equity := 10000
  sizing := ⟨1, "fixed_risk", 10, 10, 2000, "", 1⟩

def charged (side : OrderSide) (price : ℚ) : Fill :=
  { requestId := .fresh 0, symbol := "XAUUSD", side := side, quantity := 1, requestedQuantity := 1,
    referencePrice := price, price := price, commission := 1, executedAt := 0 }

-- A gain of 1.5 on the price, with a commission of 1 each way: the portfolio
-- counts a win, the ledger and the streak count a loss.
theorem gain_below_commissions :
    ¬ Tallied (Run.final (step midwayEngine) (.fresh {} {} none {} ⟨fun _ => none, fun _ => []⟩ 0)
      [.opens ⟨"a", "XAUUSD", "open_long", true, 80, 1, ""⟩ goldPlan 1 (charged .buy 2000),
        .closes 0 (charged .sell (4003 / 2)) .manual []]) := by
  intro tallied
  have wins := tallied.wins
  revert wins
  decide +kernel

end QuantEngine.WinCounters
