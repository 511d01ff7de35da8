import QuantEngine.Execution.Acceptance
import QuantEngine.Library.Run

set_option autoImplicit false

namespace QuantEngine.ExposureUnits

open ExecutionEngine World
open Decimal (OnGrid roundTo)
open Run (Each)

variable {β : Type}

def worth (contractOf : String → ℚ) (position : Position) : ℚ :=
  position.quantity * contractOf position.symbol * position.markPrice

def onSymbol (positions : List Position) (symbol : String) : List Position :=
  positions.filter (fun position => decide (position.symbol = symbol))

def totalWorth (contractOf : String → ℚ) (positions : List Position) : ℚ := (positions.map (worth contractOf)).sum

-- What happens between two accepted entries: anything that leaves the marks.
inductive Move (β : Type) where
  | entry (decision : DecisionGenerated) (entry : Entry) (view : MarketView)
  | outside (change : Disturbance β)

section

variable (engine : ExecutionEngine β) (contractOf : String → ℚ)

def step (world : World β) : Move β → World β
  | .entry decision entry view => engine.enter decision entry view world
  | .outside change => change.disturb world

def orderWorth (decision : DecisionGenerated) (entry : Entry) (view : MarketView) (world : World β) : ℚ :=
  (engine.entryPlan decision entry view world).sizing.quantity * contractOf entry.symbol * entryReference entry

-- The exposure that the limits are compared with is that of the book and the
-- order, in money.
structure CountsTrue (decision : DecisionGenerated) (entry : Entry) (view : MarketView) (world : World β) : Prop where
  total : (symbolExposures world).values.sum + (engine.entryPlan decision entry view world).sizing.notional =
    totalWorth contractOf world.openPositions + orderWorth engine contractOf decision entry view world
  symbol : ((symbolExposures world).lookup entry.symbol).getD 0 +
      (engine.entryPlan decision entry view world).sizing.notional =
    totalWorth contractOf (onSymbol world.openPositions entry.symbol) +
      orderWorth engine contractOf decision entry view world

structure StaysWithin (entry : Entry) (before after : World β) : Prop where
  total : totalWorth contractOf after.openPositions ≤
    before.portfolio.equity before.openPositions * before.risk.settings.maxExposurePct / 100
  symbol : totalWorth contractOf (onSymbol after.openPositions entry.symbol) ≤
    before.portfolio.equity before.openPositions * before.risk.settings.maxSymbolExposurePct / 100

def OneUnit (world : World β) : Move β → Prop
  | .entry decision entry view => engine.Accepts decision entry view world →
      CountsTrue engine contractOf decision entry view world ∧
        StaysWithin contractOf entry world (engine.enter decision entry view world)
  | .outside _ => True

-- The contract that an entry is sized with is the instrument's, and an order
-- that is filled is filled in full at the reference price.
def FilledInFull (world : World β) : Move β → Prop
  | .entry decision entry view => engine.Accepts decision entry view world →
      (engine.contract entry.symbol world).contractSize = contractOf entry.symbol ∧
        ∀ fill ∈ (engine.entryExecution decision (engine.entryPlan decision entry view world)
            (engine.cleared decision entry view world)).1.fill,
          fill.quantity = (engine.entryPlan decision entry view world).sizing.quantity ∧
            fill.price = entryReference entry
  | .outside _ => True

instance decidableFilled (engine : ExecutionEngine β) (contractOf : String → ℚ) (world : World β) :
    ∀ move, Decidable (FilledInFull engine contractOf world move)
  | .entry decision entry view => inferInstanceAs (Decidable (engine.Accepts decision entry view world →
      (engine.contract entry.symbol world).contractSize = contractOf entry.symbol ∧
        ∀ fill ∈ (engine.entryExecution decision (engine.entryPlan decision entry view world)
            (engine.cleared decision entry view world)).1.fill,
          fill.quantity = (engine.entryPlan decision entry view world).sizing.quantity ∧
            fill.price = entryReference entry))
  | .outside _ => inferInstanceAs (Decidable True)

-- Every position already open is in an instrument of one unit a lot, and the
-- notional of the order has no more than four decimals.
def UnitLots (world : World β) : Move β → Prop
  | .entry decision entry view => engine.Accepts decision entry view world →
      (∀ position ∈ world.openPositions, contractOf position.symbol = 1) ∧
        OnGrid 4 (orderWorth engine contractOf decision entry view world)
  | .outside _ => True

end

theorem exposures_tally (world : World β) :
    symbolExposures world = Dict.tallyFrom Position.symbol Position.notional .empty world.openPositions := rfl

theorem exposures_total (world : World β) :
    (symbolExposures world).values.sum = (world.openPositions.map Position.notional).sum := by
  rw [exposures_tally, Dict.tally_total]
  exact zero_add _

theorem exposures_symbol (world : World β) (symbol : String) :
    ((symbolExposures world).lookup symbol).getD 0 =
      ((onSymbol world.openPositions symbol).map Position.notional).sum := by
  rw [exposures_tally, Dict.tally_lookup]
  exact zero_add _

theorem unit_worth (contractOf : String → ℚ) (positions : List Position)
    (units : ∀ position ∈ positions, contractOf position.symbol = 1) :
    (positions.map Position.notional).sum = totalWorth contractOf positions := by
  refine congrArg List.sum (List.map_congr_left ?_)
  intro position member
  rw [Position.notional, worth, units position member, mul_one]

section

variable (engine : ExecutionEngine β) (contractOf : String → ℚ) (decision : DecisionGenerated) (entry : Entry)
  (view : MarketView) (world : World β)

theorem notional_worth (accepts : engine.Accepts decision entry view world)
    (sized : (engine.contract entry.symbol world).contractSize = contractOf entry.symbol)
    (grid : OnGrid 4 (orderWorth engine contractOf decision entry view world)) :
    (engine.entryPlan decision entry view world).sizing.notional =
      orderWorth engine contractOf decision entry view world := by
  have sizes := PositionSizer.calculate_sizes roundTo _ _ _ _ _ _ _ _ accepts.sized
  have lots : (engine.entryPlan decision entry view world).sizing.quantity = PositionSizer.lotsBy roundTo _ _ :=
    sizes.quantity.trans (Decimal.round_to_grid 8 _ ((engine.contract entry.symbol world).quantize_grid _))
  have exactly : (engine.contract entry.symbol world).units
      (engine.entryPlan decision entry view world).sizing.quantity * entryReference entry =
        orderWorth engine contractOf decision entry view world := by
    rw [InstrumentSpec.units, sized, orderWorth]
  rw [← Decimal.round_to_grid 4 _ grid, ← exactly, lots]
  exact sizes.notional

theorem counts_true (accepts : engine.Accepts decision entry view world)
    (sized : (engine.contract entry.symbol world).contractSize = contractOf entry.symbol)
    (units : ∀ position ∈ world.openPositions, contractOf position.symbol = 1)
    (grid : OnGrid 4 (orderWorth engine contractOf decision entry view world)) :
    CountsTrue engine contractOf decision entry view world := by
  have order := notional_worth engine contractOf decision entry view world accepts sized grid
  refine ⟨?_, ?_⟩
  · rw [exposures_total, unit_worth contractOf _ units, order]
  · have here : ∀ position ∈ onSymbol world.openPositions entry.symbol, contractOf position.symbol = 1 :=
      fun position member => units position (List.mem_filter.mp member).1
    rw [exposures_symbol, unit_worth contractOf _ here, order]

theorem entered_book (known : ∀ id ∈ world.openIds, id < world.nextId)
    (accepts : engine.Accepts decision entry view world)
    (inFull : ∀ fill ∈ (engine.entryExecution decision (engine.entryPlan decision entry view world)
        (engine.cleared decision entry view world)).1.fill,
      fill.quantity = (engine.entryPlan decision entry view world).sizing.quantity ∧
        fill.price = entryReference entry) :
    (engine.enter decision entry view world).openPositions = world.openPositions ∨
      ∃ position, (engine.enter decision entry view world).openPositions = world.openPositions ++ [position] ∧
        position.symbol = entry.symbol ∧ worth contractOf position =
          orderWorth engine contractOf decision entry view world := by
  rcases engine.enter_books decision entry view world accepts with same | ⟨fill, filled, added⟩
  · exact .inl (by rw [openPositions, Managers.openPositions, same]; rfl)
  · obtain ⟨quantity, price⟩ := inFull fill filled
    have symbol : fill.symbol = entry.symbol := (engine.paper.fillsRequest _ _ _ _ _ _ _ fill filled).1
    have unused : world.nextId + 2 ∉ world.positions.opened.keys :=
      fun member => absurd (known _ member) (Nat.not_lt.mpr (Nat.le_add_right _ 2))
    refine .inr ⟨entryPosition decision (engine.entryPlan decision entry view world) fill, ?_, symbol, ?_⟩
    · rw [openPositions, Managers.openPositions, added, PositionManager.add, Dict.values,
        Dict.entries_insert_fresh _ _ _ unused, List.map_append]
      rfl
    · have marked : Position.seeded fill.price fill.price = fill.price := by
        rw [Position.seeded]
        split <;> rfl
      change fill.quantity * contractOf fill.symbol * Position.seeded fill.price fill.price = _
      rw [marked, symbol, quantity, price, orderWorth]

theorem stays_within (accepts : engine.Accepts decision entry view world)
    (order : (engine.entryPlan decision entry view world).sizing.notional =
      orderWorth engine contractOf decision entry view world)
    (counts : CountsTrue engine contractOf decision entry view world)
    (booked : (engine.enter decision entry view world).openPositions = world.openPositions ∨
      ∃ position, (engine.enter decision entry view world).openPositions = world.openPositions ++ [position] ∧
        position.symbol = entry.symbol ∧ worth contractOf position =
          orderWorth engine contractOf decision entry view world) :
    StaysWithin contractOf entry world (engine.enter decision entry view world) := by
  have exposed := world.risk.evaluate_exposed _ _ accepts.risk
  have positive : 0 < orderWorth engine contractOf decision entry view world := order ▸ exposed.notional
  have total := exposed.total
  have symbol := exposed.symbol
  simp only [riskQuery] at total symbol
  rw [show (engine.entryPlan decision entry view world).symbol = entry.symbol from rfl, entry.isUpper] at symbol
  rw [counts.total] at total
  rw [counts.symbol] at symbol
  change _ ≤ world.portfolio.equity world.openPositions * _ / 100 at total symbol
  rcases booked with same | ⟨position, added, here, worthOrder⟩
  · refine ⟨?_, ?_⟩
    · rw [same]
      linarith
    · rw [same]
      linarith
  · have joined : totalWorth contractOf (world.openPositions ++ [position]) =
        totalWorth contractOf world.openPositions + orderWorth engine contractOf decision entry view world := by
      simp only [totalWorth, List.map_append, List.sum_append, List.map_singleton, List.sum_singleton, worthOrder]
    have joinedHere : totalWorth contractOf (onSymbol (world.openPositions ++ [position]) entry.symbol) =
        totalWorth contractOf (onSymbol world.openPositions entry.symbol) +
          orderWorth engine contractOf decision entry view world := by
      simp only [totalWorth, onSymbol, List.filter_append, List.filter_singleton, here, decide_true, cond_true,
        List.map_append, List.sum_append, List.map_singleton, List.sum_singleton, worthOrder]
    refine ⟨?_, ?_⟩
    · rw [added, joined]
      exact total
    · rw [added, joinedHere]
      exact symbol

end

section

variable (engine : ExecutionEngine β) (contractOf : String → ℚ)

def Known (world : World β) : Prop := ∀ id ∈ world.openIds, id < world.nextId

theorem entry_counts (decision : DecisionGenerated) (entry : Entry) (view : MarketView) (world : World β)
    (known : Known world) (filled : FilledInFull engine contractOf world (.entry decision entry view))
    (units : UnitLots engine contractOf world (.entry decision entry view)) :
    OneUnit engine contractOf world (.entry decision entry view) := by
  intro accepts
  obtain ⟨sized, inFull⟩ := filled accepts
  obtain ⟨lots, grid⟩ := units accepts
  have order := notional_worth engine contractOf decision entry view world accepts sized grid
  have counts := counts_true engine contractOf decision entry view world accepts sized lots grid
  exact ⟨counts, stays_within engine contractOf decision entry view world accepts order counts
    (entered_book engine contractOf decision entry view world known accepts inFull)⟩

theorem step_known (world : World β) (move : Move β) (known : Known world) : Known (step engine world move) := by
  cases move with
  | outside change =>
      have quiet := disturb_quiet world change
      intro id member
      rw [step, openIds, quiet.positions] at member
      exact Nat.lt_of_lt_of_le (known id member) quiet.ids
  | entry decision entry view =>
      rw [step]
      rcases engine.enter_effect decision entry view world with quiet | ⟨id, position, kill, breaker, -, opened⟩
      · intro other member
        rw [openIds, quiet.positions] at member
        exact Nat.lt_of_lt_of_le (known other member) quiet.ids
      · intro other member
        rw [openIds, opened.positions] at member
        cases (Dict.mem_keys_insert _ _ _ _).mp member with
          | inl same => exact same ▸ opened.used
          | inr old => exact Nat.lt_of_lt_of_le (known other old) opened.ids

-- In every run of entries that are filled in full at the reference price, the
-- limits are compared with the true exposure as long as what is open when an
-- entry is accepted is in instruments of one unit a lot.
theorem one_unit_run (world : World β) (moves : List (Move β)) (known : Known world)
    (filled : Each (step engine) (FilledInFull engine contractOf) world moves)
    (units : Each (step engine) (UnitLots engine contractOf) world moves) :
    Each (step engine) (OneUnit engine contractOf) world moves := by
  refine Run.each_of_invariant (step engine)
    (fun world move => FilledInFull engine contractOf world move ∧ UnitLots engine contractOf world move) _ Known
    (fun world move known _ => step_known engine world move known) ?_ world moves known
    (Run.each_and _ _ _ world moves filled units)
  intro world move known met
  cases move with
  | outside change => trivial
  | entry decision entry view => exact entry_counts engine contractOf decision entry view world known met.1 met.2

end

def still : PaperBroker :=
  { PaperBroker.midway with
    settings := { commission := { takerBps := 0 }, slippage := { model := "none" }, latency := { enabled := false } } }

def settings : ExecutionSettings :=
  { initialBalance := 100000, risk := { maxPositionsPerSymbol := 5, maxOpenPositions := 9 } }

def start : World PaperState := .fresh settings {} none {} ⟨fun _ => some ⟨1999, 2000⟩, fun _ => []⟩ 0

def buyGold : Move PaperState :=
  .entry ⟨"a", "XAUUSD", "open_long", true, 80, 1, "ruptura"⟩ ⟨"XAUUSD", .buy, ⟨1999, 2000⟩, by decide⟩
    ⟨none, none, some 5, "trending", "normal", none, some 2000, "europe"⟩

def ounces : ExecutionEngine PaperState := { settings := settings, paper := still.broker }

theorem one_unit_run_ounces :
    Each (step ounces) (OneUnit ounces (fun _ => 1)) start [buyGold, buyGold] := by
  refine one_unit_run ounces (fun _ => 1) start _ (fun _ member => absurd member List.not_mem_nil) (by decide +kernel) ?_
  refine ⟨fun _ => ⟨fun _ _ => rfl, 200000000, by decide +kernel⟩, fun _ => ⟨fun _ _ => rfl, 200000000, ?_⟩, trivial⟩
  decide +kernel

-- A lot of a hundred ounces: what is open counts for a hundredth of its worth.
def lots : ExecutionEngine PaperState where
  settings := settings
  paper := { still.broker with instrumentSpec := some (fun _ _ => some ⟨"XAUUSD", 100, 1 / 100, 1 / 100, 0⟩) }

-- The third entry is let through on 20400 and leaves a worth of 60000 where
-- the limit of the symbol is 40000.
theorem gold_counted_in_lots :
    Each (step lots) (FilledInFull lots (fun _ => 100)) start [buyGold, buyGold, buyGold] ∧
      ¬ Each (step lots) (OneUnit lots (fun _ => 100)) start [buyGold, buyGold, buyGold] := by
  refine ⟨by decide +kernel, ?_⟩
  rintro ⟨-, -, third, -⟩
  have within := (third (by decide +kernel)).2.symbol
  exact absurd within (by decide +kernel)

end QuantEngine.ExposureUnits
