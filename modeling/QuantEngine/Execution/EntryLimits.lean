import QuantEngine.Execution.Rules

set_option autoImplicit false

namespace QuantEngine.EntryLimits

open ExecutionEngine World
open Run (Always)

variable {β : Type}

def onSymbol (world : World β) (symbol : String) : List (PositionId × Position) :=
  world.positions.opened.entries.filter (fun entry => decide (entry.2.symbol = symbol))

def WithinLimits (limits : ExecutionRiskSettings) (world : World β) : Prop :=
  (world.positions.openPositions.length : Int) ≤ limits.maxOpenPositions ∧
    ∀ symbol, ((onSymbol world symbol).length : Int) ≤ limits.maxPositionsPerSymbol

def SwitchesOff (world : World β) : Prop :=
  ∀ id killSwitch circuitBreaker, .opened id killSwitch circuitBreaker ∈ world.history →
    killSwitch = false ∧ circuitBreaker = false

structure Inv (limits : ExecutionRiskSettings) (world : World β) : Prop where
  settings : world.risk.settings = limits
  within : WithinLimits limits world
  switches : SwitchesOff world

def symbolCount (symbol : String) (entry : PositionId × Position) : Nat := if entry.2.symbol = symbol then 1 else 0

theorem on_symbol_total (world : World β) (symbol : String) :
    (onSymbol world symbol).length = world.positions.opened.total (symbolCount symbol) := by
  simp only [onSymbol, Dict.filter_total, decide_eq_true_eq]
  rfl

theorem open_total (world : World β) :
    world.positions.openPositions.length = world.positions.opened.total (fun _ => 1) :=
  Dict.size_total _

theorem within_fewer (limits : ExecutionRiskSettings) (world later : World β)
    (fewer : ∀ f : PositionId × Position → Nat, (∀ id a b, a.symbol = b.symbol → f (id, a) = f (id, b)) →
      later.positions.opened.total f ≤ world.positions.opened.total f)
    (within : WithinLimits limits world) : WithinLimits limits later := by
  obtain ⟨total, perSymbol⟩ := within
  refine ⟨?_, ?_⟩
  · rw [open_total] at total ⊢
    have bound := fewer (fun _ => 1) (fun _ _ _ _ => rfl)
    omega
  · intro symbol
    have before := perSymbol symbol
    rw [on_symbol_total] at before ⊢
    have bound := fewer (symbolCount symbol) (fun _ a b same => by simp only [symbolCount, same])
    omega

theorem touched_inv (limits : ExecutionRiskSettings) (world later : World β) (id : PositionId)
    (touched : world.Touched later id) (inv : Inv limits world) : Inv limits later := by
  obtain ⟨f, keeps, changed⟩ := touched.positions
  refine ⟨touched.limits.trans inv.settings, within_fewer limits world later ?_ inv.within, ?_⟩
  · intro g same
    rw [changed]
    exact Nat.le_of_eq (Dict.total_modify g world.positions.opened id f
      (fun position => same id _ _ (keeps.symbol position)))
  · rw [SwitchesOff, touched.history]
    exact inv.switches

theorem settled_inv (limits : ExecutionRiskSettings) (world later : World β) (id : PositionId) (position : Position)
    (fill : Fill) (executed : List Happening) (closing : ∀ happening ∈ executed, happening = .closingExecuted id)
    (settled : world.Settled later id position fill executed) (inv : Inv limits world) : Inv limits later := by
  refine ⟨settled.limits.trans inv.settings, within_fewer limits world later ?_ inv.within, ?_⟩
  · intro f _
    rw [settled_opened world later id position fill executed settled]
    exact Dict.total_erase_le f _ id
  · intro other killSwitch circuitBreaker member
    rw [settled.history] at member
    cases List.mem_append.mp member with
      | inl old => exact inv.switches other killSwitch circuitBreaker old
      | inr fresh =>
          cases List.mem_append.mp fresh with
            | inl order => cases closing _ order
            | inr booked => simp at booked

theorem opened_inv (limits : ExecutionRiskSettings) (world later : World β) (id : PositionId) (position : Position)
    (killSwitch circuitBreaker : Bool) (admitted : Admitted world position killSwitch circuitBreaker)
    (opened : world.Opened later id position killSwitch circuitBreaker) (inv : Inv limits world) :
    Inv limits later := by
  have grows (f : PositionId × Position → Nat) :
      later.positions.opened.total f ≤ world.positions.opened.total f + f (id, position) := by
    rw [opened.positions]
    exact Dict.total_insert_le f _ id position
  refine ⟨opened.limits.trans inv.settings, ⟨?_, ?_⟩, ?_⟩
  · have room := admitted.total
    rw [inv.settings, Dict.size_total] at room
    rw [open_total]
    have bound := grows (fun _ => 1)
    omega
  · intro symbol
    have before := inv.within.2 symbol
    have bound := grows (symbolCount symbol)
    rw [on_symbol_total] at before ⊢
    by_cases here : position.symbol = symbol
    · have room := admitted.symbol
      rw [inv.settings, here, ← onSymbol, on_symbol_total] at room
      simp only [symbolCount, here, if_true] at bound room
      omega
    · simp only [symbolCount, here, if_false] at bound before ⊢
      omega
  · intro other kill breaker member
    rw [opened.history] at member
    cases List.mem_append.mp member with
      | inl old => exact inv.switches other kill breaker old
      | inr fresh =>
          cases List.mem_singleton.mp fresh
          exact ⟨admitted.killSwitch, admitted.circuitBreaker⟩

theorem same_positions_inv (limits : ExecutionRiskSettings) (world later : World β)
    (positions : later.positions = world.positions) (switches : SwitchesOff later)
    (settings : later.risk.settings = world.risk.settings) (inv : Inv limits world) : Inv limits later := by
  refine ⟨settings.trans inv.settings, ?_, switches⟩
  simp only [WithinLimits, onSymbol, positions]
  exact inv.within

theorem quiet_inv (limits : ExecutionRiskSettings) (world later : World β) (quiet : world.Quiet later)
    (inv : Inv limits world) : Inv limits later := by
  refine same_positions_inv limits world later quiet.positions ?_ quiet.limits inv
  rw [SwitchesOff, quiet.history]
  exact inv.switches

theorem valued_inv (limits : ExecutionRiskSettings) (world later : World β) (valued : world.Valued later)
    (inv : Inv limits world) : Inv limits later := by
  refine same_positions_inv limits world later valued.positions ?_ valued.limits inv
  obtain ⟨killSwitch, history, -⟩ := valued.history
  intro id kill breaker member
  rw [history] at member
  cases List.mem_append.mp member with
    | inl old => exact inv.switches id kill breaker old
    | inr fresh => cases List.mem_singleton.mp fresh

theorem sync_inv (engine : ExecutionEngine β) (limits : ExecutionRiskSettings) (world : World β)
    (inv : Inv limits world) : Inv limits (engine.syncBrokerBalance world) := by
  rw [syncBrokerBalance]
  split
  · exact inv
  · exact same_positions_inv limits world _ rfl inv.switches rfl inv

theorem limit_rules (engine : ExecutionEngine β) (limits : ExecutionRiskSettings) :
    engine.Rules (Pool.Sharing (Inv limits) (fun _ _ _ => True)) (fun _ => Inv limits) (fun _ _ _ => True) where
  pause _ _ _ inv := inv
  fail _ _ inv := inv
  rely _ _ _ _ _ relied _ := relied.1
  readyNow _ _ _ _ := trivial
  readyLater _ _ _ _ _ _ := trivial
  drop _ _ _ inv := inv
  take _ _ _ inv := inv
  takeAll _ inv := inv
  quiet _ world later quiet inv := quiet_inv limits world later quiet inv
  valued world later valued inv := valued_inv limits world later valued inv
  touched id _ world later touched inv := touched_inv limits world later id touched inv
  synced world inv := sync_inv engine limits world inv
  opened world later id position _ _ admitted opened inv :=
    opened_inv limits world later id position _ _ admitted opened inv
  external world later id position fill _ settled inv :=
    settled_inv limits world later id position fill [] (List.forall_mem_nil _) settled inv
  finished _ world later order _ position fill _ _ _ settled inv :=
    settled_inv limits world later order.id position fill _ (fun _ member => List.mem_singleton.mp member) settled inv

-- From a state within the limits, every state that any interleaving reaches is
-- within them, and no position was opened with a switch on.
theorem limits_hold (engine : ExecutionEngine β) (session : Session β) (events : List (Event β))
    (idle : session.waiting = []) (unlogged : session.state.history = [])
    (within : WithinLimits session.state.risk.settings session.state) :
    Always engine.run (fun reached => WithinLimits session.state.risk.settings reached.state ∧
      SwitchesOff reached.state) session events := by
  have start : Inv session.state.risk.settings session.state := by
    refine ⟨rfl, within, ?_⟩
    rw [SwitchesOff, unlogged]
    exact fun _ _ _ member => absurd member List.not_mem_nil
  have held := Pool.always_safe engine.perform Disturbance.disturb
    (Inv session.state.risk.settings) (fun _ _ _ => True)
    (fun job world inv => perform_meets (limit_rules engine _) job world inv)
    (fun change world inv => (limit_rules engine _).quiet [] world _ (disturb_quiet world change) inv)
    session events idle start
    (Run.each_of_all _ _ (fun _ event => by cases event <;> simp [Pool.Admissible]) session events)
  exact ⟨⟨held.1.within, held.1.switches⟩, Run.each_mono _ _ _
    (fun _ _ kept => ⟨kept.within, kept.switches⟩) _ _ held.2⟩

def withContext : ExecutionEngine PaperState where
  settings := {}
  paper := PaperBroker.midway.broker
  hasContext := true

def idleSession : Session PaperState where
  state := .fresh {} {} none {} ⟨fun _ => some ⟨2000, 2001⟩, fun _ => []⟩ 0
  waiting := []

def goLong (decisionId : String) : Job := .decide ⟨decisionId, "xauusd", "open_long", true, 80, 1, "ruptura"⟩

def calmView : MarketView := ⟨some 4, some (1 / 5), some 5, "trending", "normal", none, some 2000, "europe"⟩

-- Two decisions on one symbol, both past their first checks when the first of
-- them opens its position.
theorem limits_hold_race :
    Always withContext.run (fun reached => WithinLimits {} reached.state ∧ SwitchesOff reached.state) idleSession
      [.spawn (goLong "a"), .spawn (goLong "b"), .resume 0 (some calmView), .resume 0 (some calmView)] :=
  limits_hold withContext idleSession _ rfl rfl ⟨by decide, fun _ => Int.one_nonneg⟩

example : ((Run.final withContext.run idleSession
    [.spawn (goLong "a"), .spawn (goLong "b"), .resume 0 (some calmView), .resume 0 (some calmView)]).state.openIds) =
      [2] := by decide +kernel

end QuantEngine.EntryLimits
