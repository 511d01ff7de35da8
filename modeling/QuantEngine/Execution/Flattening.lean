import QuantEngine.Execution.Rules
import QuantEngine.Execution.Steady

set_option autoImplicit false

namespace QuantEngine.Flattening

open ExecutionEngine World
open Run (Always Each)

variable {β : Type}

def OpensNothing (world later : World β) : Prop :=
  ∀ id position, later.positions.opened.lookup id = some position →
    ∃ before, world.positions.opened.lookup id = some before ∧ position.symbol = before.symbol ∧
      position.quantity = before.quantity

theorem opens_nothing_same (world later : World β) (same : later.positions = world.positions) :
    OpensNothing world later := by
  intro id position found
  rw [same] at found
  exact ⟨position, found, rfl, rfl⟩

theorem opens_nothing_trans (a b c : World β) (first : OpensNothing a b) (second : OpensNothing b c) :
    OpensNothing a c := by
  intro id position found
  obtain ⟨middle, there, symbol, quantity⟩ := second id position found
  obtain ⟨before, here, symbolBefore, quantityBefore⟩ := first id middle there
  exact ⟨before, here, symbol.trans symbolBefore, quantity.trans quantityBefore⟩

theorem opens_nothing_keys (world later : World β) (nothing : OpensNothing world later) (id : PositionId)
    (member : id ∈ later.openIds) : id ∈ world.openIds := by
  obtain ⟨position, found⟩ := Dict.lookup_of_mem_keys _ id member
  obtain ⟨before, here, -⟩ := nothing id position found
  exact Dict.mem_keys_of_lookup _ id before here

theorem touched_opens_nothing (world later : World β) (id : PositionId) (touched : world.Touched later id) :
    OpensNothing world later := by
  obtain ⟨f, keeps, changed⟩ := touched.positions
  intro other position found
  rw [changed, PositionManager.modify] at found
  by_cases here : other = id
  · subst here
    cases before : world.positions.opened.lookup other with
    | none =>
        have absent := (Dict.lookup_none_iff _ other).mp before
        have present := Dict.mem_keys_of_lookup _ other position found
        rw [Dict.keys_modify] at present
        exact (absent present).elim
    | some old =>
        rw [Dict.lookup_modify_here _ other f old before] at found
        cases found
        exact ⟨old, rfl, keeps.symbol old, keeps.quantity old⟩
  · rw [Dict.lookup_modify_other _ id other f here] at found
    exact ⟨position, found, rfl, rfl⟩

theorem settled_opens_nothing (world later : World β) (id : PositionId) (position : Position) (fill : Fill)
    (executed : List Happening) (settled : world.Settled later id position fill executed) :
    OpensNothing world later := by
  intro other left found
  rw [settled_opened world later id position fill executed settled, Dict.lookup_erase] at found
  by_cases here : other = id
  · rw [if_pos here] at found
    cases found
  · rw [if_neg here] at found
    exact ⟨left, found, rfl, rfl⟩

variable (engine : ExecutionEngine β)

theorem finish_opens_nothing (order : ClosingOrder) (view : MarketView) (world : World β) :
    OpensNothing world (engine.finishClose order view world) := by
  cases found : world.positions.object order.id with
  | none =>
      have nothing : engine.finishClose order view world = world := by simp only [finishClose, found]
      exact opens_nothing_same _ _ (by rw [nothing])
  | some position =>
      rcases engine.finish_close_effect order view world position found with ⟨-, quiet⟩ | ⟨fill, -, settled⟩
      · exact opens_nothing_same _ _ quiet.positions
      · exact settled_opens_nothing world _ order.id position fill _ settled

theorem act_opens_nothing (operation : Operation) (world : World β) (managing : operation.entering = false) :
    OpensNothing world (engine.act operation world) := by
  cases operation with
  | screen decision => exact opens_nothing_same _ _ (engine.screen_quiet decision world).positions
  | enter decision entry view => cases managing
  | startClose id reason exitReasons =>
      exact opens_nothing_same _ _ (start_close_quiet id reason exitReasons world).positions
  | finishClose order view => exact finish_opens_nothing engine order view world
  | markAndManage id => exact touched_opens_nothing world _ id (engine.mark_and_manage_effect id world)
  | readRegime id view => exact touched_opens_nothing world _ id (engine.read_regime_effect id view world)
  | refreshRisk => exact opens_nothing_same _ _ (refresh_risk_effect world).positions
  | modifyStop id stopLoss => exact touched_opens_nothing world _ id (modify_stop_effect id stopLoss world)
  | moveBreakEven id => exact touched_opens_nothing world _ id (break_even_effect id world)

theorem enter_opens_nothing (decision : DecisionGenerated) (entry : Entry) (view : MarketView) (world : World β)
    (engaged : world.risk.killSwitchActive = true) : OpensNothing world (engine.enter decision entry view world) := by
  refine opens_nothing_same _ _ (engine.enter_refused decision entry view world ?_).1.positions
  intro accepts
  cases (world.risk.evaluate_allowed _ _ accepts.risk).1.symm.trans engaged

def Sized (world : World β) : Prop :=
  ∀ id position, world.positions.opened.lookup id = some position → 0 < position.quantity

def Tradable (ticker : Ticker) : Prop := 0 < ticker.bid ∧ ticker.bid ≤ ticker.ask

def Quoted (world : World β) : Prop :=
  ∀ id position, world.positions.opened.lookup id = some position →
    ∃ ticker, world.market.tickers position.symbol = some ticker ∧ Tradable ticker

theorem sized_carried (world later : World β) (nothing : OpensNothing world later) (sized : Sized world) :
    Sized later := by
  intro id position found
  obtain ⟨before, here, -, quantity⟩ := nothing id position found
  rw [quantity]
  exact sized id before here

theorem quoted_carried (world later : World β) (nothing : OpensNothing world later)
    (market : later.market = world.market) (quoted : Quoted world) : Quoted later := by
  intro id position found
  obtain ⟨before, here, symbol, -⟩ := nothing id position found
  rw [symbol, market]
  exact quoted id before here

theorem manages_steady : engine.Manages (fun world later => Steady world later ∧ OpensNothing world later) where
  refl world := ⟨.refl world, opens_nothing_same world world rfl⟩
  trans a b c first second := ⟨first.1.trans second.1, opens_nothing_trans a b c first.2 second.2⟩
  each operation world managing := ⟨engine.act_steady operation world, act_opens_nothing engine operation world managing⟩

-- What a stretch of any task does to the book. While the switch is engaged it
-- stays so, and nothing is opened.
structure Stretch (world later : World β) : Prop where
  sized : Sized world → Sized later
  engaged : world.risk.killSwitchActive = true → later.risk.killSwitchActive = true
  nothing : world.risk.killSwitchActive = true → OpensNothing world later

section

variable (paper : PaperBroker) (settings : ExecutionSettings) (hasContext : Bool)

def simulated : ExecutionEngine PaperState := ⟨settings, paper.broker, hasContext⟩

theorem plan_on_grid (decision : DecisionGenerated) (entry : Entry) (view : MarketView) (world : World β)
    (sized : 0 < (engine.entryPlan decision entry view world).sizing.quantity) :
    Decimal.OnGrid 8 (engine.entryPlan decision entry view world).sizing.quantity := by
  have sizes := PositionSizer.calculate_sizes Decimal.roundTo _ _ _ _ _ _ _ _ sized
  exact sizes.quantity ▸ Decimal.round_to_on_grid 8 _

theorem enter_sized (decision : DecisionGenerated) (entry : Entry) (view : MarketView) (world : World PaperState)
    (sized : Sized world) : Sized ((simulated paper settings hasContext).enter decision entry view world) := by
  let engine := simulated paper settings hasContext
  by_cases accepts : engine.Accepts decision entry view world
  · rcases engine.enter_books decision entry view world accepts with same | ⟨fill, filled, added⟩
    · exact sized_carried world _ (opens_nothing_same _ _ same) sized
    · intro id position found
      rw [added, PositionManager.add, Dict.lookup_insert] at found
      by_cases here : id = world.nextId + 2
      · rw [if_pos here] at found
        cases found
        exact paper.execute_quantity_pos _ _ _ _ _ _ _ fill filled
          (plan_on_grid engine decision entry view world accepts.sized)
      · rw [if_neg here] at found
        exact sized id position found
  · have refused := (engine.enter_refused decision entry view world accepts).1
    exact sized_carried world _ (opens_nothing_same _ _ refused.positions) sized

theorem simulated_operates : (simulated paper settings hasContext).Operates Stretch where
  refl world := ⟨fun sized => sized, fun engaged => engaged, fun _ => opens_nothing_same world world rfl⟩
  trans a b c first second :=
    ⟨fun sized => second.sized (first.sized sized), fun engaged => second.engaged (first.engaged engaged),
      fun engaged => opens_nothing_trans a b c (first.nothing engaged) (second.nothing (first.engaged engaged))⟩
  each operation world managing := by
    have nothing := act_opens_nothing (simulated paper settings hasContext) operation world managing
    have steady := (simulated paper settings hasContext).act_steady operation world
    exact ⟨sized_carried world _ nothing, steady.engaged, fun _ => nothing⟩
  enter decision entry view world := by
    have steady := (simulated paper settings hasContext).enter_steady decision entry view world
    exact ⟨enter_sized paper settings hasContext decision entry view world, steady.engaged,
      enter_opens_nothing (simulated paper settings hasContext) decision entry view world⟩

theorem simulated_guarantees (job : Job) (world : World PaperState) :
    ((simulated paper settings hasContext).perform job world).Guarantees Stretch world := by
  have operates := simulated_operates paper settings hasContext
  exact perform_operates operates job world (fun _ => operates.refl world)

-- A pass may rely on this where it is suspended: an engaged switch is not
-- released and nothing is opened under it, and what is open can be priced.
def Undisturbed : Contract (World β) SuspensionPoint (Option MarketView) where
  pause _ _ := True
  rely _ world later _ := Sized later ∧ Quoted later ∧
    (world.risk.killSwitchActive = true → later.risk.killSwitchActive = true ∧ OpensNothing world later)
  fail _ := True

structure Doomed (ids : List PositionId) (world : World β) : Prop where
  engaged : world.risk.killSwitchActive = true
  sized : Sized world
  quoted : Quoted world
  left : ∀ id ∈ world.openIds, id ∈ ids

theorem doomed_carried (ids : List PositionId) (world later : World β) (steady : Steady world later)
    (nothing : OpensNothing world later) (doomed : Doomed ids world) : Doomed ids later where
  engaged := steady.engaged doomed.engaged
  sized := sized_carried world later nothing doomed.sized
  quoted := quoted_carried world later nothing steady.market doomed.quoted
  left id member := doomed.left id (opens_nothing_keys world later nothing id member)

theorem doomed_relied (ids : List PositionId) (point : SuspensionPoint) (world later : World β)
    (input : Option MarketView) (relied : Undisturbed.rely point world later input) (doomed : Doomed ids world) :
    Doomed ids later := by
  obtain ⟨sized, quoted, kept⟩ := relied
  obtain ⟨engaged, nothing⟩ := kept doomed.engaged
  exact ⟨engaged, sized, quoted, fun id member => doomed.left id (opens_nothing_keys world later nothing id member)⟩

theorem doomed_rest (id : PositionId) (rest : List PositionId) (world : World β) (doomed : Doomed (id :: rest) world)
    (gone : id ∉ world.openIds) : Doomed rest world where
  engaged := doomed.engaged
  sized := doomed.sized
  quoted := doomed.quoted
  left other member := by
    cases List.mem_cons.mp (doomed.left other member) with
    | inl same => exact (gone (same ▸ member)).elim
    | inr later => exact later

theorem closing_filled (order : ClosingOrder) (position held : Position) (made : order.For held)
    (positive : 0 < held.quantity) (tradable : Tradable order.ticker) (view : MarketView) (world : World PaperState) :
    ((simulated paper settings hasContext).closeExecution order position view world).1.fill.isSome = true :=
  paper.execute_fills _ _ _ _ _ _ made.orderType (made.quantity ▸ positive) tradable.1 tradable.2

theorem finish_flattens (order : ClosingOrder) (held : Position) (made : order.For held) (positive : 0 < held.quantity)
    (tradable : Tradable order.ticker) (view : MarketView) (rest : List PositionId) (world : World PaperState)
    (doomed : Doomed (order.id :: rest) world) :
    Doomed rest ((simulated paper settings hasContext).finishClose order view world) := by
  let engine := simulated paper settings hasContext
  have later := doomed_carried (order.id :: rest) world _ (engine.finish_close_steady order view world)
    (finish_opens_nothing engine order view world) doomed
  refine doomed_rest order.id rest _ later ?_
  cases found : world.positions.object order.id with
  | none =>
      have absent : world.positions.opened.lookup order.id = none := by
        rw [PositionManager.object] at found
        split at found
        · cases found
        · assumption
      intro member
      exact (Dict.lookup_none_iff _ _).mp absent
        (opens_nothing_keys world _ (finish_opens_nothing engine order view world) order.id member)
  | some position =>
      have filled := closing_filled paper settings hasContext order position held made positive tradable view world
      rcases engine.finish_close_effect order view world position found with ⟨unfilled, -⟩ | ⟨fill, -, settled⟩
      · rw [unfilled] at filled
        cases filled
      · intro member
        exact (settled_keys world _ order.id position fill _ settled order.id member).2 rfl

theorem close_flattens (id : PositionId) (rest : List PositionId) (world : World PaperState)
    (doomed : Doomed (id :: rest) world) :
    ((simulated paper settings hasContext).closePosition id .killSwitch [] world).Meets Undisturbed
      (fun _ later => Doomed rest later) := by
  have steady := start_close_steady id .killSwitch [] world
  have quiet := start_close_quiet id .killSwitch [] world
  have started := doomed_carried (id :: rest) world _ steady (opens_nothing_same _ _ quiet.positions) doomed
  rw [closePosition, Task.meets_seq, Task.meets_sync]
  cases outcome : (startClose id .killSwitch [] world).1 with
  | none =>
      refine doomed_rest id rest _ started ?_
      intro member
      rw [openIds, quiet.positions] at member
      obtain ⟨position, found⟩ := Dict.lookup_of_mem_keys _ id member
      obtain ⟨ticker, priced, -⟩ := doomed.quoted id position found
      cases priced.symm.trans (start_close_idle id _ _ world outcome position found)
  | some order =>
      obtain ⟨rfl, held, found, made, priced⟩ := start_close_for id _ _ world order outcome
      obtain ⟨ticker, quoted, tradable⟩ := doomed.quoted order.id held found
      cases priced.symm.trans quoted
      have positive := doomed.sized order.id held found
      have finish := finish_flattens paper settings hasContext order held made positive tradable
      rw [Task.meets_seq]
      refine market_view_meets _ Undisturbed _ _ _ _ trivial (fun _ _ => trivial) ?_ ?_
      · exact fun view => finish view rest _ started
      · intro view later relied
        exact finish view rest later (doomed_relied _ _ _ later _ relied started)

theorem refresh_flattens (world : World PaperState) (sized : Sized world) (quoted : Quoted world) :
    ((simulated paper settings hasContext).refreshRisk world).Meets Undisturbed
      (fun _ later => later.risk.killSwitchActive = true → later.openIds = []) := by
  have steady := refresh_risk_steady world
  have nothing := opens_nothing_same _ _ (refresh_risk_effect world).positions
  have doomedIds := refresh_risk_doomed world
  rw [refreshRisk, Task.meets_seq, Task.meets_sync, doomedIds]
  by_cases engaged : (refreshRiskState world).2.risk.killSwitchActive = true
  · rw [if_pos engaged]
    have doomed : Doomed world.openIds (refreshRiskState world).2 :=
      ⟨engaged, sized_carried world _ nothing sized, quoted_carried world _ nothing steady.market quoted,
        fun id member => opens_nothing_keys world _ nothing id member⟩
    refine Co.meets_mono _ _ _ _ ?_ (Task.each_meets Undisturbed _ Doomed ?_ world.openIds _ doomed)
    · intro _ later flat _
      exact List.eq_nil_iff_forall_not_mem.mpr (fun id member => List.not_mem_nil (flat.left id member))
    · exact fun id rest later here => close_flattens paper settings hasContext id rest later here
  · rw [if_neg engaged]
    exact fun active => (engaged active).elim

theorem pass_flattens (world : World PaperState) (sized : Sized world) (quoted : Quoted world) :
    ((simulated paper settings hasContext).manageOnce world).Meets Undisturbed
      (fun _ later => later.risk.killSwitchActive = true → later.openIds = []) := by
  let engine := simulated paper settings hasContext
  have guaranteed := manage_open_guarantees (manages_steady engine) (engine.catchUp world)
  have managed : (engine.manageOpen (engine.catchUp world)).Meets Undisturbed
      (fun _ later => Sized later ∧ Quoted later) := by
    refine Co.meets_of_guarantees Undisturbed _ (fun later => Sized later ∧ Quoted later) ?_ (fun _ _ _ => trivial)
      (fun _ _ => trivial) ?_ _ _ guaranteed ⟨sized, quoted⟩
    · exact fun a b stretch priced => ⟨sized_carried a b stretch.2 priced.1,
        quoted_carried a b stretch.2 stretch.1.market priced.2⟩
    · exact fun _ _ later _ relied _ => ⟨relied.1, relied.2.1⟩
  rw [manage_once_caught_up, Task.meets_seq]
  refine Co.meets_mono _ _ _ _ ?_ managed
  exact fun _ later priced => refresh_flattens paper settings hasContext later priced.1 priced.2

-- Every open position can be closed at any valid quote, and a pass that
-- returns with the switch engaged leaves none open.
structure Flattens (engine : ExecutionEngine PaperState) (world : World PaperState) : Prop where
  sized : Sized world
  closable : ∀ id reason exitReasons order, (startClose id reason exitReasons world).1 = some order →
    Tradable order.ticker → ∀ position view later,
      (engine.closeExecution order position view later).1.fill.isSome = true
  flattens : Quoted world → (engine.manageOnce world).Meets Undisturbed
    (fun _ later => later.risk.killSwitchActive = true → later.openIds = [])

def releases : Event β → Bool
  | .environment .resetKillSwitch => true
  | _ => false

def HoldsBack (engine : ExecutionEngine β) (reached : Session β) (event : Event β) : Prop :=
  reached.state.risk.killSwitchActive = true →
    OpensNothing reached.state (engine.run reached event).state ∧
      (releases event = false → (engine.run reached event).state.risk.killSwitchActive = true)

theorem sized_flattens (world : World PaperState) (sized : Sized world) :
    Flattens (simulated paper settings hasContext) world where
  sized := sized
  closable id reason exitReasons order started tradable position view later := by
    obtain ⟨-, held, found, made, -⟩ := start_close_for id reason exitReasons world order started
    exact closing_filled paper settings hasContext order position held made (sized id held found) tradable view later
  flattens quoted := pass_flattens paper settings hasContext world sized quoted

theorem disturb_holds_back (change : Disturbance β) (world : World β) (engaged : world.risk.killSwitchActive = true)
    (kept : releases (.environment change : Event β) = false) :
    (change.disturb world).risk.killSwitchActive = true := by
  cases change with
  | resetKillSwitch => cases kept
  | engageKillSwitch reason => rfl
  | _ => exact engaged

-- From any book of positive quantities, such as an empty one, in every run of
-- the engine with the simulated broker.
theorem kill_switch_flattens (session : Session PaperState) (events : List (Event PaperState))
    (idle : session.waiting = []) (sized : Sized session.state) :
    Always (simulated paper settings hasContext).run
        (fun reached => Flattens (simulated paper settings hasContext) reached.state) session events ∧
      Each (simulated paper settings hasContext).run (HoldsBack (simulated paper settings hasContext)) session
        events := by
  let engine := simulated paper settings hasContext
  have unconditional := Run.each_of_all engine.run (Pool.Starts (fun _ _ => True))
    (fun _ action => by cases action <;> trivial) session events
  have stretched := Pool.each_guaranteed engine.perform Disturbance.disturb Stretch (fun _ _ => True)
    (simulated_operates paper settings hasContext).refl
    (fun job world _ => simulated_guarantees paper settings hasContext job world) session events idle unconditional
  have outside (change : Disturbance PaperState) (world : World PaperState) :
      OpensNothing world (change.disturb world) := opens_nothing_same _ _ (disturb_quiet world change).positions
  constructor
  · have carried : Run.Along engine.run (fun before after => Sized before.state → Sized after.state) session events := by
      refine Run.each_mono _ _ _ ?_ session events stretched
      intro reached event inside
      cases event with
      | spawn job => exact (inside rfl).sized
      | resume index input => exact (inside rfl).sized
      | environment change => exact sized_carried _ _ (outside change reached.state)
    have always := Run.always_of_along engine.run _ (fun reached => Sized reached.state)
      (fun _ _ carries kept => carries kept) session events sized carried
    have flattens (reached : Session PaperState) (kept : Sized reached.state) : Flattens engine reached.state :=
      sized_flattens paper settings hasContext reached.state kept
    exact ⟨flattens session always.1, Run.each_mono _ _ _ (fun _ _ kept => flattens _ kept) _ _ always.2⟩
  · refine Run.each_mono _ _ _ ?_ session events stretched
    intro reached event inside engaged
    cases event with
    | spawn job => exact ⟨(inside rfl).nothing engaged, fun _ => (inside rfl).engaged engaged⟩
    | resume index input => exact ⟨(inside rfl).nothing engaged, fun _ => (inside rfl).engaged engaged⟩
    | environment change =>
        exact ⟨outside change reached.state, disturb_holds_back change reached.state engaged⟩

end

-- A broker that fills every entry in part, of which it fills the least.
def sparing : PaperBroker where
  settings := { partialFillProbability := 1 }
  rng := .constant 0 (by norm_num) (by norm_num)
  slippageRng := .constant 0 (by norm_num) (by norm_num)
  latencyRng := .constant 0 (by norm_num) (by norm_num)

def smallest : SizingSettings := { method := "fixed_amount", fixedAmount := 60001 / 100000000 }

def empty : Session PaperState where
  state := World.fresh {} {} none {} ⟨fun _ => some ⟨60000, 60001⟩, fun _ => []⟩ 0
  waiting := []

def openedThenKilled : List (Event PaperState) :=
  [.spawn (.decide ⟨"a", "btcusd", "open_long", true, 80, 1, "ruptura"⟩),
    .environment (.engageKillSwitch "manual"), .spawn .manage]

theorem kill_switch_flattens_smallest :
    Always (simulated sparing { sizing := smallest } false).run
        (fun reached => Flattens (simulated sparing { sizing := smallest } false) reached.state) empty
        openedThenKilled ∧
      Each (simulated sparing { sizing := smallest } false).run
        (HoldsBack (simulated sparing { sizing := smallest } false)) empty openedThenKilled :=
  kill_switch_flattens sparing { sizing := smallest } false empty openedThenKilled rfl
    (fun _ _ found => nomatch found)

-- The least quantity, half filled, is opened in full and flattened.
example : (Run.final (simulated sparing { sizing := smallest } false).run empty
      (openedThenKilled.take 1)).state.positions.opened.values.map Position.quantity = [1 / 100000000] ∧
    (Run.final (simulated sparing { sizing := smallest } false).run empty openedThenKilled).state.openIds = [] := by
  decide +kernel

end QuantEngine.Flattening
