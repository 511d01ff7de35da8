import QuantEngine.Execution.Guarantees
import QuantEngine.Learning.Features

set_option autoImplicit false

namespace QuantEngine.Learning.NoLookahead

open ExecutionEngine World FeatureEngineer
open Calendar (Moment hourOf)
open Run (final)

variable {β : Type}

-- What a position holds of the moment it was opened.
structure AtEntry where
  side : PositionSide
  openedAt : Moment
  entryPrice : ℚ
  initialStop : Option ℚ
  takeProfit : Option ℚ
  atr : Option ℚ
  volatility : Option String
  regime : String
  score : ℚ
  confidence : ℚ
  entryReasons : List String

def atEntry (position : Position) : AtEntry where
  side := position.side
  openedAt := position.openedAt
  entryPrice := position.entryPrice
  initialStop := position.initialStop
  takeProfit := position.takeProfit
  atr := position.metadata.atr
  volatility := position.metadata.volatility
  regime := position.regime
  score := position.score
  confidence := position.confidence
  entryReasons := position.entryReasons

-- The context of a decision as it is at the entry, under any spread.
def entryContext (decision : DecisionGenerated) (plan : EntryPlan) (fill : Fill) (spread : ℚ) : CandidateContext where
  entryTime := some fill.executedAt
  score := some decision.score
  confidence := some decision.confidence
  atr := plan.view.atr
  entryPrice := some fill.price
  spreadBps := some spread
  side := some (.side (if fill.side = .buy then .long else .short))
  regime := some plan.view.regime
  volatility := some plan.view.volatility
  stopLoss := some plan.stopLoss
  takeProfit := some plan.takeProfit
  entryReasons := some (if decision.summary = "" then [] else [decision.summary])

-- A fill that a position is closed with: the broker's for a closing order, or
-- the one made up where the position is gone at the broker.
inductive ExitFill (engine : ExecutionEngine β) (id : PositionId) : Fill → Prop where
  | filled (order : ClosingOrder) (position : Position) (view : MarketView) (world : World β) (fill : Fill)
      (own : order.id = id) (found : world.positions.object id = some position)
      (answered : (engine.closeExecution order position view world).1.fill = some fill) : ExitFill engine id fill
  | gone (fill : Fill) (external : fill.requestId = .externalClose id) (unspread : fill.spreadBps = 0) :
      ExitFill engine id fill

-- A trade is the record of a close by this fill, of a position as it was opened.
structure ClosedBy (engine : ExecutionEngine β) (id : PositionId) (entry : AtEntry) (trade : TradeRecord) (fill : Fill) :
    Prop where
  exit : ExitFill engine id fill
  recorded : ∃ tradeId position now, atEntry position = entry ∧ trade = tradeRecord tradeId id position fill now

def Present (manager : PositionManager) (id : PositionId) (position : Position) : Prop :=
  (id, position) ∈ manager.opened.entries ∨ (id, position) ∈ manager.closed

-- No position and no trade has the id.
def Absent (id : PositionId) (world : World β) : Prop :=
  (∀ position, ¬ Present world.positions id position) ∧ ∀ trade ∈ world.journal.trades, trade.positionId ≠ id

def Holds (manager : PositionManager) (id : PositionId) (entry : AtEntry) : Prop :=
  ∀ position, Present manager id position → atEntry position = entry

-- All that there is of a position is as it was at its entry.
structure Followed (engine : ExecutionEngine β) (id : PositionId) (entry : AtEntry) (world : World β) : Prop where
  fresh : world.nextId ≤ id → Absent id world
  holds : Holds world.positions id entry
  trades : ∀ trade ∈ world.journal.trades, trade.positionId = id → ∃ fill, ClosedBy engine id entry trade fill

def rawContext (entry : AtEntry) (spread : ℚ) : RawContext where
  hour := hourOf entry.openedAt
  score := entry.score
  confidence := entry.confidence
  atrPct := match entry.atr with
    | some atr => if entry.entryPrice > 0 then atr / entry.entryPrice * 100 else 0
    | none => 0
  spreadBps := spread
  plannedRr := plannedRr entry.entryPrice entry.initialStop entry.takeProfit
  nConfirmations := entry.entryReasons.length
  sideLong := if entry.side = .long then 1 else 0
  regime := entry.regime
  volatility := entry.volatility.getD "normal"

theorem from_trade_record (tradeId : Nat) (id : PositionId) (position : Position) (fill : Fill) (now : Moment) :
    fromTrade (tradeRecord tradeId id position fill now) = vector (rawContext (atEntry position) fill.spreadBps) := rfl

theorem from_entry_context (decision : DecisionGenerated) (plan : EntryPlan) (fill : Fill) (spread : ℚ) :
    fromContext (entryContext decision plan fill spread) =
      vector (rawContext (atEntry (entryPosition decision plan fill)) spread) := by
  have side : sideLong (entryContext decision plan fill spread).side =
      if (entryPosition decision plan fill).side = .long then 1 else 0 := by
    simp only [entryContext, entryPosition, Position.ofFill, Position.postInit]
    by_cases buy : fill.side = .buy
    · simp [buy, sideLong]
    · simp [buy, sideLong]
  have atrPct : (candidateContext (entryContext decision plan fill spread)).atrPct =
      (rawContext (atEntry (entryPosition decision plan fill)) spread).atrPct := by
    simp only [candidateContext, rawContext, entryContext, atEntry, entryPosition, Position.ofFill, Position.postInit]
    cases plan.view.atr with
    | none => rfl
    | some atr => simp
  rw [fromContext]
  congr 1
  rw [RawContext.mk.injEq]
  exact ⟨rfl, rfl, rfl, atrPct, rfl, rfl, rfl, side, rfl, rfl⟩

theorem same_vector_iff (entry : AtEntry) (first second : ℚ) :
    vector (rawContext entry first) = vector (rawContext entry second) ↔ first = second := by
  refine ⟨fun same => ?_, fun same => by rw [same]⟩
  have fifth := vector_spread (rawContext entry first)
  rw [same, vector_spread] at fifth
  exact (Option.some.inj fifth).symm

theorem at_entry_marked (position : Position) (mark : ℚ) : atEntry (position.updateMark mark) = atEntry position := rfl

theorem at_entry_settled (position : Position) (price commission : ℚ) (reason : ExitReason) (exitReasons : List String)
    (now : Moment) : atEntry (position.settled price commission reason exitReasons now) = atEntry position := rfl

theorem at_entry_break_even (rules : PositionRules) (position : Position) :
    atEntry (position.applyBreakEven rules).1 = atEntry position := by
  rw [Position.applyBreakEven]
  split
  · rfl
  · rfl

theorem at_entry_trailing (rules : PositionRules) (position : Position) (atr : Option ℚ) :
    atEntry (position.applyTrailing rules atr).1 = atEntry position := by
  rw [Position.applyTrailing]
  cases position.trailingDistance rules atr with
  | none => rfl
  | some distance =>
      dsimp only
      split
      · rfl
      · rfl

theorem at_entry_managed (rules : PositionRules) (position : Position) (atr : Option ℚ) :
    atEntry (position.manage rules atr).1 = atEntry position :=
  (at_entry_trailing rules _ atr).trans (at_entry_break_even rules position)

section

variable {engine : ExecutionEngine β} {id : PositionId} {entry : AtEntry}

theorem object_present (manager : PositionManager) (position : Position) (found : manager.object id = some position) :
    Present manager id position := by
  rw [PositionManager.object] at found
  cases opened : manager.opened.lookup id with
  | some current =>
      rw [opened] at found
      cases found
      exact .inl (Dict.lookup_mem _ _ _ opened)
  | none =>
      simp only [opened, Option.map_eq_some_iff] at found
      obtain ⟨closed, first, same⟩ := found
      have key : closed.1 = id := by simpa using List.find?_some first
      have member := List.mem_of_find?_eq_some first
      exact .inr (by rwa [← key, ← same])

theorem modified_present (manager : PositionManager) (target : PositionId) (f : Position → Position) (position : Position)
    (present : Present (manager.modify target f) id position) :
    ∃ old, Present manager id old ∧ (position = old ∨ target = id ∧ position = f old) := by
  have changed (entries : List (PositionId × Position)) (member : (id, position) ∈ entries.map (Dict.modifyEntry target f)) :
      ∃ old, (id, old) ∈ entries ∧ (position = old ∨ target = id ∧ position = f old) := by
    obtain ⟨old, present, same⟩ := List.mem_map.mp member
    have key : old.1 = id := (Dict.modify_entry_key target f old).symm.trans (congrArg Prod.fst same)
    refine ⟨old.2, key ▸ present, ?_⟩
    rw [Dict.modifyEntry] at same
    split at same
    · rename_i here
      exact .inr ⟨here.symm.trans key, (congrArg Prod.snd same).symm⟩
    · exact .inl (congrArg Prod.snd same).symm
  cases present with
  | inl opened =>
      obtain ⟨old, member, become⟩ := changed _ opened
      exact ⟨old, .inl member, become⟩
  | inr closed =>
      obtain ⟨old, member, become⟩ := changed _ closed
      exact ⟨old, .inr member, become⟩

theorem close_present (manager : PositionManager) (target : PositionId) (position settled : Position) (price commission : ℚ)
    (reason : ExitReason) (exitReasons : List String) (now : Moment)
    (present : Present (manager.close target position price commission reason exitReasons now).2 id settled) :
    Present manager id settled ∨ target = id ∧ atEntry settled = atEntry position := by
  have before (opened : Present (manager.modify target
      (fun _ => position.settled price commission reason exitReasons now)) id settled) :
      Present manager id settled ∨ target = id ∧ atEntry settled = atEntry position := by
    obtain ⟨old, was, become⟩ := modified_present manager target _ settled opened
    cases become with
    | inl same => exact .inl (same ▸ was)
    | inr here => exact .inr ⟨here.1, here.2 ▸ at_entry_settled position _ _ _ _ _⟩
  cases present with
  | inl opened => exact before (.inl (List.mem_of_mem_filter opened))
  | inr closed =>
      cases List.mem_append.mp closed with
      | inl old => exact before (.inr old)
      | inr fresh =>
          obtain ⟨same, become⟩ := Prod.mk.inj (List.mem_singleton.mp fresh)
          exact .inr ⟨same.symm, become ▸ at_entry_settled position _ _ _ _ _⟩

-- A step that changes a position only after its entry, and writes no trade.
theorem changed_followed (world later : World β) (ids : world.nextId ≤ later.nextId)
    (positions : ∀ position, Present later.positions id position →
      ∃ old, Present world.positions id old ∧ atEntry position = atEntry old)
    (trades : later.journal.trades = world.journal.trades) (followed : Followed engine id entry world) :
    Followed engine id entry later := by
  refine ⟨fun fresh => ?_, fun position present => ?_, trades ▸ followed.trades⟩
  · obtain ⟨unopened, unwritten⟩ := followed.fresh (Nat.le_trans ids fresh)
    refine ⟨fun position present => ?_, trades ▸ unwritten⟩
    obtain ⟨old, was, -⟩ := positions position present
    exact unopened old was
  · obtain ⟨old, was, same⟩ := positions position present
    exact same.trans (followed.holds old was)

theorem same_followed (world later : World β) (ids : world.nextId ≤ later.nextId)
    (positions : later.positions = world.positions) (trades : later.journal.trades = world.journal.trades)
    (followed : Followed engine id entry world) : Followed engine id entry later :=
  changed_followed world later ids (fun position present => ⟨position, positions ▸ present, rfl⟩) trades followed

theorem quiet_followed (world later : World β) (quiet : world.Quiet later) (followed : Followed engine id entry world) :
    Followed engine id entry later :=
  same_followed world later quiet.ids quiet.positions quiet.trades followed

theorem opened_present (world later : World β) (other : PositionId) (position : Position) (killSwitch circuitBreaker : Bool)
    (opened : world.Opened later other position killSwitch circuitBreaker) (current : Position)
    (present : Present later.positions id current) :
    Present world.positions id current ∨ id = other ∧ current = position := by
  rw [opened.positions] at present
  cases present with
  | inr closed => exact .inl (.inr closed)
  | inl member =>
      cases Dict.mem_entries_insert _ _ _ _ member with
      | inl old => exact .inl (.inl old)
      | inr fresh => exact .inr (Prod.mk.inj fresh)

theorem other_opened_followed (world later : World β) (other : PositionId) (position : Position)
    (killSwitch circuitBreaker : Bool) (opened : world.Opened later other position killSwitch circuitBreaker)
    (apart : id ≠ other) (followed : Followed engine id entry world) : Followed engine id entry later := by
  refine changed_followed world later opened.ids (fun current now => ?_) opened.trades followed
  cases opened_present world later other position killSwitch circuitBreaker opened current now with
  | inl old => exact ⟨current, old, rfl⟩
  | inr fresh => exact absurd fresh.1 apart

-- An entry under the id finds it unused.
theorem own_opened_followed (world later : World β) (position : Position) (killSwitch circuitBreaker : Bool)
    (opened : world.Opened later id position killSwitch circuitBreaker) (followed : Followed engine id entry world) :
    Followed engine id (atEntry position) later := by
  obtain ⟨unopened, unwritten⟩ := followed.fresh opened.fresh
  refine ⟨fun fresh => absurd opened.used (Nat.not_lt.mpr fresh), fun current now => ?_, ?_⟩
  · cases opened_present world later id position killSwitch circuitBreaker opened current now with
    | inl old => exact absurd old (unopened current)
    | inr fresh => rw [fresh.2]
  · rw [opened.trades]
    exact fun trade member same => absurd same (unwritten trade member)

-- A close through `record` leaves one more trade, the record of its position.
theorem settled_followed (world announced middle : World β) (target : PositionId) (position : Position) (fill : Fill)
    (reason : ExitReason) (exitReasons : List String) (executed : List Happening)
    (before : { world with history := world.history ++ executed }.Quiet announced)
    (between : (book target position fill reason exitReasons announced).Quiet middle)
    (own : target = id → id < world.nextId ∧ ExitFill engine id fill ∧ atEntry position = entry)
    (followed : Followed engine id entry world) :
    Followed engine id entry (record target position fill reason exitReasons middle) := by
  have settled := settle_effect target position fill reason exitReasons executed world announced middle before between
  obtain ⟨_, _, _, positions⟩ := settled.positions
  have written : (record target position fill reason exitReasons middle).journal.trades =
      Deque.push middle.journal.memoryLimit world.journal.trades (tradeRecord middle.nextId target
        (position.settled fill.price fill.commission reason exitReasons middle.now) fill middle.now) := by
    rw [← before.trades]
    exact (record_trades _ _).trans (congrArg (fun trades => Deque.push _ trades _) between.trades)
  have trades (trade : TradeRecord) (member : trade ∈ (record target position fill reason exitReasons middle).journal.trades) :
      trade ∈ world.journal.trades ∨ trade = tradeRecord middle.nextId target
        (position.settled fill.price fill.commission reason exitReasons middle.now) fill middle.now := by
    rw [written] at member
    exact (List.mem_append.mp (List.mem_of_mem_drop member)).imp_right List.mem_singleton.mp
  refine ⟨fun fresh => ?_, fun current present => ?_, fun trade member same => ?_⟩
  · have unused := Nat.le_trans settled.ids fresh
    have apart : target ≠ id := fun same => absurd (own same).1 (Nat.not_lt.mpr unused)
    obtain ⟨unopened, unwritten⟩ := followed.fresh unused
    refine ⟨fun current present => ?_, fun trade member => ?_⟩
    · rw [positions] at present
      cases close_present _ _ _ _ _ _ _ _ _ present with
      | inl old => exact unopened current old
      | inr here => exact apart here.1
    · cases trades trade member with
      | inl old => exact unwritten trade old
      | inr new => exact fun same => apart ((congrArg TradeRecord.positionId new).symm.trans same)
  · rw [positions] at present
    cases close_present _ _ _ _ _ _ _ _ _ present with
    | inl old => exact followed.holds current old
    | inr here => exact here.2.trans (own here.1).2.2
  · cases trades trade member with
    | inl old => exact followed.trades trade old same
    | inr new =>
        have here : target = id := (congrArg TradeRecord.positionId new).symm.trans same
        obtain ⟨-, exit, entered⟩ := own here
        exact ⟨fill, exit, _, _, _, (at_entry_settled position _ _ _ _ _).trans entered, here ▸ new⟩

theorem present_known (world : World β) (position : Position) (present : Present world.positions id position)
    (followed : Followed engine id entry world) : id < world.nextId :=
  Nat.lt_of_not_le (fun fresh => (followed.fresh fresh).1 position present)

theorem finish_close_followed (order : ClosingOrder) (view : MarketView) (world : World β)
    (followed : Followed engine id entry world) : Followed engine id entry (engine.finishClose order view world) := by
  rw [finishClose]
  cases found : world.positions.object order.id with
  | none => exact followed
  | some position =>
      dsimp only
      cases filled : (engine.closeExecution order position view world).1.fill with
      | none => exact quiet_followed world _ ⟨⟨rfl, Nat.le_refl _, rfl, rfl⟩, rfl, rfl, rfl, rfl⟩ followed
      | some fill =>
          refine settled_followed world _ _ order.id position fill order.reason _ [.closingExecuted order.id] ?_
            (engine.breaker_quiet _) ?_ followed
          · exact ⟨⟨rfl, Nat.le_refl _, rfl, rfl⟩, rfl, rfl, rfl, rfl⟩
          · intro own
            subst own
            have present := object_present world.positions position found
            exact ⟨present_known world position present followed, .filled order position view world fill rfl found filled,
              followed.holds position present⟩

theorem external_close_followed (target : PositionId) (position : Position) (world : World β)
    (own : target = id → id < world.nextId ∧ atEntry position = entry) (followed : Followed engine id entry world) :
    Followed engine id entry (settleExternalClose target position world) := by
  refine settled_followed world world _ target position _ _ _ [] ?_ (.refl _) ?_ followed
  · exact ⟨⟨rfl, Nat.le_refl _, rfl, rfl⟩, rfl, rfl, rfl, (List.append_nil _).symm⟩
  · intro same
    exact ⟨(own same).1, .gone _ (congrArg RequestId.externalClose same) rfl, (own same).2⟩

theorem catch_up_followed (world : World β) (followed : Followed engine id entry world) :
    Followed engine id entry (engine.catchUp world) := by
  have settleAll (gone : List (PositionId × Position)) (start : World β)
      (all : ∀ closed ∈ gone, closed.1 = id → id < start.nextId ∧ atEntry closed.2 = entry)
      (kept : Followed engine id entry start) :
      Followed engine id entry (gone.foldl (fun world closed => settleExternalClose closed.1 closed.2 world) start) := by
    induction gone generalizing start with
    | nil => exact kept
    | cons closed rest ih =>
        obtain ⟨_, settled⟩ := external_close_effect closed.1 closed.2 start
        refine ih _ (fun other later same => ?_)
          (external_close_followed closed.1 closed.2 start (all closed List.mem_cons_self) kept)
        obtain ⟨known, entered⟩ := all other (List.mem_cons_of_mem _ later) same
        exact ⟨Nat.lt_of_lt_of_le known settled.ids, entered⟩
  have synced : Followed engine id entry (engine.syncBrokerBalance world) := by
    rw [syncBrokerBalance]
    split
    · exact followed
    · exact same_followed world _ (Nat.le_refl _) rfl rfl followed
  rw [catchUp, reconcileBrokerPositions]
  cases engine.paper.openPositionTickets with
  | none => exact synced
  | some ticketsOf =>
      refine settleAll _ _ (fun closed member same => ?_) synced
      have present : Present (engine.syncBrokerBalance world).positions id closed.2 :=
        .inl (same ▸ List.mem_of_mem_filter member)
      exact ⟨present_known _ closed.2 present synced, synced.holds closed.2 present⟩

theorem modified_followed (world later : World β) (target : PositionId) (f : Position → Position)
    (touched : world.Touched later target) (changed : later.positions = world.positions.modify target f)
    (keeps : ∀ position, atEntry (f position) = atEntry position) (followed : Followed engine id entry world) :
    Followed engine id entry later := by
  refine changed_followed world later touched.ids (fun position present => ?_) touched.trades followed
  rw [changed] at present
  obtain ⟨old, was, become⟩ := modified_present _ _ _ _ present
  refine ⟨old, was, ?_⟩
  cases become with
  | inl same => rw [same]
  | inr here => rw [here.2, keeps]

theorem mark_and_manage_modifies (engine : ExecutionEngine β) (target : PositionId) (world : World β) :
    ∃ f : Position → Position, (∀ position, atEntry (f position) = atEntry position) ∧
      (engine.markAndManage target world).2.positions = world.positions.modify target f := by
  rw [markAndManage]
  cases world.positions.object target with
  | none => exact ⟨fun position => position, fun _ => rfl, (world.positions.modify_nothing target).symm⟩
  | some position =>
      dsimp only
      cases world.market.tickers position.symbol with
      | none => exact ⟨fun position => position, fun _ => rfl, (world.positions.modify_nothing target).symm⟩
      | some ticker =>
          dsimp only
          rw [(announce_stops_quiet target position.symbol _ _).positions]
          dsimp only
          rw [PositionManager.manage]
          split
          · exact ⟨_, fun position => at_entry_marked position (markPrice _ ticker), rfl⟩
          · refine ⟨_, fun other => ?_, PositionManager.modify_twice _ _ _ _⟩
            exact (at_entry_managed _ _ _).trans (at_entry_marked other (markPrice position ticker))

theorem read_regime_followed (target : PositionId) (view : MarketView) (world : World β)
    (followed : Followed engine id entry world) : Followed engine id entry (engine.readRegime target view world).2 := by
  have noted := modified_followed world _ target _
    (metadata_touched target (fun metadata => { metadata with exitRegime := some view.regime }) world) rfl (fun _ => rfl) followed
  rw [readRegime]
  cases world.positions.object target with
  | none => exact followed
  | some position =>
      dsimp only
      split
      · exact noted
      · exact modified_followed _ _ target _
          (metadata_touched target (fun metadata => { metadata with regimeAdverseStreak := some _ }) _) rfl (fun _ => rfl) noted

theorem modify_stop_followed (target : PositionId) (stopLoss : ℚ) (world : World β) (followed : Followed engine id entry world) :
    Followed engine id entry (modifyStop target stopLoss world) := by
  have touched := modify_stop_effect target stopLoss world
  rw [modifyStop] at touched ⊢
  cases found : world.positions.get target with
  | none => exact followed
  | some position =>
      rw [found] at touched
      exact modified_followed world _ target _ touched rfl (fun _ => rfl) followed

theorem break_even_followed (target : PositionId) (world : World β) (followed : Followed engine id entry world) :
    Followed engine id entry (moveBreakEven target world) := by
  have touched := break_even_effect target world
  rw [moveBreakEven] at touched ⊢
  cases found : world.positions.get target with
  | none => exact followed
  | some position =>
      rw [found] at touched
      exact modified_followed world _ target _ touched rfl (fun _ => rfl) followed

end

theorem ids_steps : Steps (fun before after : World β => before.nextId ≤ after.nextId) where
  refl world := Nat.le_refl world.nextId
  trans _ _ _ first second := Nat.le_trans first second
  quiet _ _ quiet := quiet.ids
  opened _ _ _ _ _ _ opened := opened.ids
  settled _ _ _ _ _ _ _ settled := settled.ids
  touched _ _ _ touched := touched.ids
  valued _ _ valued := valued.ids

-- A position that is followed stays so, and once its id is used, as the same.
def Carries (engine : ExecutionEngine β) (id : PositionId) (before after : World β) : Prop :=
  ∀ entry, Followed engine id entry before →
    ∃ later, Followed engine id later after ∧ (id < before.nextId → id < after.nextId ∧ later = entry)

theorem carries_same (engine : ExecutionEngine β) (id : PositionId) (before after : World β) (ids : before.nextId ≤ after.nextId)
    (followed : ∀ entry, Followed engine id entry before → Followed engine id entry after) : Carries engine id before after :=
  fun entry now => ⟨entry, followed entry now, fun used => ⟨Nat.lt_of_lt_of_le used ids, rfl⟩⟩

theorem act_followed (engine : ExecutionEngine β) (id : PositionId) (entry : AtEntry) (operation : Operation) (world : World β)
    (entering : operation.entering = false) (followed : Followed engine id entry world) :
    Followed engine id entry (engine.act operation world) := by
  cases operation with
  | screen decision => exact quiet_followed _ _ (engine.screen_quiet decision world) followed
  | enter decision found view => cases entering
  | startClose target reason exitReasons => exact quiet_followed _ _ (start_close_quiet target reason exitReasons world) followed
  | finishClose order view => exact finish_close_followed order view world followed
  | markAndManage target =>
      obtain ⟨f, keeps, changed⟩ := mark_and_manage_modifies engine target world
      exact modified_followed world _ target f (engine.mark_and_manage_effect target world) changed keeps followed
  | readRegime target view => exact read_regime_followed target view world followed
  | refreshRisk =>
      have valued := refresh_risk_effect world
      exact same_followed world _ valued.ids valued.positions valued.trades followed
  | modifyStop target stopLoss => exact modify_stop_followed target stopLoss world followed
  | moveBreakEven target => exact break_even_followed target world followed

theorem enter_carries (engine : ExecutionEngine β) (id : PositionId) (decision : DecisionGenerated) (entry : Entry)
    (view : MarketView) (world : World β) : Carries engine id world (engine.enter decision entry view world) := by
  rcases engine.enter_effect decision entry view world with quiet | ⟨other, position, kill, breaker, -, opened⟩
  · exact carries_same engine id _ _ quiet.ids (fun _ followed => quiet_followed _ _ quiet followed)
  · intro entered followed
    by_cases own : id = other
    · subst own
      exact ⟨_, own_opened_followed _ _ position kill breaker opened followed,
        fun used => absurd opened.fresh (Nat.not_le.mpr used)⟩
    · exact ⟨entered, other_opened_followed _ _ other position kill breaker opened own followed,
        fun used => ⟨Nat.lt_of_lt_of_le used opened.ids, rfl⟩⟩

theorem carries_operates (engine : ExecutionEngine β) (id : PositionId) : engine.Operates (Carries engine id) where
  refl world := carries_same engine id world world (Nat.le_refl _) (fun _ followed => followed)
  trans _ _ _ first second entry followed := by
    obtain ⟨middle, traced, same⟩ := first entry followed
    obtain ⟨last, kept, again⟩ := second middle traced
    refine ⟨last, kept, fun used => ?_⟩
    obtain ⟨known, rfl⟩ := same used
    exact again known
  each operation world entering :=
    carries_same engine id _ _ (act_steps ids_steps operation world) (fun entry => act_followed engine id entry operation world entering)
  enter := enter_carries engine id

theorem run_carries (engine : ExecutionEngine β) (id : PositionId) (start : Session β) (idle : start.waiting = [])
    (events : List (Event β)) :
    Run.Along engine.run (fun before after => Carries engine id before.state after.state) start events := by
  refine Pool.along_guaranteed engine.perform Disturbance.disturb (Carries engine id) (fun _ _ => True)
    (carries_operates engine id).refl (fun job world _ => ?_) (fun change world => ?_) start events idle
    (Run.each_of_all _ _ (fun _ action => by cases action <;> trivial) _ _)
  · refine perform_operates (carries_operates engine id) job world (fun _ => ?_)
    have ids : world.nextId ≤ (engine.catchUp world).nextId := by
      have synced : (engine.syncBrokerBalance world).nextId = world.nextId := by
        rw [syncBrokerBalance]
        split
        · rfl
        · rfl
      exact Nat.le_trans (Nat.le_of_eq synced.symm) (reconcile_steps ids_steps (engine.syncBrokerBalance world))
    exact carries_same engine id _ _ ids (fun _ => catch_up_followed world)
  · have quiet := disturb_quiet world change
    exact carries_same engine id _ _ quiet.ids (fun _ => quiet_followed _ _ quiet)

theorem closed_vector {engine : ExecutionEngine β} {id : PositionId} {entry : AtEntry} (trade : TradeRecord) (fill : Fill)
    (closed : ClosedBy engine id entry trade fill) : fromTrade trade = vector (rawContext entry fill.spreadBps) := by
  obtain ⟨tradeId, position, now, entered, rfl⟩ := closed.recorded
  rw [from_trade_record, entered]

theorem closed_spread {engine : ExecutionEngine β} {id : PositionId} {entry : AtEntry} (trade : TradeRecord) (fill : Fill)
    (closed : ClosedBy engine id entry trade fill) : trade.spreadBps = fill.spreadBps := by
  obtain ⟨tradeId, position, now, -, rfl⟩ := closed.recorded
  rfl

-- Whatever happens after the entry, the features of a position's trades are
-- those of its entry under the spread of the closing fill.
theorem features_fixed_iff (engine : ExecutionEngine β) (start : Session β) (idle : start.waiting = []) (id : PositionId)
    (unknown : Absent id start.state) (shared : List (Event β)) (decision : DecisionGenerated) (plan : EntryPlan)
    (fill : Fill)
    (entered : (final engine.run start shared).state.positions.opened.lookup id = some (entryPosition decision plan fill))
    (one two : List (Event β)) (first second : TradeRecord)
    (writtenFirst : first ∈ (final engine.run (final engine.run start shared) one).state.journal.trades)
    (writtenSecond : second ∈ (final engine.run (final engine.run start shared) two).state.journal.trades)
    (ownFirst : first.positionId = id) (ownSecond : second.positionId = id) (spread : ℚ) :
    ∃ exitFirst exitSecond,
      ClosedBy engine id (atEntry (entryPosition decision plan fill)) first exitFirst ∧
      ClosedBy engine id (atEntry (entryPosition decision plan fill)) second exitSecond ∧
      (fromTrade first = fromTrade second ∧ fromTrade first = fromContext (entryContext decision plan fill spread) ↔
        exitFirst.spreadBps = spread ∧ exitSecond.spreadBps = spread) := by
  have untouched : Followed engine id (atEntry (entryPosition decision plan fill)) start.state :=
    ⟨fun _ => unknown, fun position present => absurd present (unknown.1 position),
      fun trade member same => absurd same (unknown.2 trade member)⟩
  have parts (events : List (Event β)) := (Run.each_append engine.run _ start shared events).mp
    (run_carries engine id start idle (shared ++ events))
  have carries (session : Session β) (events : List (Event β)) := Run.final_of_along engine.run
    (fun before after => Carries engine id before.state after.state) (fun _ => (carries_operates engine id).refl _)
    (fun _ _ _ => (carries_operates engine id).trans _ _ _) session events
  obtain ⟨entry, followed, -⟩ := carries start shared (parts []).1 _ untouched
  have present : Present (final engine.run start shared).state.positions id (entryPosition decision plan fill) :=
    .inl (Dict.lookup_mem _ _ _ entered)
  have same := followed.holds _ present
  have used := present_known _ _ present followed
  have closed (events : List (Event β)) (trade : TradeRecord)
      (written : trade ∈ (final engine.run (final engine.run start shared) events).state.journal.trades)
      (own : trade.positionId = id) :
      ∃ exit, ClosedBy engine id (atEntry (entryPosition decision plan fill)) trade exit := by
    obtain ⟨later, kept, stays⟩ := carries _ events (parts events).2 entry followed
    obtain ⟨-, rfl⟩ := stays used
    rw [same]
    exact kept.trades trade written own
  obtain ⟨exitFirst, closedFirst⟩ := closed one first writtenFirst ownFirst
  obtain ⟨exitSecond, closedSecond⟩ := closed two second writtenSecond ownSecond
  refine ⟨exitFirst, exitSecond, closedFirst, closedSecond, ?_⟩
  rw [closed_vector first exitFirst closedFirst, closed_vector second exitSecond closedSecond, from_entry_context,
    same_vector_iff, same_vector_iff]
  constructor
  · rintro ⟨alike, asEntered⟩
    exact ⟨asEntered, alike.symm.trans asEntered⟩
  · rintro ⟨asEntered, asToo⟩
    exact ⟨asEntered.trans asToo.symm, asEntered⟩

def plain : ExecutionEngine PaperState where
  settings := {}
  paper := PaperBroker.midway.broker

def quoting (bid ask : ℚ) : Market := ⟨fun _ => some ⟨bid, ask⟩, fun _ => []⟩

def longSignal : DecisionGenerated := ⟨"d1", "BTCUSDT", "open_long", true, 80, 7 / 10, "breakout"⟩

def flat : Session PaperState where
  state := World.fresh {} {} none {} (quoting 2000 2001) 60000000
  waiting := []

def opening : Session PaperState := final plain.run flat [.spawn (.decide longSignal)]

theorem upper_btc : upper "BTCUSDT" = "BTCUSDT" := by decide +kernel

def signalPlan : EntryPlan :=
  plain.plan longSignal ⟨"BTCUSDT", .buy, ⟨2000, 2001⟩, upper_btc⟩ (plain.candleView "BTCUSDT" flat.state) none flat.state

def signalFill : Fill where
  requestId := .fresh 0
  symbol := "BTCUSDT"
  side := .buy
  quantity := 3998001 / 4000000
  requestedQuantity := 3998001 / 4000000
  referencePrice := 2001
  price := 2001322161 / 1000000
  slippageBps := 63 / 50
  spreadBps := 20000 / 4001
  commission := 1000161 / 2500000
  executedAt := 60000000

-- Closed at the quotes of the entry.
theorem features_fixed_same_quotes :
    ∃ trade ∈ (final plain.run opening [.spawn (.close 2 .manual [])]).state.journal.trades,
      fromTrade trade = fromContext (entryContext longSignal signalPlan signalFill signalFill.spreadBps) := by
  have closing : ∃ trade ∈ (final plain.run opening [.spawn (.close 2 .manual [])]).state.journal.trades,
      trade.positionId = 2 ∧ trade.spreadBps = signalFill.spreadBps := by
    decide +kernel
  obtain ⟨trade, written, own, spread⟩ := closing
  have unknown : Absent 2 flat.state := ⟨fun _ present => by cases present <;> contradiction, List.forall_mem_nil _⟩
  obtain ⟨exit, again, closed, reclosed, fixed⟩ := features_fixed_iff plain flat rfl 2 unknown [.spawn (.decide longSignal)] longSignal
    signalPlan signalFill (by decide +kernel) [.spawn (.close 2 .manual [])] [.spawn (.close 2 .manual [])] trade trade
    written written own own signalFill.spreadBps
  have quoted := fixed.mpr ⟨(closed_spread trade exit closed).symm.trans spread, (closed_spread trade again reclosed).symm.trans spread⟩
  exact ⟨trade, written, quoted.2⟩

-- The same entry, closed after the spread has widened.
theorem spread_at_close_leaks :
    ¬ ∀ first ∈ (final plain.run opening [.spawn (.close 2 .manual [])]).state.journal.trades,
      ∀ second ∈ (final plain.run opening
          [.environment (.market (quoting 2000 2004)), .spawn (.close 2 .manual [])]).state.journal.trades,
        first.positionId = 2 → second.positionId = 2 → fromTrade first = fromTrade second := by
  decide +kernel

end QuantEngine.Learning.NoLookahead
