import QuantEngine.Execution.Engine
import QuantEngine.Library.Run
import QuantEngine.Production.Recovery
import QuantEngine.Research.Models

set_option autoImplicit false

namespace QuantEngine.PositionSnapshots

open Calendar (Moment)
open Research (ofValue orNull)
open Run (Always Each)

def sideMembers : List PositionSide := [.long, .short]

def statusValue : PositionStatus → String
  | .opened => "open"
  | .closed => "closed"

def statusMembers : List PositionStatus := [.opened, .closed]

def metadataToDict (metadata : PositionMetadata) : Json ℚ :=
  .obj [("atr", orNull .float metadata.atr),
    ("volatility", orNull .str metadata.volatility),
    ("entry_slippage_bps", orNull .float metadata.entrySlippageBps),
    ("broker_ref", orNull .str metadata.brokerRef),
    ("adopted", .bool metadata.adopted),
    ("exit_regime", orNull .str metadata.exitRegime),
    ("regime_adverse_streak", orNull .int metadata.regimeAdverseStreak)]

-- The document that a position is written to, under the text of its id.
def positionToState (id : String) (position : Position) : Json ℚ :=
  .obj [("position_id", .str id),
    ("symbol", .str position.symbol),
    ("side", .str position.side.value),
    ("quantity", .float position.quantity),
    ("initial_quantity", .float position.initialQuantity),
    ("entry_price", .float position.entryPrice),
    ("initial_stop", orNull .float position.initialStop),
    ("stop_loss", orNull .float position.stopLoss),
    ("take_profit", orNull .float position.takeProfit),
    ("opened_at", .str (String.ofList (IsoTime.write (IsoTime.fieldsOf position.openedAt)))),
    ("status", .str (statusValue position.status)),
    ("realized_pnl", .float position.realizedPnl),
    ("commission_paid", .float position.commissionPaid),
    ("break_even_active", .bool position.breakEvenActive),
    ("trailing_active", .bool position.trailingActive),
    ("mark_price", .float position.markPrice),
    ("highest_price", .float position.highestPrice),
    ("lowest_price", .float position.lowestPrice),
    ("decision_id", orNull .str position.decisionId),
    ("regime", .str position.regime),
    ("score", .float position.score),
    ("confidence", .float position.confidence),
    ("entry_reasons", .arr (position.entryReasons.map .str)),
    ("metadata", metadataToDict position.metadata)]

-- A text or null. The source takes any value over, and nothing else is ever
-- written.
def optText (data : Json ℚ) : Except PyError (Option String) :=
  match data with
  | .null => .ok none
  | other => do .ok (some (← Research.asText other))

theorem opt_text_read (text : Option String) : optText (orNull .str text) = .ok text := by
  cases text <;> rfl

theorem side_read (side : PositionSide) : ofValue PositionSide.value sideMembers (.str side.value : Json ℚ) = .ok side := by
  cases side <;> rfl

theorem status_read (status : PositionStatus) :
    ofValue statusValue statusMembers (.str (statusValue status) : Json ℚ) = .ok status := by
  cases status <;> rfl

theorem post_init_eq_iff (position : Position) (mark : position.markPrice ≠ 0) (highest : position.highestPrice ≠ 0)
    (lowest : position.lowestPrice ≠ 0) :
    position.postInit = position ↔ (position.initialStop = none → position.stopLoss = none) := by
  have same : position.postInit = { position with initialStop := position.initialStop.or position.stopLoss } := by
    simp only [Position.postInit, Position.seeded, if_neg mark, if_neg highest, if_neg lowest]
  rw [same]
  constructor
  · intro unchanged none
    have stop := congrArg Position.initialStop unchanged
    simpa [none] using stop
  · intro anchored
    cases initial : position.initialStop with
    | none =>
        cases position
        cases initial
        cases anchored rfl
        rfl
    | some stop =>
        cases position
        cases initial
        rfl

section

variable [PyFloat ℚ]

def optFloat (data : Json ℚ) : Except PyError (Option ℚ) :=
  match data with
  | .null => .ok none
  | other => do .ok (some (← other.toFloat))

def optInt (data : Json ℚ) : Except PyError (Option Int) :=
  match data with
  | .null => .ok none
  | other => do .ok (some (← other.toInt))

def metadataFromDict (data : Json ℚ) : Except PyError PositionMetadata := do
  let atr ← optFloat (← data.get "atr" .null)
  let volatility ← optText (← data.get "volatility" .null)
  let entrySlippageBps ← optFloat (← data.get "entry_slippage_bps" .null)
  let brokerRef ← optText (← data.get "broker_ref" .null)
  let adopted := (← data.get "adopted" (.bool false)).toBool
  let exitRegime ← optText (← data.get "exit_regime" .null)
  let regimeAdverseStreak ← optInt (← data.get "regime_adverse_streak" .null)
  .ok { atr, volatility, entrySlippageBps, brokerRef, adopted, exitRegime, regimeAdverseStreak }

def positionFromState (data : Json ℚ) : Except PyError (String × Position) := do
  let positionId := (← data.item "position_id").toText
  let symbol := (← data.item "symbol").toText
  let side ← ofValue PositionSide.value sideMembers (← data.item "side")
  let quantity ← (← data.item "quantity").toFloat
  let initialQuantity ← (← data.item "initial_quantity").toFloat
  let entryPrice ← (← data.item "entry_price").toFloat
  let initialStop ← optFloat (← data.get "initial_stop" .null)
  let stopLoss ← optFloat (← data.get "stop_loss" .null)
  let takeProfit ← optFloat (← data.get "take_profit" .null)
  let openedAt ← IsoTime.fromisoformat (← data.item "opened_at").toText
  let status ← ofValue statusValue statusMembers (← data.get "status" (.str (statusValue .opened)))
  let realizedPnl ← (← data.get "realized_pnl" (.float 0)).toFloat
  let commissionPaid ← (← data.get "commission_paid" (.float 0)).toFloat
  let breakEvenActive := (← data.get "break_even_active" (.bool false)).toBool
  let trailingActive := (← data.get "trailing_active" (.bool false)).toBool
  let markPrice ← (← data.get "mark_price" (.float 0)).toFloat
  let highestPrice ← (← data.get "highest_price" (.float 0)).toFloat
  let lowestPrice ← (← data.get "lowest_price" (.float 0)).toFloat
  let decisionId ← optText (← data.get "decision_id" .null)
  let regime := (← data.get "regime" (.str "unknown")).toText
  let score ← (← data.get "score" (.float 0)).toFloat
  let confidence ← (← data.get "confidence" (.float 0)).toFloat
  let entryReasons ← Json.mapAll Research.asText (← (← data.get "entry_reasons" (.arr [])).iterate)
  let metadata ← metadataFromDict (← data.get "metadata" (.obj []))
  .ok (positionId, .postInit
    { symbol, side, quantity, initialQuantity, entryPrice, initialStop, stopLoss, takeProfit, openedAt := openedAt.moment,
      status, realizedPnl, commissionPaid, breakEvenActive, trailingActive, markPrice, highestPrice, lowestPrice, decisionId,
      regime, score, confidence, entryReasons, metadata })

theorem opt_float_read (number : Option ℚ) : optFloat (orNull .float number) = .ok number := by
  cases number <;> rfl

theorem opt_int_read (count : Option Int) : optInt (orNull .int count) = .ok count := by
  cases count <;> rfl

theorem metadata_read (metadata : PositionMetadata) : metadataFromDict (metadataToDict metadata) = .ok metadata := by
  simp only [metadataFromDict, metadataToDict, Json.get, Json.member_here, Json.member_later, Option.getD_some, ne_eq,
    String.reduceEq, not_false_eq_true, bind, Except.bind, opt_float_read, opt_text_read, opt_int_read, Json.toBool]

-- An open position, as far as a snapshot keeps it: nothing of a close is noted
-- yet, and it was opened at a time that can be written.
structure Written (position : Position) : Prop where
  closedAt : position.closedAt = none
  exitReason : position.exitReason = none
  exitReasons : position.exitReasons = []
  openedAt : ∃ datetime : Datetime, datetime.moment = position.openedAt

theorem position_read (id : String) (position : Position) (written : Written position) :
    positionFromState (positionToState id position) = .ok (id, position.postInit) := by
  obtain ⟨closedAt, exitReason, exitReasons, datetime, moment⟩ := written
  have positionId : (positionToState id position).item "position_id" = .ok (.str id) := rfl
  have symbol : (positionToState id position).item "symbol" = .ok (.str position.symbol) := rfl
  have side : (positionToState id position).item "side" = .ok (.str position.side.value) := rfl
  have quantity : (positionToState id position).item "quantity" = .ok (.float position.quantity) := rfl
  have initialQuantity : (positionToState id position).item "initial_quantity" = .ok (.float position.initialQuantity) := rfl
  have entryPrice : (positionToState id position).item "entry_price" = .ok (.float position.entryPrice) := rfl
  have initialStop : (positionToState id position).get "initial_stop" .null = .ok (orNull .float position.initialStop) := rfl
  have stopLoss : (positionToState id position).get "stop_loss" .null = .ok (orNull .float position.stopLoss) := rfl
  have takeProfit : (positionToState id position).get "take_profit" .null = .ok (orNull .float position.takeProfit) := rfl
  have openedAt : (positionToState id position).item "opened_at" =
      .ok (.str (String.ofList (IsoTime.write (IsoTime.fieldsOf position.openedAt)))) := rfl
  have status : (positionToState id position).get "status" (.str (statusValue .opened)) =
      .ok (.str (statusValue position.status)) := rfl
  have realizedPnl : (positionToState id position).get "realized_pnl" (.float 0) = .ok (.float position.realizedPnl) := rfl
  have commissionPaid : (positionToState id position).get "commission_paid" (.float 0) =
      .ok (.float position.commissionPaid) := rfl
  have breakEven : (positionToState id position).get "break_even_active" (.bool false) =
      .ok (.bool position.breakEvenActive) := rfl
  have trailing : (positionToState id position).get "trailing_active" (.bool false) = .ok (.bool position.trailingActive) := rfl
  have markPrice : (positionToState id position).get "mark_price" (.float 0) = .ok (.float position.markPrice) := rfl
  have highestPrice : (positionToState id position).get "highest_price" (.float 0) = .ok (.float position.highestPrice) := rfl
  have lowestPrice : (positionToState id position).get "lowest_price" (.float 0) = .ok (.float position.lowestPrice) := rfl
  have decisionId : (positionToState id position).get "decision_id" .null = .ok (orNull .str position.decisionId) := rfl
  have regime : (positionToState id position).get "regime" (.str "unknown") = .ok (.str position.regime) := rfl
  have score : (positionToState id position).get "score" (.float 0) = .ok (.float position.score) := rfl
  have confidence : (positionToState id position).get "confidence" (.float 0) = .ok (.float position.confidence) := rfl
  have entryReasons : (positionToState id position).get "entry_reasons" (.arr []) =
      .ok (.arr (position.entryReasons.map .str)) := rfl
  have metadata : (positionToState id position).get "metadata" (.obj []) = .ok (metadataToDict position.metadata) := rfl
  have reasons := Json.map_all_inverse (F := ℚ) Json.str Research.asText position.entryReasons (fun _ _ => rfl)
  have opened : IsoTime.fromisoformat (String.ofList (IsoTime.write (IsoTime.fieldsOf position.openedAt))) = .ok datetime := by
    rw [← moment]
    exact IsoTime.round_trip datetime
  simp only [positionFromState, positionId, symbol, side, quantity, initialQuantity, entryPrice, initialStop, stopLoss,
    takeProfit, openedAt, status, realizedPnl, commissionPaid, breakEven, trailing, markPrice, highestPrice, lowestPrice,
    decisionId, regime, score, confidence, entryReasons, metadata, Json.ok_bind, Json.toText, Json.toFloat, Json.toBool,
    Json.iterate, side_read, status_read, opt_float_read, opt_text_read, reasons, metadata_read, opened]
  cases position
  cases closedAt
  cases exitReason
  cases exitReasons
  cases moment
  rfl

-- Prices that a position is marked with are never zero, so that rebuilding
-- takes none of them for missing.
structure Sound (position : Position) : Prop where
  written : Written position
  mark : 0 < position.markPrice
  highest : 0 < position.highestPrice
  lowest : 0 < position.lowestPrice

-- A position with a stop knows the stop that its risk is measured from.
def Anchored (position : Position) : Prop := position.initialStop = none → position.stopLoss = none

theorem read_back_iff (id : String) (position : Position) (sound : Sound position) :
    positionFromState (positionToState id position) = .ok (id, position) ↔ Anchored position := by
  have same := post_init_eq_iff position (ne_of_gt sound.mark) (ne_of_gt sound.highest) (ne_of_gt sound.lowest)
  rw [position_read id position sound.written, Anchored, ← same]
  simp

end

inductive Call where
  | opens (id : PositionId) (fill : Fill) (priced : 0 < fill.price) (executed : Datetime)
      (at_ : executed.moment = fill.executedAt) (stopLoss takeProfit : Option ℚ) (decisionId : Option String) (regime : String)
      (score confidence : ℚ) (entryReasons : List String) (atr : Option ℚ) (volatility : String)
  | adopt (id : PositionId) (symbol : String) (side : PositionSide) (quantity entryPrice : ℚ) (priced : 0 < entryPrice)
      (stopLoss takeProfit : Option ℚ) (brokerRef : String) (openedAt : Datetime)
  | updateMark (id : PositionId) (mark : ℚ) (priced : 0 < mark)
  | manage (id : PositionId) (atr : Option ℚ)
  | modifyStop (id : PositionId) (stopLoss : ℚ)
  | moveBreakEven (id : PositionId)

def Call.id : Call → PositionId
  | .opens id .. | .adopt id .. | .updateMark id .. | .manage id _ | .modifyStop id _ | .moveBreakEven id => id

section

variable {β : Type} (rules : PositionRules)

def place (id : PositionId) (position : Position) (world : World β) : World β :=
  { world with positions := world.positions.add id position }

def step (world : World β) : Call → World β
  | .opens id fill _ _ _ stopLoss takeProfit decisionId regime score confidence entryReasons atr volatility =>
      place id (.ofFill fill stopLoss takeProfit decisionId regime score confidence entryReasons atr volatility) world
  | .adopt id symbol side quantity entryPrice _ stopLoss takeProfit brokerRef openedAt =>
      place id (.adopted symbol side quantity entryPrice stopLoss takeProfit brokerRef openedAt.moment) world
  | .updateMark id mark _ => { world with positions := world.positions.updateMark id mark }
  | .manage id atr => { world with positions := (world.positions.manage rules id atr).1 }
  | .modifyStop id stopLoss => ExecutionEngine.modifyStop id stopLoss world
  | .moveBreakEven id => ExecutionEngine.moveBreakEven id world

-- What a call makes of the position it is about, which `open` and `adopt` make
-- of nothing.
def change : Call → Option Position → Option Position
  | .opens _ fill _ _ _ stopLoss takeProfit decisionId regime score confidence entryReasons atr volatility, _ =>
      some (.ofFill fill stopLoss takeProfit decisionId regime score confidence entryReasons atr volatility)
  | .adopt _ symbol side quantity entryPrice _ stopLoss takeProfit brokerRef openedAt, _ =>
      some (.adopted symbol side quantity entryPrice stopLoss takeProfit brokerRef openedAt.moment)
  | .updateMark _ mark _, held => held.map (fun position => position.updateMark mark)
  | .manage _ atr, held => held.map (fun position => (position.manage rules atr).1)
  | .modifyStop _ stopLoss, held => held.map (fun position => { position with stopLoss := some stopLoss })
  | .moveBreakEven _, held =>
      held.map (fun position => { position with stopLoss := some position.entryPrice, breakEvenActive := true })

theorem modify_get (manager : PositionManager) (id other : PositionId) (f : Position → Position) :
    (manager.modify id f).get other = if other = id then (manager.get id).map f else manager.get other := by
  rw [PositionManager.get, PositionManager.modify, Dict.lookup_modify]
  split
  · rename_i same
    rw [same]
    rfl
  · rfl

theorem absent_get (manager : PositionManager) (id other : PositionId) (f : Position → Position)
    (absent : manager.get id = none) : manager.get other = if other = id then Option.map f none else manager.get other := by
  split
  · rename_i same
    rw [same, absent]
    rfl
  · rfl

theorem step_get (world : World β) (call : Call) (other : PositionId) :
    (step rules world call).positions.get other =
      if other = call.id then change rules call (world.positions.get call.id) else world.positions.get other := by
  cases call with
  | opens id => exact Dict.lookup_insert _ id other _
  | adopt id => exact Dict.lookup_insert _ id other _
  | updateMark id mark => exact modify_get world.positions id other _
  | manage id atr =>
      simp only [step, PositionManager.manage, Call.id, change]
      cases object : world.positions.object id with
      | none =>
          have absent : world.positions.get id = none := by
            rw [PositionManager.object] at object
            cases held : world.positions.opened.lookup id with
            | none => exact held
            | some position => simp [held] at object
          rw [absent]
          exact absent_get world.positions id other _ absent
      | some position => exact modify_get world.positions id other _
  | modifyStop id stopLoss =>
      have after := modify_get world.positions id other (fun position => { position with stopLoss := some stopLoss })
      simp only [step, ExecutionEngine.modifyStop, Call.id, change]
      cases held : world.positions.get id with
      | none => exact absent_get world.positions id other _ held
      | some position => rwa [held] at after
  | moveBreakEven id =>
      have after := modify_get world.positions id other
        (fun position => { position with stopLoss := some position.entryPrice, breakEvenActive := true })
      simp only [step, ExecutionEngine.moveBreakEven, Call.id, change]
      cases held : world.positions.get id with
      | none => exact absent_get world.positions id other _ held
      | some position => rwa [held] at after

-- The rules of the manager move a stop only where there is a risk to measure.
def Managed (before after : Position) : Prop :=
  after = before ∨ before.initialStop ≠ none ∧ ∃ stopLoss breakEvenActive trailingActive,
    after = { before with stopLoss, breakEvenActive, trailingActive }

theorem managed_trans (a b c : Position) (first : Managed a b) (second : Managed b c) : Managed a c := by
  rcases first with rfl | ⟨measured, stop, breakEven, trailing, rfl⟩
  · exact second
  · rcases second with rfl | ⟨-, later, breakEvenLater, trailingLater, rfl⟩
    · exact .inr ⟨measured, _, _, _, rfl⟩
    · exact .inr ⟨measured, _, _, _, rfl⟩

theorem measured (position : Position) (risk : ¬ position.riskPerUnit ≤ 0) : position.initialStop ≠ none := by
  intro none
  simp [Position.riskPerUnit, none] at risk

theorem break_even_managed (position : Position) : Managed position (position.applyBreakEven rules).1 := by
  rw [Position.applyBreakEven]
  split
  · rename_i due
    simp only [Position.breakEvenDue, Bool.and_eq_true, Bool.not_eq_true', decide_eq_false_iff_not] at due
    exact .inr ⟨measured position due.1.2, _, _, _, rfl⟩
  · exact .inl rfl

theorem trailing_managed (position : Position) (atr : Option ℚ) : Managed position (position.applyTrailing rules atr).1 := by
  rw [Position.applyTrailing]
  cases distance : position.trailingDistance rules atr with
  | none => exact .inl rfl
  | some distance' =>
      have risk : ¬ position.riskPerUnit ≤ 0 := by
        intro none
        cases atr <;> simp [Position.trailingDistance, none] at distance
      dsimp only
      split
      · exact .inr ⟨measured position risk, _, _, _, rfl⟩
      · exact .inl rfl

theorem manage_managed (position : Position) (atr : Option ℚ) : Managed position (position.manage rules atr).1 :=
  managed_trans _ _ _ (break_even_managed rules position) (trailing_managed rules _ atr)

theorem managed_sound (before after : Position) (managed : Managed before after) (sound : Sound before) : Sound after := by
  rcases managed with rfl | ⟨-, stop, breakEven, trailing, rfl⟩
  · exact sound
  · exact ⟨⟨sound.written.closedAt, sound.written.exitReason, sound.written.exitReasons, sound.written.openedAt⟩, sound.mark,
      sound.highest, sound.lowest⟩

theorem managed_anchored (before after : Position) (managed : Managed before after) (anchored : Anchored before) :
    Anchored after := by
  rcases managed with rfl | ⟨measured, stop, breakEven, trailing, rfl⟩
  · exact anchored
  · exact fun none => absurd none measured

theorem opened_anchored (position : Position) : Anchored position.postInit := by
  intro none
  exact (Option.or_eq_none_iff.mp none).2

theorem seeded_pos (price entry : ℚ) (nonneg : 0 ≤ price) (priced : 0 < entry) : 0 < Position.seeded price entry := by
  rw [Position.seeded]
  split
  · exact priced
  · rename_i some
    exact nonneg.lt_of_ne (Ne.symm some)

theorem opened_sound (position : Position) (priced : 0 < position.entryPrice) (mark : 0 ≤ position.markPrice)
    (highest : 0 ≤ position.highestPrice) (lowest : 0 ≤ position.lowestPrice) (written : Written position) :
    Sound position.postInit :=
  ⟨⟨written.closedAt, written.exitReason, written.exitReasons, written.openedAt⟩, seeded_pos _ _ mark priced,
    seeded_pos _ _ highest priced, seeded_pos _ _ lowest priced⟩

-- The stop of a position is set by hand only where it has an initial stop.
def StopMeasured (world : World β) : Call → Prop
  | .modifyStop id _ | .moveBreakEven id => ∀ position, world.positions.get id = some position → position.initialStop ≠ none
  | _ => True

theorem change_sound (call : Call) (held : Option Position) (sound : ∀ position ∈ held, Sound position) :
    ∀ position ∈ change rules call held, Sound position := by
  intro position changed
  cases call with
  | opens id fill priced executed at_ =>
      cases changed
      exact opened_sound _ priced priced.le (le_refl _) (le_refl _) ⟨rfl, rfl, rfl, executed, at_⟩
  | adopt id symbol side quantity entryPrice priced stopLoss takeProfit brokerRef openedAt =>
      cases changed
      exact opened_sound _ priced priced.le (le_refl _) (le_refl _) ⟨rfl, rfl, rfl, openedAt, rfl⟩
  | updateMark id mark priced =>
      obtain ⟨before, has, rfl⟩ := Option.map_eq_some_iff.mp changed
      have was := sound before has
      exact ⟨⟨was.written.closedAt, was.written.exitReason, was.written.exitReasons, was.written.openedAt⟩, priced,
        was.highest.trans_le (le_max_left _ _), lt_min was.lowest priced⟩
  | manage id atr =>
      obtain ⟨before, has, rfl⟩ := Option.map_eq_some_iff.mp changed
      exact managed_sound _ _ (manage_managed rules before atr) (sound before has)
  | modifyStop id stopLoss | moveBreakEven id =>
      obtain ⟨before, has, rfl⟩ := Option.map_eq_some_iff.mp changed
      have was := sound before has
      exact ⟨⟨was.written.closedAt, was.written.exitReason, was.written.exitReasons, was.written.openedAt⟩, was.mark,
        was.highest, was.lowest⟩

theorem change_anchored_iff (world : World β) (call : Call)
    (anchored : ∀ position ∈ world.positions.get call.id, Anchored position) :
    (∀ position ∈ change rules call (world.positions.get call.id), Anchored position) ↔ StopMeasured world call := by
  cases call with
  | opens id fill =>
      refine iff_of_true (fun position changed => ?_) trivial
      cases changed
      exact opened_anchored _
  | adopt id =>
      refine iff_of_true (fun position changed => ?_) trivial
      cases changed
      exact opened_anchored _
  | updateMark id mark =>
      refine iff_of_true (fun position changed => ?_) trivial
      obtain ⟨before, has, rfl⟩ := Option.map_eq_some_iff.mp changed
      exact anchored before has
  | manage id atr =>
      refine iff_of_true (fun position changed => ?_) trivial
      obtain ⟨before, has, rfl⟩ := Option.map_eq_some_iff.mp changed
      exact managed_anchored _ _ (manage_managed rules before atr) (anchored before has)
  | modifyStop id | moveBreakEven id =>
      constructor
      · intro after position held unmeasured
        have moved := after _ (Option.map_eq_some_iff.mpr ⟨position, held, rfl⟩) unmeasured
        cases moved
      · intro measured position changed
        obtain ⟨before, has, rfl⟩ := Option.map_eq_some_iff.mp changed
        exact fun none => absurd none (measured before has)

def AllOpen (P : Position → Prop) (world : World β) : Prop :=
  ∀ id, ∀ position ∈ world.positions.get id, P position

theorem step_all_open (P : Position → Prop) (world : World β) (call : Call) (before : AllOpen P world) :
    AllOpen P (step rules world call) ↔ ∀ position ∈ change rules call (world.positions.get call.id), P position := by
  constructor
  · intro all position changed
    refine all call.id position ?_
    rw [step_get, if_pos rfl]
    exact changed
  · intro here id position held
    rw [step_get] at held
    split at held
    · exact here position held
    · exact before id position held

theorem step_sound (world : World β) (call : Call) (sound : AllOpen Sound world) : AllOpen Sound (step rules world call) :=
  (step_all_open rules Sound world call sound).mpr (change_sound rules call _ (sound call.id))

end

section

variable [PyFloat ℚ] {β : Type} (rules : PositionRules) (name : PositionId → String)

-- Every open position comes back from its document as it is.
def Restorable (world : World β) : Prop :=
  ∀ id, ∀ position ∈ world.positions.get id,
    positionFromState (positionToState (name id) position) = .ok (name id, position)

theorem restorable_iff (world : World β) (sound : AllOpen Sound world) : Restorable name world ↔ AllOpen Anchored world := by
  constructor
  · intro restorable id position held
    exact (read_back_iff (name id) position (sound id position held)).mp (restorable id position held)
  · intro anchored id position held
    exact (read_back_iff (name id) position (sound id position held)).mpr (anchored id position held)

theorem step_restorable_iff (world : World β) (call : Call) (sound : AllOpen Sound world) (anchored : AllOpen Anchored world) :
    Restorable name (step rules world call) ↔ StopMeasured world call := by
  rw [restorable_iff name _ (step_sound rules world call sound), step_all_open rules Anchored world call anchored]
  exact change_anchored_iff rules world call (anchored call.id)

-- From no open positions on, every state of a run can be restored exactly
-- where no call gives a stop to a position that was opened without one.
theorem snapshots_lossless_iff (world : World β) (calls : List Call) :
    Always (step rules) (Restorable name) { world with positions := {} } calls ↔
      Each (step rules) StopMeasured { world with positions := {} } calls := by
  refine Run.always_iff (step rules) (Restorable name) StopMeasured
    (fun world => AllOpen Sound world ∧ AllOpen Anchored world) ?_ ?_ ?_ _ calls ?_
  · exact fun world inv => (restorable_iff name world inv.1).mpr inv.2
  · exact fun world call inv => step_restorable_iff rules name world call inv.1 inv.2
  · intro world call inv measured
    have sound := step_sound rules world call inv.1
    exact ⟨sound, (restorable_iff name _ sound).mp ((step_restorable_iff rules name world call inv.1 inv.2).mpr measured)⟩
  · exact ⟨fun id position held => (by cases held), fun id position held => (by cases held)⟩

end

def broker : World Unit := .fresh {} {} none () ⟨fun _ => none, fun _ => []⟩ 0

def adoptThenStop : List Call :=
  [.adopt 0 "XAUUSD" .long 1 2000 (by decide +kernel) none none "1" IsoTime.leapDay, .modifyStop 0 1990]

-- The adopted position has no initial stop, and no risk to measure; the one
-- that is rebuilt takes the stop set later for it.
theorem later_stop_taken_for_initial :
    ¬ Always (step {}) (Restorable (fun _ => "a")) { broker with positions := {} } adoptThenStop := by
  intro always
  have last := Run.always_final _ _ _ _ always
  obtain ⟨position, held, written, unmeasured, stop⟩ : ∃ position,
      (Run.final (step {}) { broker with positions := {} } adoptThenStop).positions.get 0 = some position ∧
        Written position ∧ position.initialStop = none ∧ position.stopLoss = some 1990 :=
    ⟨_, rfl, ⟨rfl, rfl, rfl, IsoTime.leapDay, rfl⟩, rfl, rfl⟩
  have rebuilt := last 0 position held
  rw [position_read "a" position written] at rebuilt
  have same := congrArg Position.initialStop (Prod.ext_iff.mp (Except.ok.inj rebuilt)).2
  simp [Position.postInit, unmeasured, stop] at same

end QuantEngine.PositionSnapshots
