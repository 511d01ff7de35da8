import QuantEngine.Execution.Models
import QuantEngine.Research.Models

set_option autoImplicit false

namespace QuantEngine.TradeFiles

open Research (ofValue orNull)

-- A trade as the journal's file has it: what is taken over as it is may be any
-- document, and the context has the keys that `dict` makes.
structure TradeRecord where
  tradeId : String
  positionId : String
  symbol : String
  side : PositionSide
  quantity : ℚ
  entryTime : Datetime
  exitTime : Datetime
  entryPrice : ℚ
  exitPrice : ℚ
  stopLoss : Option ℚ
  takeProfit : Option ℚ
  commission : ℚ
  slippageBps : ℚ
  spreadBps : ℚ
  pnl : ℚ
  pnlGross : ℚ
  rMultiple : ℚ
  returnPct : ℚ
  atr : Option ℚ
  volatility : String
  regime : String
  score : ℚ
  confidence : ℚ
  exitReason : ExitReason
  entryReasons : List (Json ℚ)
  exitReasons : List (Json ℚ)
  decisionId : Json ℚ
  contextSnapshot : List (Json ℚ × Json ℚ)
  recordedAt : Datetime

namespace TradeRecord

def durationSeconds (trade : TradeRecord) : ℚ := ((trade.exitTime.moment - trade.entryTime.moment : Int) : ℚ) / 1000000

def isWin (trade : TradeRecord) : Bool := decide (trade.pnl > 0)

-- Only string keys are written as they are.
def contextMembers (trade : TradeRecord) : List (String × Json ℚ) :=
  trade.contextSnapshot.filterMap (fun entry => match entry.1 with
    | .str key => some (key, entry.2)
    | _ => none)

def toDict (trade : TradeRecord) : Json ℚ :=
  .obj [("trade_id", .str trade.tradeId),
    ("position_id", .str trade.positionId),
    ("symbol", .str trade.symbol),
    ("side", .str trade.side.value),
    ("quantity", .float trade.quantity),
    ("entry_time", .str (IsoTime.isoformat trade.entryTime)),
    ("exit_time", .str (IsoTime.isoformat trade.exitTime)),
    ("duration_seconds", .float trade.durationSeconds),
    ("entry_price", .float trade.entryPrice),
    ("exit_price", .float trade.exitPrice),
    ("stop_loss", orNull .float trade.stopLoss),
    ("take_profit", orNull .float trade.takeProfit),
    ("commission", .float trade.commission),
    ("slippage_bps", .float trade.slippageBps),
    ("spread_bps", .float trade.spreadBps),
    ("pnl", .float trade.pnl),
    ("pnl_gross", .float trade.pnlGross),
    ("r_multiple", .float trade.rMultiple),
    ("return_pct", .float trade.returnPct),
    ("is_win", .bool trade.isWin),
    ("atr", orNull .float trade.atr),
    ("volatility", .str trade.volatility),
    ("regime", .str trade.regime),
    ("score", .float trade.score),
    ("confidence", .float trade.confidence),
    ("exit_reason", .str trade.exitReason.value),
    ("entry_reasons", .arr trade.entryReasons),
    ("exit_reasons", .arr trade.exitReasons),
    ("decision_id", trade.decisionId),
    ("context_snapshot", .obj trade.contextMembers),
    ("recorded_at", .str (IsoTime.isoformat trade.recordedAt))]

end TradeRecord

def sideMembers : List PositionSide := [.long, .short]

def exitMembers : List ExitReason :=
  [.takeProfit, .stopLoss, .trailingStop, .breakEven, .timeExit, .volatilityExit, .regimeChange, .contextLost, .riskExit,
    .killSwitch, .manual]

def numeric : Json ℚ → Option ℚ
  | .bool value => some (if value then 1 else 0)
  | .int value => some value
  | .float value => some value
  | _ => none

def sameKey (a b : Json ℚ) : Bool :=
  match a, b with
  | .null, .null => true
  | .str a, .str b => decide (a = b)
  | a, b => match numeric a, numeric b with
    | some x, some y => decide (x = y)
    | _, _ => false

def hashable : Json ℚ → Bool
  | .arr _ | .obj _ => false
  | _ => true

def setKey (entries : List (Json ℚ × Json ℚ)) (key value : Json ℚ) : List (Json ℚ × Json ℚ) :=
  if entries.any (fun entry => sameKey entry.1 key) then
    entries.map (fun entry => if sameKey entry.1 key then (entry.1, value) else entry)
  else entries ++ [(key, value)]

-- `dict(data)`: of a mapping, or of a sequence of pairs.
def pairOf (item : Json ℚ) : Except PyError (Json ℚ × Json ℚ) := do
  match ← item.iterate with
  | [key, value] => if hashable key then .ok (key, value) else .error .type
  | _ => .error .value

def dictOfPairs (data : Json ℚ) : Except PyError (List (Json ℚ × Json ℚ)) := do
  let pairs ← Json.mapAll pairOf (← data.iterate)
  .ok (pairs.foldl (fun entries pair => setKey entries pair.1 pair.2) [])

def dictOf (data : Json ℚ) : Except PyError (List (Json ℚ × Json ℚ)) :=
  match data with
  | .obj members => .ok (members.map (fun entry => (.str entry.1, entry.2)))
  | other => dictOfPairs other

section

variable [PyFloat ℚ]

def text (data : Json ℚ) (name : String) : Except PyError String := do .ok (← data.item name).toText

def number (data : Json ℚ) (name : String) : Except PyError ℚ := do (← data.item name).toFloat

def datetime (data : Json ℚ) (name : String) : Except PyError Datetime := do
  IsoTime.fromisoformat (← data.item name).toText

def textOr (data : Json ℚ) (name default : String) : Except PyError String := do
  .ok (← data.get name (.str default)).toText

def numberOr (data : Json ℚ) (name : String) : Except PyError ℚ := do (← data.get name (.float 0)).toFloat

def opt (value : Json ℚ) : Except PyError (Option ℚ) :=
  match value with
  | .null => .ok none
  | other => do .ok (some (← other.toFloat))

namespace TradeRecord

def fromDict (data : Json ℚ) : Except PyError TradeRecord := do
  let tradeId ← text data "trade_id"
  let positionId ← text data "position_id"
  let symbol ← text data "symbol"
  let side ← ofValue PositionSide.value sideMembers (← data.item "side")
  let quantity ← number data "quantity"
  let entryTime ← datetime data "entry_time"
  let exitTime ← datetime data "exit_time"
  let entryPrice ← number data "entry_price"
  let exitPrice ← number data "exit_price"
  let stopLoss ← opt (← data.get "stop_loss" .null)
  let takeProfit ← opt (← data.get "take_profit" .null)
  let commission ← numberOr data "commission"
  let slippageBps ← numberOr data "slippage_bps"
  let spreadBps ← numberOr data "spread_bps"
  let pnl ← numberOr data "pnl"
  let pnlGross ← numberOr data "pnl_gross"
  let rMultiple ← numberOr data "r_multiple"
  let returnPct ← numberOr data "return_pct"
  let atr ← opt (← data.get "atr" .null)
  let volatility ← textOr data "volatility" "normal"
  let regime ← textOr data "regime" "unknown"
  let score ← numberOr data "score"
  let confidence ← numberOr data "confidence"
  let exitReason ← ofValue ExitReason.value exitMembers (← data.get "exit_reason" (.str ExitReason.manual.value))
  let entryReasons ← (← data.get "entry_reasons" (.arr [])).iterate
  let exitReasons ← (← data.get "exit_reasons" (.arr [])).iterate
  let decisionId ← data.get "decision_id" .null
  let contextSnapshot ← dictOf (← data.get "context_snapshot" (.obj []))
  let recordedAt ← datetime data "recorded_at"
  .ok ⟨tradeId, positionId, symbol, side, quantity, entryTime, exitTime, entryPrice, exitPrice, stopLoss, takeProfit,
    commission, slippageBps, spreadBps, pnl, pnlGross, rMultiple, returnPct, atr, volatility, regime, score, confidence,
    exitReason, entryReasons, exitReasons, decisionId, contextSnapshot, recordedAt⟩

end TradeRecord

-- The decoder of the recovery service.
def optFloat (value : Json ℚ) : Except PyError (Option ℚ) :=
  match value with
  | .null => .ok none
  | other => do .ok (some (← other.toFloat))

def tradeFromDict (data : Json ℚ) : Except PyError TradeRecord := do
  let tradeId ← text data "trade_id"
  let positionId ← text data "position_id"
  let symbol ← text data "symbol"
  let side ← ofValue PositionSide.value sideMembers (← data.item "side")
  let quantity ← number data "quantity"
  let entryTime ← datetime data "entry_time"
  let exitTime ← datetime data "exit_time"
  let entryPrice ← number data "entry_price"
  let exitPrice ← number data "exit_price"
  let stopLoss ← optFloat (← data.get "stop_loss" .null)
  let takeProfit ← optFloat (← data.get "take_profit" .null)
  let commission ← numberOr data "commission"
  let slippageBps ← numberOr data "slippage_bps"
  let spreadBps ← numberOr data "spread_bps"
  let pnl ← numberOr data "pnl"
  let pnlGross ← numberOr data "pnl_gross"
  let rMultiple ← numberOr data "r_multiple"
  let returnPct ← numberOr data "return_pct"
  let atr ← optFloat (← data.get "atr" .null)
  let volatility ← textOr data "volatility" "normal"
  let regime ← textOr data "regime" "unknown"
  let score ← numberOr data "score"
  let confidence ← numberOr data "confidence"
  let exitReason ← ofValue ExitReason.value exitMembers (← data.get "exit_reason" (.str ExitReason.manual.value))
  let entryReasons ← (← data.get "entry_reasons" (.arr [])).iterate
  let exitReasons ← (← data.get "exit_reasons" (.arr [])).iterate
  let decisionId ← data.get "decision_id" .null
  let contextSnapshot ← dictOf (← data.get "context_snapshot" (.obj []))
  let recordedAt ← datetime data "recorded_at"
  .ok ⟨tradeId, positionId, symbol, side, quantity, entryTime, exitTime, entryPrice, exitPrice, stopLoss, takeProfit,
    commission, slippageBps, spreadBps, pnl, pnlGross, rMultiple, returnPct, atr, volatility, regime, score, confidence,
    exitReason, entryReasons, exitReasons, decisionId, contextSnapshot, recordedAt⟩

theorem opt_same (value : Json ℚ) : optFloat value = opt value := by
  cases value <;> rfl

theorem decoders_agree (data : Json ℚ) : tradeFromDict data = TradeRecord.fromDict data := by
  simp only [tradeFromDict, TradeRecord.fromDict, opt_same]

-- What is written of a record: its context has string keys, each once.
structure JsonSafe (trade : TradeRecord) : Prop where
  context : ∃ members : Dict String (Json ℚ), trade.contextSnapshot = members.entries.map (fun entry => (.str entry.1, entry.2))

theorem opt_read (number : Option ℚ) : opt (orNull .float number) = .ok number := by
  cases number <;> rfl

end

theorem context_read (trade : TradeRecord) (safe : JsonSafe trade) : dictOf (.obj trade.contextMembers) = .ok trade.contextSnapshot := by
  obtain ⟨members, context⟩ := safe
  have written : trade.contextMembers = members.entries := by
    rw [TradeRecord.contextMembers, context, List.filterMap_map]
    exact List.filterMap_some
  rw [written, context]
  rfl

theorem side_read (side : PositionSide) : ofValue PositionSide.value sideMembers (.str side.value : Json ℚ) = .ok side := by
  cases side <;> rfl

theorem reason_read (reason : ExitReason) : ofValue ExitReason.value exitMembers (.str reason.value : Json ℚ) = .ok reason := by
  cases reason <;> rfl

def done {α : Type} (result : Except PyError α) : Except PyError Unit := result.map (fun _ => ())

theorem done_bind {α β : Type} (result : Except PyError α) (f : α → Except PyError β) :
    done (result >>= f) = result >>= fun value => done (f value) := by
  cases result <;> rfl

theorem bind_done {α β : Type} (result : Except PyError α) (rest : Except PyError β) :
    (done result >>= fun _ => rest) = result >>= fun _ => rest := by
  cases result <;> rfl

theorem bind_assoc {α β γ : Type} (result : Except PyError α) (f : α → Except PyError β) (g : β → Except PyError γ) :
    result >>= f >>= g = result >>= fun value => f value >>= g := by
  cases result <;> rfl

section

variable [PyFloat ℚ]

theorem from_to_dict (trade : TradeRecord) (safe : JsonSafe trade) : TradeRecord.fromDict trade.toDict = .ok trade := by
  have tradeId : text trade.toDict "trade_id" = .ok trade.tradeId := rfl
  have positionId : text trade.toDict "position_id" = .ok trade.positionId := rfl
  have symbol : text trade.toDict "symbol" = .ok trade.symbol := rfl
  have side : trade.toDict.item "side" = .ok (.str trade.side.value) := rfl
  have quantity : number trade.toDict "quantity" = .ok trade.quantity := rfl
  have entryTime : trade.toDict.item "entry_time" = .ok (.str (IsoTime.isoformat trade.entryTime)) := rfl
  have exitTime : trade.toDict.item "exit_time" = .ok (.str (IsoTime.isoformat trade.exitTime)) := rfl
  have entryPrice : number trade.toDict "entry_price" = .ok trade.entryPrice := rfl
  have exitPrice : number trade.toDict "exit_price" = .ok trade.exitPrice := rfl
  have stopLoss : trade.toDict.get "stop_loss" .null = .ok (orNull .float trade.stopLoss) := rfl
  have takeProfit : trade.toDict.get "take_profit" .null = .ok (orNull .float trade.takeProfit) := rfl
  have commission : numberOr trade.toDict "commission" = .ok trade.commission := rfl
  have slippageBps : numberOr trade.toDict "slippage_bps" = .ok trade.slippageBps := rfl
  have spreadBps : numberOr trade.toDict "spread_bps" = .ok trade.spreadBps := rfl
  have pnl : numberOr trade.toDict "pnl" = .ok trade.pnl := rfl
  have pnlGross : numberOr trade.toDict "pnl_gross" = .ok trade.pnlGross := rfl
  have rMultiple : numberOr trade.toDict "r_multiple" = .ok trade.rMultiple := rfl
  have returnPct : numberOr trade.toDict "return_pct" = .ok trade.returnPct := rfl
  have atr : trade.toDict.get "atr" .null = .ok (orNull .float trade.atr) := rfl
  have volatility : textOr trade.toDict "volatility" "normal" = .ok trade.volatility := rfl
  have regime : textOr trade.toDict "regime" "unknown" = .ok trade.regime := rfl
  have score : numberOr trade.toDict "score" = .ok trade.score := rfl
  have confidence : numberOr trade.toDict "confidence" = .ok trade.confidence := rfl
  have exitReason : trade.toDict.get "exit_reason" (.str ExitReason.manual.value) = .ok (.str trade.exitReason.value) := rfl
  have entryReasons : trade.toDict.get "entry_reasons" (.arr []) = .ok (.arr trade.entryReasons) := rfl
  have exitReasons : trade.toDict.get "exit_reasons" (.arr []) = .ok (.arr trade.exitReasons) := rfl
  have decisionId : trade.toDict.get "decision_id" .null = .ok trade.decisionId := rfl
  have contextSnapshot : trade.toDict.get "context_snapshot" (.obj []) = .ok (.obj trade.contextMembers) := rfl
  have recordedAt : trade.toDict.item "recorded_at" = .ok (.str (IsoTime.isoformat trade.recordedAt)) := rfl
  have items (list : List (Json ℚ)) : (Json.arr list).iterate = .ok list := rfl
  have context := context_read trade safe
  simp only [TradeRecord.fromDict, tradeId, positionId, symbol, side, quantity, entryTime, exitTime, entryPrice, exitPrice,
    stopLoss, takeProfit, commission, slippageBps, spreadBps, pnl, pnlGross, rMultiple, returnPct, atr, volatility, regime,
    score, confidence, exitReason, entryReasons, exitReasons, decisionId, contextSnapshot, recordedAt, items, context,
    side_read, reason_read, opt_read, datetime, Json.toText, IsoTime.round_trip, Json.ok_bind]

-- The reads of a record, in the order in which they are made.
inductive Field where
  | text
  | side
  | number
  | datetime
  | opt
  | numberOr
  | textOr (default : String)
  | reason
  | items
  | taken
  | context

def layout : List (String × Field) :=
  [("trade_id", .text), ("position_id", .text), ("symbol", .text), ("side", .side), ("quantity", .number),
    ("entry_time", .datetime), ("exit_time", .datetime), ("entry_price", .number), ("exit_price", .number),
    ("stop_loss", .opt), ("take_profit", .opt), ("commission", .numberOr), ("slippage_bps", .numberOr),
    ("spread_bps", .numberOr), ("pnl", .numberOr), ("pnl_gross", .numberOr), ("r_multiple", .numberOr),
    ("return_pct", .numberOr), ("atr", .opt), ("volatility", .textOr "normal"), ("regime", .textOr "unknown"),
    ("score", .numberOr), ("confidence", .numberOr), ("exit_reason", .reason), ("entry_reasons", .items),
    ("exit_reasons", .items), ("decision_id", .taken), ("context_snapshot", .context), ("recorded_at", .datetime)]

def Field.read (data : Json ℚ) (name : String) : Field → Except PyError Unit
  | .text => done (TradeFiles.text data name)
  | .side => done (do ofValue PositionSide.value sideMembers (← data.item name))
  | .number => done (TradeFiles.number data name)
  | .datetime => done (TradeFiles.datetime data name)
  | .opt => done (do TradeFiles.opt (← data.get name .null))
  | .numberOr => done (TradeFiles.numberOr data name)
  | .textOr default => done (TradeFiles.textOr data name default)
  | .reason => done (do ofValue ExitReason.value exitMembers (← data.get name (.str ExitReason.manual.value)))
  | .items => done (do (← data.get name (.arr [])).iterate)
  | .taken => done (data.get name .null)
  | .context => done (do dictOf (← data.get name (.obj [])))

def readAll (data : Json ℚ) : List (String × Field) → Except PyError Unit
  | [] => .ok ()
  | (name, field) :: rest => do
      field.read data name
      readAll data rest

theorem from_dict_reads (data : Json ℚ) : done (TradeRecord.fromDict data) = readAll data layout := by
  simp only [TradeRecord.fromDict, done_bind, layout, readAll, Field.read, bind_done, bind_assoc]
  rfl

end

-- What the loader takes for a corrupt line and goes on from.
def caught (error : PyError) : Bool :=
  match error with
  | .value | .key | .type => true
  | _ => false

-- The fields that hold a number.
def Field.isNumber : Field → Bool
  | .number | .opt | .numberOr => true
  | _ => false

def integerOf : Json ℚ → Option Int
  | .int value => some value
  | .bool value => some (if value then 1 else 0)
  | _ => none

section

variable [PyFloat ℚ]

-- The document has an integer that no float holds where the first field that
-- cannot be read is a number.
def TooLarge (data : Json ℚ) : Prop :=
  ∃ before name field after, layout = before ++ (name, field) :: after ∧
    (∀ entry ∈ before, entry.2.read data entry.1 = .ok ()) ∧ field.isNumber = true ∧
    ∃ value number error, data.item name = .ok value ∧ integerOf value = some number ∧
      PyFloat.ofInt (F := ℚ) number = .error error ∧ caught error = false

end

theorem iso_error (text : String) (error : PyError) (failed : IsoTime.fromisoformat text = .error error) : error = .value := by
  rw [IsoTime.fromisoformat] at failed
  split at failed
  · split at failed <;> cases failed
    rfl
  · cases failed
    rfl

theorem of_value_error {α : Type} (value : α → String) (members : List α) (data : Json ℚ) (error : PyError)
    (failed : ofValue value members data = .error error) : error = .value := by
  cases data with
  | str text =>
      simp only [ofValue] at failed
      split at failed <;> cases failed
      rfl
  | _ =>
      cases failed
      rfl

theorem bind_error {α β : Type} (result : Except PyError α) (f : α → Except PyError β) (error : PyError)
    (failed : (result >>= f) = .error error) : result = .error error ∨ ∃ value, result = .ok value ∧ f value = .error error := by
  cases result with
  | error other =>
      cases failed
      exact .inl rfl
  | ok value => exact .inr ⟨value, rfl, failed⟩

theorem iterate_error (data : Json ℚ) (error : PyError) (failed : data.iterate = .error error) : error = .type := by
  cases data <;> cases failed <;> rfl

theorem map_all_error {α : Type} (f : Json ℚ → Except PyError α) (items : List (Json ℚ)) (error : PyError)
    (failed : Json.mapAll f items = .error error) : ∃ item, f item = .error error := by
  induction items with
  | nil => cases failed
  | cons item rest ih =>
      rcases bind_error _ _ error failed with first | ⟨value, -, later⟩
      · exact ⟨item, first⟩
      · rcases bind_error _ _ error later with next | ⟨values, -, last⟩
        · exact ih next
        · cases last

theorem pair_error (item : Json ℚ) (error : PyError) (failed : pairOf item = .error error) : caught error = true := by
  rcases bind_error _ _ error failed with first | ⟨values, -, later⟩
  · rw [iterate_error item error first]
    rfl
  · split at later
    · split at later <;> cases later
      rfl
    · cases later
      rfl

theorem pairs_error (data : Json ℚ) (error : PyError)
    (failed : dictOfPairs data = .error error) : caught error = true := by
  rcases bind_error _ _ error failed with first | ⟨items, -, later⟩
  · rw [iterate_error data error first]
    rfl
  · rcases bind_error _ _ error later with pairs | ⟨pairs, -, last⟩
    · obtain ⟨item, bad⟩ := map_all_error pairOf items error pairs
      exact pair_error item error bad
    · cases last

theorem dict_error (data : Json ℚ) (error : PyError) (failed : dictOf data = .error error) : caught error = true := by
  cases data with
  | obj members => cases failed
  | _ => exact pairs_error _ error failed

theorem done_error {α : Type} (result : Except PyError α) (error : PyError) : done result = .error error ↔ result = .error error := by
  cases result <;> simp [done, Except.map]

section

variable [PyFloat ℚ]

theorem to_float_error (data : Json ℚ) (error : PyError) (uncaught : caught error = false) :
    data.toFloat = .error error ↔ ∃ number, integerOf data = some number ∧ PyFloat.ofInt (F := ℚ) number = .error error := by
  have other (reason : PyError) (known : caught reason = true) : reason ≠ error := by
    rintro rfl
    rw [known] at uncaught
    cases uncaught
  cases data with
  | str text =>
      rw [Json.toFloat]
      cases PyFloat.ofText (F := ℚ) text <;> simp [integerOf]
      exact other .value rfl
  | null | arr | obj =>
      simp [Json.toFloat, integerOf]
      exact other .type rfl
  | _ => simp [Json.toFloat, integerOf]

theorem opt_error (value : Json ℚ) (error : PyError) (uncaught : caught error = false) :
    opt value = .error error ↔ value.toFloat = .error error := by
  cases value with
  | null =>
      refine iff_of_false (fun failed => by cases failed) (fun failed => ?_)
      cases failed
      cases uncaught
  | _ =>
      change (Json.toFloat _ >>= fun number => Except.ok (some number)) = _ ↔ _
      constructor
      · intro failed
        rcases bind_error _ _ error failed with first | ⟨number, -, last⟩
        · exact first
        · cases last
      · intro failed
        rw [failed]
        rfl

theorem other_field (members : List (String × Json ℚ)) (name : String) (field : Field) (error : PyError)
    (other : field.isNumber = false) (failed : field.read (.obj members) name = .error error) : caught error = true := by
  have item_error (reason : PyError) (missing : (Json.obj members).item name = .error reason) : caught reason = true := by
    rw [Json.item] at missing
    split at missing <;> cases missing
    rfl
  have got (default : Json ℚ) : ∃ value, (Json.obj members).get name default = .ok value := ⟨_, rfl⟩
  cases field with
  | number | opt | numberOr => cases other
  | text =>
      rcases bind_error _ _ error ((done_error _ error).mp failed) with first | ⟨value, -, last⟩
      · exact item_error error first
      · cases last
  | side =>
      rcases bind_error _ _ error ((done_error _ error).mp failed) with first | ⟨value, -, last⟩
      · exact item_error error first
      · rw [of_value_error _ _ value error last]
        rfl
  | datetime =>
      rcases bind_error _ _ error ((done_error _ error).mp failed) with first | ⟨value, -, last⟩
      · exact item_error error first
      · rw [iso_error _ error last]
        rfl
  | textOr default =>
      have read := (done_error _ error).mp failed
      cases read
  | reason =>
      rw [of_value_error _ _ _ error ((done_error _ error).mp failed)]
      rfl
  | items =>
      rw [iterate_error _ error ((done_error _ error).mp failed)]
      rfl
  | taken =>
      have read := (done_error _ error).mp failed
      cases read
  | context => exact dict_error _ error ((done_error _ error).mp failed)

theorem field_error (members : List (String × Json ℚ)) (name : String) (field : Field) (error : PyError)
    (uncaught : caught error = false) :
    field.read (.obj members) name = .error error ↔
      field.isNumber = true ∧ ∃ value number, (Json.obj members).item name = .ok value ∧ integerOf value = some number ∧
        PyFloat.ofInt (F := ℚ) number = .error error := by
  have zero : ¬ (Json.float 0 : Json ℚ).toFloat = .error error := fun failed => by cases failed
  cases number : field.isNumber with
  | false =>
      refine iff_of_false (fun failed => ?_) (fun claims => by cases claims.1)
      rw [other_field members name field error number failed] at uncaught
      cases uncaught
  | true =>
      cases field with
      | number =>
          rw [Field.read, done_error, TradeFiles.number, Json.item]
          cases Json.member members name with
          | none =>
              refine iff_of_false (fun failed => ?_) (by simp)
              cases failed
              cases uncaught
          | some value => simpa [Json.ok_bind] using to_float_error value error uncaught
      | opt =>
          rw [Field.read, done_error, Json.get, Json.ok_bind, opt_error _ error uncaught, Json.item]
          cases Json.member members name with
          | none =>
              refine iff_of_false (fun failed => ?_) (by simp)
              cases failed
              cases uncaught
          | some value => simpa using to_float_error value error uncaught
      | numberOr =>
          rw [Field.read, done_error, TradeFiles.numberOr, Json.get, Json.ok_bind, Json.item]
          cases Json.member members name with
          | none => simpa using zero
          | some value => simpa using to_float_error value error uncaught
      | _ => cases number

-- The first read that fails decides the error.
theorem read_all_error (data : Json ℚ) (fields : List (String × Field)) (error : PyError) :
    readAll data fields = .error error ↔ ∃ before name field after, fields = before ++ (name, field) :: after ∧
      (∀ entry ∈ before, entry.2.read data entry.1 = .ok ()) ∧ field.read data name = .error error := by
  induction fields with
  | nil =>
      refine iff_of_false (fun failed => by cases failed) ?_
      rintro ⟨before, name, field, after, split, -⟩
      simp at split
  | cons entry rest ih =>
      obtain ⟨name, field⟩ := entry
      rw [readAll]
      cases first : field.read data name with
      | error other =>
          constructor
          · intro failed
            cases failed
            exact ⟨[], name, field, rest, rfl, fun entry none => (by cases none), first⟩
          · rintro ⟨before, later, laterField, after, split, read, failed⟩
            cases before with
            | nil =>
                cases split
                rw [failed] at first
                cases first
                rfl
            | cons head tail =>
                cases split
                have fine := read _ List.mem_cons_self
                rw [first] at fine
                cases fine
      | ok done =>
          rw [Json.ok_bind, ih]
          constructor
          · rintro ⟨before, later, laterField, after, split, read, failed⟩
            refine ⟨(name, field) :: before, later, laterField, after, by rw [split]; rfl, ?_, failed⟩
            intro entry member
            rcases List.mem_cons.mp member with rfl | inside
            · exact first
            · exact read entry inside
          · rintro ⟨before, later, laterField, after, split, read, failed⟩
            cases before with
            | nil =>
                cases split
                rw [failed] at first
                cases first
            | cons head tail =>
                cases split
                exact ⟨tail, later, laterField, after, rfl, fun entry inside => read entry (List.mem_cons_of_mem _ inside), failed⟩

theorem not_object (data : Json ℚ) (name : String) (apart : ∀ members, data ≠ .obj members) :
    Field.read data name .text = .error .type := by
  cases data with
  | obj members => exact absurd rfl (apart members)
  | _ => rfl

theorem uncaught_iff (data : Json ℚ) :
    (∃ error, TradeRecord.fromDict data = .error error ∧ caught error = false) ↔ TooLarge data := by
  have reads (error : PyError) : TradeRecord.fromDict data = .error error ↔ readAll data layout = .error error := by
    rw [← from_dict_reads, done_error]
  by_cases object : ∃ members, data = .obj members
  · obtain ⟨members, rfl⟩ := object
    constructor
    · rintro ⟨error, failed, uncaught⟩
      rw [reads, read_all_error] at failed
      obtain ⟨before, name, field, after, split, read, here⟩ := failed
      obtain ⟨number, value, integer, given, whole, raised⟩ := (field_error members name field error uncaught).mp here
      exact ⟨before, name, field, after, split, read, number, value, integer, error, given, whole, raised, uncaught⟩
    · rintro ⟨before, name, field, after, split, read, number, value, integer, error, given, whole, raised, uncaught⟩
      refine ⟨error, ?_, uncaught⟩
      rw [reads, read_all_error]
      exact ⟨before, name, field, after, split, read,
        (field_error members name field error uncaught).mpr ⟨number, value, integer, given, whole, raised⟩⟩
  · have apart : ∀ members, data ≠ .obj members := fun members same => object ⟨members, same⟩
    have first := not_object data "trade_id" apart
    constructor
    · rintro ⟨error, failed, uncaught⟩
      rw [reads, layout, readAll, first] at failed
      cases failed
      cases uncaught
    · rintro ⟨before, name, field, after, split, read, number, -⟩
      cases before with
      | nil =>
          cases split
          cases number
      | cons head tail =>
          obtain ⟨rfl, -⟩ := List.cons.inj split
          have fine := read _ List.mem_cons_self
          rw [first] at fine
          cases fine

end

end QuantEngine.TradeFiles
