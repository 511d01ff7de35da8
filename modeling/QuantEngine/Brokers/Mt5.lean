import QuantEngine.Execution.Engine
import QuantEngine.Library.Text
import Mathlib.Data.List.Sort

set_option autoImplicit false

namespace QuantEngine

open Calendar (Moment)
open Decimal (roundTo)

def lower (text : String) : String := String.ofList (text.toList.map Char.toLower)

-- `number or default`: a zero counts as absent.
def numberOr (number : Option ℚ) (default : ℚ) : ℚ :=
  match number with
  | none => default
  | some number => if number = 0 then default else number

-- What the terminal hands out. A field that the code reads with `getattr` and
-- a default is optional.
structure SymbolInfo where
  tradeContractSize : Option ℚ := none
  volumeMin : Option ℚ := none
  volumeMax : Option ℚ := none
  volumeStep : Option ℚ := none
  fillingMode : Nat := 0
  deriving DecidableEq

structure LivePosition where
  ticket : Int
  symbol : String
  kind : Option Int
  time : Option Int
  magic : Option Int
  volume : ℚ
  priceOpen : ℚ
  sl : ℚ
  tp : ℚ
  deriving DecidableEq

structure Payload where
  symbol : String
  volume : ℚ
  kind : Int
  price : ℚ
  deviation : Int
  magic : Int
  comment : Option String
  position : Option Int := none
  sl : Option ℚ := none
  tp : Option ℚ := none
  typeFilling : Option Int := none
  deriving DecidableEq

structure OrderResult where
  retcode : Option Int
  price : Option ℚ
  volume : Option ℚ
  order : Option Int
  commission : Option ℚ
  deriving DecidableEq

-- The MetaTrader 5 terminal in a state of its own. A query gives none where
-- the terminal reports an error; sending an order may change the state.
structure Terminal (τ : Type) where
  symbolInfo : τ → String → Option SymbolInfo
  symbolsGet : τ → Option (List String)
  positionsGet : τ → Option String → Option (List LivePosition)
  accountInfo : τ → Option (Option ℚ)
  orderSend : τ → Payload → Option OrderResult × τ
  lastError : τ → Int

namespace Mt5

def orderTypeBuy : Int := 0
def orderTypeSell : Int := 1
def positionTypeBuy : Int := 0
def positionTypeSell : Int := 1
def orderFillingFok : Int := 0
def orderFillingIoc : Int := 1
def orderFillingReturn : Int := 2
def symbolFillingFok : Nat := 1
def symbolFillingIoc : Nat := 2
def retcodeDone : Int := 10009
def retcodeInvalidFill : Int := 10030

end Mt5

structure Mt5Broker (τ : Type) where
  mt5 : Terminal τ
  deviation : Int := 20
  magic : Int := 777001

-- `sent` are the orders handed to `order_send`, for the statements; no code
-- reads it.
structure Mt5State (τ : Type) where
  connected : Bool
  symbolCache : Dict String String := .empty
  terminal : τ
  executed : Nat := 0
  rejected : Nat := 0
  sent : List Payload := []

def isAsciiWord (c : Char) : Bool := c.isAlphanum || c == ' '

def words (chars : List Char) : List (List Char) :=
  (chars.splitOnP (fun c => c == ' ')).filter (fun word => !word.isEmpty)

def mt5Comment (reason : String) : String :=
  let text := if reason = "" then "quantengine" else reason
  let ascii := text.toList.filter (fun c => decide (c.toNat < 128))
  let cleaned := [' '].intercalate (words (ascii.map (fun c => if isAsciiWord c then c else ' ')))
  let comment := Text.strip (String.ofList (cleaned.take 31))
  if comment = "" then "quantengine" else comment

variable {τ : Type}

namespace Mt5Broker

variable (adapter : Mt5Broker τ)

-- The name and the cache with it; a query of the engine does not keep the
-- cache, and would find the name again.
def resolveSymbol (state : Mt5State τ) (symbol : String) : String × Dict String String :=
  let key := lower symbol
  match state.symbolCache.lookup key with
  | some name => (name, state.symbolCache)
  | none =>
      let name := match adapter.mt5.symbolInfo state.terminal symbol with
        | some _ => symbol
        | none =>
            (((adapter.mt5.symbolsGet state.terminal).getD []).find? (fun name => decide (lower name = key))).getD symbol
      (name, state.symbolCache.insert key name)

def positionsOf (state : Mt5State τ) (symbol : String) : Option (List LivePosition) :=
  adapter.mt5.positionsGet state.terminal (some symbol)

def accountBalance (state : Mt5State τ) : Option ℚ :=
  if !state.connected then none else (adapter.mt5.accountInfo state.terminal).getD none

-- A set of tickets, as a list. Disconnected, on an error and where nothing is
-- open the answer is the same.
def openPositionTickets (state : Mt5State τ) (symbol : String) : List Int :=
  if !state.connected then []
  else ((adapter.positionsOf state (adapter.resolveSymbol state symbol).1).getD []).map LivePosition.ticket

def adopted (live : LivePosition) : BrokerPosition where
  ticket := live.ticket
  symbol := upper live.symbol
  isLong := decide (live.kind.getD Mt5.positionTypeBuy = Mt5.positionTypeBuy)
  volume := live.volume
  priceOpen := live.priceOpen
  stopLoss := if live.sl = 0 then none else some live.sl
  takeProfit := if live.tp = 0 then none else some live.tp
  openedAt := live.time.bind (fun seconds => if seconds = 0 then none else some (seconds * 1000000))

def openBrokerPositions (state : Mt5State τ) : List BrokerPosition :=
  if !state.connected then []
  else (((adapter.mt5.positionsGet state.terminal none).getD []).filter
    (fun live => decide (live.magic.getD adapter.magic = adapter.magic))).map adopted

def instrumentSpec (state : Mt5State τ) (symbol : String) : Option InstrumentSpec :=
  if !state.connected then none
  else (adapter.mt5.symbolInfo state.terminal (adapter.resolveSymbol state symbol).1).map (fun info =>
    { symbol := upper symbol
      contractSize := numberOr info.tradeContractSize 1
      volumeMin := numberOr info.volumeMin (1 / 100)
      volumeStep := numberOr info.volumeStep (1 / 100)
      volumeMax := numberOr info.volumeMax 0 })

def normalizeVolume (state : Mt5State τ) (symbol : String) (quantity : ℚ) : Option ℚ :=
  match adapter.mt5.symbolInfo state.terminal symbol with
  | none => none
  | some info =>
      let vmin := numberOr info.volumeMin (1 / 100)
      let vmax := numberOr info.volumeMax 0
      let step := numberOr info.volumeStep (1 / 100)
      if quantity < vmin - 1 / 1000000000000 then none
      else
        let volume := if vmax > 0 then min vmax quantity else quantity
        some (max vmin (roundTo 8 ((Decimal.roundHalfEven (volume / step) : ℚ) * step)))

def preferredModes (allowed : Nat) : List Int :=
  (if allowed &&& Mt5.symbolFillingIoc ≠ 0 then [Mt5.orderFillingIoc] else []) ++
    (if allowed &&& Mt5.symbolFillingFok ≠ 0 then [Mt5.orderFillingFok] else [])

def addMode (modes : List Int) (mode : Int) : List Int := if mode ∈ modes then modes else modes ++ [mode]

def fillingModes (state : Mt5State τ) (symbol : String) : List Int :=
  let allowed := ((adapter.mt5.symbolInfo state.terminal symbol).map SymbolInfo.fillingMode).getD 0
  [Mt5.orderFillingIoc, Mt5.orderFillingFok, Mt5.orderFillingReturn].foldl addMode (preferredModes allowed)

-- The oldest position of the opposite direction, the first where several are
-- as old; the sort is stable.
def matchingPositionTicket (state : Mt5State τ) (symbol : String) (closingIsBuy : Bool) : Option Int :=
  let target := if closingIsBuy then Mt5.positionTypeSell else Mt5.positionTypeBuy
  let matching := ((adapter.positionsOf state symbol).getD []).filter (fun live => decide (live.kind.getD (-1) = target))
  (matching.insertionSort (fun a b => a.time.getD 0 ≤ b.time.getD 0)).head?.map LivePosition.ticket

def send (state : Mt5State τ) (payload : Payload) : Option OrderResult × Mt5State τ :=
  let answer := adapter.mt5.orderSend state.terminal payload
  (answer.1, { state with terminal := answer.2, sent := state.sent ++ [payload] })

-- One filling mode, and once more without the comment where that was at fault.
def sendMode (state : Mt5State τ) (payload : Payload) : Option OrderResult × Payload × Mt5State τ :=
  let first := adapter.send state payload
  if first.1.isNone && decide (adapter.mt5.lastError first.2.terminal = -2) && payload.comment.isSome then
    let bare := { payload with comment := none }
    let second := adapter.send first.2 bare
    (second.1, bare, second.2)
  else (first.1, payload, first.2)

def sendModes (state : Mt5State τ) (payload : Payload) (last : Option OrderResult) :
    List Int → Option OrderResult × Mt5State τ
  | [] => (last, state)
  | mode :: rest =>
      let tried := adapter.sendMode state { payload with typeFilling := some mode }
      match tried.1 with
      | none => (none, tried.2.2)
      | some result =>
          if result.retcode.getD (-1) ≠ Mt5.retcodeInvalidFill then (some result, tried.2.2)
          else sendModes tried.2.2 tried.2.1 (some result) rest

def sendWithFallbacks (state : Mt5State τ) (symbol : String) (payload : Payload) : Option OrderResult × Mt5State τ :=
  adapter.sendModes state payload none (adapter.fillingModes state symbol)

def reject (state : Mt5State τ) (reason : RejectReason) : BrokerExecution × Mt5State τ :=
  (⟨none, reason⟩, { state with rejected := state.rejected + 1 })

def filledOf (result : OrderResult) (request : OrderRequest) (ticker : Ticker) (requestedVolume : ℚ) (now : Moment) :
    Fill where
  requestId := request.requestId
  symbol := request.symbol
  side := request.side
  quantity := numberOr result.volume requestedVolume
  requestedQuantity := requestedVolume
  referencePrice := ticker.mid
  price := numberOr result.price ticker.mid
  spreadBps := ticker.spreadBps
  commission := |result.commission.getD 0|
  executedAt := now
  brokerRef := result.order.bind (fun order => if order = 0 then none else some (toString order))

def interpret (state : Mt5State τ) (result : Option OrderResult) (request : OrderRequest) (ticker : Ticker)
    (requestedVolume : ℚ) (now : Moment) : BrokerExecution × Mt5State τ :=
  match result with
  | none => reject state .brokerRejected
  | some result =>
      if result.retcode.getD (-1) ≠ Mt5.retcodeDone then reject state .brokerRejected
      else (⟨some (filledOf result request ticker requestedVolume now), .none⟩,
        { state with executed := state.executed + 1 })

def payloadOf (request : OrderRequest) (ticker : Ticker) (symbol : String) (volume : ℚ) : Payload where
  symbol := symbol
  volume := volume
  kind := if request.side = .buy then Mt5.orderTypeBuy else Mt5.orderTypeSell
  price := if request.side = .buy then ticker.ask else ticker.bid
  deviation := adapter.deviation
  magic := adapter.magic
  comment := some (mt5Comment request.reason)

-- A closing order names a position for the terminal to close; an opening one
-- carries its stop and target.
def addressed (state : Mt5State τ) (request : OrderRequest) (payload : Payload) : Option Payload :=
  if request.reduceOnly then
    (adapter.matchingPositionTicket state payload.symbol (decide (request.side = .buy))).map
      (fun ticket => { payload with position := some ticket })
  else some { payload with sl := request.stopLoss, tp := request.takeProfit }

def resolved (state : Mt5State τ) (symbol : String) : Mt5State τ :=
  { state with symbolCache := (adapter.resolveSymbol state symbol).2 }

def execute (state : Mt5State τ) (now : Moment) (request : OrderRequest) (ticker : Ticker)
    (_context : Option SlippageContext) (_allowReject _allowPartial : Bool) : BrokerExecution × Mt5State τ :=
  if request.quantity ≤ 0 then reject state .invalidQuantity
  else if ticker.bid ≤ 0 ∨ ticker.ask ≤ 0 ∨ ticker.ask < ticker.bid then reject state .noMarketData
  else if !state.connected then reject state .brokerUnavailable
  else if request.orderType ≠ .market then reject state .brokerRejected
  else
    let real := (adapter.resolveSymbol state request.symbol).1
    let state := adapter.resolved state request.symbol
    match adapter.normalizeVolume state real request.quantity with
    | none => reject state .invalidQuantity
    | some volume =>
        match adapter.addressed state request (adapter.payloadOf request ticker real volume) with
        | none => reject state .brokerRejected
        | some payload =>
            let answer := adapter.sendWithFallbacks state real payload
            interpret answer.2 answer.1 request ticker volume now

-- The checks before an order is made out, and the volume it is made out for.
structure Ready (state : Mt5State τ) (request : OrderRequest) (ticker : Ticker) (volume : ℚ) : Prop where
  quantity : 0 < request.quantity
  quoted : ¬ (ticker.bid ≤ 0 ∨ ticker.ask ≤ 0 ∨ ticker.ask < ticker.bid)
  connected : state.connected = true
  market : request.orderType = .market
  sized : adapter.normalizeVolume (adapter.resolved state request.symbol)
    (adapter.resolveSymbol state request.symbol).1 request.quantity = some volume

structure Sends (state : Mt5State τ) (request : OrderRequest) (ticker : Ticker) (volume : ℚ) (payload : Payload) :
    Prop extends Ready adapter state request ticker volume where
  addressed : adapter.addressed (adapter.resolved state request.symbol) request
    (adapter.payloadOf request ticker (adapter.resolveSymbol state request.symbol).1 volume) = some payload

def answer (state : Mt5State τ) (request : OrderRequest) (payload : Payload) : Option OrderResult × Mt5State τ :=
  adapter.sendWithFallbacks (adapter.resolved state request.symbol) (adapter.resolveSymbol state request.symbol).1 payload

theorem execute_sends (state : Mt5State τ) (now : Moment) (request : OrderRequest) (ticker : Ticker)
    (context : Option SlippageContext) (allowReject allowPartial : Bool) (volume : ℚ) (payload : Payload)
    (sends : adapter.Sends state request ticker volume payload) :
    adapter.execute state now request ticker context allowReject allowPartial =
      interpret (adapter.answer state request payload).2 (adapter.answer state request payload).1 request ticker volume
        now := by
  obtain ⟨⟨quantity, quoted, connected, market, sized⟩, addressed⟩ := sends
  simp only [execute, if_neg (not_le.mpr quantity), if_neg quoted, connected, Bool.not_true, Bool.false_eq_true,
    if_false, ne_eq, market, not_true_eq_false, sized, addressed]
  rfl

theorem execute_idle (state : Mt5State τ) (now : Moment) (request : OrderRequest) (ticker : Ticker)
    (context : Option SlippageContext) (allowReject allowPartial : Bool)
    (idle : ∀ volume payload, ¬ adapter.Sends state request ticker volume payload) :
    (adapter.execute state now request ticker context allowReject allowPartial).1.fill = none ∧
      (adapter.execute state now request ticker context allowReject allowPartial).2.sent = state.sent := by
  simp only [execute]
  split
  · exact ⟨rfl, rfl⟩
  · rename_i quantity
    split
    · exact ⟨rfl, rfl⟩
    · rename_i quoted
      split
      · exact ⟨rfl, rfl⟩
      · rename_i connected
        split
        · exact ⟨rfl, rfl⟩
        · rename_i market
          split
          · exact ⟨rfl, rfl⟩
          · rename_i volume sized
            split
            · exact ⟨rfl, rfl⟩
            · rename_i payload addressed
              have online : state.connected = true := by simpa using connected
              exact (idle volume payload ⟨⟨not_le.mp quantity, quoted, online, not_not.mp market, sized⟩, addressed⟩).elim

theorem interpret_fill (state : Mt5State τ) (result : Option OrderResult) (request : OrderRequest) (ticker : Ticker)
    (volume : ℚ) (now : Moment) (fill : Fill)
    (filled : (interpret state result request ticker volume now).1.fill = some fill) :
    ∃ report, result = some report ∧ report.retcode.getD (-1) = Mt5.retcodeDone ∧
      fill = filledOf report request ticker volume now := by
  cases result with
  | none => cases filled
  | some report =>
      simp only [interpret] at filled
      split at filled
      · cases filled
      · rename_i done
        exact ⟨report, rfl, not_not.mp done, (Option.some.inj filled).symm⟩

theorem execute_fill (state : Mt5State τ) (now : Moment) (request : OrderRequest) (ticker : Ticker)
    (context : Option SlippageContext) (allowReject allowPartial : Bool) (fill : Fill)
    (filled : (adapter.execute state now request ticker context allowReject allowPartial).1.fill = some fill) :
    fill.symbol = request.symbol ∧ fill.side = request.side := by
  by_cases sending : ∃ volume payload, adapter.Sends state request ticker volume payload
  · obtain ⟨volume, payload, sends⟩ := sending
    rw [adapter.execute_sends state now request ticker context allowReject allowPartial volume payload sends] at filled
    obtain ⟨report, -, -, rfl⟩ := interpret_fill _ _ _ _ _ _ fill filled
    exact ⟨rfl, rfl⟩
  · have idle (volume : ℚ) (payload : Payload) : ¬ adapter.Sends state request ticker volume payload :=
      fun sends => sending ⟨volume, payload, sends⟩
    cases filled.symm.trans (adapter.execute_idle state now request ticker context allowReject allowPartial idle).1

def broker : Broker (Mt5State τ) where
  execute := adapter.execute
  accountBalance := some adapter.accountBalance
  openBrokerPositions := some adapter.openBrokerPositions
  openPositionTickets := some adapter.openPositionTickets
  instrumentSpec := some adapter.instrumentSpec
  fillsRequest := adapter.execute_fill

def engine (settings : ExecutionSettings) (hasContext : Bool) : ExecutionEngine (Mt5State τ) :=
  ⟨settings, adapter.broker, hasContext⟩

end Mt5Broker

end QuantEngine
