import Mathlib.Data.List.Dedup
import QuantEngine.Library.Coroutine
import QuantEngine.Signals.SignalEngine

set_option autoImplicit false

namespace QuantEngine

open Calendar (Moment)
open Decimal (fixed plain)

structure QuantFiltersSettings where
  enabled : List String := ["session", "spread", "volatility", "liquidity", "news", "drawdown", "correlation"]
  allowedSessions : List String := ["asia", "europe", "america"]
  alwaysOpenSymbols : List String := []
  maxDrawdownPct : ℚ := 5
  correlationGroups : List (List String) := []
  correlationWindowMinutes : ℚ := 30

namespace FilterChain

def lower (text : String) : String := String.ofList (text.toList.map Char.toLower)

-- A set of names in order, as Python prints the list of it.
def listText (names : List String) : String :=
  "[" ++ ", ".intercalate ((names.dedup.insertionSort (· ≤ ·)).map (fun name => "'" ++ name ++ "'")) ++ "]"

def sessionFilter (settings : QuantFiltersSettings) (context : MarketContext) : FilterResult :=
  let allowed := settings.allowedSessions.map lower
  let active := context.sessions.map lower
  if decide (upper context.symbol ∈ settings.alwaysOpenSymbols.map upper) || active.any (fun name => decide (name ∈ allowed))
  then ⟨"session", true, ""⟩
  else ⟨"session", false, "sesión activa " ++ listText (if active.isEmpty then ["ninguna"] else active) ++ " fuera de " ++
    listText allowed⟩

def spreadFilter (context : MarketContext) : FilterResult :=
  if !context.spreadElevated then ⟨"spread", true, ""⟩
  else match context.spreadBps with
    | some spread => ⟨"spread", false, "spread elevado (" ++ fixed 2 spread ++ " bps)"⟩
    | none => ⟨"spread", false, "spread elevado"⟩

def volatilityFilter (context : MarketContext) : FilterResult :=
  if context.volatility ≠ .low then ⟨"volatility", true, ""⟩
  else match context.atrPct with
    | some atrPct => ⟨"volatility", false, "volatilidad insuficiente (ATR " ++ fixed 3 atrPct ++ "%)"⟩
    | none => ⟨"volatility", false, "volatilidad insuficiente"⟩

def liquidityFilter (context : MarketContext) : FilterResult :=
  if context.volumeSufficient then ⟨"liquidity", true, ""⟩
  else ⟨"liquidity", false, "volumen reciente insuficiente (" ++ (context.volumeRecent.map plain).getD "None" ++ ")"⟩

def newsFilter (context : MarketContext) : FilterResult :=
  if !context.newsBlackout then ⟨"news", true, ""⟩ else ⟨"news", false, "ventana de noticias activa"⟩

def drawdownFilter (settings : QuantFiltersSettings) (current : ℚ) : FilterResult :=
  if current ≤ settings.maxDrawdownPct then ⟨"drawdown", true, ""⟩
  else ⟨"drawdown", false, "drawdown diario " ++ fixed 2 current ++ "% > máximo " ++ fixed 2 settings.maxDrawdownPct ++ "%"⟩

def groups (settings : QuantFiltersSettings) : List (List String) :=
  settings.correlationGroups.map (fun group => group.map upper)

def groupOf (settings : QuantFiltersSettings) (symbol : String) : Option (List String) :=
  (groups settings).find? (fun group => decide (upper symbol ∈ group))

def blocks (settings : QuantFiltersSettings) (symbol : String) (group : List String) (now : Moment) (decision : Decision) :
    Bool :=
  decision.accepted && decide (decision.symbol ≠ upper symbol) && decide (decision.symbol ∈ group) &&
    decide (SignalEngine.secondsBetween decision.timestamp now ≤ settings.correlationWindowMinutes * 60)

def correlationFilter (settings : QuantFiltersSettings) (recent : List Decision) (context : MarketContext) (now : Moment) :
    FilterResult :=
  match (groupOf settings context.symbol).bind (fun group =>
      recent.find? (blocks settings context.symbol group now)) with
  | none => ⟨"correlation", true, ""⟩
  | some decision => ⟨"correlation", false, "decisión reciente en símbolo correlacionado " ++ decision.symbol ++ " hace " ++
      fixed 0 (SignalEngine.secondsBetween decision.timestamp now) ++ "s"⟩

-- The bootstrap reads the drawdown and the last fifty decisions off the
-- history.
def filterNamed (settings : QuantFiltersSettings) (history : SignalHistoryStore) (context : MarketContext) (now : Moment)
    (name : String) : Option FilterResult :=
  if name = "session" then some (sessionFilter settings context)
  else if name = "spread" then some (spreadFilter context)
  else if name = "volatility" then some (volatilityFilter context)
  else if name = "liquidity" then some (liquidityFilter context)
  else if name = "news" then some (newsFilter context)
  else if name = "drawdown" then some (drawdownFilter settings history.dailyDrawdownPct)
  else if name = "correlation" then some (correlationFilter settings (history.recentDecisions 50) context now)
  else none

def evaluate (settings : QuantFiltersSettings) (history : SignalHistoryStore) (context : MarketContext) (now : Moment) :
    List FilterResult :=
  settings.enabled.filterMap (filterNamed settings history context now)

end FilterChain

end QuantEngine

namespace QuantEngine

open Calendar (Moment)
open Decimal (fixed)

structure QuantConsensusSettings where
  minSignals : Int := 1
  minScore : ℚ := 60
  minConfidence : ℚ := 1 / 2
  minAgreement : ℚ := 1 / 2

-- A decision with the signals that it resolved, for the statements; no code
-- reads it.
structure Resolution where
  decision : Decision
  resolved : List StrategySignal

def Resolution.accepted (resolution : Resolution) : Bool := resolution.decision.accepted

-- What the strategies and the evaluations share. Decisions are numbered. The
-- signals admitted and the resolutions are logs for the statements.
structure Desk where
  now : Moment
  signals : SignalEngine := {}
  nextId : Nat := 0
  admitted : List StrategySignal := []
  resolutions : List Resolution := []

-- An evaluation that waits for the market context: its symbol, when it began
-- and the signals it read; for the statements, how long the logs were then.
structure Evaluation where
  symbol : String
  began : Moment
  active : List StrategySignal
  admissions : Nat
  decided : Nat

-- The consensus algorithm can be swapped; any is taken here, and it may read
-- the history (the factor of recent performance).
structure DecisionEngine where
  settings : QuantConsensusSettings := {}
  filters : QuantFiltersSettings := {}
  consensus : SignalHistoryStore → String → List StrategySignal → MarketContext → ConsensusResult
  confidence : List StrategySignal → ConsensusResult → MarketContext → ℚ × List (String × ℚ)

namespace DecisionEngine

variable (engine : DecisionEngine)

def thresholdRejections (evaluation : Evaluation) (consensus : ConsensusResult) (confidence : ℚ) : List String :=
  let settings := engine.settings
  let considered : Int := evaluation.active.length
  (if consensus.direction = .neutral then ["El consenso no produjo una dirección dominante."] else []) ++
    (if considered < settings.minSignals then
      ["Señales insuficientes: " ++ toString considered ++ " < mínimo " ++ toString settings.minSignals ++ "."] else []) ++
    (if consensus.score < settings.minScore then
      ["Score global " ++ fixed 1 consensus.score ++ " < mínimo " ++ fixed 0 settings.minScore ++ "."] else []) ++
    (if confidence < settings.minConfidence then
      ["Confianza " ++ fixed 0 (confidence * 100) ++ "% < mínima " ++ fixed 0 (settings.minConfidence * 100) ++ "%."]
      else []) ++
    (if consensus.agreement < settings.minAgreement then
      ["Acuerdo " ++ fixed 0 (consensus.agreement * 100) ++ "% < mínimo " ++ fixed 0 (settings.minAgreement * 100) ++ "%."]
      else [])

def blocking (context : MarketContext) (desk : Desk) : List FilterResult :=
  (FilterChain.evaluate engine.filters desk.signals.history context desk.now).filter (fun result => !result.passed)

-- Why the evaluation is refused; it is accepted where there is no reason.
def rejections (evaluation : Evaluation) (context : MarketContext) (desk : Desk) : List String :=
  let consensus := engine.consensus desk.signals.history evaluation.symbol evaluation.active context
  engine.thresholdRejections evaluation consensus (engine.confidence evaluation.active consensus context).1 ++
    (engine.blocking context desk).map (fun result => "Filtro '" ++ result.name ++ "': " ++ result.reason ++ ".")

def accepts (evaluation : Evaluation) (context : MarketContext) (desk : Desk) : Bool :=
  (engine.rejections evaluation context desk).isEmpty

def regimeOf (context : MarketContext) : String := context.regime.getD "unknown"

def factor (breakdown : List (String × ℚ)) (name : String) : ℚ :=
  ((breakdown.find? (fun entry => decide (entry.1 = name))).map Prod.snd).getD 0

def explanation (evaluation : Evaluation) (context : MarketContext) (desk : Desk) : List String :=
  let consensus := engine.consensus desk.signals.history evaluation.symbol evaluation.active context
  let confidence := engine.confidence evaluation.active consensus context
  let rejections := engine.rejections evaluation context desk
  ["Consenso (" ++ consensus.method ++ "): " ++ consensus.direction.value ++ " con score global " ++
      fixed 1 consensus.score ++ " y acuerdo " ++ fixed 0 (consensus.agreement * 100) ++ "%.",
    "Confianza " ++ fixed 0 (confidence.1 * 100) ++ "% (datos " ++ fixed 2 (factor confidence.2 "data_quality") ++
      ", liquidez " ++ fixed 2 (factor confidence.2 "liquidity") ++ ", volatilidad " ++
      fixed 2 (factor confidence.2 "volatility") ++ ").",
    "Régimen: " ++ regimeOf context ++ ". Sesiones: " ++
      (if context.sessions.isEmpty then "ninguna" else ", ".intercalate context.sessions) ++ ".",
    "Señales consideradas: " ++ toString evaluation.active.length ++ " (" ++ ", ".intercalate
      ((evaluation.active.map StrategySignal.strategyName).dedup.insertionSort (· ≤ ·)) ++ ")."] ++
    (if desk.signals.detectConflict evaluation.symbol then ["Conflicto de direcciones entre estrategias detectado."]
      else []) ++
    (if rejections.isEmpty then ["Todos los umbrales y filtros superados: decisión aceptada."]
      else "No se opera porque:" :: rejections.map (fun reason => "  - " ++ reason))

def standAside (evaluation : Evaluation) (context : MarketContext) (desk : Desk) : Decision where
  decisionId := desk.nextId
  symbol := evaluation.symbol
  timestamp := evaluation.began
  action := .standAside
  accepted := false
  score := 0
  confidence := 0
  agreement := 0
  explanation := ["No hay señales activas para el símbolo."]
  regime := regimeOf context

def judged (evaluation : Evaluation) (context : MarketContext) (desk : Desk) : Decision :=
  let consensus := engine.consensus desk.signals.history evaluation.symbol evaluation.active context
  let accepted := engine.accepts evaluation context desk
  { decisionId := desk.nextId
    symbol := evaluation.symbol
    timestamp := evaluation.began
    action := if !accepted then .standAside else if consensus.direction = .long then .openLong else .openShort
    accepted := accepted
    score := consensus.score
    confidence := (engine.confidence evaluation.active consensus context).1
    agreement := consensus.agreement
    consensus := some consensus
    signalsConsidered := evaluation.active.map StrategySignal.signalId
    filtersBlocking := (engine.blocking context desk).map FilterResult.name
    explanation := engine.explanation evaluation context desk
    regime := regimeOf context }

def finish (decision : Decision) (desk : Desk) : Desk :=
  { desk with
    nextId := desk.nextId + 1
    signals := { desk.signals with history := desk.signals.history.recordDecision decision } }

-- What is active for the symbol by now is resolved, whatever was read.
def resolve (evaluation : Evaluation) (context : MarketContext) (desk : Desk) : Decision × Desk :=
  let decision := engine.judged evaluation context desk
  let reasons := engine.rejections evaluation context desk
  let consumed := { desk with
    signals := desk.signals.consume evaluation.symbol (if decision.accepted then .accepted else .rejected)
      (if reasons.isEmpty then ["decisión aceptada"] else reasons) desk.now
    resolutions := desk.resolutions ++
      [⟨decision, Shelves.shelf desk.signals.active (upper evaluation.symbol)⟩] }
  (decision, finish decision consumed)

def conclude (evaluation : Evaluation) (context : MarketContext) (desk : Desk) : Decision × Desk :=
  if evaluation.active.isEmpty then
    let decision := standAside evaluation context desk
    (decision, finish decision desk)
  else engine.resolve evaluation context desk

theorem conclude_empty (evaluation : Evaluation) (context : MarketContext) (desk : Desk) (empty : evaluation.active = []) :
    engine.conclude evaluation context desk =
      (standAside evaluation context desk, finish (standAside evaluation context desk) desk) := by
  rw [conclude, empty]
  rfl

theorem conclude_resolve (evaluation : Evaluation) (context : MarketContext) (desk : Desk) (some : evaluation.active ≠ []) :
    engine.conclude evaluation context desk = engine.resolve evaluation context desk := by
  rw [conclude, if_neg (fun empty => some (List.isEmpty_iff.mp empty))]

def begin_ (symbol : String) (desk : Desk) : Evaluation × Desk :=
  let read := desk.signals.activeSignals (upper symbol) desk.now
  (⟨upper symbol, desk.now, read.1, desk.admitted.length, desk.resolutions.length⟩, { desk with signals := read.2 })

-- The context is built for the symbol asked for; building it may raise.
def evaluate (symbol : String) : Task Desk Evaluation (Option MarketContext) Decision := do
  let evaluation ← Task.sync (begin_ symbol)
  match ← Task.suspend evaluation with
  | none => Task.raise
  | some context => Task.sync (engine.conclude evaluation { context with symbol := evaluation.symbol })

def submit (signal : StrategySignal) (desk : Desk) : Bool × Desk :=
  let submitted := desk.signals.submit signal desk.now
  (submitted.1, { desk with
    signals := submitted.2
    admitted := if submitted.1 then desk.admitted ++ [signal] else desk.admitted })

inductive Call where
  | evaluate (symbol : String)
  | submit (signal : StrategySignal)

def perform : Call → Task Desk Evaluation (Option MarketContext) Unit
  | .evaluate symbol => do
      let _ ← engine.evaluate symbol
      pure ()
  | .submit signal => do
      let _ ← Task.sync (submit signal)
      pure ()

def elapse (micros : Nat) (desk : Desk) : Desk := { desk with now := desk.now + micros }

abbrev Floor := Pool Desk Evaluation (Option MarketContext)

abbrev Happens := Action Call (Option MarketContext) Nat

def run : Floor → Happens → Floor := Pool.step engine.perform elapse

end DecisionEngine

end QuantEngine
