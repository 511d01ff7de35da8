import Mathlib.Algebra.Order.BigOperators.Group.List
import Mathlib.Tactic.Linarith
import QuantEngine.Analytics.SmartMoney
import QuantEngine.Analytics.VolumeProfile
import QuantEngine.Library.Slices
import QuantEngine.Signals.SignalEngine

set_option autoImplicit false

namespace QuantEngine.Strategies

open Analytics (Bias BreakDirection BreakKind FairValueGap OrderBlockZone StructureBreak SwingKind SwingPoint VolumeProfile)
open Calendar (Moment)
open Candles (MarketCandle)
open Decimal (fixed roundTo roundHalfEven)
open Timeframes (Timeframe)

def clamp01 (value : ℚ) : ℚ := max 0 (min 1 value)

def isBullish (candle : MarketCandle) : Bool := decide (candle.open_ < candle.close)

def isBearish (candle : MarketCandle) : Bool := decide (candle.close < candle.open_)

def bodyRatio (candle : MarketCandle) : ℚ :=
  let span := candle.high - candle.low
  if 0 < span then |candle.close - candle.open_| / span else 0

-- `f"{x:+.2f}"`.
def signed (x : ℚ) : String := (if x < 0 then "" else "+") ++ fixed 2 x

-- `f"{x:.0%}"`.
def percent (x : ℚ) : String := fixed 0 (x * 100) ++ "%"

def entryZoneAround (price atr widthAtr : ℚ) : EntryZone :=
  let half := max 0 (atr * widthAtr)
  ⟨price - half, price + half⟩

def protectiveStop (direction : Direction) (reference atr bufferAtr : ℚ) : ℚ :=
  let pad := max 0 (atr * bufferAtr)
  if direction = .long then reference - pad else reference + pad

def targetFromRr (entry stop riskReward : ℚ) : ℚ := entry + (entry - stop) * riskReward

def middle (zone : EntryZone) : ℚ := (zone.low + zone.high) / 2

structure PremiumDiscount where
  rangeHigh : ℚ
  rangeLow : ℚ
  equilibrium : ℚ
deriving DecidableEq

structure SMCAnalysis where
  swings : List SwingPoint
  fvgs : List FairValueGap
  orderBlocks : List OrderBlockZone
  breaks : List StructureBreak
  premiumDiscount : Option PremiumDiscount
  atr : ℚ
deriving DecidableEq

def prices (kind : SwingKind) (swings : List SwingPoint) : List ℚ :=
  (swings.filter (fun swing => decide (swing.kind = kind))).map SwingPoint.price

def premiumDiscount (candles : List MarketCandle) (swings : List SwingPoint) : Option PremiumDiscount :=
  match prices .high swings, prices .low swings with
  | [], _ => none
  | _, [] => none
  | high :: highs, low :: lows =>
      let rangeHigh := highs.foldl max high
      let rangeLow := lows.foldl min low
      if candles = [] ∨ rangeHigh ≤ rangeLow then none
      else some ⟨rangeHigh, rangeLow, (rangeHigh + rangeLow) / 2⟩

structure SmcParameters where
  swingLeft : Nat := 3
  swingRight : Nat := 3
  fvgMinAtr : ℚ := 3 / 10
  obDisplacementAtr : ℚ := 3 / 2
  mssDisplacementAtr : ℚ := 3 / 2
  atrPeriod : Int := 14

def analyzeSmc (parameters : SmcParameters) (candles : List MarketCandle) : Except PyError (Option SMCAnalysis) :=
  if (candles.length : Int) < max (parameters.atrPeriod + 1) (parameters.swingLeft + parameters.swingRight + 3) then .ok none
  else
    match Analytics.atr candles parameters.atrPeriod with
    | none => .ok none
    | some value =>
        if value ≤ 0 then .ok none
        else (Analytics.swingPoints candles parameters.swingLeft parameters.swingRight).map (fun swings => some {
          swings := swings
          fvgs := Analytics.fairValueGaps candles parameters.fvgMinAtr (some value)
          orderBlocks := Analytics.orderBlocks candles parameters.obDisplacementAtr false (some value) 10
          breaks := Analytics.structureBreaks candles swings parameters.mssDisplacementAtr (some value)
          premiumDiscount := premiumDiscount candles swings
          atr := value })

structure OrderFlowSnapshot where
  delta : ℚ
  cvdSlope : ℚ
  aggressionRatio : ℚ
  largeTradeRatio : ℚ
  priceChangePct : ℚ
  absorption : String
  exhaustion : String
deriving DecidableEq

-- What the Feature Store answers for the symbol: `get` by name, timeframe and
-- period, where these are passed.
structure Features where
  get : String → Option Timeframe → Option Int → Option ℚ
  smc : Timeframe → Option SMCAnalysis
  orderflow : Option OrderFlowSnapshot
  volumeProfile : Option VolumeProfile

-- `tags` are the tags of the regime.
structure AnalysisContext where
  symbol : String
  firedAt : Moment
  trigger : String
  getCandles : Timeframe → Int → List MarketCandle
  features : Features
  context : MarketContext
  tags : List String := []
  lastPrice : Option ℚ := none

def volatilityText : VolatilityState → String
  | .low => "low"
  | .normal => "normal"
  | .high => "high"

def precheck (ctx : AnalysisContext) (candles : List MarketCandle) (minCandles : Int) (minDataQuality : ℚ)
    (maxSpreadBps : Option ℚ) : Option String :=
  if (candles.length : Int) < minCandles then
    some ("datos insuficientes (" ++ toString candles.length ++ "/" ++ toString minCandles ++ " velas)")
  else if ctx.context.dataQuality < minDataQuality then
    some ("calidad de dato " ++ fixed 2 ctx.context.dataQuality ++ " < mínima " ++ fixed 2 minDataQuality)
  else
    match maxSpreadBps, ctx.context.spreadBps with
    | some most, some spread =>
        if most < spread then some ("spread " ++ fixed 2 spread ++ " bps > máximo " ++ fixed 2 most) else none
    | _, _ => none

def calculateRegimeScore (ctx : AnalysisContext) (preferred : List String) : ℚ :=
  if preferred.isEmpty then 3 / 4
  else
    match ctx.context.regime with
    | none => 1 / 2
    | some primary =>
        if primary = "unknown" then 1 / 2
        else if (primary :: ctx.tags).any (fun regime => decide (regime ∈ preferred)) then 1
        else 2 / 5

structure ConfirmationResult where
  name : String
  passed : Bool
  detail : String
deriving DecidableEq

namespace ConfirmationEngine

def delta (ctx : AnalysisContext) (sign : ℚ) : ConfirmationResult :=
  match ctx.features.get "delta" none none with
  | none => ⟨"delta", false, "sin trades recientes"⟩
  | some delta => ⟨"delta", decide (0 < delta * sign),
      "delta " ++ (if 0 < delta then "positivo" else "negativo") ++ " (" ++ signed delta ++ ")"⟩

def cvd (ctx : AnalysisContext) (sign : ℚ) : ConfirmationResult :=
  match ctx.features.orderflow with
  | none => ⟨"cvd", false, "sin order flow"⟩
  | some snapshot => ⟨"cvd", decide (0 < snapshot.cvdSlope * sign),
      "CVD " ++ (if 0 < snapshot.cvdSlope then "creciente" else "decreciente") ++ " (" ++ signed snapshot.cvdSlope ++ ")"⟩

def volume (ctx : AnalysisContext) : ConfirmationResult :=
  match ctx.features.get "volume_ratio" none none with
  | none => ⟨"volume", false, "sin datos de volumen"⟩
  | some ratio => ⟨"volume", decide (1 ≤ ratio), "volumen " ++ fixed 2 ratio ++ "x la media"⟩

def spread (ctx : AnalysisContext) : ConfirmationResult :=
  if ctx.context.spreadElevated then
    ⟨"spread", false, match ctx.context.spreadBps with
      | some bps => "spread elevado (" ++ fixed 2 bps ++ " bps)"
      | none => "spread elevado"⟩
  else ⟨"spread", true, "spread bajo"⟩

def volatility (ctx : AnalysisContext) : ConfirmationResult :=
  ⟨"volatility", decide (ctx.context.volatility ≠ .low), "volatilidad " ++ volatilityText ctx.context.volatility⟩

def session (ctx : AnalysisContext) : ConfirmationResult :=
  let active := ", ".intercalate ctx.context.sessions
  ⟨"session", !ctx.context.sessions.isEmpty, "sesiones: " ++ (if active = "" then "ninguna" else active)⟩

def regime (ctx : AnalysisContext) : ConfirmationResult :=
  let regime := ctx.context.regime.getD "unknown"
  ⟨"regime", decide (regime ≠ "unknown"), "régimen " ++ regime⟩

def book (ctx : AnalysisContext) (sign : ℚ) (feature : String) : ConfirmationResult :=
  match ctx.features.get feature none none with
  | none => ⟨feature, false, "sin libro de órdenes"⟩
  | some value => ⟨feature, decide (1 / 10 ≤ value * sign), feature ++ " " ++ signed value⟩

def position (profile : VolumeProfile) (price : ℚ) : String :=
  if profile.vah < price then "above_value" else if price < profile.val then "below_value" else "inside_value"

def volumeProfile (ctx : AnalysisContext) : ConfirmationResult :=
  match ctx.features.volumeProfile, ctx.lastPrice with
  | some profile, some price =>
      let position := position profile price
      ⟨"volume_profile", decide (position ≠ "inside_value"), "precio " ++ position ++ " (POC " ++ fixed 2 profile.poc ++ ")"⟩
  | _, _ => ⟨"volume_profile", false, "sin perfil de volumen"⟩

def evaluateOne (ctx : AnalysisContext) (sign : ℚ) (name : String) : ConfirmationResult :=
  match name with
  | "delta" => delta ctx sign
  | "cvd" => cvd ctx sign
  | "volume" => volume ctx
  | "spread" => spread ctx
  | "volatility" => volatility ctx
  | "session" => session ctx
  | "regime" => regime ctx
  | "book_imbalance" => book ctx sign "imbalance"
  | "book_pressure" => book ctx sign "book_pressure"
  | "volume_profile" => volumeProfile ctx
  | name => ⟨name, false, "confirmación desconocida"⟩

def evaluate (ctx : AnalysisContext) (names : List String) (direction : Direction) : List ConfirmationResult :=
  names.map (evaluateOne ctx (if direction = .long then 1 else -1))

end ConfirmationEngine

structure Assessment where
  direction : Direction
  quality : ℚ := 1 / 2
  strength : ℚ := 1 / 2
  contextFit : ℚ := 1 / 2
  probability : ℚ := 1 / 2
  risk : ℚ := 1 / 2
  reasons : List String := []
  warnings : List String := []
  entry : Option EntryZone := none
  stopLoss : Option ℚ := none
  takeProfit : Option ℚ := none
  confirmations : Option (List String) := none
deriving DecidableEq

-- An entry zone, a stop and a target.
structure Levels where
  entry : EntryZone
  stop : ℚ
  target : ℚ

def Assessment.withLevels (levels : Levels) (assessment : Assessment) : Assessment :=
  { assessment with entry := some levels.entry, stopLoss := some levels.stop, takeProfit := some levels.target }

structure Parameters where
  lookback : Int := 120
  minCandles : Int := 40
  atrPeriod : Int := 14
  signalTtlSeconds : ℚ := 300
  minSignalScore : ℚ := 55
  minDataQuality : ℚ := 0
  maxSpreadBps : Option ℚ := none
  confirmations : List String := []
  scoreWeights : Dict String ℚ :=
    ⟨[("quality", 1 / 4), ("strength", 1 / 5), ("context", 1 / 5), ("probability", 1 / 5), ("risk", 3 / 20)], by decide⟩
  confidenceWeights : Dict String ℚ :=
    ⟨[("volume", 3 / 20), ("volatility", 3 / 20), ("liquidity", 3 / 20), ("regime", 1 / 5), ("confirmations", 1 / 4),
      ("data_quality", 1 / 10)], by decide⟩

abbrev Evaluation : Type := AnalysisContext → List MarketCandle → Except PyError (Option Assessment)

structure QuantStrategy where
  name : String
  preferredRegimes : List String := []
  preferredVolatility : List String := ["normal", "high"]
  timeframe : Timeframe := .m1
  parameters : Parameters := {}
  evaluate : Evaluation

-- A signal with the warnings that go with it.
structure Emitted where
  signal : StrategySignal
  warnings : List String
deriving DecidableEq

inductive Analysis where
  | skipped (note : String)
  | emitted (emitted : Emitted)
deriving DecidableEq

-- The terms of `sum(components[name] * float(weights[name]) for name in components)`.
def terms (weights : Dict String ℚ) : List (String × ℚ) → Except PyError (List ℚ)
  | [] => .ok []
  | (name, component) :: rest =>
      match weights.lookup name with
      | none => .error .key
      | some weight => (terms weights rest).map (fun others => component * weight :: others)

def weighted (finish : ℚ → ℚ) (weights : Dict String ℚ) (components : List (String × ℚ)) : Except PyError ℚ :=
  let total := weights.values.sum
  if total ≤ 0 then .ok 0 else (terms weights components).map (fun products => finish (products.sum / total))

namespace QuantStrategy

def note (strategy : QuantStrategy) (reason : String) : Analysis := .skipped ("[" ++ strategy.name ++ "] " ++ reason)

def components (assessment : Assessment) : List (String × ℚ) :=
  [("quality", clamp01 assessment.quality), ("strength", clamp01 assessment.strength),
    ("context", clamp01 assessment.contextFit), ("probability", clamp01 assessment.probability),
    ("risk", clamp01 (1 - assessment.risk))]

def score (strategy : QuantStrategy) (assessment : Assessment) : Except PyError ℚ :=
  weighted (fun value => roundTo 2 (value * 100)) strategy.parameters.scoreWeights (components assessment)

def factors (strategy : QuantStrategy) (ctx : AnalysisContext) (confirmations : List ConfirmationResult) : List (String × ℚ) :=
  [("volume", if ctx.context.volumeSufficient then 1 else 3 / 10),
    ("volatility", if volatilityText ctx.context.volatility ∈ strategy.preferredVolatility then 1 else 3 / 5),
    ("liquidity", if ctx.context.spreadElevated then 1 / 2 else 1),
    ("regime", calculateRegimeScore ctx strategy.preferredRegimes),
    ("confirmations", if confirmations.isEmpty then 3 / 4
      else ((confirmations.countP ConfirmationResult.passed : Nat) : ℚ) / confirmations.length),
    ("data_quality", clamp01 ctx.context.dataQuality)]

def confidence (strategy : QuantStrategy) (ctx : AnalysisContext) (confirmations : List ConfirmationResult) :
    Except PyError ℚ :=
  weighted (fun value => roundTo 4 (clamp01 value)) strategy.parameters.confidenceWeights
    (strategy.factors ctx confirmations)

def riskReward (assessment : Assessment) : Option ℚ :=
  match assessment.entry, assessment.stopLoss, assessment.takeProfit with
  | some zone, some stop, some target =>
      let risk := |middle zone - stop|
      if risk ≤ 0 then none else some (roundTo 2 (|target - middle zone| / risk))
  | _, _, _ => none

def requested (strategy : QuantStrategy) (assessment : Assessment) : List String :=
  assessment.confirmations.getD strategy.parameters.confirmations

def confirmations (strategy : QuantStrategy) (ctx : AnalysisContext) (assessment : Assessment) : List ConfirmationResult :=
  ConfirmationEngine.evaluate ctx (strategy.requested assessment) assessment.direction

def confirmed (result : ConfirmationResult) : String := "Confirmado mediante " ++ result.name ++ ": " ++ result.detail ++ "."

def unconfirmed (result : ConfirmationResult) : String :=
  "Falta confirmación de " ++ result.name ++ ": " ++ result.detail ++ "."

-- `signalId` is the identifier that the new signal draws.
def signal (strategy : QuantStrategy) (signalId : String) (ctx : AnalysisContext) (assessment : Assessment) (score confidence : ℚ) :
    Emitted :=
  let results := strategy.confirmations ctx assessment
  let missing := results.filter (fun result => !result.passed)
  { signal := {
      signalId := signalId
      strategyName := strategy.name
      symbol := ctx.symbol
      timestamp := ctx.firedAt
      direction := assessment.direction
      confidence := confidence
      score := score
      entryZone := assessment.entry
      stopLoss := assessment.stopLoss
      takeProfit := assessment.takeProfit
      riskReward := riskReward assessment
      reasons := assessment.reasons ++ (results.filter ConfirmationResult.passed).map confirmed
      requiredConfirmation := !missing.isEmpty
      expiration := some (ctx.firedAt + roundHalfEven (strategy.parameters.signalTtlSeconds * 1000000)) }
    warnings := assessment.warnings ++ missing.map unconfirmed }

-- What becomes of an assessment that takes a side.
def conclude (strategy : QuantStrategy) (signalId : String) (ctx : AnalysisContext) (assessment : Assessment) :
    Except PyError Analysis :=
  (strategy.score assessment).bind (fun score =>
    if score < strategy.parameters.minSignalScore then
      .ok (strategy.note ("setup débil: score " ++ fixed 1 score ++ " < " ++ fixed 0 strategy.parameters.minSignalScore))
    else
      (strategy.confidence ctx (strategy.confirmations ctx assessment)).map (fun confidence =>
        .emitted (strategy.signal signalId ctx assessment score confidence)))

def analyze (strategy : QuantStrategy) (signalId : String) (ctx : AnalysisContext) : Except PyError Analysis :=
  let parameters := strategy.parameters
  let candles := ctx.getCandles strategy.timeframe parameters.lookback
  match precheck ctx candles parameters.minCandles parameters.minDataQuality parameters.maxSpreadBps with
  | some blocked => .ok (strategy.note blocked)
  | none =>
      match strategy.evaluate ctx candles with
      | .error raised => .error raised
      | .ok none => .ok (strategy.note ("sin oportunidad (" ++ ctx.trigger ++ ")"))
      | .ok (some assessment) =>
          if assessment.direction = .neutral then .ok (strategy.note ("sin oportunidad (" ++ ctx.trigger ++ ")"))
          else strategy.conclude signalId ctx assessment

end QuantStrategy

def volatilityRisk (preferred : List String) (ctx : AnalysisContext) (base : ℚ) : ℚ :=
  if volatilityText ctx.context.volatility ∈ preferred then base
  else if ctx.context.volatility = .high then clamp01 (base + 3 / 10)
  else clamp01 (base + 1 / 5)

def bothSides : List String := ["normal", "high"]

-- The ATR of the strategy's timeframe, where it is of use.
def atrOrNone (timeframe : Timeframe) (period : Int) (ctx : AnalysisContext) : Option ℚ :=
  (ctx.features.get "atr" (some timeframe) (some period)).filter (fun atr => decide (0 < atr))

-- `candles[-1]`.
def lastCandle (candles : List MarketCandle) : Except PyError MarketCandle :=
  match candles.getLast? with
  | none => .error (.other "IndexError")
  | some candle => .ok candle

-- The levels of the strategies that put the stop some ATRs from the close.
def atrLevels (direction : Direction) (close atr stopAtr widthAtr riskReward : ℚ) : Levels :=
  let reference := close - atr * stopAtr * (if direction = .long then 1 else -1)
  let stop := protectiveStop direction reference atr 0
  let entry := entryZoneAround close atr widthAtr
  ⟨entry, stop, targetFromRr (middle entry) stop riskReward⟩

structure AtrExpansion where
  minExpansionRatio : ℚ := 7 / 5
  minBodyRatio : ℚ := 1 / 2
  stopAtr : ℚ := 1
  riskReward : ℚ := 3 / 2

def AtrExpansion.evaluate (own : AtrExpansion) (timeframe : Timeframe) (atrPeriod : Int) : Evaluation := fun ctx candles =>
  let slope := ctx.features.get "atr_slope" (some timeframe) none
  match ctx.features.get "atr_expansion" (some timeframe) none, atrOrNone timeframe atrPeriod ctx with
  | some expansion, some atr =>
      if expansion < own.minExpansionRatio ∨ slope.any (fun value => decide (value ≤ 0)) then .ok none
      else
        (lastCandle candles).map (fun last =>
          if bodyRatio last < own.minBodyRatio then none
          else
            let direction := if isBullish last then Direction.long else .short
            some (Assessment.withLevels (atrLevels direction last.close atr own.stopAtr (3 / 20) own.riskReward) {
              direction := direction
              quality := clamp01 ((expansion - 1) / 1)
              strength := bodyRatio last
              contextFit := 17 / 20
              probability := clamp01 (2 / 5 + (expansion - 1) * (1 / 5))
              risk := volatilityRisk bothSides ctx (3 / 10)
              reasons := [match slope with
                | some slope => "Expansión de volatilidad: ATR corto/largo " ++ fixed 2 expansion ++ " (pendiente " ++
                    signed slope ++ "%/bar)."
                | none => "Expansión de volatilidad: ATR corto/largo " ++ fixed 2 expansion ++ ".",
                "Vela dominante (" ++ percent (bodyRatio last) ++ " de cuerpo) marcando la dirección."] }))
  | _, _ => .ok none

structure Cvd where
  minCvdSlope : ℚ := 3 / 10
  maxPriceDriftPct : ℚ := 1 / 20
  stopAtr : ℚ := 6 / 5
  riskReward : ℚ := 2

-- The side of what passes a threshold one way or the other.
def sideOf (up down : Bool) : Option Direction := if up then some .long else if down then some .short else none

def Cvd.evaluate (own : Cvd) (timeframe : Timeframe) (atrPeriod : Int) : Evaluation := fun ctx candles =>
  match ctx.features.orderflow, atrOrNone timeframe atrPeriod ctx with
  | some flow, some atr =>
      if own.maxPriceDriftPct < |flow.priceChangePct| then .ok none
      else
        match sideOf (decide (own.minCvdSlope ≤ flow.cvdSlope)) (decide (flow.cvdSlope ≤ -own.minCvdSlope)) with
        | none => .ok none
        | some direction =>
            (lastCandle candles).map (fun last => some (Assessment.withLevels
              (atrLevels direction last.close atr own.stopAtr (3 / 20) own.riskReward) {
                direction := direction
                quality := clamp01 |flow.cvdSlope|
                strength := clamp01 (flow.largeTradeRatio * (3 / 2))
                contextFit := 4 / 5
                probability := clamp01 (2 / 5 + |flow.cvdSlope| * (1 / 4))
                risk := volatilityRisk bothSides ctx (3 / 10)
                reasons := ["CVD " ++ (if 0 < flow.cvdSlope then "creciente" else "decreciente") ++ " (" ++ signed flow.cvdSlope ++
                    ") con precio plano (" ++ (if flow.priceChangePct < 0 then "" else "+") ++ fixed 3 flow.priceChangePct ++
                    "%): " ++ (if direction = .long then "acumulación" else "distribución") ++ ".",
                  "Participación de trades grandes: " ++ percent flow.largeTradeRatio ++ "."] }))
  | _, _ => .ok none

structure DeltaConfirmation where
  minAggression : ℚ := 13 / 20
  stopAtr : ℚ := 1
  riskReward : ℚ := 3 / 2

def DeltaConfirmation.warnings (flow : OrderFlowSnapshot) (against : Bool) : List String :=
  (if against then ["Posible absorción en contra de la agresión."] else []) ++
    (if flow.exhaustion = "" then [] else ["Signos de agotamiento del lado " ++ flow.exhaustion ++ "."])

def DeltaConfirmation.evaluate (own : DeltaConfirmation) (timeframe : Timeframe) (atrPeriod : Int) : Evaluation :=
  fun ctx candles =>
    match ctx.features.orderflow, atrOrNone timeframe atrPeriod ctx with
    | some flow, some atr =>
        (lastCandle candles).map (fun last =>
          (sideOf (decide (own.minAggression ≤ flow.aggressionRatio) && isBullish last && decide (0 < flow.priceChangePct))
              (decide (flow.aggressionRatio ≤ 1 - own.minAggression) && isBearish last &&
                decide (flow.priceChangePct < 0))).map (fun direction =>
            let against := decide (flow.absorption = if direction = .long then "bearish" else "bullish")
            let warnings := DeltaConfirmation.warnings flow against
            let dominance := |2 * flow.aggressionRatio - 1|
            Assessment.withLevels (atrLevels direction last.close atr own.stopAtr (3 / 20) own.riskReward) {
              direction := direction
              quality := clamp01 (dominance * (7 / 5))
              strength := bodyRatio last
              contextFit := if against then 2 / 5 else 4 / 5
              probability := clamp01 (2 / 5 + dominance * (3 / 10) - (if warnings.isEmpty then 0 else 3 / 20))
              risk := volatilityRisk bothSides ctx (3 / 10)
              reasons := ["Delta " ++ (if 0 < flow.delta then "positivo" else "negativo") ++ " (" ++ signed flow.delta ++
                  ") con agresión " ++ percent flow.aggressionRatio ++ ".",
                "Precio acompañando (" ++ (if flow.priceChangePct < 0 then "" else "+") ++ fixed 3 flow.priceChangePct ++ "%)."]
              warnings := warnings }))
    | _, _ => .ok none

structure OrderBookImbalance where
  minImbalance : ℚ := 1 / 4
  minPressure : ℚ := 1 / 5
  stopAtr : ℚ := 3 / 5
  riskReward : ℚ := 3 / 2

def OrderBookImbalance.evaluate (own : OrderBookImbalance) (timeframe : Timeframe) (atrPeriod : Int) : Evaluation :=
  fun ctx candles =>
    match ctx.features.get "imbalance" none none, ctx.features.get "book_pressure" none none,
      atrOrNone timeframe atrPeriod ctx with
    | some imbalance, some pressure, some atr =>
        match sideOf (decide (own.minImbalance ≤ imbalance) && decide (own.minPressure ≤ pressure))
          (decide (imbalance ≤ -own.minImbalance) && decide (pressure ≤ -own.minPressure)) with
        | none => .ok none
        | some direction =>
            (lastCandle candles).map (fun last => some (Assessment.withLevels
              (atrLevels direction last.close atr own.stopAtr (1 / 10) own.riskReward) {
                direction := direction
                quality := clamp01 (|imbalance| / (1 / 2))
                strength := clamp01 (|pressure| / (1 / 2))
                contextFit := 7 / 10
                probability := clamp01 (2 / 5 + |imbalance| * (3 / 10))
                risk := volatilityRisk bothSides ctx (7 / 20)
                reasons := ["Imbalance del libro " ++ signed imbalance ++ " (" ++
                    (if 0 < imbalance then "compradora" else "vendedora") ++ ").",
                  "Presión ponderada coincidente (" ++ signed pressure ++ ")."]
                warnings := ["Señal de corto plazo: el libro cambia rápido."] }))
    | _, _, _ => .ok none

def directionText : BreakDirection → String
  | .up => "up"
  | .down => "down"

def kindText : BreakKind → String
  | .bos => "BOS"
  | .choch => "CHOCH"

def biasText : Bias → String
  | .bullish => "bullish"
  | .bearish => "bearish"

def sideOfBreak : BreakDirection → Direction
  | .up => .long
  | .down => .short

-- The analysis where it found a break at all.
def smcOf (timeframe : Timeframe) (ctx : AnalysisContext) : Option SMCAnalysis :=
  (ctx.features.smc timeframe).filter (fun smc => !smc.breaks.isEmpty)

-- The last of the breaks of one sort among the recent bars.
def recentBreak (sort : StructureBreak → Bool) (recentBars : Int) (smc : SMCAnalysis) (candles : List MarketCandle) :
    Option StructureBreak :=
  (smc.breaks.filter (fun event => sort event && decide (candles.length - recentBars ≤ (event.index : Int)))).getLast?

structure BreakOfStructure where
  recentBars : Int := 8
  retestAtr : ℚ := 3 / 4
  stopBufferAtr : ℚ := 3 / 4
  riskReward : ℚ := 2

def BreakOfStructure.levels (own : BreakOfStructure) (event : StructureBreak) (close atr : ℚ) : Levels :=
  let stop := protectiveStop (sideOfBreak event.direction) event.level atr own.stopBufferAtr
  let entry := entryZoneAround close atr (3 / 20)
  ⟨entry, stop, targetFromRr (middle entry) stop own.riskReward⟩

def BreakOfStructure.evaluate (own : BreakOfStructure) (timeframe : Timeframe) : Evaluation := fun ctx candles =>
  match smcOf timeframe ctx with
  | none => .ok none
  | some smc =>
      match recentBreak (fun event => decide (event.kind = .bos)) own.recentBars smc candles with
      | none => .ok none
      | some event =>
          (lastCandle candles).map (fun last =>
            if own.retestAtr * smc.atr < |last.close - event.level| then none
            else some (Assessment.withLevels (own.levels event last.close smc.atr) {
              direction := sideOfBreak event.direction
              quality := clamp01 (2 / 5 + event.displacement * (3 / 20))
              strength := clamp01 (event.displacement / 2)
              contextFit := 9 / 10
              probability := 11 / 20
              risk := volatilityRisk bothSides ctx (3 / 10)
              reasons := ["BOS " ++ directionText event.direction ++ " confirmado sobre " ++ fixed 4 event.level ++
                  " (desplazamiento " ++ fixed 1 event.displacement ++ " ATR).",
                "Precio retesteando el nivel roto (cambio de polaridad)."] }))

-- `min` and `max` of a sequence, which raise where it is empty.
def lowest : List ℚ → Except PyError ℚ
  | [] => .error .value
  | first :: rest => .ok (rest.foldl min first)

def highest : List ℚ → Except PyError ℚ
  | [] => .error .value
  | first :: rest => .ok (rest.foldl max first)

-- The extreme that the move of a reversal came from.
def originOf (direction : Direction) (window : List MarketCandle) : Except PyError ℚ :=
  if direction = .long then lowest (window.map MarketCandle.low) else highest (window.map MarketCandle.high)

-- What CHOCH and MSS share: the stop beyond the origin of the move and a target
-- of their own where the analysis has a range.
structure Reversal where
  recentBars : Int
  originWindow : Int
  stopBufferAtr : ℚ := 1 / 2
  riskReward : ℚ

def Reversal.levels (own : Reversal) (direction : Direction) (close origin atr : ℚ) (target : Option ℚ) : Levels :=
  let stop := protectiveStop direction origin atr own.stopBufferAtr
  let entry := entryZoneAround close atr (3 / 20)
  ⟨entry, stop, target.getD (targetFromRr (middle entry) stop own.riskReward)⟩

def Reversal.evaluate (own : Reversal) (sort : StructureBreak → Bool) (target : Direction → PremiumDiscount → ℚ)
    (assess : AnalysisContext → StructureBreak → Assessment) (timeframe : Timeframe) : Evaluation := fun ctx candles =>
  match smcOf timeframe ctx with
  | none => .ok none
  | some smc =>
      match recentBreak sort own.recentBars smc candles with
      | none => .ok none
      | some event =>
          let direction := sideOfBreak event.direction
          (lastCandle candles).bind (fun last =>
            (originOf direction (Slices.last own.originWindow candles)).map (fun origin =>
              some ((assess ctx event).withLevels
                (own.levels direction last.close origin smc.atr (smc.premiumDiscount.map (target direction))))))

def ChangeOfCharacter.defaults : Reversal := { recentBars := 5, originWindow := 10, riskReward := 3 / 2 }

def ChangeOfCharacter.assess (ctx : AnalysisContext) (event : StructureBreak) : Assessment where
  direction := sideOfBreak event.direction
  quality := clamp01 (7 / 20 + event.displacement * (3 / 20))
  strength := clamp01 (event.displacement / 2)
  contextFit := 7 / 10
  probability := 9 / 20
  risk := volatilityRisk bothSides ctx (2 / 5)
  reasons := ["CHOCH " ++ directionText event.direction ++ " sobre " ++ fixed 4 event.level ++
      ": primer cierre contra la estructura vigente.",
    "Desplazamiento " ++ fixed 1 event.displacement ++ " ATR.",
    "Reversión temprana: objetivo en el equilibrium del rango."]
  warnings := ["Señal anticipada: exige confirmación de order flow."]

def ChangeOfCharacter.evaluate (own : Reversal) : Timeframe → Evaluation :=
  own.evaluate (fun event => decide (event.kind = .choch)) (fun _ zone => zone.equilibrium) ChangeOfCharacter.assess

def MarketStructureShift.defaults : Reversal := { recentBars := 6, originWindow := 12, riskReward := 5 / 2 }

def MarketStructureShift.assess (ctx : AnalysisContext) (event : StructureBreak) : Assessment where
  direction := sideOfBreak event.direction
  quality := clamp01 (11 / 20 + event.displacement * (1 / 10))
  strength := clamp01 (event.displacement / (5 / 2))
  contextFit := 17 / 20
  probability := 11 / 20
  risk := volatilityRisk bothSides ctx (3 / 10)
  reasons := ["Market Structure Shift " ++ directionText event.direction ++ ": CHOCH con desplazamiento de " ++
      fixed 1 event.displacement ++ " ATR sobre " ++ fixed 4 event.level ++ ".",
    "Giro estructural confirmado por la vela de desplazamiento."]

def MarketStructureShift.evaluate (own : Reversal) : Timeframe → Evaluation :=
  own.evaluate StructureBreak.mss (fun direction zone => if direction = .long then zone.rangeHigh else zone.rangeLow)
    MarketStructureShift.assess

-- A zone to react in: the stop beyond its far edge, the target at the furthest
-- swing, or by the multiple of the risk where there is none.
structure ZoneRules where
  stopBufferAtr : ℚ := 1 / 2
  riskReward : ℚ := 2

def ZoneRules.levels (rules : ZoneRules) (direction : Bias) (top bottom : ℚ) (smc : SMCAnalysis) : Levels :=
  let mid := (top + bottom) / 2
  match direction with
  | .bullish =>
      let stop := protectiveStop .long bottom smc.atr rules.stopBufferAtr
      ⟨⟨bottom, top⟩, stop, Analytics.maxOf (prices .high smc.swings) (targetFromRr mid stop rules.riskReward)⟩
  | .bearish =>
      let stop := protectiveStop .short top smc.atr rules.stopBufferAtr
      ⟨⟨bottom, top⟩, stop, Analytics.minOf (prices .low smc.swings) (targetFromRr mid stop rules.riskReward)⟩

def sideOfBias : Bias → Direction
  | .bullish => .long
  | .bearish => .short

-- The bias of the last break.
def wanted (smc : SMCAnalysis) : Option (Bias × StructureBreak) :=
  smc.breaks.getLast?.map (fun event => (if event.direction = .up then .bullish else .bearish, event))

structure FairValueGapStrategy extends ZoneRules where
  minOpenFraction : ℚ := 1 / 2

def FairValueGapStrategy.touching (gap : FairValueGap) (last : MarketCandle) : Bool :=
  match gap.direction with
  | .bullish => decide (last.low ≤ gap.top ∧ gap.bottom < last.close)
  | .bearish => decide (gap.bottom ≤ last.high ∧ last.close < gap.top)

def FairValueGapStrategy.evaluate (own : FairValueGapStrategy) (timeframe : Timeframe) : Evaluation := fun ctx candles =>
  match (ctx.features.smc timeframe).bind (fun smc => (wanted smc).map (smc, ·)) with
  | none => .ok none
  | some (smc, bias, event) =>
      match (smc.fvgs.filter (fun gap => decide (gap.direction = bias) &&
          decide (own.minOpenFraction ≤ 1 - gap.filledPct))).getLast? with
      | none => .ok none
      | some gap =>
          (lastCandle candles).map (fun last =>
            if !FairValueGapStrategy.touching gap last then none
            else
              let size := if 0 < smc.atr then (gap.top - gap.bottom) / smc.atr else 0
              some (Assessment.withLevels (own.levels gap.direction gap.top gap.bottom smc) {
                direction := sideOfBias gap.direction
                quality := 1 - gap.filledPct
                strength := clamp01 (size / (3 / 2))
                contextFit := 17 / 20
                probability := clamp01 (2 / 5 + 1 / 5 * (1 - gap.filledPct))
                risk := volatilityRisk bothSides ctx (3 / 10)
                reasons := ["FVG " ++ biasText gap.direction ++ " abierto (" ++ percent (1 - gap.filledPct) ++ ") en [" ++
                    fixed 4 gap.bottom ++ ", " ++ fixed 4 gap.top ++ "].",
                  "Alineado con la última ruptura (" ++ kindText event.kind ++ ").",
                  "Precio mitigando el imbalance."] }))

structure OrderBlock extends ZoneRules where
  allowMitigated : Bool := false

def OrderBlock.interacting (block : OrderBlockZone) (last : MarketCandle) : Bool :=
  match block.direction with
  | .bullish => decide (last.low ≤ block.top ∧ block.bottom ≤ last.close)
  | .bearish => decide (block.bottom ≤ last.high ∧ last.close ≤ block.top)

def OrderBlock.evaluate (own : OrderBlock) (timeframe : Timeframe) : Evaluation := fun ctx candles =>
  match (ctx.features.smc timeframe).bind (fun smc => (wanted smc).map (smc, ·)) with
  | none => .ok none
  | some (smc, bias, event) =>
      match (smc.orderBlocks.filter (fun block => decide (block.direction = bias) && !block.breaker &&
          (own.allowMitigated || !block.mitigated))).getLast? with
      | none => .ok none
      | some block =>
          (lastCandle candles).map (fun last =>
            if !OrderBlock.interacting block last then none
            else some (Assessment.withLevels (own.levels block.direction block.top block.bottom smc) {
              direction := sideOfBias block.direction
              quality := if block.mitigated then 9 / 20 else 7 / 10
              strength := clamp01 (event.displacement / 3)
              contextFit := 9 / 10
              probability := if block.mitigated then 9 / 20 else 11 / 20
              risk := volatilityRisk bothSides ctx (3 / 10)
              reasons := ["Order block " ++ biasText block.direction ++ " en [" ++ fixed 4 block.bottom ++ ", " ++
                  fixed 4 block.top ++ "] (" ++ (if block.mitigated then "mitigado" else "fresco") ++ ").",
                "Alineado con la última ruptura estructural (" ++ kindText event.kind ++ " " ++
                  directionText event.direction ++ ").",
                "Precio interactuando con la zona."] }))

theorem clamp_inside (value : ℚ) : 0 ≤ clamp01 value ∧ clamp01 value ≤ 1 :=
  ⟨le_max_left 0 _, max_le zero_le_one (min_le_left 1 value)⟩

theorem terms_erase (weights : Dict String ℚ) (name : String) (components : List (String × ℚ))
    (absent : name ∉ components.map Prod.fst) : terms (weights.erase name) components = terms weights components := by
  induction components with
  | nil => rfl
  | cons component rest ih =>
      rw [List.map_cons, List.mem_cons, not_or] at absent
      rw [terms, terms, Dict.lookup_erase, if_neg (Ne.symm absent.1), ih absent.2]

-- Each name takes its weight out of the dictionary, and what is left weighs
-- nothing less than zero.
theorem terms_bounds (weights : Dict String ℚ) (components : List (String × ℚ)) (nonneg : ∀ entry ∈ weights.entries, 0 ≤ entry.2)
    (apart : (components.map Prod.fst).Nodup) (inside : ∀ component ∈ components, 0 ≤ component.2 ∧ component.2 ≤ 1)
    (products : List ℚ) (found : terms weights components = .ok products) :
    0 ≤ products.sum ∧ products.sum ≤ weights.total Prod.snd := by
  induction components generalizing weights products with
  | nil =>
      cases found
      refine ⟨le_refl 0, List.sum_nonneg ?_⟩
      intro weight member
      obtain ⟨entry, listed, rfl⟩ := List.mem_map.mp member
      exact nonneg entry listed
  | cons component rest ih =>
      obtain ⟨name, value⟩ := component
      obtain ⟨absent, others⟩ := List.nodup_cons.mp apart
      rw [terms] at found
      cases weighed : weights.lookup name with
      | none => simp [weighed] at found
      | some weight =>
          rw [weighed] at found
          cases later : terms weights rest with
          | error raised => simp [later, Except.map] at found
          | ok tail =>
              rw [later] at found
              cases found
              have kept : ∀ entry ∈ (weights.erase name).entries, 0 ≤ entry.2 :=
                fun entry member => nonneg entry (List.mem_filter.mp member).1
              obtain ⟨low, high⟩ := ih (weights.erase name) kept others
                (fun component member => inside component (List.mem_cons_of_mem _ member)) tail
                ((terms_erase weights name rest absent).trans later)
              have here := inside (name, value) List.mem_cons_self
              have positive : 0 ≤ weight := nonneg (name, weight) (Dict.lookup_mem weights name weight weighed)
              have product : value * weight ≤ weight := mul_le_of_le_one_left positive here.2
              rw [List.sum_cons, Dict.total_erase Prod.snd weights name weight weighed]
              exact ⟨add_nonneg (mul_nonneg here.1 positive) low, add_le_add product high⟩

theorem weighted_inside (finish : ℚ → ℚ) (weights : Dict String ℚ) (components : List (String × ℚ))
    (nonneg : ∀ entry ∈ weights.entries, 0 ≤ entry.2) (apart : (components.map Prod.fst).Nodup)
    (inside : ∀ component ∈ components, 0 ≤ component.2 ∧ component.2 ≤ 1) (value : ℚ)
    (found : weighted finish weights components = .ok value) :
    value = 0 ∨ ∃ mean, 0 ≤ mean ∧ mean ≤ 1 ∧ value = finish mean := by
  rw [weighted] at found
  by_cases light : weights.values.sum ≤ 0
  · rw [if_pos light] at found
    cases found
    exact .inl rfl
  · rw [if_neg light] at found
    cases listed : terms weights components with
    | error raised => simp [listed, Except.map] at found
    | ok products =>
        rw [listed] at found
        cases found
        obtain ⟨low, high⟩ := terms_bounds weights components nonneg apart inside products listed
        have heavy : 0 < weights.values.sum := not_le.mp light
        exact .inr ⟨_, div_nonneg low heavy.le, (div_le_one heavy).mpr high, rfl⟩

theorem round_to_inside (digits : Nat) (bound : Int) (x : ℚ) (low : 0 ≤ x) (high : x ≤ bound) :
    0 ≤ roundTo digits x ∧ roundTo digits x ≤ bound := by
  have grid : Decimal.OnGrid digits (bound : ℚ) := ⟨bound * (10 ^ digits : Nat), by rw [Decimal.scale]; push_cast; rfl⟩
  have capped := Decimal.round_to_mono digits x bound high
  rw [Decimal.round_to_grid digits bound grid] at capped
  exact ⟨Decimal.round_to_nonneg digits x low, capped⟩

namespace QuantStrategy

theorem score_inside (strategy : QuantStrategy) (nonneg : ∀ entry ∈ strategy.parameters.scoreWeights.entries, 0 ≤ entry.2)
    (assessment : Assessment) (value : ℚ) (found : strategy.score assessment = .ok value) : 0 ≤ value ∧ value ≤ 100 := by
  have inside : ∀ component ∈ components assessment, 0 ≤ component.2 ∧ component.2 ≤ 1 := by
    simp [components, clamp_inside]
  cases weighted_inside _ _ _ nonneg (by simp [components]) inside value found with
  | inl zero =>
      rw [zero]
      exact ⟨le_refl 0, by norm_num⟩
  | inr mean =>
      obtain ⟨mean, low, high, rfl⟩ := mean
      have scaled := round_to_inside 2 100 (mean * 100) (by linarith) (by push_cast; linarith)
      exact_mod_cast scaled

theorem confidence_inside (strategy : QuantStrategy) (ctx : AnalysisContext) (confirmations : List ConfirmationResult)
    (value : ℚ) (found : strategy.confidence ctx confirmations = .ok value) : 0 ≤ value ∧ value ≤ 1 := by
  rw [confidence, weighted] at found
  by_cases light : strategy.parameters.confidenceWeights.values.sum ≤ 0
  · rw [if_pos light] at found
    cases found
    exact ⟨le_refl 0, zero_le_one⟩
  · rw [if_neg light] at found
    cases listed : terms strategy.parameters.confidenceWeights (strategy.factors ctx confirmations) with
    | error raised => simp [listed, Except.map] at found
    | ok products =>
        rw [listed] at found
        cases found
        have clamped := clamp_inside (products.sum / strategy.parameters.confidenceWeights.values.sum)
        exact_mod_cast round_to_inside 4 1 _ clamped.1 (by exact_mod_cast clamped.2)

end QuantStrategy

-- What the strategies need to know of an analysis.
structure Grounded (smc : SMCAnalysis) : Prop where
  positive : 0 < smc.atr
  gaps : ∀ gap ∈ smc.fvgs, gap.bottom < gap.top
  blocks : ∀ block ∈ smc.orderBlocks, block.bottom ≤ block.top

theorem open_gap_sized (index : Nat) (direction : Bias) (top bottom filled : ℚ) (sized : bottom < top) (gap : FairValueGap)
    (member : gap ∈ Analytics.openGap index direction top bottom filled) : gap.bottom < gap.top := by
  rw [Analytics.openGap] at member
  split at member
  · rw [List.mem_singleton.mp member]
    exact sized
  · cases member

theorem gaps_sized (minSize : ℚ) (index : Nat) (candles : List MarketCandle) (gap : FairValueGap)
    (member : gap ∈ Analytics.gapsFrom minSize index candles) : gap.bottom < gap.top := by
  induction candles generalizing index with
  | nil => cases member
  | cons prev later ih =>
      match later, ih, member with
      | [], _, member => cases member
      | [_], _, member => cases member
      | middle :: nxt :: rest, ih, member =>
          cases List.mem_append.mp member with
          | inr beyond => exact ih (index + 1) beyond
          | inl here =>
              rw [Analytics.gapsAt, List.mem_append] at here
              cases here with
              | inl bullish =>
                  split at bullish
                  · rename_i apart
                    exact open_gap_sized _ _ _ _ _ apart.1 gap bullish
                  · cases bullish
              | inr bearish =>
                  split at bearish
                  · rename_i apart
                    exact open_gap_sized _ _ _ _ _ apart.1 gap bearish
                  · cases bearish

theorem blocks_place (displacement : ℚ) (useFullRange : Bool) (index : Nat) (candles : List MarketCandle) (block : OrderBlockZone)
    (member : block ∈ Analytics.blocksFrom displacement useFullRange index candles) :
    ∃ before candle nxt rest direction, candles = before ++ candle :: nxt :: rest ∧
      Analytics.blockDirection displacement candle nxt = some direction ∧
      block = Analytics.blockAt (index + before.length) direction (Analytics.blockZone useFullRange candle) rest := by
  induction candles generalizing index with
  | nil => cases member
  | cons candle later ih =>
      match later, ih, member with
      | [], _, member => cases member
      | nxt :: rest, ih, member =>
          cases List.mem_append.mp member with
          | inl here =>
              obtain ⟨direction, turned, rfl⟩ := Option.map_eq_some_iff.mp (Option.mem_toList.mp here)
              exact ⟨[], candle, nxt, rest, direction, rfl, turned, rfl⟩
          | inr beyond =>
              obtain ⟨before, first, second, after, direction, split, turned, same⟩ := ih (index + 1) beyond
              refine ⟨candle :: before, first, second, after, direction, by rw [split, List.cons_append], turned, ?_⟩
              rw [same, List.length_cons, Nat.add_right_comm, Nat.add_assoc]

theorem blocks_ordered (displacement : ℚ) (index : Nat) (candles : List MarketCandle) (block : OrderBlockZone)
    (member : block ∈ Analytics.blocksFrom displacement false index candles) : block.bottom ≤ block.top := by
  obtain ⟨before, candle, nxt, rest, direction, -, -, rfl⟩ := blocks_place displacement false index candles block member
  exact min_le_max

theorem analyzed_some (parameters : SmcParameters) (candles : List MarketCandle) (smc : SMCAnalysis)
    (analyzed : analyzeSmc parameters candles = .ok (some smc)) :
    Analytics.atr candles parameters.atrPeriod = some smc.atr ∧ 0 < smc.atr ∧
      smc.fvgs = Analytics.fairValueGaps candles parameters.fvgMinAtr (some smc.atr) ∧
      smc.orderBlocks = Analytics.orderBlocks candles parameters.obDisplacementAtr false (some smc.atr) 10 := by
  rw [analyzeSmc] at analyzed
  split at analyzed
  · cases analyzed
  · cases measured : Analytics.atr candles parameters.atrPeriod with
    | none => simp [measured] at analyzed
    | some value =>
        simp only [measured] at analyzed
        by_cases flat : value ≤ 0
        · simp [flat] at analyzed
        · cases pivots : Analytics.swingPoints candles parameters.swingLeft parameters.swingRight with
          | error raised => simp [flat, pivots, Except.map] at analyzed
          | ok swings =>
              simp only [flat, pivots, Except.map, if_false, Except.ok.injEq, Option.some.injEq] at analyzed
              subst analyzed
              exact ⟨rfl, not_le.mp flat, rfl, rfl⟩

theorem analyzed_blocks (parameters : SmcParameters) (candles : List MarketCandle) (smc : SMCAnalysis)
    (analyzed : analyzeSmc parameters candles = .ok (some smc)) :
    ∃ atr, Analytics.atr candles parameters.atrPeriod = some atr ∧ ∀ block ∈ smc.orderBlocks,
      block ∈ Analytics.blocksFrom (parameters.obDisplacementAtr * atr) false 0 candles := by
  obtain ⟨measured, positive, -, blocks⟩ := analyzed_some parameters candles smc analyzed
  refine ⟨smc.atr, measured, ?_⟩
  intro block member
  rw [blocks, Analytics.orderBlocks, Analytics.usable_some candles smc.atr positive] at member
  dsimp only at member
  split at member
  · cases member
  · exact (Slices.last_sublist _ _).subset member

theorem analyze_grounded (parameters : SmcParameters) (candles : List MarketCandle) (smc : SMCAnalysis)
    (analyzed : analyzeSmc parameters candles = .ok (some smc)) : Grounded smc := by
  obtain ⟨-, positive, gaps, -⟩ := analyzed_some parameters candles smc analyzed
  obtain ⟨atr, -, blocks⟩ := analyzed_blocks parameters candles smc analyzed
  refine ⟨positive, ?_, fun block member => blocks_ordered _ _ _ block (blocks block member)⟩
  intro gap member
  rw [gaps, Analytics.fairValueGaps, Analytics.usable_some candles smc.atr positive] at member
  dsimp only at member
  split at member
  · cases member
  · exact gaps_sized _ _ _ gap member

-- A fold by an operation that lies on one side of both its arguments lies on
-- that side of everything folded.
theorem fold_bound (op : ℚ → ℚ → ℚ) (bounds : ℚ → ℚ → Prop) (trans : ∀ a b c, bounds a b → bounds b c → bounds a c)
    (refl : ∀ a, bounds a a) (left : ∀ a b, bounds (op a b) a) (right : ∀ a b, bounds (op a b) b) (first : ℚ) (rest : List ℚ) :
    ∀ value ∈ first :: rest, bounds (rest.foldl op first) value := by
  induction rest generalizing first with
  | nil =>
      intro value member
      rw [List.mem_singleton.mp member]
      exact refl first
  | cons next rest ih =>
      intro value member
      have start := ih (op first next) (op first next) List.mem_cons_self
      rcases List.mem_cons.mp member with same | later
      · rw [same]
        exact trans _ _ _ start (left first next)
      · rcases List.mem_cons.mp later with same | further
        · rw [same]
          exact trans _ _ _ start (right first next)
        · exact ih (op first next) value (List.mem_cons_of_mem _ further)

theorem lowest_le (values : List ℚ) (least : ℚ) (found : lowest values = .ok least) (value : ℚ) (member : value ∈ values) :
    least ≤ value := by
  cases values with
  | nil => cases member
  | cons first rest =>
      cases found
      exact fold_bound min (· ≤ ·) (fun _ _ _ => le_trans) le_refl min_le_left min_le_right first rest value member

theorem le_highest (values : List ℚ) (most : ℚ) (found : highest values = .ok most) (value : ℚ) (member : value ∈ values) :
    value ≤ most := by
  cases values with
  | nil => cases member
  | cons first rest =>
      cases found
      exact fold_bound max (· ≥ ·) (fun _ _ _ => ge_trans) le_refl le_max_left le_max_right first rest value member

theorem read_last (candles : List MarketCandle) (f : MarketCandle → Option Assessment) (assessment : Assessment)
    (found : (lastCandle candles).map f = .ok (some assessment)) :
    ∃ last, lastCandle candles = .ok last ∧ f last = some assessment := by
  cases read : lastCandle candles with
  | error raised => simp [read, Except.map] at found
  | ok last =>
      rw [read] at found
      exact ⟨last, rfl, Except.ok.inj found⟩

theorem last_in_window (count : Int) (candles : List MarketCandle) (last : MarketCandle)
    (found : lastCandle candles = .ok last) (some_ : Slices.last count candles ≠ []) : last ∈ Slices.last count candles := by
  have ends : candles.getLast? = some last := by
    rw [lastCandle] at found
    cases final : candles.getLast? with
    | none => simp [final] at found
    | some candle =>
        rw [final] at found
        cases found
        rfl
  have suffix (skipped : Nat) (left : candles.drop skipped ≠ []) : last ∈ candles.drop skipped := by
    apply List.mem_of_getLast?
    rw [List.getLast?_drop, if_neg (by rwa [ne_eq, List.drop_eq_nil_iff] at left), ends]
  rw [Slices.last] at some_ ⊢
  split at some_
  · rename_i positive
    rw [if_pos positive]
    exact suffix _ some_
  · rename_i negative
    rw [if_neg negative]
    exact suffix _ some_

end QuantEngine.Strategies
