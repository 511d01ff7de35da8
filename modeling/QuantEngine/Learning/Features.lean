import QuantEngine.Execution.Models

set_option autoImplicit false

namespace QuantEngine.Learning

open Calendar (Moment hourOf)

def regimeVocab : List String :=
  ["trending", "ranging", "expansion", "compression", "breakout", "reversal", "high_volatility", "low_volatility", "unknown"]

def volVocab : List String := ["low", "normal", "high"]

def sessions : List String := ["asia", "europe", "america", "off"]

def numericNames : List String :=
  ["hour_norm", "score", "confidence", "atr_pct", "spread_bps", "planned_rr", "n_confirmations", "side_long"]

def sessionsForHour (hour : Int) (session : String) : ℚ :=
  let asia : ℚ := if 0 ≤ hour ∧ hour < 9 then 1 else 0
  let europe : ℚ := if 7 ≤ hour ∧ hour < 16 then 1 else 0
  let america : ℚ := if 13 ≤ hour ∧ hour < 22 then 1 else 0
  let off : ℚ := if asia = europe ∧ europe = america ∧ america = 0 then 1 else 0
  if session = "asia" then asia
  else if session = "europe" then europe
  else if session = "america" then america
  else off

def oneHot (value : String) (vocab : List String) (default : String) (name : String) : ℚ :=
  let key := if value ∈ vocab then value else default
  if name = key then 1 else 0

-- The context of a decision, before it is encoded.
structure RawContext where
  hour : Int
  score : ℚ
  confidence : ℚ
  atrPct : ℚ
  spreadBps : ℚ
  plannedRr : ℚ
  nConfirmations : Int
  sideLong : ℚ
  regime : String
  volatility : String
deriving DecidableEq

-- A side in a context is the enumeration's or any other value's text.
inductive SideValue where
  | side (side : PositionSide)
  | text (text : String)
deriving DecidableEq

-- The keys that a context is asked for; `none` is an absent key or a null value.
structure CandidateContext where
  hour : Option Int := none
  entryTime : Option Moment := none
  score : Option ℚ := none
  confidence : Option ℚ := none
  atr : Option ℚ := none
  atrPct : Option ℚ := none
  entryPrice : Option ℚ := none
  spreadBps : Option ℚ := none
  side : Option SideValue := none
  regime : Option String := none
  volatility : Option String := none
  stopLoss : Option ℚ := none
  takeProfit : Option ℚ := none
  entryReasons : Option (List String) := none
  nConfirmations : Option Int := none
deriving DecidableEq

def plannedRr (entry : ℚ) (stop target : Option ℚ) : ℚ :=
  match stop, target with
  | some stop, some target =>
      if entry ≤ 0 then 0
      else if |entry - stop| > 0 then |target - entry| / |entry - stop|
      else 0
  | _, _ => 0

def hourOfContext (context : CandidateContext) : Int :=
  match context.hour, context.entryTime with
  | some hour, _ => hour % 24
  | none, some moment => hourOf moment
  | none, none => 0

def sideLong : Option SideValue → ℚ
  | some (.side .long) => 1
  | some (.text text) => if text.toLower = "long" ∨ text.toLower = "buy" then 1 else 0
  | _ => 0

namespace FeatureEngineer

def featureNames : List String :=
  numericNames ++ sessions.map ("sess_" ++ ·) ++ regimeVocab.map ("regime_" ++ ·) ++ volVocab.map ("vol_" ++ ·)

def nFeatures : Nat := featureNames.length

def numeric (raw : RawContext) : List ℚ :=
  [raw.hour / 23, raw.score / 100, raw.confidence, raw.atrPct, raw.spreadBps, raw.plannedRr, raw.nConfirmations / 5,
    raw.sideLong]

def vector (raw : RawContext) : List ℚ :=
  numeric raw ++ sessions.map (sessionsForHour raw.hour) ++ regimeVocab.map (oneHot raw.regime regimeVocab "unknown") ++
    volVocab.map (oneHot raw.volatility volVocab "normal")

def tradeContext (trade : TradeRecord) : RawContext where
  hour := hourOf trade.entryTime
  score := trade.score
  confidence := trade.confidence
  atrPct := match trade.atr with
    | some atr => if trade.entryPrice > 0 then atr / trade.entryPrice * 100 else 0
    | none => 0
  spreadBps := trade.spreadBps
  plannedRr := plannedRr trade.entryPrice trade.stopLoss trade.takeProfit
  nConfirmations := trade.entryReasons.length
  sideLong := if trade.side = .long then 1 else 0
  regime := trade.regime
  volatility := trade.volatility

def fromTrade (trade : TradeRecord) : List ℚ := vector (tradeContext trade)

def candidateContext (context : CandidateContext) : RawContext :=
  let entryPrice := context.entryPrice.getD 0
  let atrPct := context.atrPct.getD 0
  { hour := hourOfContext context
    score := context.score.getD 0
    confidence := context.confidence.getD 0
    atrPct := match context.atr with
      | some atr => if atrPct = 0 ∧ entryPrice > 0 then atr / entryPrice * 100 else atrPct
      | none => atrPct
    spreadBps := context.spreadBps.getD 0
    plannedRr := plannedRr entryPrice context.stopLoss context.takeProfit
    nConfirmations := match context.entryReasons with
      | some reasons => reasons.length
      | none => context.nConfirmations.getD 0
    sideLong := sideLong context.side
    regime := context.regime.getD "unknown"
    volatility := context.volatility.getD "normal" }

def fromContext (context : CandidateContext) : List ℚ := vector (candidateContext context)

theorem vector_length (raw : RawContext) : (vector raw).length = nFeatures := by
  simp [vector, numeric, nFeatures, featureNames, numericNames]

theorem vector_spread (raw : RawContext) : (vector raw)[4]? = some raw.spreadBps := rfl

end FeatureEngineer

end QuantEngine.Learning
