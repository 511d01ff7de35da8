import QuantEngine.Backtesting.BacktestEngine
import QuantEngine.Research.Blocks

set_option autoImplicit false

namespace QuantEngine.Research.ShadowMode

open BacktestEngine
open Candles (MarketCandle)
open Compiler (Side openDecision)

-- `math.sqrt` and `math.erf`.
structure Mathematics where
  sqrt : ℚ → ℚ
  erf : ℚ → ℚ

def mean (values : List ℚ) : ℚ := if values.isEmpty then 0 else values.sum / values.length

def variance (values : List ℚ) : ℚ :=
  if values.length < 2 then 0
  else (values.map (fun value => (value - mean values) ^ 2)).sum / (values.length - 1 : ℚ)

def normalCdf (math : Mathematics) (x : ℚ) : ℚ := 1 / 2 * (1 + math.erf (x / math.sqrt 2))

def welchTTest (math : Mathematics) (sampleA sampleB : List ℚ) : ℚ × ℚ :=
  if sampleA.length < 2 ∨ sampleB.length < 2 then (0, 1)
  else
    let seSq := variance sampleA / sampleA.length + variance sampleB / sampleB.length
    if seSq ≤ 0 then (0, 1)
    else
      let tStat := (mean sampleA - mean sampleB) / math.sqrt seSq
      (tStat, max 0 (min 1 (2 * (1 - normalCdf math |tStat|))))

structure ShadowModeSettings where
  minSignals : Int := 30
  significance : ℚ := 5 / 100
  minEffectR : ℚ := 5 / 100

structure ShadowComparison where
  official : String
  challenger : String
  samples : Nat
  officialExpectancyR : ℚ
  challengerExpectancyR : ℚ
  effectR : ℚ
  tStat : ℚ
  pValue : ℚ
  significant : Bool
  better : Bool
  verdict : String
  metrics : Dict String ℚ

def returnPct (config : BacktestConfig) (result : BacktestResult) : ℚ :=
  if config.initialBalance = 0 then 0
  else (result.finalBalance - config.initialBalance) / config.initialBalance * 100

structure ShadowComparator where
  execution : ExecutionSettings
  settings : ShadowModeSettings
  math : Mathematics

namespace ShadowComparator

variable {σ τ : Type} (comparator : ShadowComparator)

def verdict (enough significant better : Bool) (effect : ℚ) : String :=
  if !enough then "insuficiente: se requieren " ++ toString comparator.settings.minSignals ++ " señales por lado"
  else if better then
    "la challenger supera a la vigente (+" ++ Decimal.fixed 3 effect ++ " R, significativo)"
  else if significant && decide (effect < 0) then
    "la vigente es mejor (" ++ Decimal.fixed 3 effect ++ " R, significativo)"
  else "sin diferencia estadísticamente significativa"

def comparison (officialName challengerName : String) (config : BacktestConfig) (offResult chalResult : BacktestResult) :
    ShadowComparison :=
  let offR := offResult.trades.map TradeRecord.rMultiple
  let chalR := chalResult.trades.map TradeRecord.rMultiple
  let effect := mean chalR - mean offR
  let test := welchTTest comparator.math chalR offR
  let samples := min offR.length chalR.length
  let enough := decide (comparator.settings.minSignals ≤ samples)
  let significant := enough && decide (test.2 ≤ comparator.settings.significance)
  let better := significant && decide (comparator.settings.minEffectR ≤ effect)
  { official := officialName
    challenger := challengerName
    samples := samples
    officialExpectancyR := mean offR
    challengerExpectancyR := mean chalR
    effectR := effect
    tStat := test.1
    pValue := test.2
    significant := significant
    better := better
    verdict := comparator.verdict enough significant better effect
    metrics := ((((Dict.empty.insert "official_trades" (offR.length : ℚ)).insert "challenger_trades" chalR.length).insert
      "official_return_pct" (returnPct config offResult)).insert "challenger_return_pct" (returnPct config chalResult)) }

-- The result of a backtest and the source it leaves; one that is refused leaves
-- the source as it is.
def runBacktest (backtest : Backtest σ) (candles : List MarketCandle) (source : σ) : Option BacktestResult × σ :=
  (backtest.runAsync candles source, match candles with
    | [] => source
    | first :: _ => (backtest.after candles source first.start candles.length).source)

-- The randomness of the two brokers is given; nothing is returned where a
-- backtest raises.
def compare (official : DecisionSource σ) (challenger : DecisionSource τ) (draws : PaperBroker × PaperBroker)
    (candles : List MarketCandle) (config : BacktestConfig) (officialName challengerName : String) (sources : σ × τ) :
    Option ShadowComparison × (σ × τ) :=
  let resetting := (official.reset sources.1, challenger.reset sources.2)
  let off := runBacktest ⟨comparator.execution, draws.1, official, config⟩ candles resetting.1
  match off.1 with
  | none => (none, (off.2, resetting.2))
  | some offResult =>
      let chal := runBacktest ⟨comparator.execution, draws.2, challenger, config⟩ candles resetting.2
      (chal.1.map (comparator.comparison officialName challengerName config offResult), (off.2, chal.2))

end ShadowComparator

-- What a session is made with, and what it has observed.
structure Shadow (σ τ : Type) where
  comparator : ShadowComparator
  official : DecisionSource σ
  challenger : DecisionSource τ
  config : BacktestConfig
  officialName : String := "official"
  challengerName : String := "challenger"

structure ShadowSession (σ τ : Type) where
  official : σ
  challenger : τ
  candles : List MarketCandle := []
  officialSignals : Nat := 0
  challengerSignals : Nat := 0

namespace Shadow

variable {σ τ : Type} (shadow : Shadow σ τ)

def start (sources : σ × τ) : ShadowSession σ τ where
  official := shadow.official.reset sources.1
  challenger := shadow.challenger.reset sources.2

def count (decision : Option DecisionGenerated) : Nat := if decision.isSome then 1 else 0

def feed (candle : MarketCandle) (session : ShadowSession σ τ) : ShadowSession σ τ :=
  let candles := session.candles ++ [candle]
  let index := session.candles.length
  let symbol := shadow.config.symbol
  let official := shadow.official.decide session.official symbol candles index
  let challenger := shadow.challenger.decide session.challenger symbol candles index
  { official := official.2
    challenger := challenger.2
    candles := candles
    officialSignals := session.officialSignals + count official.1
    challengerSignals := session.challengerSignals + count challenger.1 }

def signals (session : ShadowSession σ τ) : Dict String Nat :=
  (Dict.empty.insert shadow.officialName session.officialSignals).insert shadow.challengerName session.challengerSignals

def isReady (session : ShadowSession σ τ) : Bool :=
  decide (shadow.comparator.settings.minSignals ≤ (min session.officialSignals session.challengerSignals : Nat))

def conclude (draws : PaperBroker × PaperBroker) (session : ShadowSession σ τ) :
    Option ShadowComparison × ShadowSession σ τ :=
  let compared := shadow.comparator.compare shadow.official shadow.challenger draws session.candles shadow.config
    shadow.officialName shadow.challengerName (session.official, session.challenger)
  (compared.1, { session with official := compared.2.1, challenger := compared.2.2 })

end Shadow

-- `sma` and a source of the repository.
def sma (values : List ℚ) (period : Nat) : Option ℚ :=
  if period = 0 ∨ values.length < period then none else some ((Deque.newest period values).sum / period)

structure MovingAverageCrossSource where
  fast : Nat := 5
  slow : Nat := 20
  allowShort : Bool := true

namespace MovingAverageCrossSource

variable (source : MovingAverageCrossSource)

def decide_ (lastSide : Option Side) (symbol : String) (candles : List MarketCandle) (index : Nat) :
    Option DecisionGenerated × Option Side :=
  let closes := (candles.take (index + 1)).map MarketCandle.close
  if index + 1 < source.slow then (none, lastSide)
  else match sma closes source.fast, sma closes source.slow with
    | some fast, some slow =>
        let side := if slow < fast then Side.up else Side.down
        if lastSide = some side then (none, lastSide)
        else match side with
          | .up => (some (openDecision symbol "open_long" "MA cross up"), some side)
          | .down =>
              (if source.allowShort then some (openDecision symbol "open_short" "MA cross down") else none, some side)
    | _, _ => (none, lastSide)

def asSource : DecisionSource (Option Side) where
  reset _ := none
  decide := source.decide_

end MovingAverageCrossSource

end QuantEngine.Research.ShadowMode
