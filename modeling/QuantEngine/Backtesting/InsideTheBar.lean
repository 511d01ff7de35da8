import Mathlib.Data.List.Basic
import QuantEngine.Backtesting.BacktestEngine
import QuantEngine.Execution.Guarantees
import QuantEngine.Execution.MarketReads
import QuantEngine.Library.Causal

set_option autoImplicit false

namespace QuantEngine.BacktestEngine

open Calendar (Moment)
open Candles (MarketCandle)
open MarketReads (Swapped Interchangeable withMarket)

variable {σ : Type}

-- A source that reads only candles up to its index.
def ReadsUpTo (source : DecisionSource σ) : Prop := ∀ s symbol first second index,
  first.take (index + 1) = second.take (index + 1) → source.decide s symbol first index = source.decide s symbol second index

-- What is known of a bar when it opens.
structure SameOpening (first second : MarketCandle) : Prop where
  symbol : first.symbol = second.symbol
  timeframe : first.timeframe = second.timeframe
  start : first.start = second.start
  end_ : first.end_ = second.end_
  open_ : first.open_ = second.open_

-- The two bars, stored, give each symbol the same ATR.
def SameAtr (period : Nat) (market : HistoricalMarket) (first second : MarketCandle) : Prop := ∀ symbol,
  (market.pushCandle first).service.symbolAtr period symbol = (market.pushCandle second).service.symbolAtr period symbol

namespace Backtest

variable (backtest : Backtest σ)

def started (candles : List MarketCandle) : Moment := (candles.head?.map MarketCandle.start).getD 0

-- The state right after the management pass at the open of a bar.
def atOpen (candles : List MarketCandle) (source : σ) (index : Nat) : Option (Replay σ) :=
  candles[index]?.map (fun candle =>
    backtest.walk (openBar candle (backtest.after candles source (started candles) index)) candle.open_)

-- The ATR moves no stop and no fill.
def AtrUnused : Prop := backtest.execution.rules.trailingEnabled = false ∧ backtest.paper.settings.slippage.model ≠ "dynamic"

theorem after_same (reads : ReadsUpTo backtest.source) (first second : List MarketCandle) (source : σ) (now : Moment)
    (index : Nat) (same : first.take index = second.take index) :
    backtest.after first source now index = backtest.after second source now index := by
  rw [after, after, same]
  refine List.foldl_ext _ _ _ (fun replay entry member => ?_)
  obtain ⟨place, below, rfl⟩ := List.mem_iff_getElem.mp member
  have early : place < index := by
    simp only [List.length_zipIdx, List.length_take] at below
    omega
  have decided (s : σ) : backtest.source.decide s backtest.config.symbol first place =
      backtest.source.decide s backtest.config.symbol second place :=
    reads s _ first second place (Causal.take_up_to index place first second same early)
  simp [bar, consult, decided]

end Backtest

-- The last close of a window is in no true range.
theorem true_ranges_last (candles : List Candle) (first second : Candle) (high : first.high = second.high)
    (low : first.low = second.low) : Market.trueRanges (candles ++ [first]) = Market.trueRanges (candles ++ [second]) := by
  induction candles with
  | nil => rfl
  | cons candle rest ih =>
      cases rest with
      | nil => simp [Market.trueRanges, high, low]
      | cons next others =>
          simp only [List.cons_append, Market.trueRanges] at ih ⊢
          rw [ih]

theorem newest_snoc {α : Type} (limit : Nat) (items : List α) (item : α) :
    Deque.newest (limit + 1) (items ++ [item]) = Deque.newest limit items ++ [item] := by
  rw [Deque.newest, Deque.newest, List.length_append, List.length_singleton,
    show items.length + 1 - (limit + 1) = items.length - limit by omega, List.drop_append_of_le_length (by omega)]

theorem atr_last (period : Nat) (candles : List Candle) (first second : Candle) (high : first.high = second.high)
    (low : first.low = second.low) :
    Market.atr (Deque.newest (period + 2) (candles ++ [first])) period =
      Market.atr (Deque.newest (period + 2) (candles ++ [second])) period := by
  rw [newest_snoc, newest_snoc, Market.atr, Market.atr, true_ranges_last _ first second high low]

theorem append_candle (limit : Nat) (items : List MarketCandle) (first second : MarketCandle)
    (start : first.start = second.start) : ∃ kept, MarketState.appendCandle (limit + 1) items first = kept ++ [first] ∧
      MarketState.appendCandle (limit + 1) items second = kept ++ [second] := by
  simp only [MarketState.appendCandle, start]
  split
  · exact ⟨items.dropLast, rfl, rfl⟩
  · exact ⟨Deque.newest limit items, newest_snoc limit items first, newest_snoc limit items second⟩

theorem same_atr_of_range (period : Nat) (market : HistoricalMarket) (limit : Nat)
    (room : market.store.candlesLimit = limit + 1) (first second : MarketCandle) (opening : SameOpening first second)
    (high : first.high = second.high) (low : first.low = second.low) : SameAtr period market first second := by
  intro symbol
  have stored (candle : MarketCandle) : (market.pushCandle candle).series symbol =
      if (upper symbol, Timeframes.Timeframe.m1) = (candle.symbol, candle.timeframe) then
        MarketState.appendCandle (limit + 1) (market.series symbol) candle
      else market.series symbol := by
    rw [HistoricalMarket.series, HistoricalMarket.pushCandle, MarketState.update_series, room]
    rfl
  change Market.atr (Deque.newest (period + 2) (((market.pushCandle first).series symbol).map HistoricalMarket.bar)) period =
    Market.atr (Deque.newest (period + 2) (((market.pushCandle second).series symbol).map HistoricalMarket.bar)) period
  rw [stored first, stored second, ← opening.symbol, ← opening.timeframe]
  split
  · obtain ⟨kept, left, right⟩ := append_candle limit (market.series symbol) first second opening.start
    rw [left, right, List.map_append, List.map_append]
    exact atr_last period _ _ _ high low
  · rfl

theorem manage_untrailed (rules : PositionRules) (off : rules.trailingEnabled = false) (position : Position)
    (first second : Option ℚ) : position.manage rules first = position.manage rules second := by
  have rests (position : Position) (atr : Option ℚ) : position.applyTrailing rules atr = (position, none) := by
    cases atr with
    | none => rfl
    | some atr => simp [Position.applyTrailing, Position.trailingDistance, off]
  rw [Position.manage, Position.manage, rests, rests]

theorem execute_untouched (paper : PaperBroker) (static : paper.settings.slippage.model ≠ "dynamic") (state : PaperState)
    (now : Moment) (request : OrderRequest) (ticker : Ticker) (first second : SlippageContext)
    (allowReject allowPartial : Bool) :
    paper.execute state now request ticker (some first) allowReject allowPartial =
      paper.execute state now request ticker (some second) allowReject allowPartial := by
  have estimated (drawn : Nat) : SlippageEngine.estimateBps paper.settings.slippage paper.slippageRng drawn first =
      SlippageEngine.estimateBps paper.settings.slippage paper.slippageRng drawn second := by
    simp [SlippageEngine.estimateBps, static]
  simp only [PaperBroker.execute, PaperBroker.fillAt, Option.getD_some, estimated]

namespace Backtest

variable (backtest : Backtest σ)

theorem interchangeable (first second : Market) (tickers : first.tickers = second.tickers)
    (same : (∀ symbol, first.symbolAtr backtest.execution.sizing.atrPeriod symbol =
      second.symbolAtr backtest.execution.sizing.atrPeriod symbol) ∨ backtest.AtrUnused) :
    Interchangeable backtest.engine first second := by
  refine ⟨tickers, fun symbol position => ?_, fun symbol world => ?_⟩
  · rcases same with same | ⟨untrailed, -⟩
    · exact congrArg (position.manage _) (same symbol)
    · exact manage_untrailed _ untrailed position _ _
  · rcases same with same | ⟨-, static⟩
    · have alike : backtest.engine.candleView symbol (withMarket world first) =
          backtest.engine.candleView symbol (withMarket world second) := by
        have atr : backtest.engine.symbolAtr symbol (withMarket world first) =
            backtest.engine.symbolAtr symbol (withMarket world second) := same symbol
        simp only [ExecutionEngine.candleView, atr, MarketReads.with_market, tickers, MarketReads.with_now]
      rw [alike]
      exact ⟨rfl, fun _ _ _ => rfl⟩
    · exact ⟨rfl, fun order position world => execute_untouched backtest.paper static _ _ _ _ _ _ _ _⟩

-- With nothing open the pass refreshes the risk state and does no more.
theorem manage_idle (world : World PaperState) (idle : world.openIds = []) :
    perform backtest.engine.manageOnce world = (ExecutionEngine.refreshRiskState world).2 := by
  have listed : (ExecutionEngine.refreshRiskState world).1 = [] := by
    rcases ExecutionEngine.refresh_risk_ids world with none | all
    · exact none
    · rw [all, idle]
  change (((Task.each backtest.engine.managePosition world.openIds >>= fun _ => backtest.engine.refreshRisk) :
    Flow PaperState Unit) world).finish (fun _ => none) = _
  rw [idle]
  change (Task.each (fun id => backtest.engine.closePosition id .killSwitch []) (ExecutionEngine.refreshRiskState world).1
    (ExecutionEngine.refreshRiskState world).2).finish (fun _ => none) = _
  rw [listed]
  rfl

theorem manage_swapped (first second : Market) (tickers : first.tickers = second.tickers) (left right : World PaperState)
    (swapped : Swapped first second left right)
    (unread : (∀ symbol, first.symbolAtr backtest.execution.sizing.atrPeriod symbol =
      second.symbolAtr backtest.execution.sizing.atrPeriod symbol) ∨ backtest.AtrUnused ∨ left.openIds = []) :
    Swapped first second (perform backtest.engine.manageOnce left) (perform backtest.engine.manageOnce right) := by
  rcases or_assoc.mpr unread with same | idle
  · have together := MarketReads.manage_once_lockstep (backtest.interchangeable first second tickers same)
    exact Co.lockstep_finish _ _ _ _ _ (together left right swapped)
  · have idle' : right.openIds = [] := by
      rw [swapped.2]
      exact idle
    rw [backtest.manage_idle left idle, backtest.manage_idle right idle']
    exact (MarketReads.refresh_risk_swapped left right swapped).2

theorem store_limit (candles : List MarketCandle) (source : σ) (now : Moment) (count : Nat) :
    (backtest.after candles source now count).market.store.candlesLimit = 10000 := by
  have kept (entries : List (MarketCandle × Nat)) (replay : Replay σ) (limit : replay.market.store.candlesLimit = 10000) :
      (entries.foldl (backtest.bar candles) replay).market.store.candlesLimit = 10000 := by
    induction entries generalizing replay with
    | nil => exact limit
    | cons entry rest ih =>
        refine ih _ ?_
        have walked (prices : List ℚ) (replay : Replay σ) :
            (prices.foldl backtest.walk replay).market.store = replay.market.store := by
          induction prices generalizing replay with
          | nil => rfl
          | cons price rest ih => exact ih _
        exact (congrArg (fun store => store.candlesLimit) (walked (ohlcPath entry.1) (openBar entry.1 replay))).trans limit
  exact kept _ _ rfl

theorem started_same (first second : List MarketCandle) (index : Nat) (before : first.take index = second.take index)
    (left right : MarketCandle) (here : first[index]? = some left) (there : second[index]? = some right)
    (start : left.start = right.start) : started first = started second := by
  cases index with
  | zero => simp [started, List.head?_eq_getElem?, here, there, start]
  | succ index =>
      have heads : first[0]? = second[0]? := by
        have same := congrArg (fun candles => candles[0]?) before
        simpa using same
      simp [started, List.head?_eq_getElem?, heads]

-- Of bar `index` itself the pass at its open reads only what is known then and
-- the ATR, into which its high and low go.
theorem inside_the_bar (reads : ReadsUpTo backtest.source) (source : σ) (first second : List MarketCandle) (index : Nat)
    (before : first.take index = second.take index) (left right : MarketCandle) (here : first[index]? = some left)
    (there : second[index]? = some right) (opening : SameOpening left right)
    (unread : (left.high = right.high ∧ left.low = right.low) ∨
      SameAtr backtest.execution.sizing.atrPeriod (backtest.after first source (started first) index).market left right ∨
      backtest.AtrUnused ∨ (backtest.after first source (started first) index).world.openIds = []) :
    ∃ one other, backtest.atOpen first source index = some one ∧ backtest.atOpen second source index = some other ∧
      one.world.toManagers = other.world.toManagers := by
  have same : backtest.after second source (started second) index = backtest.after first source (started first) index := by
    rw [started_same first second index before left right here there opening.start]
    exact (backtest.after_same reads first second source _ index before).symm
  refine ⟨_, _, by rw [atOpen, here]; rfl, by rw [atOpen, there]; rfl, ?_⟩
  rw [same]
  generalize ran : backtest.after first source (started first) index = replay at unread
  have limit : replay.market.store.candlesLimit = 9999 + 1 := ran ▸ backtest.store_limit first source _ index
  let one := (replay.market.pushCandle left).pushPrice backtest.config.symbol left.open_ backtest.config.spreadBps
  let other := (replay.market.pushCandle right).pushPrice backtest.config.symbol right.open_ backtest.config.spreadBps
  have tickers : one.service.tickers = other.service.tickers := by
    simp only [one, other, opening.open_]
    rfl
  have swapped : Swapped one.service other.service { replay.world with now := left.end_, market := one.service }
      { replay.world with now := right.end_, market := other.service } := by
    rw [opening.end_]
    exact ⟨rfl, rfl⟩
  have passed := backtest.manage_swapped one.service other.service tickers _ _ swapped (by
    rcases unread with ⟨high, low⟩ | same | unused | idle
    · exact .inl (same_atr_of_range _ replay.market 9999 limit left right opening high low)
    · exact .inl same
    · exact .inr (.inl unused)
    · exact .inr (.inr idle))
  exact (congrArg World.toManagers passed.2).symm

end Backtest

def minute (number : Int) (open_ high low close : ℚ) : MarketCandle :=
  ⟨"BTCUSDT", "synthetic", .m1, number * 60000000, (number + 1) * 60000000, open_, high, low, close, 1, 0, 0, 0, 0, true,
    "provider", []⟩

-- Goes long at the close of the first bar.
def longOnce : DecisionSource Unit where
  reset s := s
  decide s symbol _ index := (if index = 0 then some ⟨"bt", symbol, "open_long", true, 1, 1, ""⟩ else none, s)

def trailed : Backtest Unit where
  execution := { sizing := { rewardRisk := 20 }, rules := { trailingAtrMultiple := 1 } }
  paper := PaperBroker.midway
  source := longOnce
  config := { symbol := "BTCUSDT" }

theorem long_once_reads : ReadsUpTo longOnce := fun _ _ _ _ _ _ => rfl

def quiet (close : ℚ) : List MarketCandle := [minute 0 100 100 100 100, minute 1 100 103 100 103, minute 2 103 109 103 close]

theorem inside_the_bar_close : ∃ one other, trailed.atOpen (quiet 104) () 2 = some one ∧
    trailed.atOpen (quiet 109 ++ [minute 3 1 1 1 1]) () 2 = some other ∧ one.world.toManagers = other.world.toManagers :=
  trailed.inside_the_bar long_once_reads () (quiet 104) (quiet 109 ++ [minute 3 1 1 1 1]) 2 rfl (minute 2 103 109 103 104)
    (minute 2 103 109 103 109) rfl rfl ⟨rfl, rfl, rfl, rfl, rfl⟩ (.inl ⟨rfl, rfl⟩)

-- The bar is stored before its path is walked: how far it will rise widens the
-- ATR, and at its open the trailing stop is not moved to 101.4897 but stays at the
-- entry price.
def still : List MarketCandle := [minute 0 100 100 100 100, minute 1 100 103 100 103, minute 2 103 103 103 103]

def stops (replay : Replay Unit) : List (Option ℚ) := replay.world.openPositions.map Position.stopLoss

theorem the_stop_peeks : ¬ ∀ (first second : List MarketCandle) (index : Nat) (left right : MarketCandle),
    ReadsUpTo trailed.source → first.take index = second.take index → first[index]? = some left →
      second[index]? = some right → SameOpening left right → (∀ candle ∈ first ++ second, candle.timeframe = .m1) →
        (trailed.atOpen first () index).map (fun replay => replay.world.openPositions) =
          (trailed.atOpen second () index).map (fun replay => replay.world.openPositions) := by
  intro blind
  have same := blind still (quiet 109) 2 (minute 2 103 103 103 103) (minute 2 103 109 103 109) long_once_reads rfl rfl rfl
    ⟨rfl, rfl, rfl, rfl, rfl⟩ (by simp [still, quiet, minute])
  have alike := congrArg (Option.map (List.map Position.stopLoss)) same
  rw [Option.map_map, Option.map_map] at alike
  have apart : (trailed.atOpen still () 2).map stops ≠ (trailed.atOpen (quiet 109) () 2).map stops := by decide +kernel
  exact apart alike

end QuantEngine.BacktestEngine
