import QuantEngine.Backtesting.InsideTheBar
import QuantEngine.Library.Replay
import QuantEngine.Library.Run
import QuantEngine.Research.ShadowMode

set_option autoImplicit false

namespace QuantEngine.Research.ShadowMode

open BacktestEngine
open Calendar (Moment)
open Candles (MarketCandle)
open Replay (Machine)

variable {σ τ : Type}

def machine (source : DecisionSource σ) (symbol : String) : Machine σ MarketCandle (Option DecisionGenerated) :=
  ⟨source.reset, fun state candles index => source.decide state symbol candles index⟩

-- The contract of a decision source: it reads only candles up to the index, and
-- a reset leaves nothing of its state that its later decisions would show.
def KeepsContract (source : DecisionSource σ) (symbol : String) : Prop := (machine source symbol).Replayable

-- Two runs that differ in the state of the source at most.
structure Parallel (Alike : σ → σ → Prop) (first second : BacktestEngine.Replay σ) : Prop where
  market : first.market = second.market
  world : first.world = second.world
  equityCurve : first.equityCurve = second.equityCurve
  source : Alike first.source second.source

section

variable (backtest : Backtest σ)

theorem walk_source (prices : List ℚ) (replay : BacktestEngine.Replay σ) :
    (prices.foldl backtest.walk replay).source = replay.source := by
  induction prices generalizing replay with
  | nil => rfl
  | cons price rest ih => exact ih _

theorem bar_source (candles : List MarketCandle) (replay : BacktestEngine.Replay σ) (candle : MarketCandle) (index : Nat) :
    (backtest.bar candles replay (candle, index)).source =
      (backtest.source.decide replay.source backtest.config.symbol candles index).2 := by
  have walked := walk_source backtest (ohlcPath candle) (Backtest.openBar candle replay)
  change (backtest.source.decide ((ohlcPath candle).foldl backtest.walk (Backtest.openBar candle replay)).source
    backtest.config.symbol candles index).2 = _
  rw [walked]
  rfl

theorem after_source (candles : List MarketCandle) (source : σ) (now : Moment) (count : Nat) (within : count ≤ candles.length) :
    (backtest.after candles source now count).source =
      (machine backtest.source backtest.config.symbol).replay (backtest.source.reset source) candles count := by
  induction count with
  | zero => rfl
  | succ count ih =>
      have here : candles[count]? = some candles[count] := List.getElem?_eq_getElem within
      rw [backtest.after_succ, here, Machine.replay_succ, ← ih (Nat.le_of_succ_le within)]
      exact bar_source backtest candles _ candles[count] count

variable {Alike : σ → σ → Prop} {first second : BacktestEngine.Replay σ}

theorem walk_parallel (prices : List ℚ) (parallel : Parallel Alike first second) :
    Parallel Alike (prices.foldl backtest.walk first) (prices.foldl backtest.walk second) := by
  induction prices generalizing first second with
  | nil => exact parallel
  | cons price rest ih =>
      refine ih ⟨?_, ?_, parallel.equityCurve, parallel.source⟩
      · simp only [Backtest.walk, parallel.market]
      · simp only [Backtest.walk, parallel.market, parallel.world]

theorem bar_parallel (forgets : (machine backtest.source backtest.config.symbol).Forgets Alike)
    (candles : List MarketCandle) (entry : MarketCandle × Nat) (parallel : Parallel Alike first second) :
    Parallel Alike (backtest.bar candles first entry) (backtest.bar candles second entry) := by
  have opened : Parallel Alike (Backtest.openBar entry.1 first) (Backtest.openBar entry.1 second) := by
    refine ⟨?_, ?_, parallel.equityCurve, parallel.source⟩
    · simp only [Backtest.openBar, parallel.market]
    · simp only [Backtest.openBar, parallel.market, parallel.world]
  have walked := walk_parallel backtest (ohlcPath entry.1) opened
  have decided := forgets.answer _ _ candles candles entry.2 walked.source rfl
  have consulted : Parallel Alike
      (backtest.consult candles entry.2 ((ohlcPath entry.1).foldl backtest.walk (Backtest.openBar entry.1 first)))
      (backtest.consult candles entry.2 ((ohlcPath entry.1).foldl backtest.walk (Backtest.openBar entry.1 second))) := by
    refine ⟨walked.market, ?_, walked.equityCurve, decided.2⟩
    have same := decided.1
    simp only [machine] at same
    simp only [Backtest.consult, same, walked.world]
  refine ⟨consulted.market, ?_, ?_, consulted.source⟩
  · simp only [Backtest.bar, Backtest.sample, consulted.world]
  · simp only [Backtest.bar, Backtest.sample, consulted.world, consulted.equityCurve]

-- Whatever state the source comes in, the run is the same.
theorem same_result (forgets : (machine backtest.source backtest.config.symbol).Forgets Alike)
    (candles : List MarketCandle) (s t : σ) : backtest.runAsync candles s = backtest.runAsync candles t := by
  cases candles with
  | nil => rfl
  | cons candle rest =>
      have ran (entries : List (MarketCandle × Nat)) (first second : BacktestEngine.Replay σ)
          (parallel : Parallel Alike first second) : Parallel Alike (entries.foldl (backtest.bar (candle :: rest)) first)
            (entries.foldl (backtest.bar (candle :: rest)) second) := by
        induction entries generalizing first second with
        | nil => exact parallel
        | cons entry others ih => exact ih _ _ (bar_parallel backtest forgets (candle :: rest) entry parallel)
      have parallel := ran ((candle :: rest).take (candle :: rest).length).zipIdx (backtest.start s candle.start)
        (backtest.start t candle.start) ⟨rfl, rfl, rfl, forgets.reset s t⟩
      refine congrArg some ?_
      simp only [Backtest.report, Backtest.after, parallel.world, parallel.equityCurve]

theorem left_tracks (forgets : (machine backtest.source backtest.config.symbol).Forgets Alike)
    (candles : List MarketCandle) (state : σ) : (machine backtest.source backtest.config.symbol).Tracks Alike
      (ShadowComparator.runBacktest backtest candles (backtest.source.reset state)).2 candles := by
  cases candles with
  | nil => exact Machine.tracks_reset forgets state
  | cons candle rest =>
      have left := after_source backtest (candle :: rest) (backtest.source.reset state) candle.start _ (Nat.le_refl _)
      rw [ShadowComparator.runBacktest, left]
      exact Machine.tracks_replay forgets (backtest.source.reset state) (candle :: rest)

end

inductive Move where
  | feed (candle : MarketCandle)
  | conclude (draws : PaperBroker × PaperBroker)

def Move.feeds : Move → Bool
  | .feed _ => true
  | .conclude _ => false

namespace Shadow

variable (shadow : Shadow σ τ)

def step (session : ShadowSession σ τ) : Move → ShadowSession σ τ
  | .feed candle => shadow.feed candle session
  | .conclude draws => (shadow.conclude draws session).2

def run (sources : σ × τ) (moves : List Move) : ShadowSession σ τ := Run.final shadow.step (shadow.start sources) moves

-- The two sessions have observed the same, and their sources, each for itself,
-- are like any replay of it.
structure Follows (Official : σ → σ → Prop) (Challenger : τ → τ → Prop) (session quiet : ShadowSession σ τ) : Prop where
  candles : session.candles = quiet.candles
  officialSignals : session.officialSignals = quiet.officialSignals
  challengerSignals : session.challengerSignals = quiet.challengerSignals
  official : (machine shadow.official shadow.config.symbol).Tracks Official session.official session.candles
  challenger : (machine shadow.challenger shadow.config.symbol).Tracks Challenger session.challenger session.candles
  quietOfficial : (machine shadow.official shadow.config.symbol).Tracks Official quiet.official session.candles
  quietChallenger : (machine shadow.challenger shadow.config.symbol).Tracks Challenger quiet.challenger session.candles

section

variable {shadow} {Official : σ → σ → Prop} {Challenger : τ → τ → Prop}
  (official : (machine shadow.official shadow.config.symbol).Forgets Official)
  (challenger : (machine shadow.challenger shadow.config.symbol).Forgets Challenger)

include official challenger

theorem start_follows (sources others : σ × τ) :
    shadow.Follows Official Challenger (shadow.start sources) (shadow.start others) :=
  ⟨rfl, rfl, rfl, Machine.tracks_reset official sources.1, Machine.tracks_reset challenger sources.2,
    Machine.tracks_reset official others.1, Machine.tracks_reset challenger others.2⟩

theorem feed_follows (candle : MarketCandle) (session quiet : ShadowSession σ τ)
    (follows : shadow.Follows Official Challenger session quiet) :
    shadow.Follows Official Challenger (shadow.feed candle session) (shadow.feed candle quiet) := by
  obtain ⟨off, chal, candles, offSignals, chalSignals⟩ := quiet
  obtain ⟨rfl, rfl, rfl, tracksOff, tracksChal, quietOff, quietChal⟩ := follows
  have sameOff := Machine.tracked_answers official _ _ session.candles candle tracksOff quietOff
  have sameChal := Machine.tracked_answers challenger _ _ session.candles candle tracksChal quietChal
  exact {
    candles := rfl
    officialSignals := congrArg (fun decision => session.officialSignals + count decision) sameOff
    challengerSignals := congrArg (fun decision => session.challengerSignals + count decision) sameChal
    official := Machine.tracks_answer official _ session.candles candle tracksOff
    challenger := Machine.tracks_answer challenger _ session.candles candle tracksChal
    quietOfficial := Machine.tracks_answer official _ session.candles candle quietOff
    quietChallenger := Machine.tracks_answer challenger _ session.candles candle quietChal }

theorem conclude_follows (draws : PaperBroker × PaperBroker) (session quiet : ShadowSession σ τ)
    (follows : shadow.Follows Official Challenger session quiet) :
    shadow.Follows Official Challenger (shadow.conclude draws session).2 quiet := by
  have off := left_tracks ⟨shadow.comparator.execution, draws.1, shadow.official, shadow.config⟩ official session.candles
    session.official
  have chal := left_tracks ⟨shadow.comparator.execution, draws.2, shadow.challenger, shadow.config⟩ challenger
    session.candles session.challenger
  have same : (shadow.conclude draws session).2.candles = session.candles := rfl
  refine ⟨follows.candles, follows.officialSignals, follows.challengerSignals, ?_, ?_, follows.quietOfficial,
    follows.quietChallenger⟩
  · rw [same, conclude, ShadowComparator.compare]
    split <;> exact off
  · rw [same, conclude, ShadowComparator.compare]
    split
    · rename_i refused
      have empty : session.candles = [] := by
        cases here : session.candles with
        | nil => rfl
        | cons candle rest =>
            rw [here] at refused
            cases refused
      rw [empty]
      exact Machine.tracks_reset challenger session.challenger
    · exact chal

theorem run_follows (sources others : σ × τ) (moves : List Move) :
    shadow.Follows Official Challenger (shadow.run sources moves) (shadow.run others (moves.filter Move.feeds)) := by
  have kept (session quiet : ShadowSession σ τ) (follows : shadow.Follows Official Challenger session quiet) :
      shadow.Follows Official Challenger (Run.final shadow.step session moves)
        (Run.final shadow.step quiet (moves.filter Move.feeds)) := by
    induction moves generalizing session quiet with
    | nil => exact follows
    | cons move rest ih =>
        cases move with
        | feed candle => exact ih _ _ (feed_follows official challenger candle session quiet follows)
        | conclude draws => exact ih _ _ (conclude_follows official challenger draws session quiet follows)
  exact kept _ _ (start_follows official challenger sources others)

theorem same_comparison (draws : PaperBroker × PaperBroker) (session other : ShadowSession σ τ)
    (candles : session.candles = other.candles) : (shadow.conclude draws session).1 = (shadow.conclude draws other).1 := by
  have off := same_result ⟨shadow.comparator.execution, draws.1, shadow.official, shadow.config⟩ official other.candles
    (shadow.official.reset session.official) (shadow.official.reset other.official)
  have chal := same_result ⟨shadow.comparator.execution, draws.2, shadow.challenger, shadow.config⟩ challenger
    other.candles (shadow.challenger.reset session.challenger) (shadow.challenger.reset other.challenger)
  simp only [conclude, ShadowComparator.compare, ShadowComparator.runBacktest, candles, off, chal]
  split <;> rfl

end

-- Concluding is not noticed by a session whose sources keep their contract, nor
-- by any later conclusion.
theorem observation_neutral (official : KeepsContract shadow.official shadow.config.symbol)
    (challenger : KeepsContract shadow.challenger shadow.config.symbol) (sources : σ × τ) (moves : List Move) :
    shadow.signals (shadow.run sources moves) = shadow.signals (shadow.run sources (moves.filter Move.feeds)) ∧
      shadow.isReady (shadow.run sources moves) = shadow.isReady (shadow.run sources (moves.filter Move.feeds)) ∧
      ∀ done draws rest, moves = done ++ .conclude draws :: rest → ∀ others,
        (shadow.conclude draws (shadow.run sources done)).1 =
          (shadow.conclude draws (shadow.run others (done.filter Move.feeds))).1 := by
  obtain ⟨Official, forgetsOff⟩ := official
  obtain ⟨Challenger, forgetsChal⟩ := challenger
  have follows := run_follows forgetsOff forgetsChal sources sources moves
  refine ⟨?_, ?_, fun done draws rest _ others => ?_⟩
  · simp only [signals, follows.officialSignals, follows.challengerSignals]
  · simp only [isReady, follows.officialSignals, follows.challengerSignals]
  · exact same_comparison forgetsOff forgetsChal draws _ _
      (run_follows forgetsOff forgetsChal sources others done).candles

end Shadow

theorem moving_average_keeps (source : MovingAverageCrossSource) (symbol : String) :
    KeepsContract source.asSource symbol := by
  refine ⟨Eq, fun _ _ => rfl, ?_⟩
  rintro s _ first second place rfl same
  have answers : source.decide_ s symbol first place = source.decide_ s symbol second place := by
    simp only [MovingAverageCrossSource.decide_, same]
  exact ⟨congrArg Prod.fst answers, congrArg Prod.snd answers⟩

def midway : PaperBroker × PaperBroker := (PaperBroker.midway, PaperBroker.midway)

def watched : List Move :=
  [.feed (minute 0 100 100 100 100), .feed (minute 1 100 103 100 103), .conclude midway, .feed (minute 2 103 103 90 90),
    .conclude midway]

def crossing : Shadow (Option Compiler.Side) (Option Compiler.Side) where
  comparator := ⟨{}, { minSignals := 1 }, ⟨fun x => x, fun x => x⟩⟩
  official := MovingAverageCrossSource.asSource { fast := 1, slow := 2 }
  challenger := MovingAverageCrossSource.asSource { fast := 1, slow := 3 }
  config := { symbol := "BTCUSDT" }

theorem observation_neutral_crossing :
    crossing.signals (crossing.run (none, none) watched) =
        crossing.signals (crossing.run (none, none) (watched.filter Move.feeds)) ∧
      crossing.isReady (crossing.run (none, none) watched) =
        crossing.isReady (crossing.run (none, none) (watched.filter Move.feeds)) ∧
      (crossing.conclude midway (crossing.run (none, none) (watched.take 4))).1 =
        (crossing.conclude midway (crossing.run (some .up, none) ((watched.take 4).filter Move.feeds))).1 := by
  obtain ⟨signals, ready, concluded⟩ := crossing.observation_neutral (moving_average_keeps _ _) (moving_average_keeps _ _)
    (none, none) watched
  exact ⟨signals, ready, concluded (watched.take 4) midway [] rfl (some .up, none)⟩

-- `CallableDecisionSource` has no state of its own to reset; the function it
-- wraps may have.
def callable (fn : σ → String → List MarketCandle → Nat → Option DecisionGenerated × σ) : DecisionSource σ where
  reset state := state
  decide := fn

def everyOther : DecisionSource Bool :=
  callable (fun said symbol _ _ => (if said then none else some (Compiler.openDecision symbol "open_long" ""), !said))

def alternating : Shadow Bool Bool where
  comparator := ⟨{}, {}, ⟨fun x => x, fun x => x⟩⟩
  official := everyOther
  challenger := everyOther
  config := { symbol := "BTCUSDT" }

-- The replay takes a call from the function, which then signals on the next bar.
theorem concluding_is_noticed : ¬ ∀ (moves : List Move),
    alternating.signals (alternating.run (false, false) moves) =
      alternating.signals (alternating.run (false, false) (moves.filter Move.feeds)) := by
  intro neutral
  have same := congrArg (fun signals => signals.lookup "official")
    (neutral [.feed (minute 0 100 100 100 100), .conclude midway, .feed (minute 1 100 100 100 100)])
  have apart : (alternating.signals (alternating.run (false, false)
      [.feed (minute 0 100 100 100 100), .conclude midway, .feed (minute 1 100 100 100 100)])).lookup "official" ≠
      (alternating.signals (alternating.run (false, false)
        [.feed (minute 0 100 100 100 100), .feed (minute 1 100 100 100 100)])).lookup "official" := by decide +kernel
  exact apart same

end QuantEngine.Research.ShadowMode
