import QuantEngine.Library.Extended
import QuantEngine.Research.Blocks
import QuantEngine.Research.Series

set_option autoImplicit false

namespace QuantEngine.Research.NoPeeking

open Blocks Causal Compiler Series

variable {F : Type}

def announced (outcomes : List (Except PyError (Option DecisionGenerated))) : List String :=
  outcomes.filterMap (fun outcome => match outcome with
    | .ok (some decision) => some decision.action
    | _ => none)

-- Everything the source calls reads the candles up to its bar.
structure Audited (source : GenomeDecisionSource F) : Prop where
  blocks : ∀ bound ∈ source.blocks, Local bound.1
  filters : ∀ bound ∈ source.filters, Local bound.1

theorem passes_local (filters : List (Bound Bool F)) (each : ∀ bound ∈ filters, Local bound.1) (xs ys : List (Candle F))
    (index : Nat) (same : xs.take (index + 1) = ys.take (index + 1)) :
    GenomeDecisionSource.passes xs index filters = GenomeDecisionSource.passes ys index filters := by
  induction filters with
  | nil => rfl
  | cons bound rest ih =>
      rw [GenomeDecisionSource.passes, GenomeDecisionSource.passes, each bound List.mem_cons_self bound.2 xs ys index same,
        ih (fun other later => each other (List.mem_cons_of_mem bound later))]

theorem votes_local (blocks : List (Bound Direction F)) (each : ∀ bound ∈ blocks, Local bound.1) (xs ys : List (Candle F))
    (index : Nat) (same : xs.take (index + 1) = ys.take (index + 1)) :
    GenomeDecisionSource.votes xs index blocks = GenomeDecisionSource.votes ys index blocks := by
  induction blocks with
  | nil => rfl
  | cons bound rest ih =>
      rw [GenomeDecisionSource.votes, GenomeDecisionSource.votes, each bound List.mem_cons_self bound.2 xs ys index same,
        ih (fun other later => each other (List.mem_cons_of_mem bound later))]

theorem direction_local (source : GenomeDecisionSource F) (audited : Audited source) (xs ys : List (Candle F)) (index : Nat)
    (same : xs.take (index + 1) = ys.take (index + 1)) : source.direction xs index = source.direction ys index := by
  simp only [GenomeDecisionSource.direction, GenomeDecisionSource.combine,
    passes_local source.filters audited.filters xs ys index same, votes_local source.blocks audited.blocks xs ys index same]

-- What one call can do: nothing, or the turn to another side.
theorem decide_cases (source : GenomeDecisionSource F) (symbol : String) (candles : List (Candle F)) (index : Int) :
    ((source.decide_ symbol candles index).2 = source ∧ announced [(source.decide_ symbol candles index).1] = []) ∨
      ∃ side, source.lastSide ≠ some side ∧
        source.decide_ symbol candles index = (.ok (source.turn symbol side).1, (source.turn symbol side).2) := by
  rw [GenomeDecisionSource.decide_]
  by_cases range : index < 0 ∨ (candles.length : Int) ≤ index
  · rw [if_pos range]
    exact .inl ⟨rfl, rfl⟩
  · rw [if_neg range]
    cases source.direction candles index.toNat with
    | error e => exact .inl ⟨rfl, rfl⟩
    | ok direction =>
        dsimp only
        cases GenomeDecisionSource.sideOf direction with
        | none => exact .inl ⟨rfl, rfl⟩
        | some side =>
            by_cases same : source.lastSide = some side
            · left
              simp [GenomeDecisionSource.turn, same, announced]
            · exact .inr ⟨side, same, rfl⟩

theorem turn_audited (source : GenomeDecisionSource F) (audited : Audited source) (symbol : String) (side : Side) :
    Audited (source.turn symbol side).2 := by
  rw [GenomeDecisionSource.turn]
  split
  · exact audited
  · cases side
    · exact ⟨audited.blocks, audited.filters⟩
    · dsimp only
      split <;> exact ⟨audited.blocks, audited.filters⟩

theorem decide_local (source : GenomeDecisionSource F) (audited : Audited source) (symbol : String) (xs ys : List (Candle F))
    (index : Int) (same : xs.take (index.toNat + 1) = ys.take (index.toNat + 1)) (lx : index < xs.length)
    (ly : index < ys.length) : source.decide_ symbol xs index = source.decide_ symbol ys index := by
  have left : (index < 0 ∨ (xs.length : Int) ≤ index) = (index < 0) := by
    simp [Int.not_le.mpr lx]
  have right : (index < 0 ∨ (ys.length : Int) ≤ index) = (index < 0) := by
    simp [Int.not_le.mpr ly]
  simp only [GenomeDecisionSource.decide_, left, right, direction_local source audited xs ys index.toNat same]

theorem decide_audited (source : GenomeDecisionSource F) (audited : Audited source) (symbol : String) (candles : List (Candle F))
    (index : Int) : Audited (source.decide_ symbol candles index).2 := by
  rcases decide_cases source symbol candles index with ⟨still, -⟩ | ⟨side, -, turned⟩
  · rw [still]
    exact audited
  · rw [turned]
    exact turn_audited source audited symbol side

theorem decisions_local (source : GenomeDecisionSource F) (audited : Audited source) (symbol : String) (xs ys : List (Candle F))
    (k : Nat) (common : xs.take k = ys.take k) (lx : k ≤ xs.length) (ly : k ≤ ys.length) (indices : List Int)
    (early : ∀ index ∈ indices, index < k) : source.decisions symbol xs indices = source.decisions symbol ys indices := by
  induction indices generalizing source with
  | nil => rfl
  | cons index rest ih =>
      have below : index < k := early index List.mem_cons_self
      have call : source.decide_ symbol xs index = source.decide_ symbol ys index := by
        by_cases negative : index < 0
        · simp [GenomeDecisionSource.decide_, negative]
        · exact decide_local source audited symbol xs ys index (take_up_to k index.toNat xs ys common (by omega)) (by omega) (by omega)
      rw [GenomeDecisionSource.decisions, GenomeDecisionSource.decisions, call]
      exact congrArg (List.cons _) (ih _ (decide_audited source audited symbol ys index)
        (fun other later => early other (List.mem_cons_of_mem index later)))

def actionOf : Side → String
  | .up => "open_long"
  | .down => "open_short"

-- Each direction is the other one of the direction before.
def Alternates (actions : List String) : Prop :=
  ∃ sides : List Side, actions = sides.map actionOf ∧ sides.IsChain (· ≠ ·)

theorem turn_announced (source : GenomeDecisionSource F) (symbol : String) (side : Side) (fresh : source.lastSide ≠ some side)
    (shorts : source.genome.allowShort = true) :
    announced [.ok (source.turn symbol side).1] = [actionOf side] ∧ (source.turn symbol side).2.lastSide = some side ∧
      (source.turn symbol side).2.genome = source.genome := by
  rw [GenomeDecisionSource.turn, if_neg fresh]
  cases side with
  | up => exact ⟨rfl, rfl, rfl⟩
  | down =>
      dsimp only
      rw [if_pos shorts]
      exact ⟨rfl, rfl, rfl⟩

-- The induction is over the calls: what is announced later goes on from the side that is the last.
theorem announced_chain (source : GenomeDecisionSource F) (symbol : String) (candles : List (Candle F)) (indices : List Int)
    (shorts : source.genome.allowShort = true) :
    ∃ sides : List Side, announced (source.decisions symbol candles indices) = sides.map actionOf ∧
      (source.lastSide.toList ++ sides).IsChain (· ≠ ·) := by
  induction indices generalizing source with
  | nil =>
      refine ⟨[], rfl, ?_⟩
      cases source.lastSide <;> simp
  | cons index rest ih =>
      have split : announced (source.decisions symbol candles (index :: rest)) =
          announced [(source.decide_ symbol candles index).1] ++
            announced ((source.decide_ symbol candles index).2.decisions symbol candles rest) := by
        rw [GenomeDecisionSource.decisions, announced, announced, announced, ← List.filterMap_append]
        rfl
      rw [split]
      rcases decide_cases source symbol candles index with ⟨still, silent⟩ | ⟨side, fresh, turned⟩
      · rw [still, silent]
        exact ih source shorts
      · rw [turned]
        obtain ⟨told, now, own⟩ := turn_announced source symbol side fresh shorts
        obtain ⟨sides, later, chain⟩ := ih (source.turn symbol side).2 (own ▸ shorts)
        refine ⟨side :: sides, by simp [told, later], ?_⟩
        rw [now] at chain
        cases before : source.lastSide with
        | none => exact chain
        | some last =>
            rw [before] at fresh
            exact List.isChain_cons_cons.mpr ⟨fun same => fresh (congrArg some same), chain⟩

theorem blind_per_bar (value : List (Candle F) → Except PyError F) : Blind (perBar value) :=
  blind_loop (fun candles _ i => (value (candles.take (i + 1))).map (fun x => ((), x))) ()
    (fun xs ys _ place same => by rw [same])

-- The bars `0 .. k - 1`.
def bars (k : Nat) : List Int := (List.range k).map Int.ofNat

-- The first `k` values of two series that are returned.
def SameStart (k : Nat) (f : SeriesFn F) (xs ys : List (Candle F)) : Prop :=
  ∀ us vs, f xs = .ok us → f ys = .ok vs → us.length = xs.length ∧ vs.length = ys.length ∧ us.take k = vs.take k

variable [Floats F]

theorem compiled_block_local (block : SignalBlock F) (bound : Bound Direction F) (compiled : compileBlock block = .ok bound) :
    Local bound.1 := by
  rw [compileBlock] at compiled
  cases found : (signalBlocks (F := F)).find? (fun spec => decide (spec.kind = block.kind)) with
  | none => simp [found] at compiled
  | some spec =>
      rw [found] at compiled
      obtain rfl := Except.ok.inj compiled
      exact signal_blocks_local spec (List.mem_of_find?_eq_some found)

theorem compiled_filter_local (filt : ContextFilter F) (bound : Bound Bool F) (compiled : compileFilter filt = .ok bound) :
    Local bound.1 := by
  rw [compileFilter] at compiled
  cases found : (contextFilters (F := F)).find? (fun spec => decide (spec.kind = filt.kind)) with
  | none => simp [found] at compiled
  | some spec =>
      rw [found] at compiled
      obtain rfl := Except.ok.inj compiled
      exact context_filters_local spec (List.mem_of_find?_eq_some found)

theorem compile_genome_cases (genome : StrategyGenome F) (source : GenomeDecisionSource F)
    (compiled : compileGenome genome = .ok source) :
    ∃ blocks filters, forEach compileBlock genome.blocks = .ok blocks ∧ forEach compileFilter genome.filters = .ok filters ∧
      source = ⟨genome, blocks, filters, none⟩ := by
  rw [compileGenome] at compiled
  split at compiled
  · cases compiled
  · obtain ⟨blocks, first, compiled⟩ := (bind_ok _ _ _).mp compiled
    obtain ⟨filters, second, compiled⟩ := (bind_ok _ _ _).mp compiled
    exact ⟨blocks, filters, first, second, (Except.ok.inj compiled).symm⟩

theorem compiled_audited (genome : StrategyGenome F) (source : GenomeDecisionSource F)
    (compiled : compileGenome genome = .ok source) : Audited source := by
  obtain ⟨blocks, filters, first, second, rfl⟩ := compile_genome_cases genome source compiled
  constructor
  · intro bound member
    obtain ⟨block, -, gives⟩ := for_each_mem compileBlock genome.blocks blocks first bound member
    exact compiled_block_local block bound gives
  · intro bound member
    obtain ⟨filt, -, gives⟩ := for_each_mem compileFilter genome.filters filters second bound member
    exact compiled_filter_local filt bound gives

variable [HasNan F]

theorem blind_slopes (value : List (Candle F) → Option F) (window : Int) : Blind (slopes value window) :=
  blind_loop (fun candles hist i => .ok (hist ++ [orNan (value (candles.take (i + 1)))],
      slopeOf (hist ++ [orNan (value (candles.take (i + 1)))]) window)) []
    (fun xs ys hist place same => by rw [same])

theorem blind_spread_velocity : Blind (spreadVelocity (F := F)) :=
  blind_comp _ _ (blind_for_each _)
    (blind_loop (fun ranges (_ : Unit) i => .ok ((), slopeOf (ranges.take (i + 1)) 3)) () (fun xs ys _ place same => by rw [same]))

theorem blind_delta_momentum (period : Int) : Blind (Series.deltaMomentum (F := F) period) := blind_per_bar (F := F) _

theorem default_features_blind (name : String) (f : SeriesFn F) (listed : (name, f) ∈ defaultFeatures) : Blind f := by
  simp only [defaultFeatures, List.mem_cons, Prod.mk.injEq, List.not_mem_nil, or_false] at listed
  rcases listed with ⟨-, rfl⟩ | ⟨-, rfl⟩ | ⟨-, rfl⟩ | ⟨-, rfl⟩ | ⟨-, rfl⟩ | ⟨-, rfl⟩ | ⟨-, rfl⟩ | ⟨-, rfl⟩ | ⟨-, rfl⟩
  · exact blind_slopes (F := F) _ _
  · exact blind_per_bar (F := F) _
  · exact blind_delta_momentum 10
  · exact blind_per_bar (F := F) _
  · exact blind_per_bar (F := F) _
  · exact blind_for_each _
  · exact blind_for_each _
  · exact blind_spread_velocity
  · exact blind_per_bar (F := F) _

theorem factors_blind (name family : String) (f : SeriesFn F) (listed : (name, family, f) ∈ factors) : Blind f := by
  simp only [factors, List.mem_cons, Prod.mk.injEq, List.not_mem_nil, or_false] at listed
  rcases listed with ⟨-, -, rfl⟩ | ⟨-, -, rfl⟩ | ⟨-, -, rfl⟩ | ⟨-, -, rfl⟩ | ⟨-, -, rfl⟩ | ⟨-, -, rfl⟩ | ⟨-, -, rfl⟩ |
    ⟨-, -, rfl⟩ | ⟨-, -, rfl⟩ | ⟨-, -, rfl⟩ | ⟨-, -, rfl⟩ | ⟨-, -, rfl⟩ | ⟨-, -, rfl⟩
  · exact blind_per_bar (F := F) _
  · exact blind_slopes (F := F) _ _
  · exact blind_per_bar (F := F) _
  · exact blind_per_bar (F := F) _
  · exact blind_per_bar (F := F) _
  · exact blind_per_bar (F := F) _
  · exact blind_per_bar (F := F) _
  · exact blind_per_bar (F := F) _
  · exact blind_for_each _
  · exact blind_delta_momentum 20
  · exact blind_for_each _
  · exact blind_zipped _ _ _ (blind_per_bar (F := F) _) (blind_per_bar (F := F) _)
  · exact blind_zipped _ _ _ (blind_per_bar (F := F) _) (blind_for_each _)

theorem no_peeking (genome : StrategyGenome F) (source : GenomeDecisionSource F)
    (compiled : compileGenome genome = .ok source) (lastSide : Option Side) (symbol : String) (xs ys : List (Candle F)) (k : Nat)
    (common : xs.take k = ys.take k) (lx : k ≤ xs.length) (ly : k ≤ ys.length) :
    ({ source with lastSide }.reset.decisions symbol xs (bars k) = { source with lastSide }.reset.decisions symbol ys (bars k)) ∧
      (∀ name f, (name, f) ∈ defaultFeatures → SameStart k f xs ys) ∧
      (∀ name family f, (name, family, f) ∈ factors → SameStart k f xs ys) ∧
      (genome.allowShort = true → Alternates (announced ({ source with lastSide }.reset.decisions symbol xs (bars xs.length)))) := by
  have audited := compiled_audited genome source compiled
  have starts : ∀ f : SeriesFn F, Blind f → SameStart k f xs ys := fun f blind us vs left right =>
    ⟨blind.length xs us left, blind.length ys vs right, blind.start k xs ys us vs common lx ly left right⟩
  refine ⟨?_, fun name f listed => starts f (default_features_blind name f listed),
    fun name family f listed => starts f (factors_blind name family f listed), ?_⟩
  · refine decisions_local { source with lastSide }.reset ⟨audited.blocks, audited.filters⟩ symbol xs ys k common lx ly (bars k) ?_
    intro index member
    obtain ⟨n, among, rfl⟩ := List.mem_map.mp member
    exact Int.ofNat_lt.mpr (List.mem_range.mp among)
  · intro shorts
    obtain ⟨blocks, filters, -, -, rfl⟩ := compile_genome_cases genome source compiled
    exact announced_chain _ symbol xs (bars xs.length) shorts

-- A 9-to-21 cross is too slow for four bars: the periods are 1 and 2.
def crossGenome : StrategyGenome Extended where
  id := "g"
  name := "cross"
  symbol := "BTCUSDT"
  timeframe := "1m"
  blocks := [⟨"sma_cross", (Dict.empty.insert "fast" (.finite 1)).insert "slow" (.finite 2)⟩]
  filters := [⟨"session", Dict.empty.insert "start_hour" (.finite 0)⟩]

def crossSource : GenomeDecisionSource Extended where
  genome := crossGenome
  blocks := [(smaCross, (Dict.empty.insert "fast" (.finite 1)).insert "slow" (.finite 2))]
  filters := [(sessionFilter, (Dict.empty.insert "start_hour" (.finite 0)).insert "end_hour" (.finite 20))]
  lastSide := none

def priced (price : Nat) : Candle Extended :=
  ⟨IsoTime.leapDay, .finite (price + 1), .finite (price - 1), .finite price, .finite 2, .finite 1, .finite 1⟩

theorem no_peeking_cross :
    (crossSource.reset.decisions "BTCUSDT" ([5, 7, 6, 8].map priced) (bars 3) =
        crossSource.reset.decisions "BTCUSDT" ([5, 7, 6, 2, 9].map priced) (bars 3)) ∧
      SameStart 3 microprice ([5, 7, 6, 8].map priced) ([5, 7, 6, 2, 9].map priced) ∧
      Alternates (announced (crossSource.reset.decisions "BTCUSDT" ([5, 7, 6, 8].map priced) (bars 4))) := by
  obtain ⟨calls, features, -, alternate⟩ := no_peeking crossGenome crossSource (by rfl) none "BTCUSDT"
    ([5, 7, 6, 8].map priced) ([5, 7, 6, 2, 9].map priced) 3 (by rfl) (by decide) (by decide)
  exact ⟨calls, features "microprice" microprice (by simp [defaultFeatures]), alternate rfl⟩

example : announced (crossSource.reset.decisions "BTCUSDT" ([5, 7, 6, 8].map priced) (bars 4)) =
    ["open_long", "open_short", "open_long"] := by decide +kernel

end QuantEngine.Research.NoPeeking
