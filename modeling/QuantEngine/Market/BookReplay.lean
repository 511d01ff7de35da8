import QuantEngine.Library.Replay
import QuantEngine.Library.Run
import QuantEngine.Market.OrderBook

set_option autoImplicit false

namespace QuantEngine.BookReplay

open OrderBookEngine
open Run (Each)
open UpdateLog (Changed)

inductive BookSide where
  | bid
  | ask
  deriving DecidableEq

-- The exchange: update number `n` sets the size of one price of one side, and
-- a price of no size is no level. The book is empty before the first update.
abbrev Exchange := UpdateLog.Log (BookSide × ℚ) ℚ

def sizeAfter (exchange : Exchange) (n : Nat) (side : BookSide) (price : ℚ) : ℚ :=
  UpdateLog.state exchange (fun _ => 0) n (side, price)

def Live (exchange : Exchange) (n : Nat) (side : BookSide) (level : DepthLevel) : Prop :=
  0 < level.size ∧ sizeAfter exchange n side level.price = level.size

-- A snapshot is the whole book; a delta has the last size of every price that
-- its updates change.
structure Snapshot (exchange : Exchange) (n : Nat) (delta : OrderBookDelta) : Prop where
  number : delta.lastSequence = n
  bids : ∀ level, level ∈ delta.bids ↔ Live exchange n .bid level
  asks : ∀ level, level ∈ delta.asks ↔ Live exchange n .ask level

def Carries (exchange : Exchange) (first last : Nat) (side : BookSide) (levels : List DepthLevel) : Prop :=
  ∀ level, level ∈ levels ↔
    Changed exchange first last (side, level.price) ∧ sizeAfter exchange last side level.price = level.size

structure Batch (exchange : Exchange) (first last : Nat) (delta : OrderBookDelta) : Prop where
  firstNumber : delta.firstSequence = first
  lastNumber : delta.lastSequence = last
  positive : 1 ≤ first
  ordered : first ≤ last
  bids : Carries exchange first last .bid delta.bids
  asks : Carries exchange first last .ask delta.asks

-- What the exchange may send, where `least` is the least number of a snapshot.
def Sent (exchange : Exchange) (least : Nat) (delta : OrderBookDelta) : Prop :=
  if delta.isSnapshot then ∃ n, least ≤ n ∧ Snapshot exchange n delta
  else ∃ first last, Batch exchange first last delta

def DeepEnough (exchange : Exchange) (maxDepth : Nat) : Prop :=
  ∀ n side (prices : List ℚ), prices.Nodup → (∀ price ∈ prices, 0 < sizeAfter exchange n side price) →
    prices.length ≤ maxDepth

structure BookAt (exchange : Exchange) (n : Nat) (book : OrderBook) : Prop where
  number : book.sequence = n
  bids : ∀ level, level ∈ book.bids ↔ Live exchange n .bid level
  asks : ∀ level, level ∈ book.asks ↔ Live exchange n .ask level
  bidsOrder : book.bids.Pairwise (fun a b => a.price > b.price)
  asksOrder : book.asks.Pairwise (fun a b => a.price < b.price)

def receive (engine : OrderBookEngine) (delta : OrderBookDelta) : OrderBookEngine := (engine.apply delta).2

def Stale (engine : OrderBookEngine) (delta : OrderBookDelta) : Prop :=
  delta.isSnapshot = false ∧ delta.lastSequence ≤ engine.sequence

-- A published book is the exchange's after the update it is numbered with, and
-- a stale delta changes nothing.
structure Faithful (exchange : Exchange) (engine : OrderBookEngine) (delta : OrderBookDelta) : Prop where
  published : ∀ book, (engine.apply delta).1 = some book → ∃ n, BookAt exchange n book
  stale : Stale engine delta → engine.apply delta = (none, engine)

def Mirrors (exchange : Exchange) (n : Nat) (side : BookSide) (levels : Dict ℚ ℚ) : Prop :=
  ∀ price, levels.lookup price = live (sizeAfter exchange n side price)

structure Inv (exchange : Exchange) (maxDepth : Nat) (engine : OrderBookEngine) : Prop where
  depth : engine.maxDepth = maxDepth
  mirrors : engine.synced = true → ∃ n : Nat, 1 ≤ n ∧ engine.sequence = n ∧
    Mirrors exchange n .bid engine.bids ∧ Mirrors exchange n .ask engine.asks

theorem live_iff (size wanted : ℚ) : live size = some wanted ↔ 0 < wanted ∧ size = wanted := by
  rw [live]
  split
  · rename_i gone
    simp only [reduceCtorEq, false_iff]
    rintro ⟨positive, rfl⟩
    exact absurd positive (not_lt.mpr gone)
  · rename_i here
    rw [Option.some.injEq]
    exact ⟨fun same => ⟨same ▸ not_le.mp here, same⟩, And.right⟩

theorem last_size_none (levels : List DepthLevel) (price : ℚ) (absent : lastSize levels price = none)
    (level : DepthLevel) (member : level ∈ levels) : level.price ≠ price := by
  induction levels with
  | nil => cases member
  | cons first rest ih =>
      rw [lastSize, Option.or_eq_none_iff] at absent
      rcases List.mem_cons.mp member with rfl | later
      · intro same
        rw [if_pos same] at absent
        cases absent.2
      · exact ih absent.1 later

section

variable (exchange : Exchange)

theorem snapshot_mirrors (n : Nat) (side : BookSide) (levels : List DepthLevel)
    (whole : ∀ level, level ∈ levels ↔ Live exchange n side level) : Mirrors exchange n side (ofLevels levels) := by
  intro price
  rw [of_levels_apply, apply_side_lookup]
  cases found : lastSize (levels.filter (fun level => decide (level.size > 0))) price with
  | some size =>
      have member := (List.mem_filter.mp (last_size_mem _ price size found)).1
      dsimp only
      rw [((whole _).mp member).2]
  | none =>
      have empty : (Dict.empty : Dict ℚ ℚ).lookup price = none := rfl
      dsimp only
      rw [empty]
      cases here : live (sizeAfter exchange n side price) with
      | none => rfl
      | some size =>
          obtain ⟨positive, same⟩ := (live_iff _ _).mp here
          have member : ⟨price, size⟩ ∈ levels.filter (fun level => decide (level.size > 0)) :=
            List.mem_filter.mpr ⟨(whole ⟨price, size⟩).mpr ⟨positive, same⟩, decide_eq_true positive⟩
          exact absurd rfl (last_size_none _ price found _ member)

-- What a delta leaves is what the exchange has after the delta's last update,
-- whatever part of the delta the engine had seen before.
theorem delta_mirrors (seen first last : Nat) (side : BookSide) (held : Dict ℚ ℚ) (levels : List DepthLevel)
    (mirrors : Mirrors exchange seen side held) (carries : Carries exchange first last side levels)
    (later : seen ≤ last) (joined : first ≤ seen + 1) : Mirrors exchange last side (applySide held levels) := by
  intro price
  rw [apply_side_lookup]
  cases found : lastSize levels price with
  | some size =>
      have member := last_size_mem _ price size found
      dsimp only
      rw [((carries _).mp member).2]
  | none =>
      have unchanged : ¬ Changed exchange first last (side, price) := by
        intro changed
        exact last_size_none _ price found ⟨price, sizeAfter exchange last side price⟩
          ((carries ⟨price, _⟩).mpr ⟨changed, rfl⟩) rfl
      dsimp only
      rw [mirrors price, sizeAfter, sizeAfter, UpdateLog.state_outside exchange _ seen first last later joined _ unchanged]

theorem mirror_fits (maxDepth n : Nat) (side : BookSide) (held : Dict ℚ ℚ) (order : List ℚ → List ℚ)
    (deep : DeepEnough exchange maxDepth) (mirrors : Mirrors exchange n side held) :
    trimSide order maxDepth held = held := by
  have fits : held.size ≤ maxDepth := by
    have few := deep n side held.keys held.keys_nodup ?_
    · rwa [Dict.keys, List.length_map] at few
    · intro price member
      obtain ⟨size, found⟩ := Dict.lookup_of_mem_keys held price member
      rw [mirrors price] at found
      obtain ⟨positive, same⟩ := (live_iff _ _).mp found
      exact same ▸ positive
  rw [trimSide, if_neg (Nat.not_lt.mpr fits)]

theorem mirrors_level (n : Nat) (side : BookSide) (held : Dict ℚ ℚ) (mirrors : Mirrors exchange n side held)
    (level : DepthLevel) : held.lookup level.price = some level.size ↔ Live exchange n side level := by
  rw [mirrors level.price]
  exact live_iff _ _

theorem publish_book (maxDepth n : Nat) (engine : OrderBookEngine) (delta : OrderBookDelta)
    (deep : DeepEnough exchange maxDepth) (positive : 1 ≤ n) (depth : engine.maxDepth = maxDepth)
    (number : engine.sequence = n) (bids : Mirrors exchange n .bid engine.bids)
    (asks : Mirrors exchange n .ask engine.asks) :
    Inv exchange maxDepth (engine.stamp delta).trim ∧
      ∀ book, (engine.stamp delta).trim.snapshot = some book → BookAt exchange n book := by
  have bidsFit := mirror_fits exchange maxDepth n .bid engine.bids descending deep bids
  have asksFit := mirror_fits exchange maxDepth n .ask engine.asks ascending deep asks
  have trimmed : (engine.stamp delta).trim = engine.stamp delta := by
    rw [trim]
    change { engine.stamp delta with
      bids := trimSide descending engine.maxDepth engine.bids
      asks := trimSide ascending engine.maxDepth engine.asks } = _
    rw [depth, bidsFit, asksFit]
    rfl
  rw [trimmed]
  refine ⟨⟨depth, fun _ => ⟨n, positive, number, bids, asks⟩⟩, ?_⟩
  intro book published
  cases synced : engine.synced with
  | false =>
      rw [snapshot, show (engine.stamp delta).synced = false from synced] at published
      cases published
  | true =>
      rw [snapshot, show (engine.stamp delta).synced = true from synced] at published
      cases published
      refine ⟨number, ?_, ?_, ?_, ?_⟩
      · exact fun level => (mem_side_levels _ _ descending_orders engine.bids level).trans
          (mirrors_level exchange n .bid engine.bids bids level)
      · exact fun level => (mem_side_levels _ _ ascending_orders engine.asks level).trans
          (mirrors_level exchange n .ask engine.asks asks level)
      · exact (side_levels_sorted _ _ descending_orders engine.bids).imp (fun below => neg_lt_neg_iff.mp below)
      · exact side_levels_sorted _ _ ascending_orders engine.asks

theorem gap_iff (engine : OrderBookEngine) (delta : OrderBookDelta) (seen first last : Nat) (positive : 1 ≤ seen)
    (number : engine.sequence = seen) (batch : Batch exchange first last delta) :
    engine.hasGap delta = true ↔ seen + 1 < first := by
  have first' := batch.positive
  rw [hasGap, batch.firstNumber, number, if_neg (by omega), decide_eq_true_eq]
  omega

theorem snapshot_faithful (maxDepth : Nat) (engine : OrderBookEngine) (delta : OrderBookDelta)
    (deep : DeepEnough exchange maxDepth) (depth : engine.maxDepth = maxDepth) (whole : delta.isSnapshot = true)
    (n : Nat) (positive : 1 ≤ n) (taken : Snapshot exchange n delta) :
    Inv exchange maxDepth (receive engine delta) ∧
      ∀ book, (engine.apply delta).1 = some book → ∃ n, BookAt exchange n book := by
  rw [receive, apply, if_pos whole]
  obtain ⟨kept, published⟩ := publish_book exchange maxDepth n
    { engine with
      bids := ofLevels delta.bids
      asks := ofLevels delta.asks
      sequence := delta.lastSequence
      synced := true }
    delta deep positive depth taken.number (snapshot_mirrors exchange n .bid delta.bids taken.bids)
    (snapshot_mirrors exchange n .ask delta.asks taken.asks)
  exact ⟨kept, fun book given => ⟨n, published book given⟩⟩

theorem batch_faithful (maxDepth : Nat) (engine : OrderBookEngine) (delta : OrderBookDelta)
    (deep : DeepEnough exchange maxDepth) (inv : Inv exchange maxDepth engine) (increment : ¬ delta.isSnapshot = true)
    (first last : Nat) (batch : Batch exchange first last delta) :
    Inv exchange maxDepth (receive engine delta) ∧
      ∀ book, (engine.apply delta).1 = some book → ∃ n, BookAt exchange n book := by
  rw [receive, apply, if_neg increment]
  by_cases synced : engine.synced = true
  · obtain ⟨seen, positive, number, bids, asks⟩ := inv.mirrors synced
    have gap := gap_iff exchange engine delta seen first last positive number batch
    rw [if_neg (by simp [synced])]
    by_cases hole : engine.hasGap delta = true
    · rw [if_pos hole]
      exact ⟨⟨inv.depth, fun held => by cases held⟩, fun book given => by cases given⟩
    · rw [if_neg hole]
      have joined : first ≤ seen + 1 := Nat.not_lt.mp (fun missing => hole (gap.mpr missing))
      split
      · exact ⟨inv, fun book given => by cases given⟩
      · rename_i fresh
        have ordered := batch.ordered
        have first' := batch.positive
        rw [batch.lastNumber, number] at fresh
        obtain ⟨kept, published⟩ := publish_book exchange maxDepth last
          { engine with
            bids := applySide engine.bids delta.bids
            asks := applySide engine.asks delta.asks
            sequence := if delta.lastSequence = 0 then engine.sequence else delta.lastSequence }
          delta deep (by omega) inv.depth
          (by rw [batch.lastNumber, if_neg (by omega)])
          (delta_mirrors exchange seen first last .bid engine.bids delta.bids bids batch.bids (by omega) joined)
          (delta_mirrors exchange seen first last .ask engine.asks delta.asks asks batch.asks (by omega) joined)
        exact ⟨kept, fun book given => ⟨last, published book given⟩⟩
  · rw [if_pos (by simpa using synced)]
    exact ⟨inv, fun book given => by cases given⟩

theorem apply_faithful (maxDepth : Nat) (engine : OrderBookEngine) (delta : OrderBookDelta)
    (deep : DeepEnough exchange maxDepth) (inv : Inv exchange maxDepth engine) (sent : Sent exchange 1 delta) :
    Inv exchange maxDepth (receive engine delta) ∧
      ∀ book, (engine.apply delta).1 = some book → ∃ n, BookAt exchange n book := by
  rw [Sent] at sent
  by_cases whole : delta.isSnapshot = true
  · rw [if_pos whole] at sent
    obtain ⟨n, positive, taken⟩ := sent
    exact snapshot_faithful exchange maxDepth engine delta deep inv.depth whole n positive taken
  · rw [if_neg whole] at sent
    obtain ⟨first, last, batch⟩ := sent
    exact batch_faithful exchange maxDepth engine delta deep inv whole first last batch

theorem stale_ignored (maxDepth least : Nat) (engine : OrderBookEngine) (delta : OrderBookDelta)
    (inv : Inv exchange maxDepth engine) (sent : Sent exchange least delta) (stale : Stale engine delta) :
    engine.apply delta = (none, engine) := by
  obtain ⟨incremental, seen⟩ := stale
  have notWhole : ¬ delta.isSnapshot = true := by simp [incremental]
  rw [Sent, if_neg notWhole] at sent
  obtain ⟨first, last, batch⟩ := sent
  have ordered := batch.ordered
  have positive := batch.positive
  rw [apply, if_neg notWhole]
  by_cases synced : engine.synced = true
  · obtain ⟨n, least, number, -⟩ := inv.mirrors synced
    have gap := gap_iff exchange engine delta n first last least number batch
    rw [batch.lastNumber, number] at seen
    rw [if_neg (by simp [synced]), if_neg (fun hole => absurd (gap.mp hole) (by omega)), batch.lastNumber, number,
      if_pos (by omega)]
  · rw [if_pos (by simpa using synced)]

-- Whatever the channel loses, repeats or reorders, a published book is the
-- exchange's after the update that it is numbered with.
theorem replay_faithful (symbol provider : String) (maxDepth : Nat) (deep : DeepEnough exchange maxDepth)
    (deltas : List OrderBookDelta) (sent : ∀ delta ∈ deltas, Sent exchange 1 delta) :
    Each receive (Faithful exchange) { symbol := symbol, provider := provider, maxDepth := maxDepth } deltas := by
  refine Run.each_of_invariant receive (fun _ delta => Sent exchange 1 delta) _ (Inv exchange maxDepth) ?_ ?_ _ deltas
    ⟨rfl, fun synced => by cases synced⟩ (Run.each_of_mem receive _ _ deltas sent)
  · exact fun engine delta inv sent => (apply_faithful exchange maxDepth engine delta deep inv sent).1
  · intro engine delta inv sent
    exact ⟨(apply_faithful exchange maxDepth engine delta deep inv sent).2,
      stale_ignored exchange maxDepth 1 engine delta inv sent⟩

end

def twoBids : Exchange := fun n => if n = 1 then ((.bid, 100), 1) else ((.bid, 101), 2)

def twoBidsSize (n : Nat) (side : BookSide) (price : ℚ) : ℚ :=
  if side = .bid ∧ price = 100 ∧ 1 ≤ n then 1
  else if side = .bid ∧ price = 101 ∧ 2 ≤ n then 2 else 0

theorem two_bids_size (n : Nat) (side : BookSide) (price : ℚ) :
    sizeAfter twoBids n side price = twoBidsSize n side price := by
  induction n with
  | zero => simp [sizeAfter, UpdateLog.state, twoBidsSize]
  | succ n ih =>
      rw [sizeAfter, UpdateLog.state, Function.update_apply, ← sizeAfter, ih]
      by_cases first : n = 0
      · subst first
        simp [twoBids, twoBidsSize]
      · have second : 1 ≤ n := Nat.one_le_iff_ne_zero.mpr first
        by_cases here : (side, price) = (twoBids (n + 1)).1
        · simp only [twoBids, Nat.add_eq_right, first, if_false, Prod.mk.injEq] at here
          obtain ⟨rfl, rfl⟩ := here
          simp [twoBids, twoBidsSize, first, second]
        · rw [if_neg here]
          simp only [twoBids, Nat.add_eq_right, first, if_false, Prod.mk.injEq] at here
          have notSecond : ¬ (side = .bid ∧ price = 101) := here
          simp only [twoBidsSize, second, Nat.le_add_left, and_true, ← and_assoc, notSecond, false_and, if_false]

theorem two_bids_deep : DeepEnough twoBids 2 := by
  intro n side prices distinct positive
  have among : prices ⊆ [100, 101] := by
    intro price member
    have size := positive price member
    rw [two_bids_size, twoBidsSize] at size
    by_contra neither
    simp only [List.mem_cons, List.not_mem_nil, or_false, not_or] at neither
    rw [if_neg (by simp [neither.1]), if_neg (by simp [neither.2])] at size
    exact lt_irrefl 0 size
  exact (List.subperm_of_subset distinct among).length_le

def update (levels : List DepthLevel) (isSnapshot : Bool) (first last : Int) : OrderBookDelta where
  symbol := "BTCUSDT"
  provider := "binance"
  bids := levels
  asks := []
  isSnapshot := isSnapshot
  firstSequence := first
  lastSequence := last
  exchangeTs := 0
  localTs := 0

theorem changed_second (side : BookSide) (price : ℚ) :
    Changed twoBids 2 2 (side, price) ↔ side = .bid ∧ price = 101 := by
  constructor
  · rintro ⟨n, after, upTo, here⟩
    obtain rfl : n = 2 := Nat.le_antisymm upTo after
    obtain ⟨rfl, rfl⟩ := Prod.mk.inj here
    exact ⟨rfl, rfl⟩
  · rintro ⟨rfl, rfl⟩
    exact ⟨2, Nat.le_refl 2, Nat.le_refl 2, rfl⟩

theorem second_sent (least : Nat) : Sent twoBids least (update [⟨101, 2⟩] false 2 2) := by
  refine ⟨2, 2, rfl, rfl, by decide, Nat.le_refl 2, ?_, ?_⟩
  · rintro ⟨price, size⟩
    rw [changed_second, two_bids_size]
    simp only [update, List.mem_singleton, DepthLevel.mk.injEq, true_and]
    constructor
    · rintro ⟨rfl, rfl⟩
      exact ⟨rfl, by simp [twoBidsSize]⟩
    · rintro ⟨rfl, rfl⟩
      exact ⟨rfl, by simp [twoBidsSize]⟩
  · rintro ⟨price, size⟩
    rw [changed_second]
    simp [update]

theorem first_sent : Sent twoBids 1 (update [⟨100, 1⟩] true 0 1) := by
  refine ⟨1, Nat.le_refl 1, rfl, ?_, ?_⟩
  · rintro ⟨price, size⟩
    rw [Live, two_bids_size]
    simp only [update, List.mem_singleton, DepthLevel.mk.injEq, twoBidsSize, true_and, Nat.le_refl, and_true]
    constructor
    · rintro ⟨rfl, rfl⟩
      simp
    · rintro ⟨positive, same⟩
      by_cases here : price = 100
      · rw [if_pos here] at same
        exact ⟨here, same.symm⟩
      · rw [if_neg here, if_neg (by simp)] at same
        exact absurd positive (by simp [← same])
  · rintro ⟨price, size⟩
    rw [Live, two_bids_size]
    simp only [update, List.not_mem_nil, twoBidsSize, reduceCtorEq, false_and, if_false, false_iff]
    rintro ⟨positive, rfl⟩
    exact lt_irrefl 0 positive

theorem empty_sent : Sent twoBids 0 (update [] true 0 0) := by
  refine ⟨0, Nat.le_refl 0, rfl, ?_, ?_⟩
  · rintro ⟨price, size⟩
    simp only [update, List.not_mem_nil, Live, false_iff]
    rintro ⟨positive, same⟩
    exact lt_irrefl 0 (lt_of_lt_of_eq positive same.symm)
  · rintro ⟨price, size⟩
    simp only [update, List.not_mem_nil, Live, false_iff]
    rintro ⟨positive, same⟩
    exact lt_irrefl 0 (lt_of_lt_of_eq positive same.symm)

theorem replay_faithful_two_bids :
    Each receive (Faithful twoBids) { symbol := "BTCUSDT", provider := "binance", maxDepth := 2 }
      [update [⟨100, 1⟩] true 0 1, update [⟨101, 2⟩] false 2 2] := by
  refine replay_faithful twoBids "BTCUSDT" "binance" 2 two_bids_deep _ ?_
  intro delta member
  rcases List.mem_cons.mp member with rfl | later
  · exact first_sent
  · cases List.mem_singleton.mp later
    exact second_sent 1

-- A snapshot taken before the first update has the number that stands for
-- none, and the update lost after it goes unnoticed.
theorem empty_snapshot_misses :
    (∀ delta ∈ [update [] true 0 0, update [⟨101, 2⟩] false 2 2], Sent twoBids 0 delta) ∧
      ¬ Each receive (Faithful twoBids) { symbol := "BTCUSDT", provider := "binance", maxDepth := 2 }
        [update [] true 0 0, update [⟨101, 2⟩] false 2 2] := by
  constructor
  · intro delta member
    rcases List.mem_cons.mp member with rfl | later
    · exact empty_sent
    · cases List.mem_singleton.mp later
      exact second_sent 0
  · rintro ⟨-, faithful, -⟩
    obtain ⟨n, number, bids, -⟩ := faithful.published _ rfl
    obtain rfl : 2 = n := Int.ofNat.inj number
    have missed : Live twoBids 2 .bid ⟨100, 1⟩ := by
      rw [Live, two_bids_size]
      exact ⟨zero_lt_one, by simp [twoBidsSize]⟩
    exact absurd ((bids _).mpr missed) (by decide +kernel)

end QuantEngine.BookReplay
