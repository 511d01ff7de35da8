import QuantEngine.Library.Ranking
import QuantEngine.Library.Run
import QuantEngine.Market.OrderBook

set_option autoImplicit false

namespace QuantEngine.DepthTrim

open OrderBookEngine
open Ranking (best rank)
open Run (Each)

def applyUntrimmed (engine : OrderBookEngine) (delta : OrderBookDelta) : Option OrderBook × OrderBookEngine :=
  if delta.isSnapshot then
    ({ engine with
        bids := ofLevels delta.bids
        asks := ofLevels delta.asks
        sequence := delta.lastSequence
        synced := true }.stamp delta).publish
  else if !engine.synced then (none, engine)
  else if engine.hasGap delta then (none, { engine with synced := false })
  else if 0 < delta.lastSequence ∧ delta.lastSequence ≤ engine.sequence then (none, engine)
  else
    ({ engine with
        bids := applySide engine.bids delta.bids
        asks := applySide engine.asks delta.asks
        sequence := if delta.lastSequence = 0 then engine.sequence else delta.lastSequence }.stamp delta).publish

structure Twin where
  bounded : OrderBookEngine
  full : OrderBookEngine

def Twin.receive (twin : Twin) (delta : OrderBookDelta) : Twin where
  bounded := (twin.bounded.apply delta).2
  full := (applyUntrimmed twin.full delta).2

def fresh (symbol provider : String) (maxDepth : Nat) : Twin where
  bounded := { symbol := symbol, provider := provider, maxDepth := maxDepth }
  full := { symbol := symbol, provider := provider }

-- Both publish, and what the bounded engine publishes are the best levels of
-- what the other does.
def SameView (twin : Twin) (delta : OrderBookDelta) : Prop :=
  ∃ visible whole, (twin.bounded.apply delta).1 = some visible ∧ (applyUntrimmed twin.full delta).1 = some whole ∧
    visible.bids = whole.bids.take twin.bounded.maxDepth ∧ visible.asks = whole.asks.take twin.bounded.maxDepth

def Consecutive : Int → List OrderBookDelta → Prop
  | _, [] => True
  | seen, delta :: rest => delta.isSnapshot = false ∧ delta.firstSequence = seen + 1 ∧
      delta.firstSequence ≤ delta.lastSequence ∧ Consecutive delta.lastSequence rest

def prices (side : Dict ℚ ℚ) : Finset ℚ := side.keys.toFinset

-- The prices that the kept levels which a delta does not mention and the ones
-- that it sets have.
def remaining (bounded : Dict ℚ ℚ) (levels : List DepthLevel) : Finset ℚ :=
  (bounded.keys.filter (fun price => decide (lastSize levels price = none)) ++
    (levels.map DepthLevel.price).filter
      (fun price => (lastSize levels price).any (fun size => decide (0 < size)))).toFinset

-- Every level that was trimmed and that the delta does not mention still has
-- enough better ones among those that remain.
def SideCovered (place : ℚ → ℚ) (maxDepth : Nat) (full bounded : Dict ℚ ℚ) (levels : List DepthLevel) : Prop :=
  ∀ price ∈ full.keys, price ∉ bounded.keys → lastSize levels price = none →
    maxDepth ≤ rank place (remaining bounded levels) price

def Covered (twin : Twin) (delta : OrderBookDelta) : Prop :=
  SideCovered (fun price => -price) twin.bounded.maxDepth twin.full.bids twin.bounded.bids delta.bids ∧
    SideCovered (fun price => price) twin.bounded.maxDepth twin.full.asks twin.bounded.asks delta.asks

def Cut (place : ℚ → ℚ) (maxDepth : Nat) (full bounded : Dict ℚ ℚ) : Prop :=
  ∀ price, bounded.lookup price = if price ∈ best place maxDepth (prices full) then full.lookup price else none

theorem sorted_ext (place : ℚ → ℚ) (a b : List DepthLevel)
    (left : a.Pairwise (fun x y => place x.price < place y.price))
    (right : b.Pairwise (fun x y => place x.price < place y.price)) (same : ∀ level, level ∈ a ↔ level ∈ b) :
    a = b := by
  have distinct (l : List DepthLevel) (sorted : l.Pairwise (fun x y => place x.price < place y.price)) : l.Nodup := by
    refine sorted.imp ?_
    intro x y below equal
    rw [equal] at below
    exact lt_irrefl _ below
  refine List.Perm.eq_of_pairwise ?_ left right ((List.perm_ext_iff_of_nodup (distinct a left) (distinct b right)).mpr same)
  exact fun x y _ _ below above => absurd below (lt_asymm above)

section

variable {order : List ℚ → List ℚ} {place : ℚ → ℚ} (orders : Orders order place) (maxDepth : Nat)

theorem mem_prices (side : Dict ℚ ℚ) (price : ℚ) : price ∈ prices side ↔ ∃ size, side.lookup price = some size := by
  rw [prices, List.mem_toFinset]
  exact ⟨Dict.lookup_of_mem_keys side price, fun ⟨size, found⟩ => Dict.mem_keys_of_lookup side price size found⟩

theorem applied_prices (bounded : Dict ℚ ℚ) (levels : List DepthLevel) :
    prices (applySide bounded levels) = remaining bounded levels := by
  ext price
  have named (size : ℚ) (found : lastSize levels price = some size) : price ∈ levels.map DepthLevel.price :=
    List.mem_map.mpr ⟨_, last_size_mem levels price size found, rfl⟩
  rw [mem_prices, apply_side_lookup, remaining, List.mem_toFinset, List.mem_append, List.mem_filter, List.mem_filter]
  cases mentioned : lastSize levels price with
  | none =>
      simp only [decide_true, and_true, Option.any_none, Bool.false_eq_true, and_false, or_false]
      exact (mem_prices bounded price).symm.trans List.mem_toFinset
  | some size =>
      simp only [reduceCtorEq, decide_false, Bool.false_eq_true, and_false, false_or, Option.any_some,
        decide_eq_true_eq, named size mentioned, true_and, live]
      split
      · rename_i gone
        simp only [reduceCtorEq, exists_false, not_lt.mpr gone]
      · rename_i here
        exact iff_of_true ⟨size, rfl⟩ (not_le.mp here)

include orders

theorem mem_take_best (side : Dict ℚ ℚ) (price : ℚ) :
    price ∈ (order side.keys).take maxDepth ↔ price ∈ best place maxDepth (prices side) := by
  have sameSet : (order side.keys).toFinset = prices side := List.toFinset_eq_of_perm _ _ (orders.perm side.keys)
  rw [← sameSet]
  exact Ranking.mem_take_iff place maxDepth _ (orders.sorted side.keys side.keys_nodup) price

theorem mem_drop_worse (side : Dict ℚ ℚ) (price : ℚ) (present : price ∈ side.keys) :
    price ∈ (order side.keys).drop maxDepth ↔ price ∉ best place maxDepth (prices side) := by
  rw [← mem_take_best orders]
  have parts : ((order side.keys).take maxDepth ++ (order side.keys).drop maxDepth).Nodup := by
    rw [List.take_append_drop]
    exact (orders.perm side.keys).nodup_iff.mpr side.keys_nodup
  have member : price ∈ (order side.keys).take maxDepth ++ (order side.keys).drop maxDepth := by
    rw [List.take_append_drop]
    exact (orders.perm side.keys).mem_iff.mpr present
  constructor
  · exact fun worse better => (List.nodup_append.mp parts).2.2 price better price worse rfl
  · intro notBetter
    cases List.mem_append.mp member with
    | inl better => exact absurd better notBetter
    | inr worse => exact worse

theorem trim_cut (side : Dict ℚ ℚ) : Cut place maxDepth side (trimSide order maxDepth side) := by
  intro price
  by_cases present : price ∈ side.keys
  · rw [trimSide]
    by_cases long : side.size > maxDepth
    · rw [if_pos long, erase_all_lookup]
      have worse := mem_drop_worse orders maxDepth side price present
      by_cases kept : price ∈ best place maxDepth (prices side)
      · rw [if_neg (fun dropped => worse.mp dropped kept), if_pos kept]
      · rw [if_pos (worse.mpr kept), if_neg kept]
    · have short : (order side.keys).length ≤ maxDepth := by
        rw [(orders.perm side.keys).length_eq, Dict.keys, List.length_map]
        exact Nat.not_lt.mp long
      have kept : price ∈ best place maxDepth (prices side) := by
        rw [← mem_take_best orders, List.take_of_length_le short]
        exact (orders.perm side.keys).mem_iff.mpr present
      rw [if_neg long, if_pos kept]
  · have absent : side.lookup price = none := (Dict.lookup_none_iff side price).mpr present
    have gone : (trimSide order maxDepth side).lookup price = none := by
      rw [trimSide]
      split
      · rw [erase_all_lookup, absent]
        split <;> rfl
      · exact absent
    rw [gone, absent]
    split <;> rfl

theorem mem_take_levels (side : Dict ℚ ℚ) (level : DepthLevel) :
    level ∈ (sideLevels order side).take maxDepth ↔
      level.price ∈ best place maxDepth (prices side) ∧ side.lookup level.price = some level.size := by
  rw [← mem_take_best orders, sideLevels, ← List.map_take, List.mem_map]
  constructor
  · rintro ⟨price, member, rfl⟩
    refine ⟨member, ?_⟩
    obtain ⟨size, found⟩ := (mem_prices side price).mp
      ((Ranking.mem_best place maxDepth _ price).mp ((mem_take_best orders maxDepth side price).mp member)).1
    dsimp only
    rw [found]
    rfl
  · rintro ⟨member, found⟩
    refine ⟨level.price, member, ?_⟩
    rw [found]
    rfl

theorem view_iff_cut (full bounded : Dict ℚ ℚ) :
    sideLevels order bounded = (sideLevels order full).take maxDepth ↔ Cut place maxDepth full bounded := by
  have held (level : DepthLevel) := mem_side_levels order place orders bounded level
  have shown (level : DepthLevel) := mem_take_levels orders maxDepth full level
  constructor
  · intro same price
    have both (size : ℚ) : bounded.lookup price = some size ↔
        price ∈ best place maxDepth (prices full) ∧ full.lookup price = some size := by
      rw [← held ⟨price, size⟩, same]
      exact shown ⟨price, size⟩
    apply Option.ext
    intro size
    rw [both size]
    by_cases kept : price ∈ best place maxDepth (prices full)
    · rw [if_pos kept]
      exact ⟨And.right, fun found => ⟨kept, found⟩⟩
    · rw [if_neg kept]
      exact ⟨fun here => absurd here.1 kept, fun none => by cases none⟩
  · intro cut
    refine sorted_ext place _ _ (side_levels_sorted order place orders bounded)
      ((side_levels_sorted order place orders full).sublist (List.take_sublist _ _)) ?_
    intro level
    rw [held level, shown level, cut level.price]
    by_cases kept : level.price ∈ best place maxDepth (prices full)
    · rw [if_pos kept]
      exact ⟨fun found => ⟨kept, found⟩, And.right⟩
    · rw [if_neg kept]
      exact ⟨fun nothing => (by cases nothing), fun here => absurd here.1 kept⟩

omit orders

theorem cut_lookup (full bounded : Dict ℚ ℚ) (cut : Cut place maxDepth full bounded) (price : ℚ)
    (held : price ∈ bounded.keys) : full.lookup price = bounded.lookup price := by
  obtain ⟨size, found⟩ := Dict.lookup_of_mem_keys bounded price held
  have shown := cut price
  rw [found] at shown
  split at shown
  · rw [found, shown]
  · cases shown

theorem applied_agrees (full bounded : Dict ℚ ℚ) (levels : List DepthLevel) (cut : Cut place maxDepth full bounded)
    (price : ℚ) (held : price ∈ prices (applySide bounded levels)) :
    (applySide full levels).lookup price = (applySide bounded levels).lookup price := by
  obtain ⟨size, found⟩ := (mem_prices _ price).mp held
  rw [apply_side_lookup] at found
  rw [apply_side_lookup, apply_side_lookup]
  cases mentioned : lastSize levels price with
  | some last => rfl
  | none =>
      rw [mentioned] at found
      exact cut_lookup maxDepth full bounded cut price (Dict.mem_keys_of_lookup _ _ _ found)

theorem lost_iff (full bounded : Dict ℚ ℚ) (levels : List DepthLevel) (price : ℚ) :
    price ∈ prices (applySide full levels) \ prices (applySide bounded levels) ↔
      price ∈ full.keys ∧ price ∉ bounded.keys ∧ lastSize levels price = none := by
  rw [Finset.mem_sdiff, mem_prices, mem_prices, apply_side_lookup, apply_side_lookup]
  cases mentioned : lastSize levels price with
  | some last =>
      simp only [reduceCtorEq, and_false, iff_false]
      exact fun both => both.2 both.1
  | none =>
      simp only [and_true]
      rw [← mem_prices, ← mem_prices, prices, prices, List.mem_toFinset, List.mem_toFinset]

theorem cut_same_best (part whole trimmed : Dict ℚ ℚ) (cut : Cut place maxDepth part trimmed)
    (agree : ∀ price ∈ prices part, whole.lookup price = part.lookup price) :
    Cut place maxDepth whole trimmed ↔ best place maxDepth (prices part) = best place maxDepth (prices whole) := by
  constructor
  · intro cutWhole
    ext price
    have same := (cut price).symm.trans (cutWhole price)
    constructor
    · intro kept
      rw [if_pos kept] at same
      obtain ⟨size, found⟩ := (mem_prices part price).mp ((Ranking.mem_best _ _ _ _).mp kept).1
      by_contra gone
      rw [if_neg gone, found] at same
      cases same
    · intro kept
      rw [if_pos kept] at same
      obtain ⟨size, found⟩ := (mem_prices whole price).mp ((Ranking.mem_best _ _ _ _).mp kept).1
      by_contra gone
      rw [if_neg gone, found] at same
      cases same
  · intro same price
    rw [cut price, same]
    by_cases kept : price ∈ best place maxDepth (prices whole)
    · have inPart : price ∈ prices part := ((Ranking.mem_best _ _ _ _).mp (same ▸ kept)).1
      rw [if_pos kept, if_pos kept, agree price inPart]
    · rw [if_neg kept, if_neg kept]

include orders

-- One delta: what is kept of the trimmed side are the best levels of the whole
-- one exactly where no trimmed level comes back into view.
theorem step_cut_iff (full bounded : Dict ℚ ℚ) (levels : List DepthLevel) (cut : Cut place maxDepth full bounded) :
    Cut place maxDepth (applySide full levels) (trimSide order maxDepth (applySide bounded levels)) ↔
      SideCovered place maxDepth full bounded levels := by
  have agree := applied_agrees maxDepth full bounded levels cut
  have lost := lost_iff full bounded levels
  have within : prices (applySide bounded levels) ⊆ prices (applySide full levels) := by
    intro price member
    obtain ⟨size, found⟩ := (mem_prices _ price).mp member
    exact (mem_prices _ price).mpr ⟨size, (agree price member).trans found⟩
  rw [cut_same_best maxDepth _ _ _ (trim_cut orders maxDepth _) agree,
    Ranking.best_part_iff place maxDepth _ _ within, SideCovered, ← applied_prices]
  constructor
  · exact fun far price here absent unmentioned => far price ((lost price).mpr ⟨here, absent, unmentioned⟩)
  · intro covered price member
    obtain ⟨here, absent, unmentioned⟩ := (lost price).mp member
    exact covered price here absent unmentioned

end

structure Inv (seen : Int) (twin : Twin) : Prop where
  boundedSynced : twin.bounded.synced = true
  fullSynced : twin.full.synced = true
  boundedSeen : twin.bounded.sequence = seen
  fullSeen : twin.full.sequence = seen
  bids : Cut (fun price => -price) twin.bounded.maxDepth twin.full.bids twin.bounded.bids
  asks : Cut (fun price => price) twin.bounded.maxDepth twin.full.asks twin.bounded.asks

theorem same_view_iff (twin : Twin) (delta : OrderBookDelta) (visible whole : OrderBookEngine)
    (trims : twin.bounded.apply delta = ((visible.stamp delta).trim).publish)
    (keeps : applyUntrimmed twin.full delta = (whole.stamp delta).publish)
    (visibleSynced : visible.synced = true) (wholeSynced : whole.synced = true) :
    SameView twin delta ↔
      Cut (fun price => -price) twin.bounded.maxDepth whole.bids (trimSide descending visible.maxDepth visible.bids) ∧
        Cut (fun price => price) twin.bounded.maxDepth whole.asks (trimSide ascending visible.maxDepth visible.asks) := by
  have shown : (twin.bounded.apply delta).1 = some {
      symbol := visible.symbol
      provider := visible.provider
      bids := sideLevels descending (trimSide descending visible.maxDepth visible.bids)
      asks := sideLevels ascending (trimSide ascending visible.maxDepth visible.asks)
      sequence := visible.sequence
      exchangeTs := delta.exchangeTs
      localTs := delta.localTs } := by
    rw [trims, publish, snapshot, show (visible.stamp delta).trim.synced = true from visibleSynced]
    rfl
  have kept : (applyUntrimmed twin.full delta).1 = some {
      symbol := whole.symbol
      provider := whole.provider
      bids := sideLevels descending whole.bids
      asks := sideLevels ascending whole.asks
      sequence := whole.sequence
      exchangeTs := delta.exchangeTs
      localTs := delta.localTs } := by
    rw [keeps, publish, snapshot, show (whole.stamp delta).synced = true from wholeSynced]
    rfl
  rw [← view_iff_cut descending_orders, ← view_iff_cut ascending_orders]
  constructor
  · rintro ⟨a, b, left, right, bids, asks⟩
    cases Option.some.inj (left.symm.trans shown)
    cases Option.some.inj (right.symm.trans kept)
    exact ⟨bids, asks⟩
  · rintro ⟨bids, asks⟩
    exact ⟨_, _, shown, kept, bids, asks⟩

def applied (engine : OrderBookEngine) (delta : OrderBookDelta) : OrderBookEngine :=
  { engine with
    bids := applySide engine.bids delta.bids
    asks := applySide engine.asks delta.asks
    sequence := if delta.lastSequence = 0 then engine.sequence else delta.lastSequence }

theorem consecutive_applies (engine : OrderBookEngine) (delta : OrderBookDelta) (seen : Int) (started : 0 ≤ seen)
    (synced : engine.synced = true) (number : engine.sequence = seen) (increment : delta.isSnapshot = false)
    (next : delta.firstSequence = seen + 1) (ordered : delta.firstSequence ≤ delta.lastSequence) :
    engine.apply delta = (((applied engine delta).stamp delta).trim).publish ∧
      applyUntrimmed engine delta = ((applied engine delta).stamp delta).publish ∧
      (applied engine delta).sequence = delta.lastSequence := by
  have gap : engine.hasGap delta = false := by
    rw [hasGap]
    split
    · rfl
    · exact decide_eq_false (by omega)
  have fresh : ¬ (0 < delta.lastSequence ∧ delta.lastSequence ≤ engine.sequence) := by omega
  refine ⟨?_, ?_, ?_⟩
  · rw [apply, if_neg (by simp [increment]), if_neg (by simp [synced]), if_neg (by simp [gap]), if_neg fresh]
    rfl
  · rw [applyUntrimmed, if_neg (by simp [increment]), if_neg (by simp [synced]), if_neg (by simp [gap]), if_neg fresh]
    rfl
  · rw [applied]
    dsimp only
    rw [if_neg (by omega)]

theorem delta_iff (twin : Twin) (delta : OrderBookDelta) (seen : Int) (started : 0 ≤ seen) (inv : Inv seen twin)
    (increment : delta.isSnapshot = false) (next : delta.firstSequence = seen + 1)
    (ordered : delta.firstSequence ≤ delta.lastSequence) :
    (SameView twin delta ↔ Covered twin delta) ∧ (Covered twin delta → Inv delta.lastSequence (twin.receive delta)) := by
  obtain ⟨trims, -, visibleSeen⟩ := consecutive_applies twin.bounded delta seen started inv.boundedSynced
    inv.boundedSeen increment next ordered
  obtain ⟨-, keeps, wholeSeen⟩ := consecutive_applies twin.full delta seen started inv.fullSynced inv.fullSeen
    increment next ordered
  have bids := step_cut_iff descending_orders twin.bounded.maxDepth twin.full.bids twin.bounded.bids delta.bids inv.bids
  have asks := step_cut_iff ascending_orders twin.bounded.maxDepth twin.full.asks twin.bounded.asks delta.asks inv.asks
  constructor
  · rw [same_view_iff twin delta _ _ trims keeps inv.boundedSynced inv.fullSynced]
    exact and_congr bids asks
  · intro covered
    rw [Twin.receive, trims, keeps]
    exact ⟨inv.boundedSynced, inv.fullSynced, visibleSeen, wholeSeen, bids.mpr covered.1, asks.mpr covered.2⟩

theorem deltas_iff (twin : Twin) (deltas : List OrderBookDelta) (seen : Int) (started : 0 ≤ seen) (inv : Inv seen twin)
    (consecutive : Consecutive seen deltas) :
    Each Twin.receive SameView twin deltas ↔ Each Twin.receive Covered twin deltas := by
  induction deltas generalizing twin seen with
  | nil => exact Iff.rfl
  | cons delta rest ih =>
      obtain ⟨increment, next, ordered, later⟩ := consecutive
      obtain ⟨same, keeps⟩ := delta_iff twin delta seen started inv increment next ordered
      have rest' (covered : Covered twin delta) :=
        ih (twin.receive delta) delta.lastSequence (by omega) (keeps covered) later
      constructor
      · rintro ⟨view, views⟩
        have covered := same.mp view
        exact ⟨covered, (rest' covered).mp views⟩
      · rintro ⟨covered, all⟩
        exact ⟨same.mpr covered, (rest' covered).mpr all⟩

theorem snapshot_view (symbol provider : String) (maxDepth : Nat) (snapshot : OrderBookDelta)
    (whole : snapshot.isSnapshot = true) :
    SameView (fresh symbol provider maxDepth) snapshot ∧
      Inv snapshot.lastSequence ((fresh symbol provider maxDepth).receive snapshot) := by
  let loaded (engine : OrderBookEngine) : OrderBookEngine :=
    { engine with
      bids := ofLevels snapshot.bids
      asks := ofLevels snapshot.asks
      sequence := snapshot.lastSequence
      synced := true }
  let twin := fresh symbol provider maxDepth
  have trims : twin.bounded.apply snapshot = (((loaded twin.bounded).stamp snapshot).trim).publish := by
    rw [apply, if_pos whole]
  have keeps : applyUntrimmed twin.full snapshot = ((loaded twin.full).stamp snapshot).publish := by
    rw [applyUntrimmed, if_pos whole]
  have bids := trim_cut descending_orders maxDepth (ofLevels snapshot.bids)
  have asks := trim_cut ascending_orders maxDepth (ofLevels snapshot.asks)
  refine ⟨(same_view_iff twin snapshot _ _ trims keeps rfl rfl).mpr ⟨bids, asks⟩, ?_⟩
  rw [Twin.receive, trims, keeps]
  exact ⟨rfl, rfl, rfl, rfl, bids, asks⟩

-- The bounded engine shows the best levels of the other after a snapshot and
-- the deltas that follow it exactly where no trimmed level comes back into
-- view.
theorem trimmed_view_iff (symbol provider : String) (maxDepth : Nat) (snapshot : OrderBookDelta)
    (deltas : List OrderBookDelta) (whole : snapshot.isSnapshot = true) (numbered : 0 ≤ snapshot.lastSequence)
    (consecutive : Consecutive snapshot.lastSequence deltas) :
    Each Twin.receive SameView (fresh symbol provider maxDepth) (snapshot :: deltas) ↔
      Each Twin.receive Covered ((fresh symbol provider maxDepth).receive snapshot) deltas := by
  obtain ⟨view, inv⟩ := snapshot_view symbol provider maxDepth snapshot whole
  have later := deltas_iff _ deltas snapshot.lastSequence numbered inv consecutive
  exact ⟨fun views => later.mp views.2, fun covered => ⟨view, later.mpr covered⟩⟩

def update (isSnapshot : Bool) (first last : Int) (bids : List DepthLevel) : OrderBookDelta where
  symbol := "BTCUSDT"
  provider := "binance"
  bids := bids
  asks := []
  isSnapshot := isSnapshot
  firstSequence := first
  lastSequence := last
  exchangeTs := 0
  localTs := 0

def threeBids : OrderBookDelta := update true 0 10 [⟨100, 1⟩, ⟨99, 1⟩, ⟨98, 1⟩]

def bestLeaves : OrderBookDelta := update false 11 11 [⟨100, 0⟩, ⟨97, 1⟩]

theorem trimmed_view_iff_best_leaves :
    Each Twin.receive SameView (fresh "BTCUSDT" "binance" 3) (threeBids :: [bestLeaves]) ↔
      Each Twin.receive Covered ((fresh "BTCUSDT" "binance" 3).receive threeBids) [bestLeaves] :=
  trimmed_view_iff "BTCUSDT" "binance" 3 threeBids [bestLeaves] rfl (by decide) ⟨rfl, rfl, by decide, trivial⟩

-- With one level a side the book shows 97 as its best bid where 99 and 98 are
-- still live.
theorem trimmed_bids_lost :
    ¬ Each Twin.receive SameView (fresh "BTCUSDT" "binance" 1) [threeBids, bestLeaves] := by
  rintro ⟨-, ⟨visible, whole, shown, kept, bids, -⟩, -⟩
  have left := congrArg (Option.map OrderBook.bids) shown
  have right := congrArg (Option.map OrderBook.bids) kept
  rw [show Option.map OrderBook.bids _ = some [⟨97, 1⟩] by decide +kernel] at left
  rw [show Option.map OrderBook.bids _ = some [⟨99, 1⟩, ⟨98, 1⟩, ⟨97, 1⟩] by decide +kernel] at right
  rw [← Option.some.inj left, ← Option.some.inj right] at bids
  exact absurd bids (by decide +kernel)

end QuantEngine.DepthTrim
