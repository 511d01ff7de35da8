import QuantEngine.Library.Calendar
import QuantEngine.Library.Dict
import Mathlib.Data.List.Sort
import Mathlib.Data.Rat.Floor

set_option autoImplicit false

namespace QuantEngine

open Calendar (Moment)

structure DepthLevel where
  price : ℚ
  size : ℚ
  deriving DecidableEq

structure OrderBook where
  symbol : String
  provider : String
  bids : List DepthLevel
  asks : List DepthLevel
  sequence : Int := 0
  exchangeTs : Moment
  localTs : Moment
  deriving DecidableEq

-- A sequence number of zero means that the feed gives none.
structure OrderBookDelta where
  symbol : String
  provider : String
  bids : List DepthLevel
  asks : List DepthLevel
  isSnapshot : Bool := false
  firstSequence : Int := 0
  lastSequence : Int := 0
  exchangeTs : Moment
  localTs : Moment
  deriving DecidableEq

structure OrderBookEngine where
  symbol : String
  provider : String
  maxDepth : Nat := 200
  bids : Dict ℚ ℚ := .empty
  asks : Dict ℚ ℚ := .empty
  sequence : Int := 0
  synced : Bool := false
  exchangeTs : Option Moment := none
  localTs : Option Moment := none
  updatesApplied : Nat := 0

namespace OrderBookEngine

def descending (prices : List ℚ) : List ℚ := prices.insertionSort (fun a b => a ≥ b)

def ascending (prices : List ℚ) : List ℚ := prices.insertionSort (fun a b => a ≤ b)

def ofLevels (levels : List DepthLevel) : Dict ℚ ℚ :=
  Dict.empty.insertAll ((levels.filter (fun level => decide (level.size > 0))).map (fun level => (level.price, level.size)))

def applySide (side : Dict ℚ ℚ) (levels : List DepthLevel) : Dict ℚ ℚ :=
  levels.foldl (fun side level =>
    if level.size ≤ 0 then side.erase level.price else side.insert level.price level.size) side

def trimSide (order : List ℚ → List ℚ) (maxDepth : Nat) (side : Dict ℚ ℚ) : Dict ℚ ℚ :=
  if side.size > maxDepth then ((order side.keys).drop maxDepth).foldl (fun side price => side.erase price) side
  else side

def trim (engine : OrderBookEngine) : OrderBookEngine :=
  { engine with
    bids := trimSide descending engine.maxDepth engine.bids
    asks := trimSide ascending engine.maxDepth engine.asks }

def hasGap (engine : OrderBookEngine) (delta : OrderBookDelta) : Bool :=
  if delta.firstSequence = 0 ∨ engine.sequence = 0 then false
  else decide (delta.firstSequence > engine.sequence + 1)

def sideLevels (order : List ℚ → List ℚ) (side : Dict ℚ ℚ) : List DepthLevel :=
  (order side.keys).map (fun price => ⟨price, (side.lookup price).getD 0⟩)

def snapshot (engine : OrderBookEngine) : Option OrderBook :=
  match engine.synced, engine.exchangeTs, engine.localTs with
  | true, some exchangeTs, some localTs =>
      some {
        symbol := engine.symbol
        provider := engine.provider
        bids := sideLevels descending engine.bids
        asks := sideLevels ascending engine.asks
        sequence := engine.sequence
        exchangeTs := exchangeTs
        localTs := localTs }
  | _, _, _ => none

def stamp (engine : OrderBookEngine) (delta : OrderBookDelta) : OrderBookEngine :=
  { engine with
    exchangeTs := some delta.exchangeTs
    localTs := some delta.localTs
    updatesApplied := engine.updatesApplied + 1 }

def publish (engine : OrderBookEngine) : Option OrderBook × OrderBookEngine := (engine.snapshot, engine)

-- A delta that has been seen is ignored; one that leaves a hole takes the book
-- out of use until the next snapshot.
def apply (engine : OrderBookEngine) (delta : OrderBookDelta) : Option OrderBook × OrderBookEngine :=
  if delta.isSnapshot then
    (({ engine with
        bids := ofLevels delta.bids
        asks := ofLevels delta.asks
        sequence := delta.lastSequence
        synced := true }.stamp delta).trim).publish
  else if !engine.synced then (none, engine)
  else if engine.hasGap delta then (none, { engine with synced := false })
  else if 0 < delta.lastSequence ∧ delta.lastSequence ≤ engine.sequence then (none, engine)
  else
    (({ engine with
        bids := applySide engine.bids delta.bids
        asks := applySide engine.asks delta.asks
        sequence := if delta.lastSequence = 0 then engine.sequence else delta.lastSequence }.stamp delta).trim).publish

end OrderBookEngine

structure OrderBookManager where
  maxDepth : Nat := 200
  engines : Dict String OrderBookEngine := .empty

namespace OrderBookManager

def engine (manager : OrderBookManager) (symbol provider : String) : OrderBookEngine × OrderBookManager :=
  match manager.engines.lookup symbol with
  | some engine => (engine, manager)
  | none =>
      let engine : OrderBookEngine := { symbol := symbol, provider := provider, maxDepth := manager.maxDepth }
      (engine, { manager with engines := manager.engines.insert symbol engine })

def apply (manager : OrderBookManager) (delta : OrderBookDelta) : (Option OrderBook × Bool) × OrderBookManager :=
  let found := manager.engine delta.symbol delta.provider
  let applied := found.1.apply delta
  ((applied.1, found.1.synced && !applied.2.synced),
    { found.2 with engines := found.2.engines.insert delta.symbol applied.2 })

end OrderBookManager

namespace OrderBookEngine

def lastSize : List DepthLevel → ℚ → Option ℚ
  | [], _ => none
  | level :: rest, price => (lastSize rest price).or (if level.price = price then some level.size else none)

theorem last_size_mem (levels : List DepthLevel) (price size : ℚ) (found : lastSize levels price = some size) :
    ⟨price, size⟩ ∈ levels := by
  induction levels with
  | nil => cases found
  | cons level rest ih =>
      rw [lastSize] at found
      rcases Option.or_eq_some_iff.mp found with later | ⟨-, here⟩
      · exact List.mem_cons_of_mem _ (ih later)
      · split at here
        · rename_i same
          cases here
          subst same
          exact List.mem_cons_self
        · cases here

def live (size : ℚ) : Option ℚ := if size ≤ 0 then none else some size

theorem apply_side_lookup (side : Dict ℚ ℚ) (levels : List DepthLevel) (price : ℚ) :
    (applySide side levels).lookup price = match lastSize levels price with
      | some size => live size
      | none => side.lookup price := by
  induction levels generalizing side with
  | nil => rfl
  | cons level rest ih =>
      refine (ih (if level.size ≤ 0 then side.erase level.price else side.insert level.price level.size)).trans ?_
      rw [lastSize]
      cases lastSize rest price with
      | some size => rfl
      | none =>
          by_cases here : level.price = price
          · subst here
            simp only [if_true, Option.none_or, live]
            by_cases gone : level.size ≤ 0
            · rw [if_pos gone, if_pos gone, Dict.lookup_erase, if_pos rfl]
            · rw [if_neg gone, if_neg gone, Dict.lookup_insert, if_pos rfl]
          · simp only [here, if_false, Option.none_or]
            by_cases gone : level.size ≤ 0
            · rw [if_pos gone, Dict.lookup_erase, if_neg (Ne.symm here)]
            · rw [if_neg gone, Dict.lookup_insert, if_neg (Ne.symm here)]

theorem of_levels_apply (levels : List DepthLevel) :
    ofLevels levels = applySide .empty (levels.filter (fun level => decide (level.size > 0))) := by
  have inserts (kept : List DepthLevel) (positive : ∀ level ∈ kept, 0 < level.size) (side : Dict ℚ ℚ) :
      side.insertAll (kept.map (fun level => (level.price, level.size))) = applySide side kept := by
    induction kept generalizing side with
    | nil => rfl
    | cons level rest ih =>
        have here := positive level List.mem_cons_self
        refine (ih (fun other member => positive other (List.mem_cons_of_mem _ member)) _).trans ?_
        rw [applySide, applySide, List.foldl_cons, if_neg (not_le.mpr here)]
  exact inserts _ (fun level member => of_decide_eq_true (List.mem_filter.mp member).2) .empty

theorem erase_all_lookup (side : Dict ℚ ℚ) (prices : List ℚ) (price : ℚ) :
    (prices.foldl (fun side price => side.erase price) side).lookup price =
      if price ∈ prices then none else side.lookup price := by
  induction prices generalizing side with
  | nil => simp
  | cons first rest ih =>
      rw [List.foldl_cons, ih, Dict.lookup_erase]
      by_cases later : price ∈ rest
      · simp [later]
      · by_cases here : price = first
        · simp [here]
        · simp [later, here]

structure Orders (order : List ℚ → List ℚ) (place : ℚ → ℚ) : Prop where
  perm : ∀ prices, (order prices).Perm prices
  sorted : ∀ prices, prices.Nodup → (order prices).Pairwise (fun a b => place a < place b)

theorem descending_orders : Orders descending (fun price => -price) where
  perm prices := List.perm_insertionSort _ prices
  sorted prices nodup := by
    have ordered := List.pairwise_insertionSort (fun a b : ℚ => a ≥ b) prices
    have apart : (descending prices).Nodup := (List.perm_insertionSort _ prices).nodup_iff.mpr nodup
    refine (ordered.and apart).imp ?_
    rintro a b ⟨above, different⟩
    exact neg_lt_neg (lt_of_le_of_ne above (Ne.symm different))

theorem ascending_orders : Orders ascending (fun price => price) where
  perm prices := List.perm_insertionSort _ prices
  sorted prices nodup := by
    have ordered := List.pairwise_insertionSort (fun a b : ℚ => a ≤ b) prices
    have apart : (ascending prices).Nodup := (List.perm_insertionSort _ prices).nodup_iff.mpr nodup
    refine (ordered.and apart).imp ?_
    rintro a b ⟨below, different⟩
    exact lt_of_le_of_ne below different

theorem mem_side_levels (order : List ℚ → List ℚ) (place : ℚ → ℚ) (orders : Orders order place) (side : Dict ℚ ℚ)
    (level : DepthLevel) : level ∈ sideLevels order side ↔ side.lookup level.price = some level.size := by
  rw [sideLevels, List.mem_map]
  constructor
  · rintro ⟨price, member, rfl⟩
    obtain ⟨size, found⟩ := Dict.lookup_of_mem_keys side price ((orders.perm side.keys).mem_iff.mp member)
    dsimp only
    rw [found]
    rfl
  · intro found
    refine ⟨level.price, (orders.perm side.keys).mem_iff.mpr (Dict.mem_keys_of_lookup _ _ _ found), ?_⟩
    rw [found]
    rfl

theorem side_levels_sorted (order : List ℚ → List ℚ) (place : ℚ → ℚ) (orders : Orders order place)
    (side : Dict ℚ ℚ) : (sideLevels order side).Pairwise (fun a b => place a.price < place b.price) :=
  List.pairwise_map.mpr (orders.sorted side.keys side.keys_nodup)

end OrderBookEngine

end QuantEngine
