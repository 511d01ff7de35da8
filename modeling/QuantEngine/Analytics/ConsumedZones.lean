import Mathlib.Tactic.FieldSimp
import Mathlib.Tactic.Linarith
import Mathlib.Tactic.Positivity
import QuantEngine.Analytics.SmartMoney

set_option autoImplicit false

namespace QuantEngine.Analytics

open Candles (MarketCandle)

-- What the longer series still reports the shorter one had, less filled.
structure GapsConsumed (candles more : List MarketCandle) (minSizeAtr value : ℚ) : Prop where
  reported : ∀ gap ∈ fairValueGaps (candles ++ more) minSizeAtr (some value), gap.index + 1 < candles.length →
    ∃ earlier ∈ fairValueGaps candles minSizeAtr (some value), earlier.index = gap.index ∧
      earlier.direction = gap.direction ∧ earlier.top = gap.top ∧ earlier.bottom = gap.bottom ∧
      earlier.filledPct ≤ gap.filledPct
  filled : ∀ index direction, index + 1 < candles.length →
    (∀ earlier ∈ fairValueGaps candles minSizeAtr (some value), ¬ (earlier.index = index ∧ earlier.direction = direction)) →
    ∀ gap ∈ fairValueGaps (candles ++ more) minSizeAtr (some value), ¬ (gap.index = index ∧ gap.direction = direction)

def BlocksConsumed (candles more : List MarketCandle) (displacementAtr value : ℚ) (useFullRange : Bool) (maxBlocks : Int) :
    Prop :=
  ∀ block ∈ orderBlocks candles displacementAtr useFullRange (some value) maxBlocks,
    ∀ later ∈ orderBlocks (candles ++ more) displacementAtr useFullRange (some value) maxBlocks, block.index = later.index →
      block.top = later.top ∧ block.bottom = later.bottom ∧ block.direction = later.direction ∧
        (block.mitigated = true → later.mitigated = true) ∧ (block.breaker = true → later.breaker = true)

theorem fold_min_le (values : List ℚ) (first : ℚ) : values.foldl min first ≤ first := by
  induction values generalizing first with
  | nil => exact le_refl first
  | cons value rest ih => exact (ih (min first value)).trans (min_le_left first value)

theorem le_fold_max (values : List ℚ) (first : ℚ) : first ≤ values.foldl max first := by
  induction values generalizing first with
  | nil => exact le_refl first
  | cons value rest ih => exact (le_max_left first value).trans (ih (max first value))

theorem min_of_append (values more : List ℚ) (default : ℚ) (some : values ≠ []) :
    minOf (values ++ more) default ≤ minOf values default := by
  cases values with
  | nil => exact absurd rfl some
  | cons first rest =>
      simp only [List.cons_append, minOf, List.foldl_append]
      exact fold_min_le more _

theorem max_of_append (values more : List ℚ) (default : ℚ) (some : values ≠ []) :
    maxOf values default ≤ maxOf (values ++ more) default := by
  cases values with
  | nil => exact absurd rfl some
  | cons first rest =>
      simp only [List.cons_append, maxOf, List.foldl_append]
      exact le_fold_max more _

theorem clamped_mono (a b : ℚ) (ordered : a ≤ b) : max 0 (min 1 a) ≤ max 0 (min 1 b) :=
  max_le_max (le_refl 0) (min_le_min (le_refl 1) ordered)

theorem clamped_le_one (a : ℚ) : max 0 (min 1 a) ≤ 1 := max_le zero_le_one (min_le_left 1 a)

theorem bullish_filled_nonneg (top bottom : ℚ) (after : List MarketCandle) : 0 ≤ bullishFilled top bottom after := by
  simp only [bullishFilled]
  split
  · exact zero_le_one
  · exact le_max_left 0 _

theorem bearish_filled_nonneg (top bottom : ℚ) (after : List MarketCandle) : 0 ≤ bearishFilled top bottom after := by
  simp only [bearishFilled]
  split
  · exact zero_le_one
  · exact le_max_left 0 _

-- With no candle after it a gap is not filled at all.
theorem bullish_filled_mono (top bottom : ℚ) (wide : bottom < top) (after more : List MarketCandle) :
    bullishFilled top bottom after ≤ bullishFilled top bottom (after ++ more) := by
  cases after with
  | nil =>
      have untouched : bullishFilled top bottom [] = 0 := by
        simp [bullishFilled, minOf, not_le.mpr wide, max_eq_left wide.le]
      rw [untouched]
      exact bullish_filled_nonneg top bottom _
  | cons candle rest =>
      have deeper := min_of_append ((candle :: rest).map MarketCandle.low) (more.map MarketCandle.low) top (by simp)
      rw [← List.map_append] at deeper
      simp only [bullishFilled]
      split
      next reached => rw [if_pos (deeper.trans reached)]
      next short =>
        split
        · exact clamped_le_one _
        · refine clamped_mono _ _ ((div_le_div_iff_of_pos_right (sub_pos.mpr wide)).mpr ?_)
          exact sub_le_sub_left (max_le_max deeper (le_refl bottom)) top

theorem bearish_filled_mono (top bottom : ℚ) (wide : bottom < top) (after more : List MarketCandle) :
    bearishFilled top bottom after ≤ bearishFilled top bottom (after ++ more) := by
  cases after with
  | nil =>
      have untouched : bearishFilled top bottom [] = 0 := by
        simp [bearishFilled, maxOf, not_le.mpr wide, min_eq_left wide.le]
      rw [untouched]
      exact bearish_filled_nonneg top bottom _
  | cons candle rest =>
      have higher := max_of_append ((candle :: rest).map MarketCandle.high) (more.map MarketCandle.high) bottom (by simp)
      rw [← List.map_append] at higher
      simp only [bearishFilled]
      split
      next reached => rw [if_pos (reached.trans higher)]
      next short =>
        split
        · exact clamped_le_one _
        · refine clamped_mono _ _ ((div_le_div_iff_of_pos_right (sub_pos.mpr wide)).mpr ?_)
          exact sub_le_sub_right (min_le_min higher (le_refl top)) bottom

-- The same gap, less filled.
structure Earlier (earlier gap : FairValueGap) : Prop where
  index : earlier.index = gap.index
  direction : earlier.direction = gap.direction
  top : earlier.top = gap.top
  bottom : earlier.bottom = gap.bottom
  filledPct : earlier.filledPct ≤ gap.filledPct

theorem open_gap_earlier (index : Nat) (direction : Bias) (top bottom filled more : ℚ) (less : filled ≤ more)
    (gap : FairValueGap) (member : gap ∈ openGap index direction top bottom more) :
    ∃ earlier ∈ openGap index direction top bottom filled, Earlier earlier gap := by
  rw [openGap] at member
  split at member
  next opened =>
    rw [List.mem_singleton.mp member, openGap, if_pos (less.trans_lt opened)]
    exact ⟨_, List.mem_singleton_self _, rfl, rfl, rfl, rfl, less⟩
  next => cases member

theorem gaps_at_earlier (minSize : ℚ) (index : Nat) (prev nxt : MarketCandle) (after more : List MarketCandle)
    (gap : FairValueGap) (member : gap ∈ gapsAt minSize index prev nxt (after ++ more)) :
    ∃ earlier ∈ gapsAt minSize index prev nxt after, Earlier earlier gap := by
  rcases List.mem_append.mp member with up | down
  · split at up
    next formed =>
      obtain ⟨earlier, there, same⟩ := open_gap_earlier index .bullish _ _ _ _
        (bullish_filled_mono nxt.low prev.high formed.1 after more) gap up
      exact ⟨earlier, List.mem_append_left _ (by rwa [if_pos formed]), same⟩
    next => cases up
  · split at down
    next formed =>
      obtain ⟨earlier, there, same⟩ := open_gap_earlier index .bearish _ _ _ _
        (bearish_filled_mono prev.low nxt.high formed.1 after more) gap down
      exact ⟨earlier, List.mem_append_right _ (by rwa [if_pos formed]), same⟩
    next => cases down

theorem gaps_at_index (minSize : ℚ) (index : Nat) (prev nxt : MarketCandle) (after : List MarketCandle)
    (gap : FairValueGap) (member : gap ∈ gapsAt minSize index prev nxt after) : gap.index = index := by
  simp only [gapsAt, openGap, List.mem_append] at member
  grind

theorem gaps_from_index (minSize : ℚ) (index : Nat) (candles : List MarketCandle) (gap : FairValueGap)
    (member : gap ∈ gapsFrom minSize index candles) : index ≤ gap.index := by
  fun_induction gapsFrom minSize index candles with
  | case1 index prev middle nxt rest ih =>
      rcases List.mem_append.mp member with here | later
      · exact (gaps_at_index minSize index prev nxt rest gap here).ge
      · exact Nat.le_of_succ_le (ih later)
  | case2 => cases member

theorem gaps_from_earlier (minSize : ℚ) (index : Nat) (candles more : List MarketCandle) (gap : FairValueGap)
    (member : gap ∈ gapsFrom minSize index (candles ++ more)) (formed : gap.index + 3 ≤ index + candles.length) :
    ∃ earlier ∈ gapsFrom minSize index candles, Earlier earlier gap := by
  have reached := gaps_from_index minSize index _ gap member
  induction candles generalizing index with
  | nil =>
      rw [List.length_nil] at formed
      omega
  | cons prev rest ih =>
      match rest with
      | [] | [_] =>
          simp only [List.length_cons, List.length_nil] at formed
          omega
      | middle :: nxt :: after =>
          rcases List.mem_append.mp member with here | later
          · obtain ⟨earlier, there, same⟩ := gaps_at_earlier minSize index prev nxt after more gap here
            exact ⟨earlier, List.mem_append_left _ there, same⟩
          · rw [List.length_cons] at formed
            obtain ⟨earlier, there, same⟩ := ih (index + 1) later (by omega) (gaps_from_index minSize _ _ gap later)
            exact ⟨earlier, List.mem_append_right _ there, same⟩

theorem mem_fair_value_gaps (candles : List MarketCandle) (minSizeAtr value : ℚ) (gap : FairValueGap) :
    gap ∈ fairValueGaps candles minSizeAtr (some value) ↔ 0 < value ∧ 3 ≤ candles.length ∧
      gap ∈ gapsFrom (minSizeAtr * value) 1 candles := by
  by_cases positive : 0 < value
  · by_cases short : candles.length < 3
    · simp [fairValueGaps, usable_some candles value positive, short]
    · simp [fairValueGaps, usable_some candles value positive, positive, short, Nat.le_of_not_lt short]
  · simp [fairValueGaps, usable_none candles value positive, positive]

theorem gap_reported_before (candles more : List MarketCandle) (minSizeAtr value : ℚ) (gap : FairValueGap)
    (member : gap ∈ fairValueGaps (candles ++ more) minSizeAtr (some value)) (formed : gap.index + 1 < candles.length) :
    ∃ earlier ∈ fairValueGaps candles minSizeAtr (some value), Earlier earlier gap := by
  obtain ⟨positive, -, within⟩ := (mem_fair_value_gaps _ _ _ _).mp member
  have first := gaps_from_index _ 1 _ gap within
  obtain ⟨earlier, there, same⟩ := gaps_from_earlier _ 1 candles more gap within (by omega)
  exact ⟨earlier, (mem_fair_value_gaps _ _ _ _).mpr ⟨positive, by omega, there⟩, same⟩

theorem blocks_from_index (displacement : ℚ) (useFullRange : Bool) (index : Nat) (candles : List MarketCandle)
    (block : OrderBlockZone) (member : block ∈ blocksFrom displacement useFullRange index candles) : index ≤ block.index := by
  fun_induction blocksFrom displacement useFullRange index candles with
  | case1 index candle nxt rest ih =>
      rcases List.mem_append.mp member with here | later
      · obtain ⟨direction, -, rfl⟩ := Option.map_eq_some_iff.mp (Option.mem_toList.mp here)
        exact Nat.le_refl index
      · exact Nat.le_of_succ_le (ih later)
  | case2 => cases member

-- The same block, no fresher.
structure Later (block later : OrderBlockZone) : Prop where
  top : block.top = later.top
  bottom : block.bottom = later.bottom
  direction : block.direction = later.direction
  mitigated : block.mitigated = true → later.mitigated = true
  breaker : block.breaker = true → later.breaker = true

theorem any_append_of_any (p : MarketCandle → Bool) (after more : List MarketCandle) (seen : after.any p = true) :
    (after ++ more).any p = true := by
  rw [List.any_append, seen, Bool.true_or]

theorem block_at_later (index : Nat) (direction : Bias) (zone : ℚ × ℚ) (after more : List MarketCandle) :
    Later (blockAt index direction zone after) (blockAt index direction zone (after ++ more)) := by
  refine ⟨rfl, rfl, rfl, any_append_of_any _ after more, ?_⟩
  cases direction with
  | bullish => exact any_append_of_any _ after more
  | bearish => exact any_append_of_any _ after more

theorem blocks_from_later (displacement : ℚ) (useFullRange : Bool) (index : Nat) (candles more : List MarketCandle)
    (block later : OrderBlockZone) (member : block ∈ blocksFrom displacement useFullRange index candles)
    (longer : later ∈ blocksFrom displacement useFullRange index (candles ++ more)) (same : block.index = later.index) :
    Later block later := by
  fun_induction blocksFrom displacement useFullRange index candles with
  | case1 index candle nxt rest ih =>
      rcases List.mem_append.mp member with here | onward
      · obtain ⟨direction, found, rfl⟩ := Option.map_eq_some_iff.mp (Option.mem_toList.mp here)
        rcases List.mem_append.mp longer with there | beyond
        · obtain ⟨other, again, rfl⟩ := Option.map_eq_some_iff.mp (Option.mem_toList.mp there)
          cases found.symm.trans again
          exact block_at_later index direction _ rest more
        · have after := blocks_from_index displacement useFullRange _ _ later beyond
          exact absurd same (Nat.ne_of_lt after)
      · have after := blocks_from_index displacement useFullRange _ _ block onward
        rcases List.mem_append.mp longer with there | beyond
        · obtain ⟨other, -, rfl⟩ := Option.map_eq_some_iff.mp (Option.mem_toList.mp there)
          exact absurd same (Nat.ne_of_gt after)
        · exact ih onward beyond
  | case2 => cases member

theorem mem_order_blocks (candles : List MarketCandle) (displacementAtr value : ℚ) (useFullRange : Bool) (maxBlocks : Int)
    (block : OrderBlockZone)
    (member : block ∈ orderBlocks candles displacementAtr useFullRange (some value) maxBlocks) :
    block ∈ blocksFrom (displacementAtr * value) useFullRange 0 candles := by
  by_cases positive : 0 < value
  · rw [orderBlocks, usable_some candles value positive] at member
    dsimp only at member
    split at member
    · cases member
    · exact (Slices.last_sublist maxBlocks _).subset member
  · rw [orderBlocks, usable_none candles value positive] at member
    cases member

theorem zones_only_consumed (candles more : List MarketCandle) (minSizeAtr value : ℚ) :
    GapsConsumed candles more minSizeAtr value ∧
      ∀ displacementAtr useFullRange maxBlocks, BlocksConsumed candles more displacementAtr value useFullRange maxBlocks := by
  refine ⟨⟨fun gap member formed => ?_, fun index direction formed unreported gap member => ?_⟩, ?_⟩
  · obtain ⟨earlier, there, same⟩ := gap_reported_before candles more minSizeAtr value gap member formed
    exact ⟨earlier, there, same.index, same.direction, same.top, same.bottom, same.filledPct⟩
  · rintro ⟨rfl, rfl⟩
    obtain ⟨earlier, there, same⟩ := gap_reported_before candles more minSizeAtr value gap member formed
    exact unreported earlier there ⟨same.index, same.direction⟩
  · intro displacementAtr useFullRange maxBlocks block member later longer same
    obtain ⟨top, bottom, direction, mitigated, breaker⟩ := blocks_from_later _ useFullRange 0 candles more block later
      (mem_order_blocks candles _ _ _ _ block member) (mem_order_blocks _ _ _ _ _ later longer) same
    exact ⟨top, bottom, direction, mitigated, breaker⟩

end QuantEngine.Analytics
