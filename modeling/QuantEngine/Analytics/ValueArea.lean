import Mathlib.Algebra.BigOperators.Ring.List
import Mathlib.Tactic.FieldSimp
import Mathlib.Tactic.Linarith
import Mathlib.Tactic.Positivity
import Mathlib.Tactic.Ring
import QuantEngine.Analytics.VolumeProfile

set_option autoImplicit false

namespace QuantEngine.Analytics.VolumeProfile

open Candles (MarketCandle)

-- The volume of the bins from `lo` to `hi`.
def between (volumes : List ℚ) (lo hi : Nat) : ℚ := ((List.range' lo (hi + 1 - lo)).map (volumeAt volumes)).sum

-- The area is the run of bins from `lo` to `hi`, with the one of the POC in it.
structure Run (volumes : List ℚ) (area : Area) : Prop where
  before : area.lo ≤ pocIndex volumes
  after : pocIndex volumes ≤ area.hi
  inside : area.hi < volumes.length
  members : ∀ i, i ∈ area.included ↔ area.lo ≤ i ∧ i ≤ area.hi
  least : area.included.foldl min (pocIndex volumes) = area.lo
  greatest : area.included.foldl max (pocIndex volumes) = area.hi
  volume : area.volume = between volumes area.lo area.hi

-- No high lies strictly less than a hair above an edge.
def ClearHighs (scale : Scale) (candles : List MarketCandle) : Prop :=
  ∀ candle ∈ candles, ∀ i : Nat, ¬ (scale.edge i < candle.high ∧ candle.high < scale.edge i + hair * scale.step)

section

variable (scale : Scale) (candle : MarketCandle) (wide : 0 < scale.step) (filled : 0 < scale.bins)

theorem edge_succ (i : Nat) : scale.edge (i + 1) = scale.edge i + scale.step := by
  rw [Scale.edge, Scale.edge]
  push_cast
  ring

theorem clamp_bin_le (x : ℚ) (nonneg : 0 ≤ x) : (scale.clampBin x : ℚ) ≤ x := by
  have floor : Decimal.truncate x = ⌊x⌋ := if_pos nonneg
  have below : ((scale.clampBin x : Nat) : Int) ≤ ⌊x⌋ := by
    have positive := Int.floor_nonneg.mpr nonneg
    rw [Scale.clampBin, floor]
    omega
  calc ((scale.clampBin x : Nat) : ℚ) = (((scale.clampBin x : Nat) : Int) : ℚ) := by push_cast; rfl
    _ ≤ (⌊x⌋ : ℚ) := by exact_mod_cast below
    _ ≤ x := Int.floor_le x

include filled

theorem clamp_bin_lt (x : ℚ) : scale.clampBin x < scale.bins := by
  rw [Scale.clampBin]
  omega

-- Short of the last bin, the next edge is past the number.
theorem lt_clamp_bin (x : ℚ) (early : scale.clampBin x + 1 < scale.bins) : x < scale.clampBin x + 1 := by
  rw [Scale.clampBin] at early ⊢
  by_cases nonneg : 0 ≤ x
  · have floor : Decimal.truncate x = ⌊x⌋ := if_pos nonneg
    have positive := Int.floor_nonneg.mpr nonneg
    rw [floor] at early ⊢
    have exact_ : ((min ((scale.bins : Int) - 1) (max 0 ⌊x⌋)).toNat : Int) = ⌊x⌋ := by omega
    have cast : (((min ((scale.bins : Int) - 1) (max 0 ⌊x⌋)).toNat : Nat) : ℚ) = (⌊x⌋ : ℚ) := by exact_mod_cast exact_
    rw [cast]
    exact Int.lt_floor_add_one x
  · have place : (0 : ℚ) ≤ ((min ((scale.bins : Int) - 1) (max 0 (Decimal.truncate x))).toNat : Nat) := Nat.cast_nonneg _
    linarith

include wide

omit filled in
theorem first_edge (above : scale.low ≤ candle.low) : scale.edge (scale.first candle) ≤ candle.low := by
  have place := clamp_bin_le scale ((candle.low - scale.low) / scale.step)
    (div_nonneg (sub_nonneg.mpr above) wide.le)
  rw [le_div_iff₀ wide] at place
  rw [Scale.edge, Scale.first]
  linarith

theorem last_edge (below : candle.high ≤ scale.edge scale.bins) (clear : ∀ i : Nat,
    ¬ (scale.edge i < candle.high ∧ candle.high < scale.edge i + hair * scale.step)) :
    candle.high ≤ scale.edge (scale.last candle + 1) := by
  by_cases early : scale.last candle + 1 < scale.bins
  · have place := lt_clamp_bin scale filled _ early
    rw [sub_lt_iff_lt_add, div_lt_iff₀ wide] at place
    by_contra beyond
    refine clear (scale.last candle + 1) ⟨not_le.mp beyond, ?_⟩
    rw [Scale.edge, Scale.last]
    push_cast
    linarith
  · have last : scale.last candle + 1 = scale.bins := by
      have inside := clamp_bin_lt scale filled ((candle.high - scale.low) / scale.step - hair)
      rw [Scale.last] at early ⊢
      omega
    rwa [last]

end

structure Fits (scale : Scale) (candle : MarketCandle) : Prop where
  ordered : candle.low ≤ candle.high
  volume : 0 ≤ candle.volume
  above : scale.low ≤ candle.low
  below : candle.high ≤ scale.edge scale.bins
  clear : ∀ i : Nat, ¬ (scale.edge i < candle.high ∧ candle.high < scale.edge i + hair * scale.step)

section

variable (scale : Scale) (candle : MarketCandle) (wide : 0 < scale.step) (filled : 0 < scale.bins) (fits : Fits scale candle)

include wide in
theorem edge_mono : Monotone scale.edge := by
  refine monotone_nat_of_le_succ (fun i => ?_)
  rw [edge_succ]
  linarith

theorem share_amount (places : List Nat) :
    ((places.filterMap (scale.share candle)).map Prod.snd).sum =
      candle.volume / (candle.high - candle.low) *
        (places.map (fun i => max 0 (min candle.high (scale.edge (i + 1)) - max candle.low (scale.edge i)))).sum := by
  induction places with
  | nil => simp
  | cons i rest ih =>
      rw [List.map_cons, List.sum_cons, mul_add, ← ih, List.filterMap_cons, edge_succ]
      by_cases shared : 0 < min candle.high (scale.edge i + scale.step) - max candle.low (scale.edge i)
      · have here : scale.share candle i = some (i, candle.volume *
            ((min candle.high (scale.edge i + scale.step) - max candle.low (scale.edge i)) / (candle.high - candle.low))) :=
          if_pos shared
        rw [here, List.map_cons, List.sum_cons, max_eq_right shared.le]
        ring
      · have here : scale.share candle i = none := if_neg shared
        rw [here, max_eq_left (not_lt.mp shared), mul_zero, zero_add]

theorem share_bounds (bound : ∀ i ∈ List.range' (scale.first candle) (scale.last candle + 1 - scale.first candle),
      i < scale.bins) (volume : 0 ≤ candle.volume) (span : 0 < candle.high - candle.low) (entry : Nat × ℚ)
    (member : entry ∈ (List.range' (scale.first candle) (scale.last candle + 1 - scale.first candle)).filterMap
      (scale.share candle)) : entry.1 < scale.bins ∧ 0 ≤ entry.2 := by
  obtain ⟨i, place, shared⟩ := List.mem_filterMap.mp member
  rw [Scale.share] at shared
  split at shared
  next positive =>
    rw [← Option.some.inj shared]
    exact ⟨bound i place, mul_nonneg volume (div_nonneg positive.le span.le)⟩
  next => cases shared

include wide filled fits

-- The shares of a candle lie in the bins and make up its volume.
theorem shares_sound : (∀ entry ∈ scale.shares candle, entry.1 < scale.bins ∧ 0 ≤ entry.2) ∧
    ((scale.shares candle).map Prod.snd).sum = candle.volume := by
  have first := clamp_bin_lt scale filled ((candle.low - scale.low) / scale.step)
  have last := clamp_bin_lt scale filled ((candle.high - scale.low) / scale.step - hair)
  rw [Scale.shares]
  by_cases idle : candle.volume ≤ 0
  · rw [if_pos idle]
    exact ⟨fun entry member => (List.not_mem_nil member).elim, le_antisymm fits.volume idle⟩
  · rw [if_neg idle]
    by_cases flat : candle.high - candle.low ≤ 0
    · rw [if_pos flat]
      refine ⟨fun entry member => ?_, by simp⟩
      rw [List.mem_singleton.mp member]
      exact ⟨first, fits.volume⟩
    · rw [if_neg flat]
      by_cases single : scale.first candle = scale.last candle
      · rw [if_pos single]
        refine ⟨fun entry member => ?_, by simp⟩
        rw [List.mem_singleton.mp member]
        exact ⟨last, fits.volume⟩
      · rw [if_neg single]
        have span := not_le.mp flat
        have low := first_edge scale candle wide fits.above
        have high := last_edge scale candle wide filled fits.below fits.clear
        have mono := edge_mono scale wide
        have upward : scale.first candle ≤ scale.last candle + 1 := by
          by_contra beyond
          have edges := mono (Nat.le_of_lt (not_le.mp beyond))
          linarith
        refine ⟨share_bounds scale candle (fun i place => ?_) fits.volume span, ?_⟩
        · have bound := (List.mem_range'_1.mp place).2
          rw [Scale.last] at bound
          rw [Scale.first] at bound upward
          omega
        · rw [share_amount scale candle, Scatter.overlap_sum _ _ fits.ordered _ mono, Nat.add_sub_cancel' upward,
            Scatter.clamp_above _ _ _ fits.ordered high, Scatter.clamp_below _ _ _ fits.ordered low,
            div_mul_cancel₀ _ span.ne']

end

theorem bin_volumes_sound (scale : Scale) (wide : 0 < scale.step) (filled : 0 < scale.bins) (candles : List MarketCandle)
    (fits : ∀ candle ∈ candles, Fits scale candle) :
    (binVolumes scale candles).length = scale.bins ∧ (∀ volume ∈ binVolumes scale candles, 0 ≤ volume) ∧
      (binVolumes scale candles).sum = (candles.map MarketCandle.volume).sum := by
  have pass (candles : List MarketCandle) (fits : ∀ candle ∈ candles, Fits scale candle) (volumes : List ℚ)
      (length : volumes.length = scale.bins) (nonneg : ∀ volume ∈ volumes, 0 ≤ volume) :
      let after := candles.foldl (fun volumes candle => Scatter.scatter volumes (scale.shares candle)) volumes
      after.length = scale.bins ∧ (∀ volume ∈ after, 0 ≤ volume) ∧
        after.sum = volumes.sum + (candles.map MarketCandle.volume).sum := by
    induction candles generalizing volumes with
    | nil => exact ⟨length, nonneg, by simp⟩
    | cons candle rest ih =>
        obtain ⟨inside, total⟩ := shares_sound scale candle wide filled (fits candle List.mem_cons_self)
        obtain ⟨long, positive, sum⟩ := ih (fun other member => fits other (List.mem_cons_of_mem _ member))
          (Scatter.scatter volumes (scale.shares candle)) ((Scatter.scatter_length _ _).trans length)
          (Scatter.scatter_nonneg _ _ (fun entry member => (inside entry member).2) nonneg)
        refine ⟨long, positive, ?_⟩
        rw [Scatter.scatter_sum _ _ (fun entry member => length ▸ (inside entry member).1), total] at sum
        rw [List.foldl_cons, sum, List.map_cons, List.sum_cons, add_assoc]
  obtain ⟨long, positive, sum⟩ := pass candles fits (List.replicate scale.bins 0) List.length_replicate
    (fun volume member => (List.eq_of_mem_replicate member).ge)
  refine ⟨long, positive, ?_⟩
  rw [binVolumes, sum]
  simp

theorem volume_at_nonneg (volumes : List ℚ) (nonneg : ∀ volume ∈ volumes, 0 ≤ volume) (i : Nat) : 0 ≤ volumeAt volumes i := by
  rw [volumeAt, List.getD_eq_getElem?_getD]
  cases found : volumes[i]? with
  | none => exact le_refl 0
  | some volume => exact nonneg volume (List.mem_of_getElem? found)

theorem volume_at_map (volumes : List ℚ) : (List.range volumes.length).map (volumeAt volumes) = volumes := by
  refine List.ext_getElem (by rw [List.length_map, List.length_range]) (fun i _ inside => ?_)
  rw [List.getElem_map, List.getElem_range, volumeAt, List.getD_eq_getElem?_getD, List.getElem?_eq_getElem inside,
    Option.getD_some]

theorem between_all (volumes : List ℚ) (filled : 0 < volumes.length) : between volumes 0 (volumes.length - 1) = volumes.sum := by
  rw [between, Nat.sub_zero, Nat.sub_add_cancel filled, ← List.range_eq_range', volume_at_map]

theorem between_up (volumes : List ℚ) (lo hi : Nat) (ordered : lo ≤ hi) :
    between volumes lo (hi + 1) = between volumes lo hi + volumeAt volumes (hi + 1) := by
  rw [between, between, show hi + 1 + 1 - lo = hi + 1 - lo + 1 by omega, List.range'_1_concat, List.map_append, List.sum_append,
    show lo + (hi + 1 - lo) = hi + 1 by omega]
  simp

theorem between_down (volumes : List ℚ) (lo hi : Nat) (positive : 0 < lo) (ordered : lo ≤ hi) :
    between volumes (lo - 1) hi = between volumes lo hi + volumeAt volumes (lo - 1) := by
  rw [between, between, show hi + 1 - (lo - 1) = hi + 1 - lo + 1 by omega, List.range'_succ, List.map_cons, List.sum_cons,
    Nat.sub_add_cancel positive, add_comm]

theorem poc_lt (volumes : List ℚ) (filled : 0 < volumes.length) : pocIndex volumes < volumes.length := by
  have kept (places : List Nat) (best : Nat) (start : best < volumes.length) (inside : ∀ i ∈ places, i < volumes.length) :
      places.foldl (fun best i => if volumeAt volumes best < volumeAt volumes i then i else best) best < volumes.length := by
    induction places generalizing best with
    | nil => exact start
    | cons i rest ih =>
        refine ih _ ?_ (fun other member => inside other (List.mem_cons_of_mem _ member))
        dsimp only
        split
        · exact inside i List.mem_cons_self
        · exact start
  exact kept _ 0 filled (fun i member => List.mem_range.mp member)

-- No bin has more volume than the one of the POC.
theorem poc_greatest (volumes : List ℚ) (i : Nat) (inside : i < volumes.length) :
    volumeAt volumes i ≤ volumeAt volumes (pocIndex volumes) := by
  have kept (places : List Nat) (best : Nat) (j : Nat) (seen : j = best ∨ j ∈ places) :
      volumeAt volumes j ≤ volumeAt volumes
        (places.foldl (fun best i => if volumeAt volumes best < volumeAt volumes i then i else best) best) := by
    induction places generalizing best j with
    | nil => rw [seen.resolve_right List.not_mem_nil, List.foldl_nil]
    | cons k rest ih =>
        rw [List.foldl_cons]
        have start := ih (if volumeAt volumes best < volumeAt volumes k then k else best) _ (Or.inl rfl)
        have either : volumeAt volumes best ≤ volumeAt volumes (if volumeAt volumes best < volumeAt volumes k then k else best) ∧
            volumeAt volumes k ≤ volumeAt volumes (if volumeAt volumes best < volumeAt volumes k then k else best) := by
          split
          next more => exact ⟨more.le, le_refl _⟩
          next most => exact ⟨le_refl _, not_lt.mp most⟩
        rcases seen with rfl | member
        · exact either.1.trans start
        · rcases List.mem_cons.mp member with rfl | later
          · exact either.2.trans start
          · exact ih _ j (Or.inr later)
  exact kept _ 0 i (Or.inr (List.mem_range.mpr inside))

section

variable (volumes : List ℚ) (target : ℚ) (filled : 0 < volumes.length) (nonneg : ∀ volume ∈ volumes, 0 ≤ volume)

include filled in
theorem start_run : Run volumes (Area.start volumes) where
  before := Nat.le_refl _
  after := Nat.le_refl _
  inside := poc_lt volumes filled
  members i := by simp [Area.start, le_antisymm_iff, and_comm]
  least := by simp [Area.start]
  greatest := by simp [Area.start]
  volume := by simp [Area.start, between]

theorem up_run (area : Area) (run : Run volumes area) (room : area.hi < volumes.length - 1) : Run volumes (area.up volumes) where
  before := run.before
  after := Nat.le_succ_of_le run.after
  inside := by simp only [Area.up]; omega
  members i := by
    have ordered := run.before.trans run.after
    simp only [Area.up, List.mem_append, run.members, List.mem_singleton]
    omega
  least := by
    have ordered := run.before.trans run.after
    rw [Area.up, List.foldl_append, run.least]
    exact min_eq_left (by omega)
  greatest := by
    rw [Area.up, List.foldl_append, run.greatest]
    exact max_eq_right (Nat.le_succ _)
  volume := by rw [Area.up, run.volume, between_up volumes _ _ (run.before.trans run.after)]

theorem down_run (area : Area) (run : Run volumes area) (room : 0 < area.lo) : Run volumes (area.down volumes) where
  before := (Nat.sub_le _ _).trans run.before
  after := run.after
  inside := run.inside
  members i := by
    have ordered := run.before.trans run.after
    simp only [Area.down, List.mem_append, run.members, List.mem_singleton]
    omega
  least := by
    rw [Area.down, List.foldl_append, run.least]
    exact min_eq_right (Nat.sub_le _ _)
  greatest := by
    have ordered := run.before.trans run.after
    rw [Area.down, List.foldl_append, run.greatest]
    exact max_eq_left (by omega)
  volume := by rw [Area.down, run.volume, between_down volumes _ _ room (run.before.trans run.after)]

include nonneg

-- A pass takes in the bin above or the one below, and there is one.
theorem widen_run (area wider : Area) (run : Run volumes area) (widened : area.widen volumes target = some wider) :
    Run volumes wider ∧ wider.hi - wider.lo = area.hi - area.lo + 1 := by
  have ordered := run.before.trans run.after
  have below := volume_at_nonneg volumes nonneg (area.lo - 1)
  have above := volume_at_nonneg volumes nonneg (area.hi + 1)
  rw [Area.widen] at widened
  by_cases going : area.volume < target ∧ (0 < area.lo ∨ area.hi < volumes.length - 1)
  · rw [if_pos going] at widened
    by_cases upward : area.below volumes ≤ area.above volumes
    · rw [if_pos upward] at widened
      have room : area.hi < volumes.length - 1 := by
        by_contra full
        rw [Area.below, Area.above, if_pos (going.2.resolve_right full), if_neg full] at upward
        linarith
      rw [← Option.some.inj widened]
      refine ⟨up_run volumes area run room, ?_⟩
      simp only [Area.up]
      omega
    · rw [if_neg upward] at widened
      have room : 0 < area.lo := by
        by_contra bottom
        rw [Area.below, Area.above, if_neg bottom, if_pos (going.2.resolve_left bottom)] at upward
        linarith
      rw [← Option.some.inj widened]
      refine ⟨down_run volumes area run room, ?_⟩
      simp only [Area.down]
      omega
  · rw [if_neg going] at widened
    cases widened

theorem expand_run (passes : Nat) (area : Area) (run : Run volumes area) : Run volumes (area.expand volumes target passes) := by
  induction passes generalizing area with
  | zero => exact run
  | succ passes ih =>
      rw [Area.expand]
      split
      · exact run
      · rename_i wider widened
        exact ih wider (widen_run volumes target nonneg area wider run widened).1

-- As many passes as there are bins are enough.
theorem expand_ends (passes : Nat) (area : Area) (run : Run volumes area)
    (enough : volumes.length ≤ area.hi - area.lo + passes) :
    (area.expand volumes target passes).widen volumes target = none := by
  induction passes generalizing area with
  | zero =>
      have inside := run.inside
      omega
  | succ passes ih =>
      rw [Area.expand]
      split
      next stops => exact stops
      next wider widened =>
        obtain ⟨onward, longer⟩ := widen_run volumes target nonneg area wider run widened
        exact ih wider onward (by omega)

omit nonneg in
-- Where the loop ends the target is reached or no bin is left out.
theorem ended_volume (area : Area) (run : Run volumes area) (ended : area.widen volumes target = none)
    (reachable : target ≤ volumes.sum) : target ≤ area.volume := by
  by_contra short
  have inside := run.inside
  have stopped : ¬ (0 < area.lo ∨ area.hi < volumes.length - 1) := by
    intro more
    rw [Area.widen, if_pos ⟨not_le.mp short, more⟩] at ended
    split at ended
    · cases ended
    · cases ended
  have bottom : area.lo = 0 := by omega
  have top : area.hi = volumes.length - 1 := by omega
  refine short ?_
  rw [run.volume, bottom, top, between_all volumes (by omega)]
  exact reachable

end

theorem lowest_le (candles : List MarketCandle) (first candle : MarketCandle) (member : candle ∈ first :: candles) :
    lowest candles first ≤ candle.low := by
  rw [lowest]
  induction candles generalizing first candle with
  | nil => rw [List.mem_singleton.mp member, List.foldl_nil]
  | cons next rest ih =>
      have fold (least : ℚ) : rest.foldl (fun least candle => min least candle.low) least ≤ least := by
        have reached := ih { first with low := least } _ List.mem_cons_self
        exact reached
      rw [List.foldl_cons]
      rcases List.mem_cons.mp member with rfl | later
      · exact (fold _).trans (min_le_left _ _)
      · rcases List.mem_cons.mp later with rfl | inner
        · exact (fold _).trans (min_le_right _ _)
        · exact ih { first with low := min first.low next.low } candle (List.mem_cons_of_mem _ inner)

theorem le_highest (candles : List MarketCandle) (first candle : MarketCandle) (member : candle ∈ first :: candles) :
    candle.high ≤ highest candles first := by
  rw [highest]
  induction candles generalizing first candle with
  | nil => rw [List.mem_singleton.mp member, List.foldl_nil]
  | cons next rest ih =>
      have fold (most : ℚ) : most ≤ rest.foldl (fun most candle => max most candle.high) most := by
        have reached := ih { first with high := most } _ List.mem_cons_self
        exact reached
      rw [List.foldl_cons]
      rcases List.mem_cons.mp member with rfl | later
      · exact (le_max_left _ _).trans (fold _)
      · rcases List.mem_cons.mp later with rfl | inner
        · exact (le_max_right _ _).trans (fold _)
        · exact ih { first with high := max first.high next.high } candle (List.mem_cons_of_mem _ inner)

theorem of_fits (first : MarketCandle) (rest : List MarketCandle) (bins : Nat) (filled : 0 < bins)
    (ordered : ∀ candle ∈ first :: rest, candle.low ≤ candle.high) (volume : ∀ candle ∈ first :: rest, 0 ≤ candle.volume)
    (clear : ClearHighs (Scale.of first rest bins) (first :: rest)) :
    ∀ candle ∈ first :: rest, Fits (Scale.of first rest bins) candle := by
  intro candle member
  refine ⟨ordered candle member, volume candle member, lowest_le rest first candle member, ?_, clear candle member⟩
  have top : (Scale.of first rest bins).edge bins = highest rest first := by
    have positive : (bins : ℚ) ≠ 0 := Nat.cast_ne_zero.mpr filled.ne'
    simp only [Scale.edge, Scale.of]
    field_simp
    ring
  exact (le_highest rest first candle member).trans top.ge

-- Neighbouring bins of a profile that are its value area.
structure SoundArea (pct : ℚ) (profile : VolumeProfile) (run : List ProfileBin) : Prop where
  contiguous : run <:+: profile.bins
  bottom : run.head?.map ProfileBin.low = some profile.val
  top : run.getLast?.map ProfileBin.high = some profile.vah
  poc : ∃ bin ∈ run, bin.mid = profile.poc ∧ ∀ other ∈ profile.bins, other.volume ≤ bin.volume
  share : (run.map ProfileBin.volume).sum = profile.valueAreaPct * profile.totalVolume
  enough : pct * profile.totalVolume ≤ (run.map ProfileBin.volume).sum

-- What the profile of these candles is to satisfy.
structure SoundProfile (candles : List MarketCandle) (pct : ℚ) (profile : VolumeProfile) : Prop where
  conserved : (profile.bins.map ProfileBin.volume).sum = (candles.map MarketCandle.volume).sum
  total : profile.totalVolume = (candles.map MarketCandle.volume).sum
  nonneg : ∀ bin ∈ profile.bins, 0 ≤ bin.volume
  ordered : profile.val ≤ profile.poc ∧ profile.poc ≤ profile.vah
  area : ∃ run, SoundArea pct profile run
  included : Run (profile.bins.map ProfileBin.volume) (valueArea (profile.bins.map ProfileBin.volume) (pct * profile.totalVolume))
  ended : (valueArea (profile.bins.map ProfileBin.volume) (pct * profile.totalVolume)).widen
    (profile.bins.map ProfileBin.volume) (pct * profile.totalVolume) = none

section

variable (scale : Scale) (volumes : List ℚ) (long : volumes.length = scale.bins)

include long in
theorem report_volumes : ((List.range scale.bins).map (scale.bin volumes)).map ProfileBin.volume = volumes := by
  rw [List.map_map, ← long]
  exact volume_at_map volumes

theorem run_volumes (lo hi : Nat) :
    (((List.range' lo (hi + 1 - lo)).map (scale.bin volumes)).map ProfileBin.volume).sum = between volumes lo hi := by
  rw [List.map_map, between]
  rfl

-- The bins of an area lie side by side.
theorem run_inside (lo hi bins : Nat) (ordered : lo ≤ hi) (inside : hi < bins) :
    List.range' lo (hi + 1 - lo) <:+: List.range bins := by
  refine ⟨List.range' 0 lo, List.range' (hi + 1) (bins - (hi + 1)), ?_⟩
  have first : List.range' 0 lo ++ List.range' (0 + lo) (hi + 1 - lo) = List.range' 0 (lo + (hi + 1 - lo)) :=
    List.range'_append_1
  have second : List.range' 0 (hi + 1) ++ List.range' (0 + (hi + 1)) (bins - (hi + 1)) =
      List.range' 0 (hi + 1 + (bins - (hi + 1))) := List.range'_append_1
  rw [Nat.zero_add] at first second
  rw [first, Nat.add_sub_cancel' (Nat.le_succ_of_le ordered), second, Nat.add_sub_cancel' inside, List.range_eq_range']

theorem area_sound (pct ratio : ℚ) (area : Area) (found : valueArea volumes (pct * volumes.sum) = area)
    (run : Run volumes area) (inside : area.hi < scale.bins) (long : volumes.length = scale.bins) (positive : 0 < volumes.sum)
    (reached : pct * volumes.sum ≤ area.volume) :
    SoundArea pct (report scale volumes pct ratio) ((List.range' area.lo (area.hi + 1 - area.lo)).map (scale.bin volumes)) := by
  have ordered := run.before.trans run.after
  have some_place : area.hi + 1 - area.lo ≠ 0 := by omega
  refine ⟨(run_inside _ _ _ ordered inside).map _, ?_, ?_, ⟨scale.bin volumes (pocIndex volumes), ?_, rfl, ?_⟩, ?_, ?_⟩
  · rw [List.head?_map, List.head?_range', if_neg some_place, report, found, run.least]
    rfl
  · rw [List.getLast?_map, List.getLast?_range', if_neg some_place, report, found, run.greatest]
    have place : area.lo + (area.hi + 1 - area.lo) - 1 = area.hi := by omega
    simp [place]
  · refine List.mem_map_of_mem (List.mem_range'_1.mpr ⟨run.before, ?_⟩)
    have after := run.after
    omega
  · intro other member
    obtain ⟨i, place, rfl⟩ := List.mem_map.mp member
    exact poc_greatest volumes i (long ▸ List.mem_range.mp place)
  · rw [run_volumes, ← run.volume, report, found, div_mul_cancel₀ _ positive.ne']
  · rw [run_volumes, ← run.volume]
    exact reached

include long in
theorem report_sound (candles : List MarketCandle) (pct ratio : ℚ) (wide : 0 < scale.step) (filled : 0 < scale.bins)
    (nonneg : ∀ volume ∈ volumes, 0 ≤ volume) (conserved : volumes.sum = (candles.map MarketCandle.volume).sum)
    (positive : 0 < volumes.sum) (part : pct ≤ 1) : SoundProfile candles pct (report scale volumes pct ratio) := by
  have mono := edge_mono scale wide
  have some_bin : 0 < volumes.length := long ▸ filled
  have kept := report_volumes scale volumes long
  have run : Run volumes (valueArea volumes (pct * volumes.sum)) :=
    expand_run volumes _ nonneg _ _ (start_run volumes some_bin)
  have ended := expand_ends volumes (pct * volumes.sum) nonneg volumes.length _ (start_run volumes some_bin)
    (Nat.le_add_left _ _)
  have reached := ended_volume volumes _ _ run ended (mul_le_of_le_one_left positive.le part)
  have area := area_sound scale volumes pct ratio _ rfl run (long ▸ run.inside) long positive reached
  refine ⟨?_, conserved, ?_, ?_, ⟨_, area⟩, ?_, ?_⟩
  · rw [report, kept, conserved]
  · intro bin member
    obtain ⟨i, _, rfl⟩ := List.mem_map.mp member
    exact volume_at_nonneg volumes nonneg i
  · have low : (report scale volumes pct ratio).val = scale.edge (valueArea volumes (pct * volumes.sum)).lo :=
      congrArg scale.edge run.least
    have high : (report scale volumes pct ratio).vah = scale.edge ((valueArea volumes (pct * volumes.sum)).hi + 1) :=
      congrArg (fun place => scale.edge (place + 1)) run.greatest
    have poc : (report scale volumes pct ratio).poc =
        (scale.edge (pocIndex volumes) + scale.edge (pocIndex volumes + 1)) / 2 := rfl
    have least := mono run.before
    have most := mono (Nat.succ_le_succ run.after)
    have here := mono (Nat.le_succ (pocIndex volumes))
    rw [low, high, poc]
    constructor
    · linarith
    · linarith
  · rw [report, kept]
    exact run
  · rw [report, kept]
    exact ended

end

-- The profile of a window shares out its volume, and its value area is a run of bins around the POC.
theorem profile_sound (first : MarketCandle) (rest : List MarketCandle) (bins : Nat) (pct ratio : ℚ) (profile : VolumeProfile)
    (ordered : ∀ candle ∈ first :: rest, candle.low ≤ candle.high) (volume : ∀ candle ∈ first :: rest, 0 ≤ candle.volume)
    (part : pct ≤ 1) (clear : ClearHighs (Scale.of first rest bins) (first :: rest))
    (returned : volumeProfile (first :: rest) bins pct ratio = .ok (some profile)) :
    profile.bins.length = bins ∧ SoundProfile (first :: rest) pct profile := by
  rw [volumeProfile] at returned
  by_cases refused : bins ≤ 1 ∨ highest rest first ≤ lowest rest first
  · rw [if_pos refused] at returned
    cases returned
  · rw [if_neg refused] at returned
    dsimp only at returned
    obtain ⟨several, range⟩ := not_or.mp refused
    have filled : 0 < bins := by omega
    have wide : 0 < (Scale.of first rest bins).step :=
      div_pos (sub_pos.mpr (not_le.mp range)) (Nat.cast_pos.mpr filled)
    obtain ⟨long, nonneg, conserved⟩ := bin_volumes_sound (Scale.of first rest bins) wide filled (first :: rest)
      (of_fits first rest bins filled ordered volume clear)
    split at returned
    · cases returned
    · rename_i positive
      split at returned
      · cases returned
      · rw [← Option.some.inj (Except.ok.inj returned)]
        refine ⟨by rw [report, List.length_map, List.length_range]; rfl, ?_⟩
        exact report_sound _ _ long _ pct ratio wide filled nonneg conserved (not_le.mp positive) part

def traded (low high volume : ℚ) : MarketCandle :=
  ⟨"ES", "cme", .m1, 0, 60000000, low, high, low, high, volume, 0, 0, 0, 1, true, "provider", []⟩

theorem profile_sound_uneven : SoundProfile [traded 10 14 5, traded 10 11 3] (7 / 10)
    (report (Scale.of (traded 10 14 5) [traded 10 11 3] 2)
      (binVolumes (Scale.of (traded 10 14 5) [traded 10 11 3] 2) [traded 10 14 5, traded 10 11 3]) (7 / 10) (3 / 2)) := by
  have clear : ClearHighs (Scale.of (traded 10 14 5) [traded 10 11 3] 2) [traded 10 14 5, traded 10 11 3] := by
    intro candle member i near
    have edge : (Scale.of (traded 10 14 5) [traded 10 11 3] 2).edge i = 10 + i * 2 := by
      rw [Scale.edge]
      norm_num [Scale.of, lowest, highest, traded]
    have step : (Scale.of (traded 10 14 5) [traded 10 11 3] 2).step = 2 := by norm_num [Scale.of, lowest, highest, traded]
    rw [edge, step, hair] at near
    obtain ⟨above, below⟩ := near
    have high : candle.high = 14 ∨ candle.high = 11 := by
      rcases List.mem_cons.mp member with rfl | later
      · exact Or.inl rfl
      · rw [List.mem_singleton.mp later]
        exact Or.inr rfl
    rcases high with high | high
    · rw [high] at above below
      have early : i < 2 := by exact_mod_cast (show (i : ℚ) < 2 by linarith)
      have late : 1 < i := by exact_mod_cast (show (1 : ℚ) < i by linarith)
      omega
    · rw [high] at above below
      have early : i < 1 := by exact_mod_cast (show (i : ℚ) < 1 by linarith)
      have late : 0 < i := by exact_mod_cast (show (0 : ℚ) < i by linarith)
      omega
  exact (profile_sound (traded 10 14 5) [traded 10 11 3] 2 (7 / 10) (3 / 2) _ (by decide +kernel) (by decide +kernel) (by norm_num)
    clear (by decide +kernel)).2

end QuantEngine.Analytics.VolumeProfile
