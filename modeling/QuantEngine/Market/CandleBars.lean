import Mathlib.Algebra.Order.Field.Rat
import Mathlib.Tactic.Ring
import Mathlib.Tactic.FieldSimp
import Mathlib.Tactic.Linarith
import QuantEngine.Market.CandleTape

set_option autoImplicit false

namespace QuantEngine.CandleBars

open QuantEngine.Calendar QuantEngine.Timeframes QuantEngine.Candles QuantEngine.CandleTape QuantEngine.Merging

structure Bar where
  open_ : Rat
  high : Rat
  low : Rat
  close : Rat
  volume : Rat
  buyVolume : Rat
  sellVolume : Rat
  notional : Rat
  trades : Nat
deriving DecidableEq

-- Of two consecutive stretches: first open, max high, min low, last close,
-- summed volumes.
def Bar.merge (first second : Bar) : Bar where
  open_ := first.open_
  high := max first.high second.high
  low := min first.low second.low
  close := second.close
  volume := first.volume + second.volume
  buyVolume := first.buyVolume + second.buyVolume
  sellVolume := first.sellVolume + second.sellVolume
  notional := first.notional + second.notional
  trades := first.trades + second.trades

theorem merge_assoc (a b c : Bar) : Bar.merge (Bar.merge a b) c = Bar.merge a (Bar.merge b c) := by
  simp only [Bar.merge, max_assoc, min_assoc, add_assoc]

def Point.value (point : Point) : Rat := point.notional.getD (point.price * point.size)

def Point.sided (side : TradeSide) (point : Point) : Rat := if point.side = some side then point.size else 0

def Point.bar (point : Point) : Bar where
  open_ := point.price
  high := point.price
  low := point.price
  close := point.price
  volume := point.size
  buyVolume := Point.sided .buy point
  sellVolume := Point.sided .sell point
  notional := Point.value point
  trades := 1

def Building.bar (building : Building) : Bar where
  open_ := building.open_
  high := building.high
  low := building.low
  close := building.close
  volume := building.volume
  buyVolume := building.buyVolume
  sellVolume := building.sellVolume
  notional := building.notional
  trades := building.trades

def MarketCandle.bar (candle : MarketCandle) : Bar where
  open_ := candle.open_
  high := candle.high
  low := candle.low
  close := candle.close
  volume := candle.volume
  buyVolume := candle.buyVolume
  sellVolume := candle.sellVolume
  notional := candle.vwap * candle.volume
  trades := candle.trades

def Built (building : Building) : Prop :=
  combine Bar.merge (building.folded.map Point.bar) = some (Building.bar building)

theorem sided_add (side : TradeSide) (total : Rat) (point : Point) :
    (if point.side = some side then total + point.size else total) = total + Point.sided side point := by
  rw [Point.sided]
  split
  · rfl
  · exact (add_zero total).symm

theorem add_point_bar (building : Building) (point : Point) :
    Building.bar (building.addPoint point) = Bar.merge (Building.bar building) (Point.bar point) := by
  simp only [Building.bar, Building.addPoint, Bar.merge, Point.bar, Point.value, sided_add]

theorem built_open (frame : Frame) (point : Point) : Built ((openBuilding frame point).addPoint point) := by
  rw [Built]
  simp only [Building.bar, Building.addPoint, openBuilding, Point.bar, Point.value, Point.sided, List.nil_append,
    List.map_cons, List.map_nil, combine, List.foldl_nil, max_self, min_self, zero_add]

theorem built_add (building : Building) (built : Built building) (point : Point) : Built (building.addPoint point) := by
  rw [Built, add_point_bar, Building.addPoint, List.map_append]
  exact combine_snoc Bar.merge _ _ _ built

theorem built_nonempty (building : Building) (built : Built building) : building.folded ≠ [] := by
  intro empty
  rw [Built, empty] at built
  cases built

theorem add_cases (x : Series) (frame : Frame) (point : Point) :
    (∃ building, x.building = some building ∧ point.exchangeTs < building.end_ ∧
      x.add frame point = ⟨x.closed, some (building.addPoint point), x.points ++ [point]⟩) ∨
    ((∀ building, x.building = some building → building.end_ ≤ point.exchangeTs) ∧
      x.add frame point = ⟨x.closed ++ x.building.toList.map (fun building => building.freeze true),
        some ((openBuilding frame point).addPoint point), x.points ++ [point]⟩) := by
  rw [Series.add]
  cases found : x.building with
  | none =>
      exact Or.inr ⟨fun building same => absurd same.symm (Option.some_ne_none building), rfl⟩
  | some building =>
      by_cases past : building.end_ ≤ point.exchangeTs
      · refine Or.inr ⟨fun other same => Option.some.inj same ▸ past, ?_⟩
        simp [foldInto, past]
      · refine Or.inl ⟨building, rfl, lt_of_not_ge past, ?_⟩
        simp [foldInto, past]

theorem flush_cases (x : Series) (now : Moment) :
    x.flush now = x ∨ ∃ building, x.building = some building ∧ building.end_ ≤ now ∧
      x.flush now = ⟨x.closed ++ [building.freeze true], none, x.points⟩ := by
  rw [Series.flush]
  cases found : x.building with
  | none => exact Or.inl rfl
  | some building =>
      dsimp only
      by_cases past : building.end_ ≤ now
      · exact Or.inr ⟨building, rfl, past, if_pos past⟩
      · exact Or.inl (if_neg past)

def Sound (candle : MarketCandle) : Prop := ∃ building closed, candle = building.freeze closed ∧ Built building

theorem sound_high (candle : MarketCandle) (sound : Sound candle) (price : Rat) :
    price ≤ candle.high ↔ ∃ point ∈ candle.folded, price ≤ point.price := by
  obtain ⟨building, closed, rfl, built⟩ := sound
  have any := combine_any Bar.merge (fun bar => price ≤ bar.high) (fun _ _ => le_max_iff) _ _ built
  simp only [List.mem_map, exists_exists_and_eq_and] at any
  exact any

theorem sound_low (candle : MarketCandle) (sound : Sound candle) (price : Rat) :
    candle.low ≤ price ↔ ∃ point ∈ candle.folded, point.price ≤ price := by
  obtain ⟨building, closed, rfl, built⟩ := sound
  have any := combine_any Bar.merge (fun bar => bar.low ≤ price) (fun _ _ => min_le_iff) _ _ built
  simp only [List.mem_map, exists_exists_and_eq_and] at any
  exact any

theorem sound_nonempty (candle : MarketCandle) (sound : Sound candle) : candle.folded ≠ [] := by
  obtain ⟨building, closed, rfl, built⟩ := sound
  exact built_nonempty building built

structure Series.Told (x : Series) : Prop where
  closed : ∀ candle ∈ x.closed, Sound candle
  building : ∀ building, x.building = some building → Built building
  points : x.closed.flatMap MarketCandle.folded ++ (x.building.toList.flatMap Building.folded) = x.points

section

-- What every closed candle has, and the one in building once it is closed.
variable (x : Series) (P : MarketCandle → Prop) (closed : ∀ candle ∈ x.closed, P candle)
  (building : ∀ building, x.building = some building → P (building.freeze true))

include closed building

theorem add_closed (frame : Frame) (point : Point) : ∀ candle ∈ (x.add frame point).closed, P candle := by
  cases add_cases x frame point with
  | inl extends_ =>
      obtain ⟨_, _, _, after⟩ := extends_
      rw [after]
      exact closed
  | inr opens =>
      rw [opens.2]
      intro candle member
      cases List.mem_append.mp member with
      | inl old => exact closed candle old
      | inr new =>
          obtain ⟨last, found, frozen⟩ := List.mem_map.mp new
          rw [← frozen]
          exact building last (Option.mem_toList.mp found)

theorem flush_closed (now : Moment) : ∀ candle ∈ (x.flush now).closed, P candle := by
  cases flush_cases x now with
  | inl same =>
      rw [same]
      exact closed
  | inr closes =>
      obtain ⟨last, found, _, after⟩ := closes
      rw [after]
      intro candle member
      cases List.mem_append.mp member with
      | inl old => exact closed candle old
      | inr new =>
          rw [List.mem_singleton.mp new]
          exact building last found

end

theorem add_building (x : Series) (frame : Frame) (point : Point) (Q : Building → Prop)
    (extended : ∀ building, x.building = some building → point.exchangeTs < building.end_ → Q (building.addPoint point))
    (opened : Q ((openBuilding frame point).addPoint point)) :
    ∀ building, (x.add frame point).building = some building → Q building := by
  intro building found
  cases add_cases x frame point with
  | inl extends_ =>
      obtain ⟨last, old, ahead, after⟩ := extends_
      rw [after] at found
      rw [← Option.some.inj found]
      exact extended last old ahead
  | inr opens =>
      rw [opens.2] at found
      rw [← Option.some.inj found]
      exact opened

theorem flush_building (x : Series) (now : Moment) (building : Building) (left : (x.flush now).building = some building) :
    x.building = some building := by
  cases flush_cases x now with
  | inl same =>
      rw [same] at left
      exact left
  | inr closes =>
      obtain ⟨_, _, _, after⟩ := closes
      rw [after] at left
      exact absurd left.symm (Option.some_ne_none building)

theorem told_sound (x : Series) (told : Series.Told x) (building : Building) (found : x.building = some building) :
    Sound (building.freeze true) := ⟨building, true, rfl, told.building building found⟩

theorem told_add (x : Series) (told : Series.Told x) (frame : Frame) (point : Point) : Series.Told (x.add frame point) where
  closed := add_closed x Sound told.closed (told_sound x told) frame point
  building := add_building x frame point Built
    (fun building found _ => built_add building (told.building building found) point) (built_open frame point)
  points := by
    cases add_cases x frame point with
    | inl extends_ =>
        obtain ⟨building, found, _, after⟩ := extends_
        have points := told.points
        rw [found] at points
        rw [after, ← points]
        simp [Building.addPoint]
    | inr opens =>
        rw [opens.2, ← told.points]
        simp [Building.addPoint, openBuilding, List.flatMap_map, Building.freeze]

theorem told_flush (x : Series) (told : Series.Told x) (now : Moment) : Series.Told (x.flush now) where
  closed := flush_closed x Sound told.closed (told_sound x told) now
  building := fun building left => told.building building (flush_building x now building left)
  points := by
    cases flush_cases x now with
    | inl same =>
        rw [same]
        exact told.points
    | inr closes =>
        obtain ⟨building, found, _, after⟩ := closes
        have points := told.points
        rw [found] at points
        rw [after, ← points]
        simp [Building.freeze]

theorem told_start (timeframes : List Timeframe) (key : String × Frame) : Series.Told (series key (start timeframes)) := by
  refine ⟨fun candle member => ?_, fun building found => ?_, rfl⟩
  · cases member
  · cases found

end QuantEngine.CandleBars
