import QuantEngine.Analytics.SmartMoney

set_option autoImplicit false

namespace QuantEngine.Analytics

open Candles (MarketCandle)

section

variable (candles : List MarketCandle) (left right : Nat) (mssAtr value : ℚ)

-- The breaks that the first `count` candles show.
def breaksOf (count : Nat) : Except PyError (List StructureBreak) :=
  (swingPoints (candles.take count) left right).map
    (fun swings => structureBreaks (candles.take count) swings mssAtr (some value))

-- What a prefix shows is what every longer one shows at its indices.
def NoRepaint : Prop := ∀ count more, count ≤ more → more ≤ candles.length → ∀ short long,
  breaksOf candles left right mssAtr value count = .ok short → breaksOf candles left right mssAtr value more = .ok long →
    short = long.filter (fun found => decide (found.index < count))

end

def levelsAfter (rule : Displacement) (swings : List SwingPoint) (levels : Levels) (index : Nat) :
    List MarketCandle → Levels
  | [] => levels
  | candle :: rest => levelsAfter rule swings (levels.next rule swings index candle) (index + 1) rest

-- The prices of the levels.
structure Marks where
  trend : Option BreakDirection
  high : Option ℚ
  low : Option ℚ

def Levels.marks (levels : Levels) : Marks :=
  ⟨levels.trend, levels.lastHigh.map SwingPoint.price, levels.lastLow.map SwingPoint.price⟩

def crossesUp (level : Option ℚ) (candle : MarketCandle) : Bool := level.any (fun price => decide (price < candle.close))

def crossesDown (level : Option ℚ) (candle : MarketCandle) : Bool := level.any (fun price => decide (candle.close < price))

-- No candle of the window closes beyond a level that one of the two has and the
-- other has not. The first close above the high is a break upwards, whatever the
-- low.
structure Undisturbed (before after : Marks) (window : List MarketCandle) : Prop where
  highs : before.high = after.high ∨ ∀ candle ∈ window, crossesUp before.high candle = false ∧ crossesUp after.high candle = false
  lows : before.low = after.low ∨
    ∀ candle ∈ window.eraseP (crossesUp before.high), crossesDown before.low candle = false ∧ crossesDown after.low candle = false

-- The pivots of the candles, without the check on the window.
def pivots (candles : List MarketCandle) (left right : Nat) : List SwingPoint :=
  labeled none none (rawPivots candles left right)

section

variable (candles : List MarketCandle) (left right : Nat) (mssAtr value : ℚ)

-- The levels after the candle at `index` as long as its own pivots are unknown.
def levelsBefore (index : Nat) : Levels :=
  levelsAfter ⟨mssAtr, value⟩ (pivots (candles.take (index + right)) left right) {} 0 (candles.take (index + 1))

def levelsConfirmed (index : Nat) : Levels :=
  ((pivots candles left right).filter (fun swing => decide (swing.index = index))).foldl Levels.activate
    (levelsBefore candles left right mssAtr value index)

-- The candles strictly between the one at `index` and the one that confirms it.
def unconfirmed (index : Nat) : List MarketCandle := (candles.drop (index + 1)).take (right - 1)

-- No candle between a pivot and its confirmation closes beyond the level that
-- the pivot sets or the one that it replaces.
def PivotsUndisturbed : Prop := 0 < value → ∀ index, index + right < candles.length →
  Undisturbed (levelsBefore candles left right mssAtr value index).marks
    (levelsConfirmed candles left right mssAtr value index).marks (unconfirmed candles right index)

end

-- Every level is from before `index`.
def Levels.Past (levels : Levels) (index : Nat) : Prop :=
  (∀ swing ∈ levels.lastHigh, swing.index < index) ∧ ∀ swing ∈ levels.lastLow, swing.index < index

theorem break_index (rule : Displacement) (levels : Levels) (index : Nat) (candle : MarketCandle) (found : StructureBreak)
    (broken : brokenAt rule levels index candle = some found) : found.index = index := by
  rw [brokenAt] at broken
  split at broken
  · rw [← Option.some.inj broken]
    rfl
  · obtain ⟨swing, -, rfl⟩ := Option.map_eq_some_iff.mp broken
    rfl

theorem breaks_from_index (rule : Displacement) (swings : List SwingPoint) (levels : Levels) (index : Nat)
    (candles : List MarketCandle) (found : StructureBreak) (member : found ∈ breaksFrom rule swings levels index candles) :
    index ≤ found.index ∧ found.index < index + candles.length := by
  induction candles generalizing levels index with
  | nil => cases member
  | cons candle rest ih =>
      rw [List.length_cons]
      rcases List.mem_append.mp member with here | later
      · rw [break_index rule levels index candle found (Option.mem_toList.mp here)]
        omega
      · have bounds := ih _ _ later
        omega

theorem breaks_from_append (rule : Displacement) (swings : List SwingPoint) (levels : Levels) (index : Nat)
    (first second : List MarketCandle) : breaksFrom rule swings levels index (first ++ second) =
      breaksFrom rule swings levels index first ++
        breaksFrom rule swings (levelsAfter rule swings levels index first) (index + first.length) second := by
  induction first generalizing levels index with
  | nil => rfl
  | cons candle rest ih =>
      rw [List.cons_append, breaksFrom, breaksFrom, levelsAfter, ih, List.append_assoc, List.length_cons,
        Nat.add_right_comm, Nat.add_assoc]

theorem levels_after_append (rule : Displacement) (swings : List SwingPoint) (levels : Levels) (index : Nat)
    (first second : List MarketCandle) : levelsAfter rule swings levels index (first ++ second) =
      levelsAfter rule swings (levelsAfter rule swings levels index first) (index + first.length) second := by
  induction first generalizing levels index with
  | nil => rfl
  | cons candle rest ih =>
      rw [List.cons_append, levelsAfter, levelsAfter, ih, List.length_cons, Nat.add_right_comm, Nat.add_assoc]

-- Only the pivots at the indices of the candles are read.
theorem breaks_from_congr (rule : Displacement) (swings others : List SwingPoint) (levels : Levels) (index : Nat)
    (candles : List MarketCandle) (same : ∀ place, index ≤ place → place < index + candles.length →
      swings.filter (fun swing => decide (swing.index = place)) = others.filter (fun swing => decide (swing.index = place))) :
    breaksFrom rule swings levels index candles = breaksFrom rule others levels index candles ∧
      levelsAfter rule swings levels index candles = levelsAfter rule others levels index candles := by
  induction candles generalizing levels index with
  | nil => exact ⟨rfl, rfl⟩
  | cons candle rest ih =>
      rw [List.length_cons] at same
      have next : levels.next rule swings index candle = levels.next rule others index candle := by
        rw [Levels.next, Levels.next, same index (Nat.le_refl _) (by omega)]
      have onward := ih (levels.next rule others index candle) (index + 1)
        (fun place after inside => same place (by omega) (by omega))
      rw [breaksFrom, breaksFrom, levelsAfter, levelsAfter, next]
      exact ⟨by rw [onward.1], onward.2⟩

theorem activate_trend (swings : List SwingPoint) (levels : Levels) :
    (swings.foldl Levels.activate levels).trend = levels.trend := by
  induction swings generalizing levels with
  | nil => rfl
  | cons swing rest ih =>
      rw [List.foldl_cons, ih, Levels.activate]
      cases swing.kind with
      | high => rfl
      | low => rfl

theorem activate_past (swings : List SwingPoint) (levels : Levels) (index : Nat) (past : levels.Past index)
    (early : ∀ swing ∈ swings, swing.index < index) : (swings.foldl Levels.activate levels).Past index := by
  induction swings generalizing levels with
  | nil => exact past
  | cons swing rest ih =>
      refine ih _ ?_ (fun other member => early other (List.mem_cons_of_mem _ member))
      have here := early swing List.mem_cons_self
      rw [Levels.activate]
      cases swing.kind with
      | high => exact ⟨fun other found => Option.mem_some_iff.mp found ▸ here, past.2⟩
      | low => exact ⟨past.1, fun other found => Option.mem_some_iff.mp found ▸ here⟩

theorem past_later (levels : Levels) (index later : Nat) (past : levels.Past index) (after : index ≤ later) :
    levels.Past later :=
  ⟨fun swing found => (past.1 swing found).trans_le after, fun swing found => (past.2 swing found).trans_le after⟩

theorem consume_past (levels : Levels) (index : Nat) (past : levels.Past index) (found : Option StructureBreak) :
    (levels.consume found).Past index := by
  rw [Levels.consume]
  split
  · exact past
  · exact ⟨fun swing found => absurd found (Option.not_mem_none swing), past.2⟩
  · exact ⟨past.1, fun swing found => absurd found (Option.not_mem_none swing)⟩

theorem levels_after_past (rule : Displacement) (swings : List SwingPoint) (levels : Levels) (index : Nat)
    (candles : List MarketCandle) (past : levels.Past index) :
    (levelsAfter rule swings levels index candles).Past (index + candles.length) := by
  induction candles generalizing levels index with
  | nil => exact past
  | cons candle rest ih =>
      rw [levelsAfter, List.length_cons, Nat.add_comm rest.length, ← Nat.add_assoc]
      refine ih _ _ (activate_past _ _ _ (past_later _ _ _ (consume_past levels index past _) (Nat.le_succ index)) ?_)
      intro swing member
      rw [of_decide_eq_true (List.mem_filter.mp member).2]
      exact Nat.lt_succ_self index

namespace Marks

variable (rule : Displacement)

def brokenAt (marks : Marks) (index : Nat) (candle : MarketCandle) : Option StructureBreak :=
  match marks.high.filter (fun price => decide (price < candle.close)) with
  | some price => some (breakOf rule marks.trend .up index candle price)
  | none => (marks.low.filter (fun price => decide (candle.close < price))).map
      (breakOf rule marks.trend .down index candle)

def consume (marks : Marks) (found : Option StructureBreak) : Marks :=
  match found.map StructureBreak.direction with
  | none => marks
  | some .up => { marks with trend := some .up, high := none }
  | some .down => { marks with trend := some .down, low := none }

-- The scan where no pivot comes up.
def breaksFrom (marks : Marks) (index : Nat) : List MarketCandle → List StructureBreak
  | [] => []
  | candle :: rest =>
      (marks.brokenAt rule index candle).toList ++ breaksFrom (marks.consume (marks.brokenAt rule index candle)) (index + 1) rest

end Marks

theorem broken_marks (rule : Displacement) (levels : Levels) (index : Nat) (candle : MarketCandle) (past : levels.Past index) :
    brokenAt rule levels index candle = levels.marks.brokenAt rule index candle := by
  have high : above levels.lastHigh index candle.close =
      levels.lastHigh.filter (fun swing => decide (swing.price < candle.close)) := by
    cases found : levels.lastHigh with
    | none => rfl
    | some swing => simp [above, Option.filter_some, past.1 swing found]
  have low : below levels.lastLow index candle.close =
      levels.lastLow.filter (fun swing => decide (candle.close < swing.price)) := by
    cases found : levels.lastLow with
    | none => rfl
    | some swing => simp [below, Option.filter_some, past.2 swing found]
  rw [brokenAt, Marks.brokenAt, high, low]
  simp only [Levels.marks, Option.filter_map, Function.comp_def]
  cases levels.lastHigh.filter (fun swing => decide (swing.price < candle.close)) with
  | none => rw [Option.map_none, Option.map_map]; rfl
  | some swing => rfl

theorem consume_marks (levels : Levels) (found : Option StructureBreak) :
    (levels.consume found).marks = levels.marks.consume found := by
  rw [Levels.consume, Marks.consume]
  cases found.map StructureBreak.direction with
  | none => rfl
  | some direction =>
      cases direction with
      | up => rfl
      | down => rfl

theorem breaks_marks (rule : Displacement) (levels : Levels) (index : Nat) (candles : List MarketCandle)
    (past : levels.Past index) :
    breaksFrom rule [] levels index candles = levels.marks.breaksFrom rule index candles := by
  induction candles generalizing levels index with
  | nil => rfl
  | cons candle rest ih =>
      have next : levels.next rule [] index candle = levels.consume (brokenAt rule levels index candle) := rfl
      rw [breaksFrom, Marks.breaksFrom, next,
        ih _ _ (past_later _ _ _ (consume_past levels index past _) (Nat.le_succ index)), consume_marks,
        broken_marks rule levels index candle past]

theorem marks_break_index (rule : Displacement) (marks : Marks) (index : Nat) (candle : MarketCandle) (found : StructureBreak)
    (broken : marks.brokenAt rule index candle = some found) : found.index = index := by
  rw [Marks.brokenAt] at broken
  split at broken
  · rw [← Option.some.inj broken]
    rfl
  · obtain ⟨price, -, rfl⟩ := Option.map_eq_some_iff.mp broken
    rfl

theorem marks_breaks_index (rule : Displacement) (marks : Marks) (index : Nat) (candles : List MarketCandle)
    (found : StructureBreak) (member : found ∈ marks.breaksFrom rule index candles) : index ≤ found.index := by
  induction candles generalizing marks index with
  | nil => cases member
  | cons candle rest ih =>
      rcases List.mem_append.mp member with here | later
      · exact (marks_break_index rule marks index candle found (Option.mem_toList.mp here)).ge
      · exact Nat.le_of_succ_le (ih _ _ later)

section

variable (rule : Displacement) (first second : Marks) (index : Nat) (candle : MarketCandle)

theorem broken_over (price : ℚ) (level : first.high = some price) (crossed : price < candle.close) :
    first.brokenAt rule index candle = some (breakOf rule first.trend .up index candle price) := by
  rw [Marks.brokenAt, level, Option.filter_some, if_pos (decide_eq_true crossed)]

theorem broken_inside (inside : crossesUp first.high candle = false) : first.brokenAt rule index candle =
    (first.low.filter (fun price => decide (candle.close < price))).map (breakOf rule first.trend .down index candle) := by
  have none : first.high.filter (fun price => decide (price < candle.close)) = none := by
    rw [crossesUp] at inside
    cases found : first.high with
    | none => rfl
    | some price =>
        rw [found, Option.any_some] at inside
        rw [Option.filter_some, inside]
        rfl
  rw [Marks.brokenAt, none]

end

-- Equal lists of breaks have equal breaks at the first candle.
theorem breaks_cons_iff (rule : Displacement) (first second : Marks) (index : Nat) (candle : MarketCandle)
    (rest : List MarketCandle) :
    first.breaksFrom rule index (candle :: rest) = second.breaksFrom rule index (candle :: rest) ↔
      first.brokenAt rule index candle = second.brokenAt rule index candle ∧
        (first.consume (first.brokenAt rule index candle)).breaksFrom rule (index + 1) rest =
          (second.consume (second.brokenAt rule index candle)).breaksFrom rule (index + 1) rest := by
  have later (marks : Marks) (found : StructureBreak) (others : List StructureBreak)
      (same : marks.breaksFrom rule (index + 1) rest = found :: others) : found.index ≠ index := by
    have bound := marks_breaks_index rule marks (index + 1) rest found (by rw [same]; exact List.mem_cons_self)
    omega
  rw [Marks.breaksFrom, Marks.breaksFrom]
  constructor
  · intro same
    cases one : first.brokenAt rule index candle with
    | none =>
        cases other : second.brokenAt rule index candle with
        | none =>
            rw [one, other] at same
            exact ⟨rfl, same⟩
        | some found =>
            rw [one, other] at same
            exact absurd (marks_break_index rule second index candle found other) (later _ found _ same)
    | some found =>
        cases other : second.brokenAt rule index candle with
        | none =>
            rw [one, other] at same
            exact absurd (marks_break_index rule first index candle found one) (later _ found _ same.symm)
        | some another =>
            rw [one, other] at same
            obtain ⟨rfl, tails⟩ := List.cons.inj same
            exact ⟨rfl, tails⟩
  · rintro ⟨heads, tails⟩
    rw [tails, heads]

theorem over_some (level : Option ℚ) (candle : MarketCandle) (crossed : crossesUp level candle = true) :
    ∃ price, level = some price ∧ price < candle.close := by
  obtain ⟨price, found, below⟩ := (Option.any_eq_true _ level).mp crossed
  exact ⟨price, found, of_decide_eq_true below⟩

theorem under_break (rule : Displacement) (trend : Option BreakDirection) (index : Nat) (level : Option ℚ) (candle : MarketCandle)
    (crossed : crossesDown level candle = true) :
    ∃ price, level = some price ∧ (level.filter (fun price => decide (candle.close < price))).map
      (breakOf rule trend .down index candle) = some (breakOf rule trend .down index candle price) := by
  obtain ⟨price, rfl, above⟩ := (Option.any_eq_true _ level).mp crossed
  exact ⟨price, rfl, by rw [Option.filter_some, if_pos above, Option.map_some]⟩

theorem under_silent (rule : Displacement) (trend : Option BreakDirection) (index : Nat) (level : Option ℚ) (candle : MarketCandle)
    (inside : crossesDown level candle = false) :
    (level.filter (fun price => decide (candle.close < price))).map (breakOf rule trend .down index candle) = none := by
  cases level with
  | none => rfl
  | some price =>
      rw [crossesDown, Option.any_some] at inside
      rw [Option.filter_some, inside]
      rfl

theorem lows_apart (low low' : Option ℚ) (candle : MarketCandle) {one other : Bool} (here : crossesDown low candle = one)
    (there : crossesDown low' candle = other) (apart : one ≠ other) : ¬ (low = low' ∨ one = false ∧ other = false) := by
  rintro (same | ⟨rfl, rfl⟩)
  · exact apart (by rw [← here, ← there, same])
  · exact apart rfl

section

variable (first second : Marks) (candle : MarketCandle) (rest : List MarketCandle)

theorem erase_none (window : List MarketCandle) : window.eraseP (crossesUp none) = window :=
  List.eraseP_of_forall_not (fun candle _ => by rw [crossesUp, Option.any_none]; exact Bool.false_ne_true)

theorem undisturbed_over (trend : Option BreakDirection) (crossed : crossesUp first.high candle = true) :
    Undisturbed first second (candle :: rest) ↔
      first.high = second.high ∧ Undisturbed ⟨trend, none, first.low⟩ ⟨trend, none, second.low⟩ rest := by
  have erased : (candle :: rest).eraseP (crossesUp first.high) = rest := List.eraseP_cons_of_pos crossed
  constructor
  · intro undisturbed
    have same := undisturbed.highs.resolve_right (fun quiet => by
      rw [(quiet candle List.mem_cons_self).1] at crossed
      cases crossed)
    refine ⟨same, .inl rfl, ?_⟩
    rw [erase_none]
    exact erased ▸ undisturbed.lows
  · rintro ⟨same, -, lows⟩
    refine ⟨.inl same, ?_⟩
    rw [erase_none] at lows
    rwa [erased]

theorem undisturbed_inside (one : crossesUp first.high candle = false) (other : crossesUp second.high candle = false) :
    Undisturbed first second (candle :: rest) ↔
      (first.low = second.low ∨ crossesDown first.low candle = false ∧ crossesDown second.low candle = false) ∧
        Undisturbed first second rest := by
  have erased : (candle :: rest).eraseP (crossesUp first.high) = candle :: rest.eraseP (crossesUp first.high) :=
    List.eraseP_cons_of_neg (by rw [one]; exact Bool.false_ne_true)
  constructor
  · rintro ⟨highs, lows⟩
    rw [erased] at lows
    refine ⟨lows.imp_right (fun quiet => quiet candle List.mem_cons_self), ?_, ?_⟩
    · exact highs.imp_right (fun quiet other member => quiet other (List.mem_cons_of_mem _ member))
    · exact lows.imp_right (fun quiet other member => quiet other (List.mem_cons_of_mem _ member))
  · rintro ⟨here, highs, lows⟩
    refine ⟨highs.imp_right (fun quiet another member => ?_), ?_⟩
    · rcases List.mem_cons.mp member with rfl | later
      · exact ⟨one, other⟩
      · exact quiet another later
    · rw [erased]
      rcases here with same | silent
      · exact .inl same
      · refine lows.imp_right (fun quiet another member => ?_)
        rcases List.mem_cons.mp member with rfl | later
        · exact silent
        · exact quiet another later

-- A low that both have disturbs nothing.
theorem undisturbed_low (trend : Option BreakDirection) (low : Option ℚ) (window : List MarketCandle)
    (same : first.low = second.low) :
    Undisturbed first second window ↔ Undisturbed ⟨trend, first.high, low⟩ ⟨trend, second.high, low⟩ window :=
  ⟨fun undisturbed => ⟨undisturbed.highs, .inl rfl⟩, fun undisturbed => ⟨undisturbed.highs, .inl same⟩⟩

theorem disturbed_one_side (apart : crossesUp first.high candle ≠ crossesUp second.high candle) :
    ¬ Undisturbed first second (candle :: rest) := by
  intro undisturbed
  rcases undisturbed.highs with same | quiet
  · exact apart (by rw [same])
  · obtain ⟨one, other⟩ := quiet candle List.mem_cons_self
    exact apart (by rw [one, other])

end

theorem directions_apart (rule : Displacement) (trend : Option BreakDirection) (index : Nat) (candle : MarketCandle)
    (price : ℚ) (level : Option ℚ) :
    ¬ some (breakOf rule trend .up index candle price) = level.map (breakOf rule trend .down index candle) := by
  intro same
  obtain ⟨other, -, equal⟩ := Option.map_eq_some_iff.mp same.symm
  cases congrArg StructureBreak.direction equal

-- The step of the induction at a candle that closes above neither high.
theorem low_agree_iff (rule : Displacement) (first second : Marks) (index : Nat) (candle : MarketCandle)
    (rest : List MarketCandle) (ih : ∀ (first second : Marks) (index : Nat), first.trend = second.trend →
      (first.breaksFrom rule index rest = second.breaksFrom rule index rest ↔ Undisturbed first second rest))
    (trend : first.trend = second.trend) :
    let one := (first.low.filter (fun price => decide (candle.close < price))).map
      (breakOf rule second.trend .down index candle)
    let other := (second.low.filter (fun price => decide (candle.close < price))).map
      (breakOf rule second.trend .down index candle)
    (one = other ∧ (first.consume one).breaksFrom rule (index + 1) rest = (second.consume other).breaksFrom rule (index + 1) rest) ↔
      (first.low = second.low ∨ crossesDown first.low candle = false ∧ crossesDown second.low candle = false) ∧
        Undisturbed first second rest := by
  intro one other
  cases here : crossesDown first.low candle with
  | true =>
      obtain ⟨price, level, (broken : one = _)⟩ := under_break rule second.trend index first.low candle here
      cases there : crossesDown second.low candle with
      | true =>
          obtain ⟨price', level', (broken' : other = _)⟩ := under_break rule second.trend index second.low candle there
          have onward := ih ⟨some .down, first.high, none⟩ ⟨some .down, second.high, none⟩ (index + 1) rfl
          rw [broken, broken', level, level']
          constructor
          · rintro ⟨same, tails⟩
            have equal := congrArg StructureBreak.level (Option.some.inj same)
            have lows : first.low = second.low := by rw [level, level']; exact congrArg some equal
            exact ⟨.inl (congrArg some equal), (undisturbed_low first second _ _ rest lows).mpr (onward.mp tails)⟩
          · rintro ⟨same, tails⟩
            have equal := same.resolve_right (fun quiet => by cases quiet.1)
            have lows : first.low = second.low := by rw [level, level']; exact equal
            rw [Option.some.inj equal]
            exact ⟨rfl, onward.mpr ((undisturbed_low first second _ _ rest lows).mp tails)⟩
      | false =>
          have silent : other = none := under_silent rule second.trend index second.low candle there
          rw [broken, silent]
          exact iff_of_false (fun same => by cases same.1)
            (fun same => lows_apart first.low second.low candle here there (by decide) same.1)
  | false =>
      have silent : one = none := under_silent rule second.trend index first.low candle here
      cases there : crossesDown second.low candle with
      | true =>
          obtain ⟨price', level', (broken' : other = _)⟩ := under_break rule second.trend index second.low candle there
          rw [silent, broken']
          exact iff_of_false (fun same => by cases same.1)
            (fun same => lows_apart first.low second.low candle here there (by decide) same.1)
      | false =>
          have silent' : other = none := under_silent rule second.trend index second.low candle there
          rw [silent, silent']
          have onward := ih first second (index + 1) trend
          exact ⟨fun same => ⟨.inr ⟨rfl, rfl⟩, onward.mp same.2⟩, fun same => ⟨rfl, onward.mpr same.2⟩⟩

theorem marks_agree_iff (rule : Displacement) (first second : Marks) (index : Nat) (window : List MarketCandle)
    (trend : first.trend = second.trend) :
    first.breaksFrom rule index window = second.breaksFrom rule index window ↔ Undisturbed first second window := by
  induction window generalizing first second index with
  | nil => exact ⟨fun _ => ⟨.inr (fun _ member => by cases member), .inr (fun _ member => by cases member)⟩, fun _ => rfl⟩
  | cons candle rest ih =>
      rw [breaks_cons_iff]
      cases one : crossesUp first.high candle with
      | true =>
          obtain ⟨price, level, crossed⟩ := over_some first.high candle one
          rw [broken_over rule first index candle price level crossed]
          cases other : crossesUp second.high candle with
          | true =>
              obtain ⟨price', level', crossed'⟩ := over_some second.high candle other
              rw [broken_over rule second index candle price' level' crossed', undisturbed_over first second candle rest
                (some .up) one, level, level', trend]
              constructor
              · rintro ⟨same, tails⟩
                have equal := congrArg StructureBreak.level (Option.some.inj same)
                exact ⟨congrArg some equal, (ih ⟨some .up, none, first.low⟩ ⟨some .up, none, second.low⟩ _ rfl).mp tails⟩
              · rintro ⟨same, tails⟩
                rw [Option.some.inj same]
                exact ⟨rfl, (ih ⟨some .up, none, first.low⟩ ⟨some .up, none, second.low⟩ _ rfl).mpr tails⟩
          | false =>
              rw [broken_inside rule second index candle other, trend]
              refine iff_of_false (fun same => directions_apart rule _ _ _ _ _ same.1) ?_
              exact disturbed_one_side first second candle rest (by rw [one, other]; decide)
      | false =>
          rw [broken_inside rule first index candle one]
          cases other : crossesUp second.high candle with
          | true =>
              obtain ⟨price', level', crossed'⟩ := over_some second.high candle other
              rw [broken_over rule second index candle price' level' crossed', trend]
              refine iff_of_false (fun same => directions_apart rule _ _ _ _ _ same.1.symm) ?_
              exact disturbed_one_side first second candle rest (by rw [one, other]; decide)
          | false =>
              rw [broken_inside rule second index candle other, undisturbed_inside first second candle rest one other, trend]
              exact low_agree_iff rule first second index candle rest ih trend

section

variable (candles : List MarketCandle) (left right : Nat)

-- What looks at no candle past a prefix is the same in the prefix.
theorem pivots_at_prefix (count : Nat) (entry : MarketCandle × Nat) (after : left ≤ entry.2) (before : entry.2 + right < count) :
    pivotsAt (candles.take count) left right entry = pivotsAt candles left right entry := by
  have around : neighborhood (candles.take count) left right entry.2 = neighborhood candles left right entry.2 := by
    rw [neighborhood, neighborhood, List.drop_take, List.drop_take, List.take_take, List.take_take,
      min_eq_left (by omega), min_eq_left (by omega)]
  rw [pivotsAt, pivotsAt, highPivot, highPivot, lowPivot, lowPivot, around]

theorem pivots_at_index (entry : MarketCandle × Nat) (swing : SwingPoint) (member : swing ∈ pivotsAt candles left right entry) :
    swing.index = entry.2 := by
  simp only [pivotsAt, List.mem_append] at member
  grind

theorem mem_confirmed (bound : Nat) (entry : MarketCandle × Nat) (member : entry ∈ (candles.zipIdx.take bound).drop left) :
    left ≤ entry.2 ∧ entry.2 < bound := by
  obtain ⟨place, found⟩ := List.mem_iff_getElem?.mp member
  rw [List.getElem?_drop, List.getElem?_take] at found
  split at found
  next inside =>
    rw [List.getElem?_zipIdx] at found
    obtain ⟨candle, -, rfl⟩ := Option.map_eq_some_iff.mp found
    simp only [Nat.zero_add]
    omega
  next => cases found

theorem raw_pivots_take (count : Nat) (within : count ≤ candles.length) : rawPivots (candles.take count) left right =
    ((candles.zipIdx.take (count - right)).drop left).flatMap (pivotsAt candles left right) := by
  have length : (candles.take count).length = count := List.length_take_of_le within
  have indexed : (candles.take count).zipIdx = candles.zipIdx.take count := by
    refine List.ext_getElem? (fun place => ?_)
    rw [List.getElem?_zipIdx, List.getElem?_take, List.getElem?_take, List.getElem?_zipIdx]
    split
    · rfl
    · rfl
  rw [rawPivots, length, indexed, List.take_take, min_eq_left (Nat.sub_le count right)]
  refine List.flatMap_congr (fun entry member => ?_)
  obtain ⟨after, before⟩ := mem_confirmed candles left _ entry member
  exact pivots_at_prefix candles left right count entry after (by omega)

-- One more candle confirms the pivots of one candle.
theorem raw_next (count : Nat) (within : count < candles.length) : ∃ fresh,
    rawPivots (candles.take (count + 1)) left right = rawPivots (candles.take count) left right ++ fresh ∧
      ∀ swing ∈ fresh, swing.index + right = count := by
  rw [raw_pivots_take candles left right (count + 1) within, raw_pivots_take candles left right count within.le]
  by_cases early : count < left + right
  · refine ⟨[], ?_, fun swing member => by cases member⟩
    rw [List.drop_eq_nil_of_le (by rw [List.length_take]; omega), List.drop_eq_nil_of_le (by rw [List.length_take]; omega)]
    rfl
  · obtain ⟨index, rfl⟩ : ∃ index, count = index + right := ⟨count - right, by omega⟩
    have here : index < candles.zipIdx.length := by
      rw [List.length_zipIdx]
      omega
    rw [show index + right + 1 - right = index + 1 by omega, Nat.add_sub_cancel, List.take_succ_eq_append_getElem here,
      List.drop_append_of_le_length (by rw [List.length_take]; omega), List.flatMap_append]
    refine ⟨_, rfl, fun swing member => ?_⟩
    rw [List.flatMap_singleton] at member
    rw [pivots_at_index candles left right _ swing member, List.getElem_zipIdx, Nat.zero_add]

theorem labeled_append (lastHigh lastLow : Option SwingPoint) (first second : List SwingPoint) :
    ∃ high low, labeled lastHigh lastLow (first ++ second) = labeled lastHigh lastLow first ++ labeled high low second := by
  induction first generalizing lastHigh lastLow with
  | nil => exact ⟨lastHigh, lastLow, rfl⟩
  | cons point rest ih =>
      cases kind : point.kind with
      | high =>
          obtain ⟨high, low, onward⟩ := ih (some point) lastLow
          exact ⟨high, low, by simp only [List.cons_append, labeled, kind, onward]⟩
      | low =>
          obtain ⟨high, low, onward⟩ := ih lastHigh (some point)
          exact ⟨high, low, by simp only [List.cons_append, labeled, kind, onward]⟩

theorem labeled_index (lastHigh lastLow : Option SwingPoint) (points : List SwingPoint) :
    (labeled lastHigh lastLow points).map SwingPoint.index = points.map SwingPoint.index := by
  induction points generalizing lastHigh lastLow with
  | nil => rfl
  | cons point rest ih =>
      cases kind : point.kind with
      | high => simp only [labeled, kind, List.map_cons, ih]
      | low => simp only [labeled, kind, List.map_cons, ih]

theorem pivots_next (count : Nat) (within : count < candles.length) : ∃ fresh,
    pivots (candles.take (count + 1)) left right = pivots (candles.take count) left right ++ fresh ∧
      ∀ swing ∈ fresh, swing.index + right = count := by
  obtain ⟨fresh, raw, indices⟩ := raw_next candles left right count within
  obtain ⟨high, low, split⟩ := labeled_append none none (rawPivots (candles.take count) left right) fresh
  refine ⟨labeled high low fresh, by rw [pivots, raw, split]; rfl, fun swing member => ?_⟩
  have there : swing.index ∈ fresh.map SwingPoint.index := by
    rw [← labeled_index high low fresh]
    exact List.mem_map_of_mem member
  obtain ⟨source, inside, same⟩ := List.mem_map.mp there
  rw [← same]
  exact indices source inside

theorem pivots_early (count : Nat) (within : count ≤ candles.length) (swing : SwingPoint)
    (member : swing ∈ pivots (candles.take count) left right) : swing.index + right < count := by
  induction count with
  | zero => simp [pivots, rawPivots, labeled] at member
  | succ count ih =>
      obtain ⟨fresh, split, indices⟩ := pivots_next candles left right count within
      rw [split] at member
      rcases List.mem_append.mp member with before | here
      · have bound := ih (Nat.le_of_succ_le within) before
        omega
      · have index := indices swing here
        omega

-- A prefix has the pivots of the series that it is long enough to confirm.
theorem pivots_prefix (count more : Nat) (shorter : count ≤ more) (within : more ≤ candles.length) :
    pivots (candles.take count) left right =
      (pivots (candles.take more) left right).filter (fun swing => decide (swing.index + right < count)) := by
  induction more, shorter using Nat.le_induction with
  | base =>
      refine (List.filter_eq_self.mpr (fun swing member => ?_)).symm
      exact decide_eq_true (pivots_early candles left right count within swing member)
  | succ more longer ih =>
      obtain ⟨fresh, split, indices⟩ := pivots_next candles left right more within
      have late : fresh.filter (fun swing => decide (swing.index + right < count)) = [] := by
        refine List.filter_eq_nil_iff.mpr (fun swing member => ?_)
        have index := indices swing member
        simp only [decide_eq_true_eq]
        omega
      rw [split, List.filter_append, late, List.append_nil]
      exact ih (Nat.le_of_succ_le within)

end

section

variable (candles : List MarketCandle) (left right : Nat) (mssAtr value : ℚ)

def shown (count : Nat) : List StructureBreak :=
  breaksFrom ⟨mssAtr, value⟩ (pivots (candles.take count) left right) {} 0 (candles.take count)

-- The same prefix, with the pivot that the candle after it confirms.
def shownNext (count : Nat) : List StructureBreak :=
  breaksFrom ⟨mssAtr, value⟩ (pivots (candles.take (count + 1)) left right) {} 0 (candles.take count)

theorem shown_next (count : Nat) (within : count < candles.length) :
    (shown candles left right mssAtr value (count + 1)).filter (fun found => decide (found.index < count)) =
      shownNext candles left right mssAtr value count := by
  have length : (candles.take count).length = count := List.length_take_of_le within.le
  have longer : candles.take (count + 1) = candles.take count ++ [candles[count]] := List.take_succ_eq_append_getElem within
  have kept : (shownNext candles left right mssAtr value count).filter (fun found => decide (found.index < count)) =
      shownNext candles left right mssAtr value count := by
    refine List.filter_eq_self.mpr (fun found member => decide_eq_true ?_)
    have bounds := breaks_from_index _ _ _ _ _ found member
    omega
  rw [shown, longer, breaks_from_append, ← longer, List.filter_append]
  have last (swings : List SwingPoint) (levels : Levels) :
      (breaksFrom ⟨mssAtr, value⟩ swings levels (0 + (candles.take count).length) [candles[count]]).filter
        (fun found => decide (found.index < count)) = [] := by
    refine List.filter_eq_nil_iff.mpr (fun found member => ?_)
    have bounds := breaks_from_index _ _ _ _ _ found member
    simp only [decide_eq_true_eq]
    omega
  rw [last, List.append_nil]
  exact kept

theorem filter_index_none (swings : List SwingPoint) (index : Nat) (others : ∀ swing ∈ swings, swing.index ≠ index) :
    swings.filter (fun swing => decide (swing.index = index)) = [] :=
  List.filter_eq_nil_iff.mpr (fun swing member => by simpa using others swing member)

theorem confirmed_fresh (index : Nat) (within : index + right < candles.length) (fresh : List SwingPoint)
    (split : pivots (candles.take (index + right + 1)) left right = pivots (candles.take (index + right)) left right ++ fresh)
    (indices : ∀ swing ∈ fresh, swing.index + right = index + right) :
    (pivots candles left right).filter (fun swing => decide (swing.index = index)) = fresh := by
  have known := pivots_prefix candles left right (index + right + 1) candles.length within (Nat.le_refl _)
  rw [List.take_length] at known
  have narrowed : (pivots (candles.take (index + right + 1)) left right).filter (fun swing => decide (swing.index = index)) =
      (pivots candles left right).filter (fun swing => decide (swing.index = index)) := by
    rw [known, List.filter_filter]
    refine List.filter_congr (fun swing _ => ?_)
    by_cases same : swing.index = index
    · simp [same]
    · simp [same]
  rw [← narrowed, split, List.filter_append, filter_index_none _ index (fun swing member => by
    have bound := pivots_early candles left right _ within.le swing member
    omega), List.nil_append]
  refine List.filter_eq_self.mpr (fun swing member => decide_eq_true ?_)
  have same := indices swing member
  omega

-- The scan over the candles up to `index` and over the unconfirmed ones, in
-- which no pivot comes up.
theorem shown_split (swings : List SwingPoint) (index : Nat) (positive : 0 < right) (within : index + right < candles.length)
    (early : ∀ swing ∈ swings, swing.index ≤ index) :
    breaksFrom ⟨mssAtr, value⟩ swings {} 0 (candles.take (index + right)) =
      breaksFrom ⟨mssAtr, value⟩ swings {} 0 (candles.take (index + 1)) ++
        (levelsAfter ⟨mssAtr, value⟩ swings {} 0 (candles.take (index + 1))).marks.breaksFrom ⟨mssAtr, value⟩ (index + 1)
          (unconfirmed candles right index) := by
  have length : (candles.take (index + 1)).length = index + 1 := List.length_take_of_le (by omega)
  have parts : candles.take (index + right) = candles.take (index + 1) ++ unconfirmed candles right index := by
    rw [show index + right = index + 1 + (right - 1) by omega, List.take_add, unconfirmed]
  have past := levels_after_past ⟨mssAtr, value⟩ swings {} 0 (candles.take (index + 1))
    ⟨fun swing found => absurd found (Option.not_mem_none swing), fun swing found => absurd found (Option.not_mem_none swing)⟩
  rw [Nat.zero_add, length] at past
  have idle := breaks_from_congr ⟨mssAtr, value⟩ swings []
    (levelsAfter ⟨mssAtr, value⟩ swings {} 0 (candles.take (index + 1))) (index + 1) (unconfirmed candles right index)
    (fun place after _ => filter_index_none swings place (fun swing member => by
      have bound := early swing member
      omega))
  rw [parts, breaks_from_append, Nat.zero_add, length, idle.1, breaks_marks _ _ _ _ past]

theorem shown_next_iff (index : Nat) (within : index + right < candles.length) :
    shown candles left right mssAtr value (index + right) = shownNext candles left right mssAtr value (index + right) ↔
      Undisturbed (levelsBefore candles left right mssAtr value index).marks
        (levelsConfirmed candles left right mssAtr value index).marks (unconfirmed candles right index) := by
  obtain ⟨fresh, split, indices⟩ := pivots_next candles left right (index + right) within
  have early (swing : SwingPoint) (member : swing ∈ pivots (candles.take (index + right)) left right) :
      swing.index < index := by
    have bound := pivots_early candles left right _ within.le swing member
    omega
  have here (swing : SwingPoint) (member : swing ∈ fresh) : swing.index = index := by
    have same := indices swing member
    omega
  have before (place : Nat) (less : place < index) :
      (pivots (candles.take (index + right)) left right).filter (fun swing => decide (swing.index = place)) =
        (pivots (candles.take (index + right + 1)) left right).filter (fun swing => decide (swing.index = place)) := by
    rw [split, List.filter_append, filter_index_none fresh place (fun swing member => by rw [here swing member]; omega),
      List.append_nil]
  rcases Nat.eq_zero_or_pos right with zero | positive
  · -- A pivot that its own candle confirms is no level yet where the prefix ends.
    have none : unconfirmed candles right index = [] := by rw [unconfirmed, zero]; rfl
    rw [none]
    refine iff_of_true ?_ ⟨.inr (fun _ member => by cases member), .inr (fun _ member => by cases member)⟩
    refine (breaks_from_congr _ _ _ _ _ _ (fun place _ inside => before place ?_)).1
    rw [List.length_take_of_le within.le] at inside
    omega
  · have one (place : Nat) (less : place < 0 + (candles.take index).length) := before place (by
      rw [List.length_take_of_le (by omega)] at less
      omega)
    obtain ⟨sameBreaks, sameLevels⟩ := breaks_from_congr ⟨mssAtr, value⟩ _ _ {} 0 (candles.take index)
      (fun place _ inside => one place inside)
    have last : candles.take (index + 1) = candles.take index ++ [candles[index]] := List.take_succ_eq_append_getElem (by omega)
    have length : 0 + (candles.take index).length = index := by
      rw [List.length_take_of_le (by omega)]
      omega
    -- Up to `index` the two scans report the same and differ in its pivots.
    have firsts : breaksFrom ⟨mssAtr, value⟩ (pivots (candles.take (index + right)) left right) {} 0 (candles.take (index + 1)) =
        breaksFrom ⟨mssAtr, value⟩ (pivots (candles.take (index + right + 1)) left right) {} 0 (candles.take (index + 1)) := by
      rw [last, breaks_from_append, breaks_from_append, sameBreaks, sameLevels]
      rfl
    have confirmed : levelsAfter ⟨mssAtr, value⟩ (pivots (candles.take (index + right + 1)) left right) {} 0
        (candles.take (index + 1)) = levelsConfirmed candles left right mssAtr value index := by
      have unknown := filter_index_none _ index (fun swing member => Nat.ne_of_lt (early swing member))
      rw [levelsConfirmed, confirmed_fresh candles left right index within fresh split indices, levelsBefore, last,
        levels_after_append, levels_after_append, sameLevels, levelsAfter, levelsAfter, levelsAfter, levelsAfter, length,
        Levels.next, Levels.next, unknown, split, List.filter_append, unknown, List.nil_append, List.foldl_nil]
      congr 1
      exact List.filter_eq_self.mpr (fun swing member => decide_eq_true (here swing member))
    have late (swing : SwingPoint) (member : swing ∈ pivots (candles.take (index + right + 1)) left right) :
        swing.index ≤ index := by
      rw [split] at member
      rcases List.mem_append.mp member with known | new
      · exact (early swing known).le
      · exact (here swing new).le
    rw [shown, shownNext, shown_split candles right mssAtr value _ index positive within (fun swing member => (early swing member).le),
      shown_split candles right mssAtr value _ index positive within late, firsts, confirmed, List.append_cancel_left_eq]
    exact marks_agree_iff _ _ _ _ _ (activate_trend _ _).symm

theorem breaks_of_shown (positive : 0 < value) (windowed : left + right ≠ 0) (count : Nat) :
    breaksOf candles left right mssAtr value count = .ok (shown candles left right mssAtr value count) := by
  rw [breaksOf, swingPoints, if_neg (fun alone => windowed alone.1)]
  simp only [Except.map, structureBreaks, usable_some _ value positive]
  rfl

theorem breaks_of_nothing (nothing : ¬ 0 < value ∨ left + right = 0) (count : Nat) (found : List StructureBreak)
    (ran : breaksOf candles left right mssAtr value count = .ok found) : found = [] := by
  rw [breaksOf, swingPoints] at ran
  split at ran
  next => cases ran
  next there =>
    rw [Except.map, Except.ok.injEq] at ran
    rw [← ran, structureBreaks]
    rcases nothing with flat | alone
    · rw [usable_none _ value flat]
    · have empty : candles.take count = [] := by
        by_contra some
        exact there ⟨alone, some⟩
      rw [empty]
      split
      · rfl
      · rfl

theorem shown_prefix (steps : ∀ count, count < candles.length →
      shown candles left right mssAtr value count = shownNext candles left right mssAtr value count)
    (count more : Nat) (longer : count ≤ more) (within : more ≤ candles.length) :
    shown candles left right mssAtr value count =
      (shown candles left right mssAtr value more).filter (fun found => decide (found.index < count)) := by
  induction more, longer using Nat.le_induction with
  | base =>
      refine (List.filter_eq_self.mpr (fun found member => decide_eq_true ?_)).symm
      have bounds := breaks_from_index _ _ _ _ _ found member
      rw [List.length_take_of_le within] at bounds
      omega
  | succ more longer ih =>
      rw [ih (Nat.le_of_succ_le within), steps more within, ← shown_next candles left right mssAtr value more within,
        List.filter_filter]
      refine List.filter_congr (fun found _ => ?_)
      by_cases early : found.index < count
      · simp [early, early.trans_le longer]
      · simp [early]

theorem shown_next_unconfirmed (count : Nat) (within : count < candles.length) (few : count < right) :
    shown candles left right mssAtr value count = shownNext candles left right mssAtr value count := by
  obtain ⟨fresh, split, indices⟩ := pivots_next candles left right count within
  have none : fresh = [] := List.eq_nil_iff_forall_not_mem.mpr (fun swing member => by
    have index := indices swing member
    omega)
  rw [shown, shownNext, split, none, List.append_nil]

theorem no_repaint_iff : NoRepaint candles left right mssAtr value ↔ PivotsUndisturbed candles left right mssAtr value := by
  by_cases positive : 0 < value
  · by_cases alone : left + right = 0
    · refine iff_of_true (fun count more _ _ short long one other => ?_) (fun _ index _ => ?_)
      · rw [breaks_of_nothing candles left right mssAtr value (.inr alone) count short one,
          breaks_of_nothing candles left right mssAtr value (.inr alone) more long other]
        rfl
      · have none : unconfirmed candles right index = [] := by
          rw [unconfirmed, show right - 1 = 0 by omega, List.take_zero]
        rw [none]
        exact ⟨.inr (fun _ member => by cases member), .inr (fun _ member => by cases member)⟩
    · have ran := breaks_of_shown candles left right mssAtr value positive alone
      constructor
      · intro settled _ index within
        rw [← shown_next_iff candles left right mssAtr value index within, ← shown_next candles left right mssAtr value _ within]
        exact settled _ _ (Nat.le_succ _) within _ _ (ran _) (ran _)
      · intro undisturbed count more longer within short long one other
        rw [← Except.ok.inj ((ran count).symm.trans one), ← Except.ok.inj ((ran more).symm.trans other)]
        refine shown_prefix candles left right mssAtr value (fun place inside => ?_) count more longer within
        by_cases few : place < right
        · exact shown_next_unconfirmed candles left right mssAtr value place inside few
        · obtain ⟨index, rfl⟩ : ∃ index, place = index + right := ⟨place - right, by omega⟩
          exact (shown_next_iff candles left right mssAtr value index inside).mpr (undisturbed positive index inside)
  · refine iff_of_true (fun count more _ _ short long one other => ?_) (fun up => absurd up positive)
    rw [breaks_of_nothing candles left right mssAtr value (.inl positive) count short one,
      breaks_of_nothing candles left right mssAtr value (.inl positive) more long other]
    rfl

end

def bar (number : Int) (open_ high low close : ℚ) : MarketCandle :=
  ⟨"BTCUSDT", "binance", .m1, number * 60000000, (number + 1) * 60000000, open_, high, low, close, 1, 0, 0, 0, 1, true,
    "provider", []⟩

-- Candle 5 closes above the high of candle 1. The next candle confirms candle 4
-- as a higher pivot, and the break is gone.
def wick : List MarketCandle :=
  [bar 0 10 10 9 10, bar 1 10 12 10 11, bar 2 11 11 10 10, bar 3 10 11 10 10, bar 4 10 15 10 11, bar 5 11 14 11 13,
    bar 6 13 13 12 12]

theorem break_repainted : ¬ NoRepaint wick 1 2 (3 / 2) 1 := by
  intro settled
  have shown : breaksOf wick 1 2 (3 / 2) 1 6 = .ok [⟨5, .bos, .up, 12, 2, false⟩] := by decide +kernel
  have gone : breaksOf wick 1 2 (3 / 2) 1 7 = .ok [] := by decide +kernel
  cases settled 6 7 (by decide) (by decide) _ _ shown gone

end QuantEngine.Analytics
