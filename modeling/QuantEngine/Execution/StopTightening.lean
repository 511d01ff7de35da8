import QuantEngine.Execution.Positions
import QuantEngine.Library.Run

set_option autoImplicit false

namespace QuantEngine.StopTightening

open Run

structure Tick where
  mark : ℚ
  atr : Option ℚ
  deriving DecidableEq

def step (rules : PositionRules) (position : Position) (tick : Tick) : Position :=
  ((position.updateMark tick.mark).manage rules tick.atr).1

def Past (side : PositionSide) (level price : ℚ) : Prop :=
  match side with
  | .long => level < price
  | .short => price < level

def NoWorse (side : PositionSide) (stop moved : ℚ) : Prop :=
  match side with
  | .long => stop ≤ moved
  | .short => moved ≤ stop

def Tightens (before after : Position) : Prop :=
  ∀ stop, before.stopLoss = some stop → ∃ moved, after.stopLoss = some moved ∧ NoWorse before.side stop moved

def Trails (rules : PositionRules) (marked : Position) (atr : Option ℚ) (level candidate : ℚ) : Prop :=
  ∃ distance, marked.trailingDistance rules atr = some distance ∧
    marked.trailingCandidate distance = candidate ∧ Past marked.side level candidate

-- A due break-even finds the stop not yet past the entry, unless the trailing
-- rule of the same pass takes over; and a trailing candidate past the stop is
-- not rounded back behind it.
def Guarded (rules : PositionRules) (position : Position) (tick : Tick) : Prop :=
  let marked := position.updateMark tick.mark
  let due := marked.breakEvenDue rules = true
  ∀ stop, position.stopLoss = some stop →
    (due → (∀ candidate, ¬ Trails rules marked tick.atr position.entryPrice candidate) →
      NoWorse position.side stop position.entryPrice) ∧
    (∀ candidate, Trails rules marked tick.atr (if due then position.entryPrice else stop) candidate →
      NoWorse position.side stop (Decimal.roundTo 8 candidate))

theorem no_worse_refl (side : PositionSide) (stop : ℚ) : NoWorse side stop stop := by
  cases side <;> exact le_refl stop

theorem improves_iff (position : Position) (level candidate : ℚ) (stop : position.stopLoss = some level) :
    position.improves candidate = true ↔ Past position.side level candidate := by
  simp only [Position.improves, Past]
  cases side : position.side <;> simp [stop, Position.isLong, side]

theorem break_even_frame (rules : PositionRules) (position : Position) :
    (position.applyBreakEven rules).1.side = position.side ∧
      (∀ atr, (position.applyBreakEven rules).1.trailingDistance rules atr = position.trailingDistance rules atr) ∧
      ∀ distance, (position.applyBreakEven rules).1.trailingCandidate distance = position.trailingCandidate distance := by
  rw [Position.applyBreakEven]
  split
  · exact ⟨rfl, fun _ => rfl, fun _ => rfl⟩
  · exact ⟨rfl, fun _ => rfl, fun _ => rfl⟩

theorem break_even_stop (rules : PositionRules) (position : Position) (stop : ℚ)
    (start : position.stopLoss = some stop) :
    (position.applyBreakEven rules).1.stopLoss =
      some (if position.breakEvenDue rules = true then position.entryPrice else stop) := by
  rw [Position.applyBreakEven]
  split
  · rfl
  · exact start

theorem trailing_moves (rules : PositionRules) (position : Position) (atr : Option ℚ) (level candidate : ℚ)
    (stop : position.stopLoss = some level) (trails : Trails rules position atr level candidate) :
    (position.applyTrailing rules atr).1.stopLoss = some (Decimal.roundTo 8 candidate) := by
  obtain ⟨distance, gates, rfl, past⟩ := trails
  have better := (improves_iff position level _ stop).mpr past
  simp only [Position.applyTrailing, gates, better, if_true]

theorem trailing_rests (rules : PositionRules) (position : Position) (atr : Option ℚ) (level : ℚ)
    (stop : position.stopLoss = some level) (rests : ∀ candidate, ¬ Trails rules position atr level candidate) :
    (position.applyTrailing rules atr).1.stopLoss = some level := by
  cases gates : position.trailingDistance rules atr with
  | none => simp only [Position.applyTrailing, gates, stop]
  | some distance =>
      have worse : ¬ position.improves (position.trailingCandidate distance) = true := fun better =>
        rests _ ⟨distance, gates, rfl, (improves_iff position level _ stop).mp better⟩
      simp only [Position.applyTrailing, gates, if_neg worse, stop]

theorem manage_stop (rules : PositionRules) (position : Position) (atr : Option ℚ) (stop : ℚ)
    (start : position.stopLoss = some stop) :
    (∀ candidate,
      Trails rules position atr (if position.breakEvenDue rules = true then position.entryPrice else stop) candidate →
        (position.manage rules atr).1.stopLoss = some (Decimal.roundTo 8 candidate)) ∧
    ((∀ candidate, ¬ Trails rules position atr
        (if position.breakEvenDue rules = true then position.entryPrice else stop) candidate) →
      (position.manage rules atr).1.stopLoss =
        some (if position.breakEvenDue rules = true then position.entryPrice else stop)) := by
  obtain ⟨side, distances, candidates⟩ := break_even_frame rules position
  have level := break_even_stop rules position stop start
  have same (bound candidate : ℚ) : Trails rules (position.applyBreakEven rules).1 atr bound candidate ↔
      Trails rules position atr bound candidate := by
    simp only [Trails, side, distances, candidates]
  constructor
  · intro candidate trails
    exact trailing_moves rules _ atr _ candidate level ((same _ _).mpr trails)
  · intro rests
    exact trailing_rests rules _ atr _ level (fun candidate trails => rests candidate ((same _ _).mp trails))

theorem trails_unique (rules : PositionRules) (marked : Position) (atr : Option ℚ) (level a b : ℚ)
    (left : Trails rules marked atr level a) (right : Trails rules marked atr level b) : a = b := by
  obtain ⟨distance, gates, rfl, -⟩ := left
  obtain ⟨other, same, rfl, -⟩ := right
  cases Option.some.inj (gates.symm.trans same)
  rfl

theorem step_tightens_iff (rules : PositionRules) (position : Position) (tick : Tick) :
    Tightens position (step rules position tick) ↔ Guarded rules position tick := by
  simp only [Tightens, Guarded]
  refine forall_congr' fun stop => imp_congr_right fun start => ?_
  have marked : (position.updateMark tick.mark).stopLoss = some stop := start
  obtain ⟨moves, rests⟩ := manage_stop rules (position.updateMark tick.mark) tick.atr stop marked
  have entry : (position.updateMark tick.mark).entryPrice = position.entryPrice := rfl
  rw [entry] at moves rests
  by_cases trailing : ∃ candidate, Trails rules (position.updateMark tick.mark) tick.atr
      (if (position.updateMark tick.mark).breakEvenDue rules = true then position.entryPrice else stop) candidate
  · obtain ⟨candidate, trails⟩ := trailing
    have after := moves candidate trails
    constructor
    · rintro ⟨moved, now, kept⟩
      have eq : moved = Decimal.roundTo 8 candidate := Option.some_injective _ (now.symm.trans after)
      refine ⟨fun due alone => ?_, fun other also => ?_⟩
      · rw [if_pos due] at trails
        exact absurd trails (alone candidate)
      · rw [trails_unique rules _ _ _ other candidate also trails, ← eq]
        exact kept
    · intro guarded
      exact ⟨_, after, guarded.2 candidate trails⟩
  · have still := not_exists.mp trailing
    have after := rests still
    constructor
    · rintro ⟨moved, now, kept⟩
      have eq := Option.some_injective _ (now.symm.trans after)
      refine ⟨fun due _ => ?_, fun other also => absurd also (still other)⟩
      rw [eq, if_pos due] at kept
      exact kept
    · intro guarded
      refine ⟨_, after, ?_⟩
      by_cases due : (position.updateMark tick.mark).breakEvenDue rules = true
      · rw [if_pos due]
        rw [if_pos due] at still
        exact guarded.1 due still
      · rw [if_neg due]
        exact no_worse_refl position.side stop

-- The stop of a position never loosens along a sequence of passes exactly when
-- every pass of the sequence is guarded.
theorem stop_tightens_iff (rules : PositionRules) (position : Position) (ticks : List Tick) :
    Along (step rules) Tightens position ticks ↔ Each (step rules) (Guarded rules) position ticks :=
  each_iff (step rules) _ _ (fun _ => True) (fun position tick _ => step_tightens_iff rules position tick)
    (fun _ _ _ _ => trivial) position ticks trivial

def lateBreakEven : PositionRules := { breakEvenR := 3, trailingActivateR := 1, trailingAtrMultiple := 1 }

def bought : Position :=
  .ofFill { requestId := .fresh 0, symbol := "BTCUSDT", side := .buy, quantity := 1, requestedQuantity := 1,
            referencePrice := 100, price := 100, executedAt := 0 }
    (some 99) none none "trending" 0 0 [] none "normal"

-- At 102 the trailing stop goes to 101; at 103 break-even takes it back to the
-- entry, and the ATR has grown too far for the trailing rule to catch up.
theorem break_even_loosens :
    ¬ Along (step lateBreakEven) Tightens bought [⟨102, some 1⟩, ⟨103, some 4⟩] := by
  intro along
  have trailed : (step lateBreakEven bought ⟨102, some 1⟩).stopLoss = some 101 := by decide +kernel
  have reset : (step lateBreakEven (step lateBreakEven bought ⟨102, some 1⟩) ⟨103, some 4⟩).stopLoss =
      some 100 := by decide +kernel
  obtain ⟨moved, now, kept⟩ := along.2.1 101 trailed
  have eq : moved = 100 := Option.some_injective _ (now.symm.trans reset)
  have long : (step lateBreakEven bought ⟨102, some 1⟩).side = .long := by decide +kernel
  simp only [eq, long, NoWorse] at kept
  exact absurd kept (by decide +kernel)

end QuantEngine.StopTightening
