import QuantEngine.Learning.CrossValidation
import QuantEngine.Library.Fallible
import Mathlib.Data.List.Dedup
import Mathlib.Data.List.GetD
import Mathlib.Data.List.Perm.Subperm

set_option autoImplicit false

namespace QuantEngine.Learning.CrossValidation

open DatasetBuilder

-- Where the fold `j` of `k` ends.
def boundary (n size k j : Nat) : Nat := if j + 1 = k then n else (j + 1) * size

def foldAt (n size k j : Nat) : List Nat := List.range' (j * size) (boundary n size k j - j * size)

theorem folds_from_eq (n size left j : Nat) :
    Dataset.foldsFrom n size left (j * size) = (List.range' j left).map (foldAt n size (j + left)) := by
  induction left generalizing j with
  | zero => rfl
  | succ left ih =>
      have same : (if left = 0 then n else j * size + size) = boundary n size (j + (left + 1)) j := by
        rw [boundary, Nat.succ_mul]
        congr 1
        simp
      rw [Dataset.foldsFrom, List.range'_succ, List.map_cons, foldAt, ← same]
      congr 1
      cases left with
      | zero => rfl
      | succ left =>
          have further := ih (j + 1)
          rw [Nat.succ_mul, Nat.add_right_comm, Nat.add_assoc j] at further
          exact further

variable (dataset : Dataset)

theorem folds_eq (k : Nat) (two : 2 ≤ k) (enough : k ≤ dataset.x.length) :
    dataset.folds k = (List.range' 0 k).map (foldAt dataset.x.length (dataset.x.length / k) k) := by
  have several : ¬ ((k : Int) ≤ 1 ∨ (dataset.x.length : Int) < k) := by omega
  have whole := folds_from_eq dataset.x.length (dataset.x.length / k) k 0
  rw [Nat.zero_mul, Nat.zero_add] at whole
  rw [Dataset.folds]
  simp only [if_neg several, Int.toNat_natCast]
  exact whole

theorem folds_one (k : Int) (few : k ≤ 1 ∨ (dataset.x.length : Int) < k) :
    dataset.folds k = if dataset.x.length = 0 then [] else [List.range dataset.x.length] := if_pos few

-- The rows before a fold and the fold make the rows before the next one.
theorem range_fold (size j stop : Nat) (onward : j * size ≤ stop) :
    List.range (j * size) ++ List.range' (j * size) (stop - j * size) = List.range stop := by
  have joined := List.range'_append_1 (s := 0) (m := j * size) (n := stop - j * size)
  rw [Nat.zero_add, Nat.add_sub_cancel' onward] at joined
  rw [List.range_eq_range', List.range_eq_range', joined]

theorem boundary_inner (n size k j : Nat) (inner : j + 1 ≠ k) : boundary n size k j = (j + 1) * size := if_neg inner

theorem size_bound (n k : Nat) (positive : 0 < k) (enough : k ≤ n) : 0 < n / k ∧ k * (n / k) ≤ n :=
  ⟨Nat.div_pos enough positive, Nat.mul_div_le n k⟩

theorem start_lt_boundary (n k j : Nat) (enough : k ≤ n) (inside : j < k) : j * (n / k) < boundary n (n / k) k j := by
  obtain ⟨some_, within⟩ := size_bound n k (Nat.zero_lt_of_lt inside) enough
  rw [boundary]
  split
  · have below : (j + 1) * (n / k) ≤ k * (n / k) := Nat.mul_le_mul_right _ inside
    rw [Nat.succ_mul] at below
    omega
  · rw [Nat.succ_mul]
    omega

theorem folds_flatten_from (n k left j : Nat) (enough : k ≤ n) (count : j + left = k) (some_ : 0 < left) :
    List.range (j * (n / k)) ++ ((List.range' j left).map (foldAt n (n / k) k)).flatten = List.range n := by
  induction left generalizing j with
  | zero => exact absurd some_ (lt_irrefl 0)
  | succ left ih =>
      rw [List.range'_succ, List.map_cons, List.flatten_cons, ← List.append_assoc, foldAt,
        range_fold _ _ _ (start_lt_boundary n k j enough (by omega)).le]
      cases left with
      | zero => rw [boundary, if_pos (by omega), List.range'_zero, List.map_nil, List.flatten_nil, List.append_nil]
      | succ left =>
          rw [boundary_inner n _ k j (by omega)]
          exact ih (j + 1) (by omega) (Nat.succ_pos _)

-- The folds are the rows, in order.
theorem folds_flatten (k : Int) : (dataset.folds k).flatten = List.range dataset.x.length := by
  by_cases few : k ≤ 1 ∨ (dataset.x.length : Int) < k
  · rw [folds_one dataset k few]
    split
    · rename_i none
      rw [none]
      rfl
    · rw [List.flatten_singleton]
  · obtain ⟨count, rfl⟩ := Int.eq_ofNat_of_zero_le (show 0 ≤ k by omega)
    rw [folds_eq dataset count (by omega) (by omega)]
    have whole := folds_flatten_from dataset.x.length count count 0 (by omega) (Nat.zero_add _) (by omega)
    rwa [Nat.zero_mul, List.range_zero, List.nil_append] at whole

def roundAt (k j : Nat) : Round :=
  ⟨j, List.range (j * (dataset.x.length / k)), foldAt dataset.x.length (dataset.x.length / k) k j⟩

theorem mem_rounds_from (k left j : Nat) (enough : k ≤ dataset.x.length) (count : j + left = k) (round : Round) :
    round ∈ roundsFrom dataset j (List.range (j * (dataset.x.length / k)))
        ((List.range' j left).map (foldAt dataset.x.length (dataset.x.length / k) k)) ↔
      ∃ i, j ≤ i ∧ i < k ∧ bothClasses dataset (roundAt dataset k i).train = true ∧ round = roundAt dataset k i := by
  induction left generalizing j with
  | zero =>
      refine iff_of_false (List.not_mem_nil) ?_
      rintro ⟨i, low, high, _⟩
      omega
  | succ left ih =>
      have filled : foldAt dataset.x.length (dataset.x.length / k) k j ≠ [] := by
        have room := start_lt_boundary dataset.x.length k j enough (by omega)
        rw [foldAt, ne_eq, List.range'_eq_nil_iff]
        omega
      have grown : left ≠ 0 → List.range (j * (dataset.x.length / k)) ++ foldAt dataset.x.length (dataset.x.length / k) k j =
          List.range ((j + 1) * (dataset.x.length / k)) := by
        intro more
        rw [foldAt, range_fold _ _ _ (start_lt_boundary dataset.x.length k j enough (by omega)).le,
          boundary_inner _ _ k j (by omega)]
      have later : round ∈ roundsFrom dataset (j + 1)
          (List.range (j * (dataset.x.length / k)) ++ foldAt dataset.x.length (dataset.x.length / k) k j)
          ((List.range' (j + 1) left).map (foldAt dataset.x.length (dataset.x.length / k) k)) ↔
            ∃ i, j + 1 ≤ i ∧ i < k ∧ bothClasses dataset (roundAt dataset k i).train = true ∧ round = roundAt dataset k i := by
        cases left with
        | zero =>
            refine iff_of_false (List.not_mem_nil) ?_
            rintro ⟨i, low, high, _⟩
            omega
        | succ left =>
            rw [grown (Nat.succ_ne_zero _)]
            exact ih (j + 1) (by omega)
      rw [List.range'_succ, List.map_cons, roundsFrom]
      simp only [filled, ne_eq, not_false_eq_true, and_true]
      constructor
      · intro member
        split at member
        · rename_i both
          rcases List.mem_cons.mp member with here | further
          · exact ⟨j, le_refl _, by omega, both, here⟩
          · obtain ⟨i, low, rest⟩ := later.mp further
            exact ⟨i, by omega, rest⟩
        · obtain ⟨i, low, rest⟩ := later.mp member
          exact ⟨i, by omega, rest⟩
      · rintro ⟨i, low, high, both, rfl⟩
        rcases Nat.eq_or_lt_of_le low with rfl | above
        · have starts : bothClasses dataset (List.range (j * (dataset.x.length / k))) = true := both
          rw [if_pos starts]
          exact List.mem_cons_self
        · have further := later.mpr ⟨i, above, high, both, rfl⟩
          split
          · exact List.mem_cons_of_mem _ further
          · exact further

-- The rounds that are run: those whose rows before the fold hold both labels.
theorem mem_rounds (k : Int) (round : Round) :
    round ∈ rounds dataset k ↔ ∃ count i : Nat, k = count ∧ count ≤ dataset.x.length ∧ 1 ≤ i ∧ i < count ∧
      bothClasses dataset (roundAt dataset count i).train = true ∧ round = roundAt dataset count i := by
  by_cases few : k ≤ 1 ∨ (dataset.x.length : Int) < k
  · refine iff_of_false ?_ ?_
    · rw [rounds, folds_one dataset k few]
      split
      · exact List.not_mem_nil
      · rename_i first rest same
        split at same
        · exact nomatch same
        · obtain ⟨_, rfl⟩ := List.cons.inj same
          exact List.not_mem_nil
    · rintro ⟨count, i, rfl, enough, low, high, _⟩
      omega
  · obtain ⟨count, rfl⟩ := Int.eq_ofNat_of_zero_le (show 0 ≤ k by omega)
    obtain ⟨rest, rfl⟩ := Nat.exists_eq_succ_of_ne_zero (show count ≠ 0 by omega)
    have enough : rest + 1 ≤ dataset.x.length := by omega
    have folds := folds_eq dataset (rest + 1) (by omega) enough
    rw [List.range'_succ, List.map_cons] at folds
    have first : foldAt dataset.x.length (dataset.x.length / (rest + 1)) (rest + 1) 0 =
        List.range (1 * (dataset.x.length / (rest + 1))) := by
      rw [foldAt, boundary_inner _ _ _ 0 (by omega), List.range_eq_range']
      simp
    have members := mem_rounds_from dataset (rest + 1) rest 1 enough (Nat.add_comm 1 rest) round
    rw [rounds, Nat.succ_eq_add_one, folds, first]
    refine members.trans ⟨?_, ?_⟩
    · rintro ⟨i, low, high, both, rfl⟩
      exact ⟨rest + 1, i, rfl, enough, low, high, both, rfl⟩
    · rintro ⟨count, i, same, _, low, high, both, rfl⟩
      obtain rfl : count = rest + 1 := by omega
      exact ⟨i, low, high, both, rfl⟩

theorem label_binary (trade : TradeRecord) (kind : String) :
    FeatureEngineer.label trade kind = 0 ∨ FeatureEngineer.label trade kind = 1 := by
  rw [FeatureEngineer.label]
  split
  · split <;> simp
  · split
    · split <;> simp
    · split <;> simp

variable (trades : List TradeRecord) (kind : String)

-- Some trade has the label 1 and some the label 0.
def BothLabels (first : List TradeRecord) : Prop :=
  (∃ trade ∈ first, FeatureEngineer.label trade kind = 1) ∧ ∃ trade ∈ first, FeatureEngineer.label trade kind = 0

theorem build_length : (build trades kind).x.length = trades.length := by
  rw [build, List.length_map, ordered, List.length_insertionSort]

theorem range_take {α : Type} (items : List α) (default : α) (count : Nat) (enough : count ≤ items.length) :
    (List.range count).map (fun i => items.getD i default) = items.take count := by
  refine List.ext_getElem (by simp [enough]) (fun i first second => ?_)
  have inside : i < items.length := by
    rw [List.length_take] at second
    omega
  rw [List.getElem_map, List.getElem_range, List.getElem_take, List.getD_eq_getElem _ _ inside]

theorem ordered_length : (ordered trades).length = trades.length := List.length_insertionSort _ trades

theorem build_labels (count : Nat) (enough : count ≤ trades.length) :
    (build trades kind).labels (List.range count) =
      ((ordered trades).take count).map (fun trade => FeatureEngineer.label trade kind) := by
  have size := ordered_length trades
  rw [Dataset.labels, range_take _ _ count (by rw [build, List.length_map, size]; exact enough), build, List.map_take]

theorem both_labels (count : Nat) (enough : count ≤ trades.length) :
    bothClasses (build trades kind) (List.range count) = true ↔ BothLabels kind ((ordered trades).take count) := by
  rw [bothClasses, decide_eq_true_iff, build_labels trades kind count enough]
  generalize (ordered trades).take count = first
  have known : ∀ label, label ∈ (first.map (fun trade => FeatureEngineer.label trade kind)).dedup ↔
      ∃ trade ∈ first, FeatureEngineer.label trade kind = label := fun label => by rw [List.mem_dedup, List.mem_map]
  have single := List.nodup_dedup (first.map (fun trade => FeatureEngineer.label trade kind))
  have binary : ∀ label ∈ (first.map (fun trade => FeatureEngineer.label trade kind)).dedup, label = 0 ∨ label = 1 := by
    intro label member
    obtain ⟨trade, _, rfl⟩ := (known label).mp member
    exact label_binary trade kind
  rw [BothLabels, ← known, ← known]
  constructor
  · intro two
    by_contra missing
    have one : ∃ only : Int, (first.map (fun trade => FeatureEngineer.label trade kind)).dedup ⊆ [only] := by
      rcases not_and_or.mp missing with no_one | no_zero
      · exact ⟨0, fun label member => List.mem_singleton.mpr
          ((binary label member).resolve_right (fun same => no_one (same ▸ member)))⟩
      · exact ⟨1, fun label member => List.mem_singleton.mpr
          ((binary label member).resolve_left (fun same => no_zero (same ▸ member)))⟩
    obtain ⟨only, inside⟩ := one
    have few := (List.subperm_of_subset single inside).length_le
    rw [List.length_singleton] at few
    omega
  · rintro ⟨one, zero⟩
    exact (List.subperm_of_subset (show [(1 : Int), 0].Nodup by decide) (by simp [one, zero])).length_le

-- The folds are the rows in order, and where a fold is evaluated, every trade that
-- was trained on has exited when a trade of the fold is entered.
structure Honest (k : Int) : Prop where
  folds : ((build trades kind).folds k).flatten = List.range trades.length
  known : ∀ round ∈ rounds (build trades kind) k, ∀ j ∈ round.train, ∀ l ∈ round.test, ∀ past trade,
    (ordered trades)[j]? = some past → (ordered trades)[l]? = some trade → past.exitTime ≤ trade.entryTime

-- Where the trades before a fold hold both labels, none of the fold is entered
-- before the last of them exits.
def NoneOpen (k : Int) : Prop :=
  ∀ count i : Nat, k = count → count ≤ trades.length → 1 ≤ i → i < count →
    BothLabels kind ((ordered trades).take (i * (trades.length / count))) →
      ∀ last ∈ ((ordered trades).take (i * (trades.length / count))).getLast?,
        ∀ trade ∈ ((ordered trades).take (boundary trades.length (trades.length / count) count i)).drop (i * (trades.length / count)),
          last.exitTime ≤ trade.entryTime

theorem exits_sorted : (ordered trades).Pairwise (fun a b => a.exitTime ≤ b.exitTime) := List.pairwise_insertionSort _ trades

theorem mem_fold (n size k j l : Nat) : l ∈ foldAt n size k j ↔ j * size ≤ l ∧ l < boundary n size k j := by
  rw [foldAt, List.mem_range'_1]
  omega

theorem mem_slice {α : Type} (items : List α) (start stop : Nat) (item : α) :
    item ∈ (items.take stop).drop start ↔ ∃ l, (start ≤ l ∧ l < stop) ∧ items[l]? = some item := by
  constructor
  · intro member
    obtain ⟨place, found⟩ := List.mem_iff_getElem?.mp member
    rw [List.getElem?_drop, List.getElem?_take] at found
    split at found
    · exact ⟨start + place, ⟨by omega, by omega⟩, found⟩
    · exact nomatch found
  · rintro ⟨l, ⟨low, high⟩, found⟩
    refine List.mem_iff_getElem?.mpr ⟨l - start, ?_⟩
    rw [List.getElem?_drop, List.getElem?_take, Nat.add_sub_cancel' low, if_pos high, found]

theorem last_taken {α : Type} (items : List α) (count : Nat) (some_ : 0 < count) (enough : count ≤ items.length) :
    (items.take count).getLast? = items[count - 1]? := by
  rw [List.getLast?_take, if_neg some_.ne', List.getElem?_eq_getElem (by omega)]
  rfl

theorem exit_le (j l : Nat) (upto : j ≤ l) (past later : TradeRecord) (there : (ordered trades)[j]? = some past)
    (here : (ordered trades)[l]? = some later) : past.exitTime ≤ later.exitTime := by
  obtain ⟨first, rfl⟩ := List.getElem?_eq_some_iff.mp there
  obtain ⟨second, rfl⟩ := List.getElem?_eq_some_iff.mp here
  rcases Nat.eq_or_lt_of_le upto with rfl | before
  · exact le_refl _
  · exact List.pairwise_iff_getElem.mp (exits_sorted trades) j l first second before

theorem honest_iff (k : Int) : Honest trades kind k ↔ NoneOpen trades kind k := by
  have size := ordered_length trades
  have rows := build_length trades kind
  constructor
  · intro honest count i same enough low high both last final trade member
    have room := (size_bound trades.length count (by omega) enough)
    have before : i * (trades.length / count) ≤ trades.length := (Nat.mul_le_mul_right _ high.le).trans room.2
    have some_ : 0 < i * (trades.length / count) := Nat.mul_pos low room.1
    rw [last_taken _ _ some_ (by omega)] at final
    obtain ⟨l, inside, found⟩ := (mem_slice _ _ _ _).mp member
    have run := (mem_rounds (build trades kind) k (roundAt (build trades kind) count i)).mpr
      ⟨count, i, same, by rw [rows]; exact enough, low, high, by
        rw [roundAt, rows]
        exact (both_labels trades kind _ before).mpr both, rfl⟩
    refine honest.known _ run (i * (trades.length / count) - 1) ?_ l ?_ last trade final found
    · rw [roundAt, rows]
      exact List.mem_range.mpr (by omega)
    · rw [roundAt, rows]
      exact (mem_fold _ _ _ _ _).mpr inside
  · intro settled
    refine ⟨by rw [folds_flatten, rows], ?_⟩
    intro round member j before l after past trade there here
    obtain ⟨count, i, same, enough, low, high, both, rfl⟩ := (mem_rounds (build trades kind) k round).mp member
    rw [rows] at enough
    have room := (size_bound trades.length count (by omega) enough)
    have within : i * (trades.length / count) ≤ trades.length := (Nat.mul_le_mul_right _ high.le).trans room.2
    rw [roundAt, rows] at both before after
    have trained := List.mem_range.mp before
    have inside := (mem_fold _ _ _ _ _).mp after
    have final : i * (trades.length / count) - 1 < (ordered trades).length := by omega
    have last := List.getElem?_eq_getElem final
    have closed := settled count i same enough low high ((both_labels trades kind _ within).mp both) _
      (by rw [last_taken _ _ (by omega) (by omega), last]; rfl) trade ((mem_slice _ _ _ _).mpr ⟨l, inside, here⟩)
    exact (exit_le trades j _ (by omega) past _ there last).trans closed

-- A trade that is entered at one moment and exits at another.
def heldTrade (entry exit : Int) (pnl : ℚ) : TradeRecord where
  tradeId := 1
  positionId := 1
  symbol := "EURUSD"
  side := .long
  quantity := 1
  entryTime := entry
  exitTime := exit
  entryPrice := 100
  exitPrice := 100 + pnl
  stopLoss := some 90
  takeProfit := none
  commission := 0
  slippageBps := 0
  spreadBps := 1
  pnl := pnl
  pnlGross := pnl
  rMultiple := pnl / 10
  returnPct := pnl
  atr := none
  volatility := "normal"
  regime := "trending"
  score := 50
  confidence := 1 / 2
  exitReason := .manual
  entryReasons := []
  exitReasons := []
  decisionId := none
  contextSnapshot := ⟨"trending", "trending", 0, false, false, 60⟩
  recordedAt := exit

-- The second trade is still open when the third is entered.
theorem overlap_leaks :
    ¬ Honest [heldTrade 0 2 5, heldTrade 1 6 (-5), heldTrade 3 7 5, heldTrade 8 9 (-5)] "win" 2 := by
  intro honest
  have run : Round.mk 1 [0, 1] [2, 3] ∈
      rounds (build [heldTrade 0 2 5, heldTrade 1 6 (-5), heldTrade 3 7 5, heldTrade 8 9 (-5)] "win") 2 := by decide
  have closed : (6 : Int) ≤ 3 := honest.known _ run 1 (by decide) 2 (by decide) (heldTrade 1 6 (-5)) (heldTrade 3 7 5) rfl rfl
  exact absurd closed (by decide)

end QuantEngine.Learning.CrossValidation
