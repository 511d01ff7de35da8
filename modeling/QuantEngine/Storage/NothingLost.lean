import Mathlib.Data.List.Perm.Basic
import Mathlib.Tactic.Set
import QuantEngine.Storage.BatchWriter

set_option autoImplicit false

namespace QuantEngine.NothingLost

open QuantEngine.BatchWriter QuantEngine.Candles QuantEngine.Task
open Run (final)

variable {Row : Type} (settings : WriterSettings)

-- Each row added is in one place, `flying` being with the database.
def Accounted (w : Writer Row) (flying : List Row) : Prop :=
  w.added.Perm (w.evicted ++ (w.database ++ (w.spillFiles ++ (w.buffers .first ++ (w.buffers .second ++ flying)))))

-- Nothing is left in memory, and each row that a full buffer did not drop is in
-- the database or in the spill files.
def Kept (w : Writer Row) : Prop :=
  (∀ label, w.buffers label = []) ∧ w.added.Perm (w.evicted ++ (w.database ++ w.spillFiles))

theorem accounted_iff [DecidableEq Row] (w : Writer Row) (flying : List Row) :
    Accounted w flying ↔ ∀ row, w.added.count row = w.evicted.count row + w.database.count row + w.spillFiles.count row +
      (w.buffers .first).count row + (w.buffers .second).count row + flying.count row := by
  rw [Accounted, List.perm_iff_count]
  simp only [List.count_append, add_assoc]

theorem overflow_split [DecidableEq Row] (rows : List Row) (row other : Row) :
    (overflow settings rows row).count other + (Deque.push settings.bufferLimit rows row).count other =
      rows.count other + [row].count other := by
  have parts := List.take_append_drop (rows.length + 1 - settings.bufferLimit) (rows ++ [row])
  rw [overflow, Deque.push, Deque.newest, List.length_append, List.length_singleton, ← List.count_append, parts,
    List.count_append]

theorem add_accounted (w : Writer Row) (flying : List Row) (accounted : Accounted w flying) (entry : Label × Row) :
    Accounted (add settings w entry) flying := by
  classical
  rw [add]
  split
  · rw [accounted_iff] at accounted ⊢
    intro row
    have before := accounted row
    have moved := overflow_split settings (w.buffers entry.1) entry.2 row
    obtain ⟨label, fresh⟩ := entry
    cases label with
    | first =>
        simp only [List.count_append, Function.update_self, Function.update_of_ne (show Label.second ≠ .first by decide)] at moved ⊢
        omega
    | second =>
        simp only [List.count_append, Function.update_self, Function.update_of_ne (show Label.first ≠ .second by decide)] at moved ⊢
        omega
  · exact accounted

theorem adds_accounted (w : Writer Row) (flying : List Row) (accounted : Accounted w flying) (entries : List (Label × Row)) :
    Accounted (entries.foldl (add settings) w) flying := by
  induction entries generalizing w with
  | nil => exact accounted
  | cons entry rest ih => exact ih _ (add_accounted settings w flying accounted entry)

theorem take_accounted (w : Writer Row) (flying : List Row) (accounted : Accounted w flying) (label : Label) :
    Accounted (takeBatch settings label w).2 (flying ++ (takeBatch settings label w).1) := by
  classical
  rw [accounted_iff] at accounted ⊢
  intro row
  have before := accounted row
  have parts := congrArg (List.count row) (List.take_append_drop settings.batchSize.toNat (w.buffers label))
  rw [List.count_append] at parts
  cases label with
  | first =>
      simp only [takeBatch, List.count_append, Function.update_self,
        Function.update_of_ne (show Label.second ≠ .first by decide)]
      omega
  | second =>
      simp only [takeBatch, List.count_append, Function.update_self,
        Function.update_of_ne (show Label.first ≠ .second by decide)]
      omega

theorem wrote_accounted (w : Writer Row) (flying batch : List Row) (accounted : Accounted w (flying ++ batch)) :
    Accounted (wrote batch w) flying := by
  classical
  rw [accounted_iff] at accounted ⊢
  intro row
  have before := accounted row
  simp only [wrote, List.count_append] at before ⊢
  omega

theorem spill_accounted (w : Writer Row) (flying batch : List Row) (accounted : Accounted w (flying ++ batch)) :
    Accounted (spill batch w) flying := by
  classical
  rw [accounted_iff] at accounted ⊢
  intro row
  have before := accounted row
  simp only [spill, List.count_append] at before ⊢
  omega

theorem flush_batch_eq (label : Label) (w : Writer Row) :
    flushBatch settings label w =
      (if (w.buffers label).isEmpty then pure ()
      else do
        let batch ← sync (takeBatch settings label)
        let outcome ← suspend ⟨label, batch⟩
        resolve batch outcome : WriterTask Row Unit) w := rfl

theorem flush_batch_empty (label : Label) (w : Writer Row) (empty : w.buffers label = []) :
    flushBatch settings label w = .done w () := by
  rw [flush_batch_eq, empty]
  rfl

theorem flush_batch_waits (label : Label) (w : Writer Row) (some : w.buffers label ≠ []) :
    flushBatch settings label w =
      .await (takeBatch settings label w).2 ⟨label, (takeBatch settings label w).1⟩
        (fun later outcome => resolve (takeBatch settings label w).1 outcome later) := by
  have filled : ¬ (w.buffers label).isEmpty = true := by simpa using some
  rw [flush_batch_eq, if_neg filled]
  rfl

def rest : Label → WriterTask Row Unit
  | .first => flushBatch settings .second
  | .second => pure ()

def flightOf (label : Label) (batch : List Row) : Suspended (Writer Row) (Insert Row) BatchWriter.Outcome :=
  ⟨⟨label, batch⟩, fun later outcome => (resolve batch outcome later).bind (fun w _ => rest settings label w)⟩

theorem second_flight (batch : List Row) :
    (⟨⟨.second, batch⟩, fun later outcome => resolve batch outcome later⟩ : Suspended (Writer Row) (Insert Row) BatchWriter.Outcome) =
      flightOf settings .second batch := by
  rw [flightOf]
  congr 1
  funext later outcome
  cases outcome with
  | committed => rfl
  | failed => rfl
  | cancelled afterCommit => rfl

structure Good (s : System Row) : Prop where
  resting : s.flight = none → Accounted s.writer []
  waiting : ∀ task, s.flight = some task →
    ∃ label batch, task = flightOf settings label batch ∧ Accounted s.writer batch

theorem settle_second (w : Writer Row) (accounted : Accounted w []) : Good settings (settle (flushBatch settings .second w)) := by
  by_cases empty : w.buffers .second = []
  · rw [flush_batch_empty settings .second w empty]
    exact ⟨fun _ => accounted, fun task found => absurd found.symm (Option.some_ne_none task)⟩
  · rw [flush_batch_waits settings .second w empty, settle]
    refine ⟨fun none => absurd none (Option.some_ne_none _), fun task found => ?_⟩
    refine ⟨.second, (takeBatch settings .second w).1, ?_, take_accounted settings w [] accounted .second⟩
    exact (Option.some.inj found).symm.trans (second_flight settings _)

theorem flush_eq (w : Writer Row) :
    flush settings w = (flushBatch settings .first w).bind (fun later _ => flushBatch settings .second later) := rfl

theorem settle_flush (w : Writer Row) (accounted : Accounted w []) : Good settings (settle (flush settings w)) := by
  rw [flush_eq]
  by_cases empty : w.buffers .first = []
  · rw [flush_batch_empty settings .first w empty]
    exact settle_second settings w accounted
  · rw [flush_batch_waits settings .first w empty, Co.bind, settle]
    refine ⟨fun none => absurd none (Option.some_ne_none _), fun task found => ?_⟩
    refine ⟨.first, (takeBatch settings .first w).1, ?_, take_accounted settings w [] accounted .first⟩
    exact (Option.some.inj found).symm

theorem settle_rest (label : Label) (w : Writer Row) (accounted : Accounted w []) :
    Good settings (settle (rest settings label w)) := by
  cases label with
  | first => exact settle_second settings w accounted
  | second => exact ⟨fun _ => accounted, fun task found => absurd found.symm (Option.some_ne_none task)⟩

theorem answered_good (s : System Row) (good : Good settings s) (committed : Bool) :
    Good settings (answered s (outcomeOf committed)) := by
  rw [answered]
  cases flight : s.flight with
  | none => exact good
  | some task =>
      obtain ⟨label, batch, rfl, accounted⟩ := good.waiting task flight
      cases committed with
      | true => exact settle_rest settings label _ (wrote_accounted s.writer [] batch accounted)
      | false => exact settle_rest settings label _ (spill_accounted s.writer [] batch accounted)

theorem step_good (s : System Row) (action : WriterAction Row) (good : Good settings s) :
    Good settings (step settings s action) := by
  cases action with
  | add entries =>
      refine ⟨fun none => adds_accounted settings _ _ (good.resting none) entries, fun task found => ?_⟩
      obtain ⟨label, batch, shape, accounted⟩ := good.waiting task found
      exact ⟨label, batch, shape, adds_accounted settings _ _ accounted entries⟩
  | wake =>
      rw [step, wake]
      split
      · rename_i idle
        exact settle_flush settings s.writer (good.resting (Option.isNone_iff_eq_none.mp idle.2))
      · exact good
  | answer committed => exact answered_good settings s good committed

theorem start_good : Good settings (System.start : System Row) :=
  ⟨fun _ => List.Perm.refl _, fun task found => absurd found.symm (Option.some_ne_none task)⟩

theorem run_good (actions : List (WriterAction Row)) : Good settings (final (step settings) System.start actions) :=
  Run.final_preserved (step settings) (Good settings) (fun s action => step_good settings s action) _ actions
    (start_good settings)

def drained (commits : Label → Bool) (label : Label) (w : Writer Row) : Writer Row :=
  if w.buffers label = [] then w
  else if commits label then wrote (takeBatch settings label w).1 (takeBatch settings label w).2
  else spill (takeBatch settings label w).1 (takeBatch settings label w).2

theorem drained_accounted (commits : Label → Bool) (label : Label) (w : Writer Row) (flying : List Row)
    (accounted : Accounted w flying) : Accounted (drained settings commits label w) flying := by
  have taken := take_accounted settings w flying accounted label
  rw [drained]
  split
  · exact accounted
  · split
    · exact wrote_accounted _ flying _ taken
    · exact spill_accounted _ flying _ taken

theorem drained_buffers (commits : Label → Bool) (label other : Label) (w : Writer Row) :
    (drained settings commits label w).buffers other =
      if other = label then (w.buffers label).drop settings.batchSize.toNat else w.buffers other := by
  have taken : (takeBatch settings label w).2.buffers other =
      if other = label then (w.buffers label).drop settings.batchSize.toNat else w.buffers other := by
    simp only [takeBatch, Function.update_apply]
  rw [drained]
  by_cases empty : w.buffers label = []
  · rw [if_pos empty]
    by_cases same : other = label
    · rw [if_pos same, same, empty, List.drop_nil]
    · rw [if_neg same]
  · rw [if_neg empty, ← taken]
    split
    · rfl
    · rfl

theorem finish_batch (commits : Label → Bool) (label : Label) (w : Writer Row) (next : WriterTask Row Unit) :
    Co.finish (fun point => outcomeOf (commits point.label)) ((flushBatch settings label w).bind (fun later _ => next later)) =
      Co.finish (fun point => outcomeOf (commits point.label)) (next (drained settings commits label w)) := by
  rw [drained]
  by_cases empty : w.buffers label = []
  · rw [flush_batch_empty settings label w empty, if_pos empty]
    rfl
  · rw [flush_batch_waits settings label w empty, if_neg empty, Co.bind, Co.finish]
    cases committed : commits label with
    | true => rfl
    | false => rfl

theorem stop_eq (s : System Row) (afterCommit : Bool) (commits : Label → Bool) :
    stop settings s afterCommit commits =
      drained settings commits .second (drained settings commits .first (answered s (.cancelled afterCommit)).writer) := by
  have last := finish_batch settings commits .second
    (drained settings commits .first (answered s (.cancelled afterCommit)).writer) (fun later => .done later ())
  rw [Co.bind_done] at last
  rw [stop, flush_eq, finish_batch settings commits .first _ (flushBatch settings .second), last]
  rfl

-- The batch in flight is lost when the cancellation comes before the commit.
theorem cancelled_accounted (s : System Row) (good : Good settings s) (afterCommit : Bool) :
    ∃ lost, Accounted (answered s (.cancelled afterCommit)).writer lost ∧
      (answered s (.cancelled afterCommit)).writer.buffers = s.writer.buffers ∧
      (lost = [] ↔ ∀ task, s.flight = some task → afterCommit = true ∨ task.point.batch = []) := by
  cases flight : s.flight with
  | none =>
      have same : answered s (.cancelled afterCommit) = s := by
        rw [answered, flight]
      rw [same]
      exact ⟨[], good.resting flight, rfl, fun _ task found => absurd found.symm (Option.some_ne_none task), fun _ => rfl⟩
  | some task =>
      obtain ⟨label, batch, rfl, accounted⟩ := good.waiting task flight
      have after : (answered s (.cancelled afterCommit)).writer = interrupted afterCommit batch s.writer := by
        rw [answered, flight]
        rfl
      rw [after]
      cases afterCommit with
      | true =>
          have committed : Accounted (wrote batch s.writer) [] := wrote_accounted s.writer [] batch accounted
          exact ⟨[], committed, rfl, fun _ _ _ => Or.inl rfl, fun _ => rfl⟩
      | false =>
          refine ⟨batch, accounted, rfl, fun empty task found => ?_, fun all => ?_⟩
          · rw [← Option.some.inj found]
            exact Or.inr empty
          · cases all _ rfl with
            | inl no => cases no
            | inr empty => exact empty

-- No batch is with the database uncommitted when the task is cancelled, and one
-- batch of each buffer takes all of it.
def Drains (s : System Row) (afterCommit : Bool) : Prop :=
  (∀ task, s.flight = some task → afterCommit = true ∨ task.point.batch = []) ∧
    ∀ label, (s.writer.buffers label).length ≤ settings.batchSize.toNat

theorem stop_kept_iff (s : System Row) (good : Good settings s) (afterCommit : Bool) (commits : Label → Bool) :
    Kept (stop settings s afterCommit commits) ↔ Drains settings s afterCommit := by
  obtain ⟨lost, accounted, buffers, none⟩ := cancelled_accounted settings s good afterCommit
  rw [stop_eq]
  generalize (answered s (.cancelled afterCommit)).writer = w at accounted buffers
  have after := drained_accounted settings commits .second _ lost (drained_accounted settings commits .first w lost accounted)
  have left (label : Label) : (drained settings commits .second (drained settings commits .first w)).buffers label =
      (s.writer.buffers label).drop settings.batchSize.toNat := by
    rw [drained_buffers, drained_buffers, drained_buffers, buffers]
    cases label with
    | first => rfl
    | second => rfl
  generalize drained settings commits .second (drained settings commits .first w) = ended at after left
  have empties : (∀ label, ended.buffers label = []) ↔ ∀ label, (s.writer.buffers label).length ≤ settings.batchSize.toNat :=
    forall_congr' (fun label => by rw [left, List.drop_eq_nil_iff])
  constructor
  · intro kept
    refine ⟨none.mp ?_, empties.mp kept.1⟩
    have sizes := after.length_eq.symm.trans kept.2.length_eq
    simp only [List.length_append, kept.1 .first, kept.1 .second, List.length_nil] at sizes
    exact List.eq_nil_of_length_eq_zero (by omega)
  · intro drains
    have cleared := empties.mpr drains.2
    refine ⟨cleared, ?_⟩
    rw [Accounted, cleared .first, cleared .second, none.mpr drains.1] at after
    simpa using after

theorem run_kept_iff (actions : List (WriterAction Row)) (afterCommit : Bool) (commits : Label → Bool) :
    Kept (stop settings (final (step settings) System.start actions) afterCommit commits) ↔
      Drains settings (final (step settings) System.start actions) afterCommit :=
  stop_kept_iff settings _ (run_good settings actions) afterCommit commits

def oneTrade : Trade := ⟨"BTCUSDT", "binance", "", 100, 1, .buy, 0, 0⟩

end QuantEngine.NothingLost
