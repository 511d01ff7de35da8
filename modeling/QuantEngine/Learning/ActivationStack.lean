import Mathlib
import QuantEngine.Learning.Registry
import QuantEngine.Library.Deque
import QuantEngine.Library.Run

set_option autoImplicit false

namespace QuantEngine.Learning.ActivationStack

open ModelRegistry
open Run (Each Always final)

variable {F M : Type}

def isVerdict (id : String) (entry : AuditEntry F) : Bool :=
  decide (entry.modelId = id) && (decide (entry.action = .approve) || decide (entry.action = .reject))

-- The gate's last word on a model, from the audit trail.
def latestVerdict (registry : ModelRegistry F M) (id : String) : Option AuditAction :=
  ((registry.audit.filter (isVerdict id)).getLast?).map AuditEntry.action

def Rejected (registry : ModelRegistry F M) (id : String) : Prop := latestVerdict registry id = some .reject

-- The three places that name the active model agree, it is not a rejected one,
-- and no two models of a type have one version.
structure Sound (registry : ModelRegistry F M) : Prop where
  named : ∀ id, registry.activeId = some id → id ∈ registry.records.keys
  flag : ∀ id record, registry.records.lookup id = some record → (record.active = true ↔ registry.activeId = some id)
  state : ∀ id record, registry.records.lookup id = some record → (record.state = .active ↔ registry.activeId = some id)
  gate : ∀ id, registry.activeId = some id → ¬ Rejected registry id
  versions : ∀ first second one two, registry.records.lookup first = some one → registry.records.lookup second = some two →
    first ≠ second → one.modelType = two.modelType → one.version ≠ two.version

-- No model is registered as active, the gate does not speak on the active
-- model, and no rejected model is activated or restored.
def Allowed (registry : ModelRegistry F M) : RegistryCall F M → Prop
  | .register _ given _ => given.state ≠ .active
  | .approve id _ _ => registry.activeId ≠ some id
  | .reject id _ _ => registry.activeId ≠ some id
  | .activate id _ => id ∈ registry.records.keys → ¬ Rejected registry id
  | .rollback _ => ∀ id, registry.activationStack.getLast? = some id → ¬ Rejected registry id

def activations (now : String) (ids : List String) (registry : ModelRegistry F M) : ModelRegistry F M :=
  ids.foldl (fun registry id => (registry.activate id now).2) registry

def rollbacks (now : String) : Nat → ModelRegistry F M → ModelRegistry F M
  | 0, registry => registry
  | count + 1, registry => rollbacks now count (registry.rollback now).2

-- Registered models, each other than the one active at its turn.
def Others (registry : ModelRegistry F M) (now : String) : List String → Prop
  | [] => True
  | id :: rest => id ∈ registry.records.keys ∧ registry.activeId ≠ some id ∧ Others (registry.activate id now).2 now rest

def flagOf (registry : ModelRegistry F M) (id : String) : Option Bool := (registry.records.lookup id).map ModelRecord.active

def Restored (before after : ModelRegistry F M) : Prop :=
  after.activeId = before.activeId ∧ ∀ id, flagOf after id = flagOf before id

def count (registry : ModelRegistry F M) (modelType : String) : Nat :=
  (registry.records.values.filter (fun record => decide (record.modelType = modelType))).length

-- What holds after any calls.
structure Base (ids : IdSource) (registry : ModelRegistry F M) : Prop where
  named : ∀ id, registry.activeId = some id → id ∈ registry.records.keys
  stacked : ∀ id ∈ registry.activationStack, id ∈ registry.records.keys
  drawn : ∀ id ∈ registry.records.keys, ∃ number < registry.drawn, id = ids.draw number
  flag : ∀ id record, registry.records.lookup id = some record → (record.active = true ↔ registry.activeId = some id)
  numbered : ∀ id record, registry.records.lookup id = some record →
    ∃ number ≤ count registry record.modelType, record.version = versionText number
  versions : ∀ first second one two, registry.records.lookup first = some one → registry.records.lookup second = some two →
    first ≠ second → one.modelType = two.modelType → one.version ≠ two.version

structure Inv (ids : IdSource) (registry : ModelRegistry F M) : Prop extends Base ids registry where
  state : ∀ id record, registry.records.lookup id = some record → (record.state = .active ↔ registry.activeId = some id)
  gate : ∀ id, registry.activeId = some id → ¬ Rejected registry id

def undoStack (registry : ModelRegistry F M) : UndoStack String := ⟨registry.activeId, registry.activationStack⟩

theorem version_text_injective : Function.Injective versionText := by
  intro first second same
  rw [versionText, versionText] at same
  have texts : Nat.repr first = Nat.repr second := by simpa using same
  exact Nat.repr_inj.mp texts

theorem latest_verdict_log (registry other : ModelRegistry F M) (id : String) (entry : AuditEntry F)
    (audit : other.audit = registry.audit ++ [entry]) :
    latestVerdict other id = if isVerdict id entry then some entry.action else latestVerdict registry id := by
  rw [latestVerdict, audit, List.filter_append]
  by_cases own : isVerdict id entry = true
  · simp [own]
  · simp [own, latestVerdict]

theorem rejected_log (registry other : ModelRegistry F M) (id : String) (entry : AuditEntry F)
    (audit : other.audit = registry.audit ++ [entry]) (foreign : isVerdict id entry = false) :
    Rejected other id ↔ Rejected registry id := by
  rw [Rejected, latest_verdict_log registry other id entry audit, foreign, Rejected]
  exact Iff.rfl

-- The models are the same ones, of the same types and versions.
structure SameModels (before after : ModelRegistry F M) : Prop where
  keys : after.records.keys = before.records.keys
  drawn : after.drawn = before.drawn
  counts : ∀ modelType, count after modelType = count before modelType
  cards : ∀ id record, after.records.lookup id = some record → ∃ old, before.records.lookup id = some old ∧
    record.modelType = old.modelType ∧ record.version = old.version

theorem SameModels.trans {a b c : ModelRegistry F M} (first : SameModels a b) (second : SameModels b c) : SameModels a c where
  keys := second.keys.trans first.keys
  drawn := second.drawn.trans first.drawn
  counts modelType := (second.counts modelType).trans (first.counts modelType)
  cards id record found := by
    obtain ⟨middle, present, modelType, version⟩ := second.cards id record found
    obtain ⟨old, earlier, sameType, sameVersion⟩ := first.cards id middle present
    exact ⟨old, earlier, modelType.trans sameType, version.trans sameVersion⟩

theorem change_same_models (registry other : ModelRegistry F M) (id : String) (f : ModelRecord F → ModelRecord F)
    (keeps : ∀ record, (f record).modelType = record.modelType ∧ (f record).version = record.version)
    (records : other.records = registry.records.modify id f) (drawn : other.drawn = registry.drawn) :
    SameModels registry other := by
  refine ⟨by rw [records, Dict.keys_modify], drawn, fun modelType => ?_, fun name record found => ?_⟩
  · have types := Dict.values_modify registry.records id f ModelRecord.modelType (fun record => (keeps record).1)
    have through (values : List (ModelRecord F)) :
        (values.filter (fun record => decide (record.modelType = modelType))).length =
          ((values.map ModelRecord.modelType).filter (fun text => decide (text = modelType))).length := by
      rw [List.filter_map, List.length_map]
      rfl
    rw [count, count, through, through, records, types]
  · rw [records] at found
    obtain ⟨old, present, rfl | rfl⟩ := Dict.lookup_modify_old registry.records id name f record found
    · exact ⟨old, present, keeps old⟩
    · exact ⟨record, present, rfl, rfl⟩

theorem same_models_base (ids : IdSource) (before after : ModelRegistry F M) (same : SameModels before after)
    (named : ∀ id, after.activeId = some id → id ∈ before.records.keys)
    (stacked : ∀ id ∈ after.activationStack, id ∈ before.records.keys)
    (flag : ∀ id record, after.records.lookup id = some record → (record.active = true ↔ after.activeId = some id))
    (base : Base ids before) : Base ids after := by
  refine ⟨same.keys ▸ named, same.keys ▸ stacked, ?_, flag, fun id record found => ?_, ?_⟩
  · rw [same.keys, same.drawn]
    exact base.drawn
  · obtain ⟨old, present, modelType, version⟩ := same.cards id record found
    rw [same.counts, modelType, version]
    exact base.numbered id old present
  · intro first second one two foundOne foundTwo apart alike
    obtain ⟨oldOne, presentOne, typeOne, versionOne⟩ := same.cards first one foundOne
    obtain ⟨oldTwo, presentTwo, typeTwo, versionTwo⟩ := same.cards second two foundTwo
    rw [versionOne, versionTwo]
    exact base.versions first second oldOne oldTwo presentOne presentTwo apart (typeOne.symm.trans (alike.trans typeTwo))

theorem sound_of_inv (ids : IdSource) (registry : ModelRegistry F M) (inv : Inv ids registry) : Sound registry :=
  ⟨inv.named, inv.flag, inv.state, inv.gate, inv.versions⟩

-- What `approve` and `reject` do to a model that is known.
def judge (registry : ModelRegistry F M) (id : String) (f : ModelRecord F → ModelRecord F) (entry : AuditEntry F) :
    ModelRegistry F M :=
  { registry.change id f with audit := registry.audit ++ [entry] }

-- What `activate` and `rollback` do.
def switchTo (registry : ModelRegistry F M) (id : String) (stack : List String) (entry : AuditEntry F) : ModelRegistry F M :=
  let left := match registry.activeId with
    | some previous => registry.change previous archived
    | none => registry
  { left.change id activated with
    activeId := some id, activationStack := stack, audit := registry.audit ++ [entry] }

theorem approve_cases (registry : ModelRegistry F M) (id reasons now : String) :
    (id ∉ registry.records.keys ∧ (registry.approve id reasons now).2 = registry) ∨
      id ∈ registry.records.keys ∧ ∃ f entry, (registry.approve id reasons now).2 = judge registry id f entry ∧
        isVerdict id entry = true ∧ entry.action = .approve ∧ (∀ record, (f record).state = .approved) ∧
        ∀ record, (f record).active = record.active ∧ (f record).modelType = record.modelType ∧
          (f record).version = record.version := by
  rw [approve]
  cases found : registry.records.lookup id with
  | none => exact .inl ⟨(Dict.lookup_none_iff _ _).mp found, rfl⟩
  | some record =>
      refine .inr ⟨Dict.mem_keys_of_lookup _ _ _ found, _, _, rfl, ?_, rfl, fun _ => rfl, fun _ => ⟨rfl, rfl, rfl⟩⟩
      simp [isVerdict]

theorem reject_cases (registry : ModelRegistry F M) (id reasons now : String) :
    (id ∉ registry.records.keys ∧ (registry.reject id reasons now).2 = registry) ∨
      id ∈ registry.records.keys ∧ ∃ f entry, (registry.reject id reasons now).2 = judge registry id f entry ∧
        isVerdict id entry = true ∧ entry.action = .reject ∧ (∀ record, (f record).state = .rejected) ∧
        ∀ record, (f record).active = record.active ∧ (f record).modelType = record.modelType ∧
          (f record).version = record.version := by
  rw [reject]
  cases found : registry.records.lookup id with
  | none => exact .inl ⟨(Dict.lookup_none_iff _ _).mp found, rfl⟩
  | some record =>
      refine .inr ⟨Dict.mem_keys_of_lookup _ _ _ found, _, _, rfl, ?_, rfl, fun _ => rfl, fun _ => ⟨rfl, rfl, rfl⟩⟩
      simp [isVerdict]

theorem activate_cases (registry : ModelRegistry F M) (id now : String)
    (named : ∀ previous, registry.activeId = some previous → previous ∈ registry.records.keys) :
    (id ∉ registry.records.keys ∧ (registry.activate id now).2 = registry) ∨
      id ∈ registry.records.keys ∧ ∃ entry stack, (registry.activate id now).2 = switchTo registry id stack entry ∧
        entry.action = .activate ∧
        stack = match registry.activeId with
          | some previous => if previous = id then registry.activationStack
            else Deque.push stackLimit registry.activationStack previous
          | none => registry.activationStack := by
  rw [activate]
  cases found : registry.records.lookup id with
  | none => exact .inl ⟨(Dict.lookup_none_iff _ _).mp found, rfl⟩
  | some record =>
      refine .inr ⟨Dict.mem_keys_of_lookup _ _ _ found, ⟨.activate, id, now, [("previous", optionText registry.activeId)]⟩, ?_⟩
      cases active : registry.activeId with
      | none =>
          refine ⟨_, ?_, rfl, rfl⟩
          simp only [switchTo, active, logAudit, change]
      | some previous =>
          dsimp only
          by_cases same : previous = id
          · subst same
            refine ⟨registry.activationStack, ?_, rfl, (if_pos rfl).symm⟩
            have twice : (registry.records.modify previous archived).modify previous activated =
                registry.records.modify previous activated := Dict.modify_modify _ _ _ _
            simp only [switchTo, active, logAudit, change, twice, ne_eq, not_true_eq_false, and_false, if_false]
          · refine ⟨_, ?_, rfl, (if_neg same).symm⟩
            rw [if_pos ⟨named previous active, same⟩]
            simp only [switchTo, active, logAudit, change]

theorem rollback_cases (registry : ModelRegistry F M) (now : String)
    (stacked : ∀ id ∈ registry.activationStack, id ∈ registry.records.keys) :
    (registry.activationStack.getLast? = none ∧ (registry.rollback now).2 = registry) ∨
      ∃ restore entry, registry.activationStack.getLast? = some restore ∧ restore ∈ registry.records.keys ∧
        (registry.rollback now).2 = switchTo registry restore registry.activationStack.dropLast entry ∧
        entry.action = .rollback := by
  rw [rollback]
  cases last : registry.activationStack.getLast? with
  | none => exact .inl ⟨rfl, rfl⟩
  | some restore =>
      have known := stacked restore (List.mem_of_getLast? last)
      obtain ⟨record, found⟩ := Dict.lookup_of_mem_keys _ _ known
      refine .inr ⟨restore, ⟨.rollback, restore, now, [("from", optionText registry.activeId)]⟩, rfl, known, ?_, rfl⟩
      simp only [found]
      cases active : registry.activeId with
      | none => simp only [switchTo, active, logAudit, change]
      | some current => simp only [switchTo, active, logAudit, change]

theorem judge_lookup (registry : ModelRegistry F M) (id : String) (f : ModelRecord F → ModelRecord F) (entry : AuditEntry F)
    (name : String) : (judge registry id f entry).records.lookup name =
      if name = id then (registry.records.lookup name).map f else registry.records.lookup name :=
  Dict.lookup_modify _ _ _ _

theorem judge_base (ids : IdSource) (registry : ModelRegistry F M) (id : String) (f : ModelRecord F → ModelRecord F)
    (entry : AuditEntry F)
    (keeps : ∀ record, (f record).active = record.active ∧ (f record).modelType = record.modelType ∧
      (f record).version = record.version) (base : Base ids registry) : Base ids (judge registry id f entry) := by
  refine same_models_base ids registry _ (change_same_models registry _ id f (fun record => (keeps record).2) rfl rfl)
    base.named base.stacked (fun name record present => ?_) base
  rw [judge_lookup] at present
  by_cases here : name = id
  · rw [if_pos here, Option.map_eq_some_iff] at present
    obtain ⟨old, earlier, rfl⟩ := present
    rw [(keeps old).1]
    exact base.flag name old earlier
  · rw [if_neg here] at present
    exact base.flag name record present

theorem judge_inv (ids : IdSource) (registry : ModelRegistry F M) (id : String) (f : ModelRecord F → ModelRecord F)
    (entry : AuditEntry F) (known : id ∈ registry.records.keys) (own : isVerdict id entry = true)
    (inactive : ∀ record, (f record).state ≠ .active)
    (keeps : ∀ record, (f record).active = record.active ∧ (f record).modelType = record.modelType ∧
      (f record).version = record.version) (inv : Inv ids registry) :
    (Sound (judge registry id f entry) ↔ registry.activeId ≠ some id) ∧
      (registry.activeId ≠ some id → Inv ids (judge registry id f entry)) := by
  have kept (idle : registry.activeId ≠ some id) : Inv ids (judge registry id f entry) := by
    refine { judge_base ids registry id f entry keeps inv.toBase with
      state := fun name record present => ?_, gate := fun name active => ?_ }
    · rw [judge_lookup] at present
      by_cases here : name = id
      · rw [if_pos here, Option.map_eq_some_iff] at present
        obtain ⟨old, -, rfl⟩ := present
        exact ⟨fun claimed => absurd claimed (inactive old), fun active => absurd (here ▸ active) idle⟩
      · rw [if_neg here] at present
        exact inv.state name record present
    · have apart : entry.modelId ≠ name := by
        rw [isVerdict, Bool.and_eq_true, decide_eq_true_eq] at own
        exact fun same => idle (by rw [← own.1, same]; exact active)
      rw [rejected_log registry _ name entry rfl (by simp [isVerdict, apart])]
      exact inv.gate name active
  refine ⟨⟨fun sound active => ?_, fun idle => sound_of_inv ids _ (kept idle)⟩, kept⟩
  obtain ⟨old, present⟩ := Dict.lookup_of_mem_keys _ _ known
  have judged : (judge registry id f entry).records.lookup id = some (f old) := by
    rw [judge_lookup, if_pos rfl, present]
    rfl
  exact inactive old ((sound.state id (f old) judged).mpr active)

theorem switch_lookup (registry : ModelRegistry F M) (id : String) (stack : List String) (entry : AuditEntry F) (name : String) :
    (switchTo registry id stack entry).records.lookup name =
      if name = id then (registry.records.lookup name).map activated
      else if registry.activeId = some name then (registry.records.lookup name).map archived
      else registry.records.lookup name := by
  cases active : registry.activeId with
  | none =>
      simp only [switchTo, active, change, Dict.lookup_modify]
      simp
  | some previous =>
      simp only [switchTo, active, change, Dict.lookup_modify, Option.some.injEq]
      by_cases here : name = id
      · rw [if_pos here, if_pos here]
        by_cases was : name = previous
        · rw [if_pos was, Option.map_map]
          rfl
        · rw [if_neg was]
      · rw [if_neg here, if_neg here]
        exact if_congr eq_comm rfl rfl

theorem switch_same_models (registry : ModelRegistry F M) (id : String) (stack : List String) (entry : AuditEntry F) :
    SameModels registry (switchTo registry id stack entry) := by
  cases active : registry.activeId with
  | none =>
      exact change_same_models registry _ id activated (fun _ => ⟨rfl, rfl⟩) (by simp only [switchTo, active, change])
        (by simp only [switchTo, active, change])
  | some previous =>
      have left := change_same_models registry (registry.change previous archived) previous archived (fun _ => ⟨rfl, rfl⟩) rfl rfl
      exact left.trans (change_same_models _ _ id activated (fun _ => ⟨rfl, rfl⟩) (by simp only [switchTo, active, change])
        (by simp only [switchTo, active, change]))

-- A mark that activating gives and archiving takes is that of the active model
-- again, if it was before.
theorem switch_marked (registry : ModelRegistry F M) (id : String) (stack : List String) (entry : AuditEntry F)
    (Marked : ModelRecord F → Prop) (given : ∀ record, Marked (activated record)) (taken : ∀ record, ¬ Marked (archived record))
    (before : ∀ name record, registry.records.lookup name = some record → (Marked record ↔ registry.activeId = some name))
    (name : String) (record : ModelRecord F) (found : (switchTo registry id stack entry).records.lookup name = some record) :
    Marked record ↔ (switchTo registry id stack entry).activeId = some name := by
  rw [switch_lookup] at found
  by_cases here : name = id
  · rw [if_pos here, Option.map_eq_some_iff] at found
    obtain ⟨old, -, rfl⟩ := found
    exact iff_of_true (given old) (congrArg some here.symm)
  · have other : (switchTo registry id stack entry).activeId ≠ some name := fun chosen => here (Option.some.inj chosen).symm
    rw [if_neg here] at found
    by_cases was : registry.activeId = some name
    · rw [if_pos was, Option.map_eq_some_iff] at found
      obtain ⟨old, -, rfl⟩ := found
      exact iff_of_false (taken old) other
    · rw [if_neg was] at found
      exact iff_of_false (fun marked => was ((before name record found).mp marked)) other

theorem switch_base (ids : IdSource) (registry : ModelRegistry F M) (id : String) (stack : List String) (entry : AuditEntry F)
    (known : id ∈ registry.records.keys) (stacked : ∀ other ∈ stack, other ∈ registry.records.keys) (base : Base ids registry) :
    Base ids (switchTo registry id stack entry) := by
  have flags := switch_marked registry id stack entry (fun record => record.active = true) (fun _ => rfl)
    (fun _ => Bool.false_ne_true) base.flag
  refine same_models_base ids registry _ (switch_same_models registry id stack entry) ?_ stacked flags base
  intro other chosen
  cases chosen
  exact known

theorem switch_inv (ids : IdSource) (registry : ModelRegistry F M) (id : String) (stack : List String) (entry : AuditEntry F)
    (known : id ∈ registry.records.keys) (stacked : ∀ other ∈ stack, other ∈ registry.records.keys)
    (silent : entry.action ≠ .approve ∧ entry.action ≠ .reject) (inv : Inv ids registry) :
    (Sound (switchTo registry id stack entry) ↔ ¬ Rejected registry id) ∧
      (¬ Rejected registry id → Inv ids (switchTo registry id stack entry)) := by
  have verdict (name : String) : Rejected (switchTo registry id stack entry) name ↔ Rejected registry name :=
    rejected_log registry _ name entry rfl (by simp [isVerdict, silent])
  have states := switch_marked registry id stack entry (fun record => record.state = .active) (fun _ => rfl)
    (fun _ state => by cases state) inv.state
  have kept (accepted : ¬ Rejected registry id) : Inv ids (switchTo registry id stack entry) := by
    refine { switch_base ids registry id stack entry known stacked inv.toBase with state := states, gate := fun name chosen => ?_ }
    cases chosen
    rwa [verdict]
  refine ⟨⟨fun sound => ?_, fun accepted => sound_of_inv ids _ (kept accepted)⟩, kept⟩
  rw [← verdict]
  exact sound.gate id rfl

theorem fresh_id (ids : IdSource) (registry : ModelRegistry F M) (base : Base ids registry) :
    ids.draw registry.drawn ∉ registry.records.keys := by
  intro member
  obtain ⟨number, used, same⟩ := base.drawn _ member
  exact absurd (ids.distinct same) (Nat.ne_of_gt used)

theorem pushed_known (ids : IdSource) (registry : ModelRegistry F M) (id : String) (base : Base ids registry) :
    ∀ other ∈ (match registry.activeId with
      | some previous => if previous = id then registry.activationStack
        else Deque.push stackLimit registry.activationStack previous
      | none => registry.activationStack), other ∈ registry.records.keys := by
  intro other member
  cases active : registry.activeId with
  | none =>
      rw [active] at member
      exact base.stacked other member
  | some previous =>
      rw [active] at member
      dsimp only at member
      split at member
      · exact base.stacked other member
      · cases List.mem_append.mp (List.mem_of_mem_drop member) with
        | inl old => exact base.stacked other old
        | inr new =>
            rw [List.mem_singleton.mp new]
            exact base.named previous active

theorem activate_base (ids : IdSource) (registry : ModelRegistry F M) (id now : String) (base : Base ids registry) :
    Base ids (registry.activate id now).2 := by
  rcases activate_cases registry id now base.named with ⟨-, same⟩ | ⟨known, entry, stack, same, -, rfl⟩
  · rwa [same]
  · rw [same]
    exact switch_base ids registry id _ entry known (pushed_known ids registry id base) base

theorem rollback_base (ids : IdSource) (registry : ModelRegistry F M) (now : String) (base : Base ids registry) :
    Base ids (registry.rollback now).2 := by
  rcases rollback_cases registry now base.stacked with ⟨-, same⟩ | ⟨restore, entry, -, known, same, -⟩
  · rwa [same]
  · rw [same]
    exact switch_base ids registry restore _ entry known
      (fun other member => base.stacked other (List.mem_of_mem_dropLast member)) base

section

variable [ModelKind F M] (ids : IdSource)

theorem register_lookup (registry : ModelRegistry F M) (model : M) (given : Registration F) (now name : String) :
    (registry.register ids model given now).2.records.lookup name =
      if name = ids.draw registry.drawn then some (registry.register ids model given now).1
      else registry.records.lookup name :=
  Dict.lookup_insert _ _ _ _

theorem register_count (registry : ModelRegistry F M) (model : M) (given : Registration F) (now modelType : String)
    (base : Base ids registry) :
    count (registry.register ids model given now).2 modelType =
      count registry modelType + if ModelKind.modelType F model = modelType then 1 else 0 := by
  have entries := Dict.entries_insert_fresh registry.records (ids.draw registry.drawn)
    (registry.register ids model given now).1 (fresh_id ids registry base)
  have values : (registry.register ids model given now).2.records.values =
      registry.records.values ++ [(registry.register ids model given now).1] := by
    rw [Dict.values, show (registry.register ids model given now).2.records.entries = _ from entries, List.map_append]
    rfl
  rw [count, values, List.filter_append, List.length_append, count, List.filter_singleton]
  congr 1
  by_cases same : ModelKind.modelType F model = modelType
  · simp [register, same]
  · simp [register, same]

theorem register_base (registry : ModelRegistry F M) (model : M) (given : Registration F) (now : String)
    (base : Base ids registry) : Base ids (registry.register ids model given now).2 := by
  have fresh := fresh_id ids registry base
  have keys : (registry.register ids model given now).2.records.keys = registry.records.keys ++ [ids.draw registry.drawn] :=
    Dict.keys_insert_fresh _ _ _ fresh
  have later (name : String) (known : name ∈ registry.records.keys) :
      name ∈ (registry.register ids model given now).2.records.keys := by
    rw [keys]
    exact List.mem_append_left _ known
  have counts := fun modelType => register_count ids registry model given now modelType base
  have earlier (name : String) (record : ModelRecord F) (found : registry.records.lookup name = some record) :
      name ≠ ids.draw registry.drawn := fun same => fresh (same ▸ Dict.mem_keys_of_lookup _ _ _ found)
  -- An old version has a number up to the count, the new one the next.
  have newer (name : String) (record : ModelRecord F) (found : registry.records.lookup name = some record)
      (alike : record.modelType = ModelKind.modelType F model) :
      record.version ≠ registry.nextVersion (ModelKind.modelType F model) := by
    obtain ⟨number, bound, version⟩ := base.numbered name record found
    intro same
    have equal := version_text_injective (version.symm.trans same)
    rw [alike] at bound
    exact absurd equal (Nat.ne_of_lt (Nat.lt_succ_of_le bound))
  refine ⟨fun name active => later name (base.named name active), fun name member => later name (base.stacked name member),
    ?_, ?_, ?_, ?_⟩
  · intro name member
    rw [keys] at member
    cases List.mem_append.mp member with
    | inl old =>
        obtain ⟨number, used, same⟩ := base.drawn name old
        exact ⟨number, Nat.lt_succ_of_lt used, same⟩
    | inr new => exact ⟨registry.drawn, Nat.lt_succ_self _, List.mem_singleton.mp new⟩
  · intro name record found
    rw [register_lookup] at found
    by_cases here : name = ids.draw registry.drawn
    · rw [if_pos here] at found
      cases found
      exact ⟨fun flag => absurd flag Bool.false_ne_true, fun active => absurd (here ▸ base.named name active) fresh⟩
    · rw [if_neg here] at found
      exact base.flag name record found
  · intro name record found
    rw [register_lookup] at found
    rw [counts]
    by_cases here : name = ids.draw registry.drawn
    · rw [if_pos here] at found
      cases found
      exact ⟨_, Nat.le_of_eq (congrArg (count registry _ + ·) (if_pos rfl).symm), rfl⟩
    · rw [if_neg here] at found
      obtain ⟨number, bound, version⟩ := base.numbered name record found
      exact ⟨number, Nat.le_add_right_of_le bound, version⟩
  · intro first second one two foundOne foundTwo apart alike
    rw [register_lookup] at foundOne foundTwo
    by_cases isFirst : first = ids.draw registry.drawn
    · rw [if_pos isFirst] at foundOne
      cases foundOne
      rw [if_neg (fun isSecond => apart (isFirst.trans isSecond.symm))] at foundTwo
      exact (newer second two foundTwo alike.symm).symm
    · rw [if_neg isFirst] at foundOne
      by_cases isSecond : second = ids.draw registry.drawn
      · rw [if_pos isSecond] at foundTwo
        cases foundTwo
        exact newer first one foundOne alike
      · rw [if_neg isSecond] at foundTwo
        exact base.versions first second one two foundOne foundTwo apart alike

theorem register_inv (registry : ModelRegistry F M) (model : M) (given : Registration F) (now : String) (inv : Inv ids registry) :
    (Sound (registry.register ids model given now).2 ↔ given.state ≠ .active) ∧
      (given.state ≠ .active → Inv ids (registry.register ids model given now).2) := by
  have fresh := fresh_id ids registry inv.toBase
  have idle : registry.activeId ≠ some (ids.draw registry.drawn) := fun active => fresh (inv.named _ active)
  have kept (inactive : given.state ≠ .active) : Inv ids (registry.register ids model given now).2 := by
    refine { register_base ids registry model given now inv.toBase with
      state := fun name record found => ?_, gate := fun name active => ?_ }
    · rw [register_lookup] at found
      by_cases here : name = ids.draw registry.drawn
      · rw [if_pos here] at found
        cases found
        exact ⟨fun claimed => absurd claimed inactive, fun active => absurd (here ▸ active) idle⟩
      · rw [if_neg here] at found
        exact inv.state name record found
    · rw [rejected_log registry _ name _ rfl (by simp [isVerdict])]
      exact inv.gate name active
  refine ⟨⟨fun sound active => ?_, fun inactive => sound_of_inv ids _ (kept inactive)⟩, kept⟩
  have found := (register_lookup ids registry model given now (ids.draw registry.drawn)).trans (if_pos rfl)
  exact idle ((sound.state _ _ found).mp active)

theorem call_base (registry : ModelRegistry F M) (call : RegistryCall F M) (base : Base ids registry) :
    Base ids (call.apply ids registry) := by
  cases call with
  | register model given now => exact register_base ids registry model given now base
  | approve id reasons now =>
      rw [RegistryCall.apply]
      rcases approve_cases registry id reasons now with ⟨-, same⟩ | ⟨-, f, entry, same, -, -, -, keeps⟩
      · rwa [same]
      · rw [same]
        exact judge_base ids registry id f entry keeps base
  | reject id reasons now =>
      rw [RegistryCall.apply]
      rcases reject_cases registry id reasons now with ⟨-, same⟩ | ⟨-, f, entry, same, -, -, -, keeps⟩
      · rwa [same]
      · rw [same]
        exact judge_base ids registry id f entry keeps base
  | activate id now => exact activate_base ids registry id now base
  | rollback now => exact rollback_base ids registry now base

theorem call_inv (registry : ModelRegistry F M) (call : RegistryCall F M) (inv : Inv ids registry) :
    (Sound (call.apply ids registry) ↔ Allowed registry call) ∧ (Allowed registry call → Inv ids (call.apply ids registry)) := by
  have unchanged (allowed : Allowed registry call) (same : call.apply ids registry = registry) :
      (Sound (call.apply ids registry) ↔ Allowed registry call) ∧
        (Allowed registry call → Inv ids (call.apply ids registry)) := by
    rw [same]
    exact ⟨⟨fun _ => allowed, fun _ => sound_of_inv ids registry inv⟩, fun _ => inv⟩
  cases call with
  | register model given now => exact register_inv ids registry model given now inv
  | approve id reasons now =>
      rcases approve_cases registry id reasons now with ⟨unknown, same⟩ | ⟨known, f, entry, same, own, -, state, keeps⟩
      · exact unchanged (fun active => unknown (inv.named id active)) same
      · rw [RegistryCall.apply, same]
        exact judge_inv ids registry id f entry known own (fun record => by simp [state]) keeps inv
  | reject id reasons now =>
      rcases reject_cases registry id reasons now with ⟨unknown, same⟩ | ⟨known, f, entry, same, own, -, state, keeps⟩
      · exact unchanged (fun active => unknown (inv.named id active)) same
      · rw [RegistryCall.apply, same]
        exact judge_inv ids registry id f entry known own (fun record => by simp [state]) keeps inv
  | activate id now =>
      rcases activate_cases registry id now inv.named with ⟨unknown, same⟩ | ⟨known, entry, stack, same, action, rfl⟩
      · exact unchanged (fun known => absurd known unknown) same
      · have switched := switch_inv ids registry id _ entry known (pushed_known ids registry id inv.toBase)
          (by simp [action]) inv
        rw [RegistryCall.apply, same]
        exact ⟨switched.1.trans ⟨fun accepted _ => accepted, fun accepted => accepted known⟩,
          fun accepted => switched.2 (accepted known)⟩
  | rollback now =>
      rcases rollback_cases registry now inv.stacked with ⟨empty, same⟩ | ⟨restore, entry, last, known, same, action⟩
      · exact unchanged (fun id some_ => by rw [empty] at some_; cases some_) same
      · have switched := switch_inv ids registry restore _ entry known
          (fun other member => inv.stacked other (List.mem_of_mem_dropLast member)) (by simp [action]) inv
        rw [RegistryCall.apply, same]
        refine ⟨switched.1.trans ⟨fun accepted id chosen => ?_, fun accepted => accepted restore last⟩,
          fun accepted => switched.2 (accepted restore last)⟩
        rw [last] at chosen
        cases chosen
        exact accepted

end

theorem flag_of_base (ids : IdSource) (registry : ModelRegistry F M) (base : Base ids registry) (id : String) :
    flagOf registry id = if id ∈ registry.records.keys then some (decide (registry.activeId = some id)) else none := by
  rw [flagOf]
  cases found : registry.records.lookup id with
  | none => rw [if_neg ((Dict.lookup_none_iff _ _).mp found), Option.map_none]
  | some record =>
      rw [if_pos (Dict.mem_keys_of_lookup _ _ _ found), Option.map_some]
      congr 1
      exact Bool.eq_iff_iff.mpr ((base.flag id record found).trans decide_eq_true_iff.symm)

-- The registry does on its active model what the stack does on its current item.
theorem activate_undo (ids : IdSource) (registry : ModelRegistry F M) (id now : String) (known : id ∈ registry.records.keys)
    (other : registry.activeId ≠ some id) (base : Base ids registry) :
    undoStack (registry.activate id now).2 = (undoStack registry).switch stackLimit id ∧
      (registry.activate id now).2.records.keys = registry.records.keys := by
  rcases activate_cases registry id now base.named with ⟨unknown, -⟩ | ⟨-, entry, stack, same, -, rfl⟩
  · exact absurd known unknown
  · rw [same]
    refine ⟨?_, (switch_same_models registry id _ entry).keys⟩
    rw [UndoStack.switch, undoStack, undoStack, UndoStack.mk.injEq]
    refine ⟨rfl, ?_⟩
    cases active : registry.activeId with
    | none => simp only [switchTo, active]
    | some previous =>
        have apart : previous ≠ id := fun same => other (same ▸ active)
        simp only [switchTo, active, if_neg apart]

theorem rollback_undo (ids : IdSource) (registry : ModelRegistry F M) (now : String) (base : Base ids registry) :
    undoStack (registry.rollback now).2 = (undoStack registry).back ∧
      (registry.rollback now).2.records.keys = registry.records.keys := by
  rcases rollback_cases registry now base.stacked with ⟨empty, same⟩ | ⟨restore, entry, last, -, same, -⟩
  · rw [same]
    exact ⟨by simp only [UndoStack.back, undoStack, empty], rfl⟩
  · rw [same]
    refine ⟨?_, (switch_same_models registry restore _ entry).keys⟩
    simp only [UndoStack.back, undoStack, last, switchTo]

theorem activations_undo (ids : IdSource) (registry : ModelRegistry F M) (now : String) (names : List String)
    (others : Others registry now names) (base : Base ids registry) :
    undoStack (activations now names registry) = names.foldl (UndoStack.switch stackLimit) (undoStack registry) ∧
      Base ids (activations now names registry) ∧
      (activations now names registry).records.keys = registry.records.keys := by
  induction names generalizing registry with
  | nil => exact ⟨rfl, base, rfl⟩
  | cons id rest ih =>
      obtain ⟨known, other, later⟩ := others
      obtain ⟨undo, keys⟩ := activate_undo ids registry id now known other base
      obtain ⟨undone, kept, same⟩ := ih (registry.activate id now).2 later (activate_base ids registry id now base)
      rw [undo] at undone
      exact ⟨undone, kept, same.trans keys⟩

theorem rollbacks_undo (ids : IdSource) (registry : ModelRegistry F M) (now : String) (times : Nat) (base : Base ids registry) :
    undoStack (rollbacks now times registry) = UndoStack.backTimes times (undoStack registry) ∧
      Base ids (rollbacks now times registry) ∧ (rollbacks now times registry).records.keys = registry.records.keys := by
  induction times generalizing registry with
  | zero => exact ⟨rfl, base, rfl⟩
  | succ times ih =>
      obtain ⟨undo, keys⟩ := rollback_undo ids registry now base
      obtain ⟨undone, kept, same⟩ := ih (registry.rollback now).2 (rollback_base ids registry now base)
      rw [undo] at undone
      exact ⟨undone, kept, same.trans keys⟩

-- As many rollbacks as activations restore the active model and the flags, if
-- there was an active model.
theorem restored_iff (ids : IdSource) (registry : ModelRegistry F M) (now : String) (names : List String)
    (few : names.length ≤ stackLimit) (others : Others registry now names) (base : Base ids registry) :
    Restored registry (rollbacks now names.length (activations now names registry)) ↔
      names = [] ∨ registry.activeId ≠ none := by
  obtain ⟨switched, kept, keys⟩ := activations_undo ids registry now names others base
  obtain ⟨back, restored, same⟩ := rollbacks_undo ids (activations now names registry) now names.length kept
  have active : (rollbacks now names.length (activations now names registry)).activeId = registry.activeId ↔
      names = [] ∨ registry.activeId ≠ none := by
    have law := UndoStack.backs_restore_iff stackLimit (undoStack registry) names few
    rw [← switched, ← back] at law
    exact law
  refine ⟨fun all => active.mp all.1, fun either => ⟨active.mpr either, fun id => ?_⟩⟩
  rw [flag_of_base ids _ restored, flag_of_base ids registry base, same, keys, active.mpr either]

theorem fresh_inv (ids : IdSource) : Inv ids ({} : ModelRegistry F M) := by
  refine ⟨⟨?_, ?_, ?_, ?_, ?_, ?_⟩, ?_, ?_⟩
  · exact fun _ active => by cases active
  · exact List.forall_mem_nil _
  · exact List.forall_mem_nil _
  · exact fun _ _ found => by cases found
  · exact fun _ _ found => by cases found
  · exact fun _ _ _ _ found => by cases found
  · exact fun _ _ found => by cases found
  · exact fun _ active => by cases active

-- The registry is sound in every state of exactly the runs of allowed calls,
-- and in every run activations are undone where a model was active before.
theorem activation_stack_iff [ModelKind F M] (ids : IdSource) (calls : List (RegistryCall F M)) :
    (Always (RegistryCall.apply ids) Sound ({} : ModelRegistry F M) calls ↔
        Each (RegistryCall.apply ids) Allowed ({} : ModelRegistry F M) calls) ∧
      ∀ now names, names.length ≤ stackLimit → Others (final (RegistryCall.apply ids) {} calls) now names →
        (Restored (final (RegistryCall.apply ids) {} calls)
            (rollbacks now names.length (activations now names (final (RegistryCall.apply ids) {} calls))) ↔
          names = [] ∨ (final (RegistryCall.apply ids) {} calls).activeId ≠ none) := by
  have base := Run.final_preserved (RegistryCall.apply ids) (Base ids) (fun registry call => call_base ids registry call)
    ({} : ModelRegistry F M) calls (fresh_inv ids).toBase
  refine ⟨?_, fun now names few others => restored_iff ids _ now names few others base⟩
  exact Run.always_iff_where (RegistryCall.apply ids) (fun _ _ => True) Sound Allowed (Inv ids) (sound_of_inv ids)
    (fun registry call inv _ => (call_inv ids registry call inv).1)
    (fun registry call inv _ allowed => (call_inv ids registry call inv).2 allowed) _ calls (fresh_inv ids)
    (Run.each_of_all _ _ (fun _ _ => trivial) _ _)

def counting : IdSource := ⟨Nat.repr, fun _ _ => Nat.repr_inj.mp⟩

instance : ModelKind ℚ Unit := ⟨fun _ => "logistic_regression", fun _ => []⟩

def trained : RegistryCall ℚ Unit := .register () { metrics := [("auc", 7 / 10)], dataset := [], featureNames := [] } "t"

theorem activation_stack_two_models :
    Always (RegistryCall.apply counting) Sound {} [trained, trained, .activate "0" "t"] ∧
      Restored (final (RegistryCall.apply counting) {} [trained, trained, .activate "0" "t"])
        (rollbacks "t" 1 (activations "t" ["1"] (final (RegistryCall.apply counting) {} [trained, trained, .activate "0" "t"]))) := by
  obtain ⟨sound, undone⟩ := activation_stack_iff counting [trained, trained, .activate "0" "t"]
  have evaluated : ModelState.evaluated ≠ .active := by decide
  refine ⟨sound.mpr ⟨evaluated, evaluated, fun _ verdict => ?_, trivial⟩, (undone "t" ["1"] (by decide) ?_).mpr (.inr ?_)⟩
  · exact absurd verdict (by unfold Rejected; decide +kernel)
  · exact ⟨by decide +kernel, by decide +kernel, trivial⟩
  · decide +kernel

-- The gate's rejection leaves the model active.
theorem rejected_model_stays_active :
    ¬ Always (RegistryCall.apply counting) Sound {} [trained, .activate "0" "t", .reject "0" "drift" "t"] := by
  intro always
  have sound := Run.always_final _ _ _ _ always
  exact sound.gate "0" (by decide +kernel) (by unfold Rejected; decide +kernel)

end QuantEngine.Learning.ActivationStack
