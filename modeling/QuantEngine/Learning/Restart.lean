import QuantEngine.Learning.ActivationStack
import QuantEngine.Learning.Persistence
import QuantEngine.Library.Extended

set_option autoImplicit false

namespace QuantEngine.Learning.Restart

open ModelRegistry
open ActivationStack (Base SameModels)
open Run (Each final)

variable {F : Type}

-- The file that a model of the registry is written to, if it can be.
def written (model : Model F) : Option (Content F) := model.toDict.map .ok

def fileOf (registry : ModelRegistry F (Model F)) (id : String) : Option (Content F) :=
  (registry.models.lookup id).bind written

-- What the operations keep of the registry itself.
structure Kept (ids : IdSource) (registry : ModelRegistry F (Model F)) : Prop extends Base ids registry where
  order : registry.order = registry.records.keys
  own : ∀ id record, registry.records.lookup id = some record → record.id = id
  modelled : registry.models.keys = registry.records.keys
  trained : ∀ id model, registry.models.lookup id = some model → model.Trained
  short : registry.activationStack.length ≤ stackLimit

-- What was last written is what the registry holds.
structure Saved (ids : IdSource) (saved : SavedRegistry F) : Prop extends Kept ids saved.registry where
  writable : saved.directory.writable = true
  snapshot : saved.directory.records = some (.ok saved.registry.snapshot) ∨
    (saved.directory.records = none ∧ saved.registry.records = .empty ∧ saved.registry.activeId = none ∧
      saved.registry.activationStack = [])
  files : ∀ id, saved.directory.models.lookup id = fileOf saved.registry id

theorem persist_models_lookup (entries : List (String × Model F)) (files : Dict String (Content F)) (id : String)
    (unique : (entries.map Prod.fst).Nodup) :
    (entries.foldl persistModel files).lookup id =
      (files.lookup id).or (((entries.find? (fun entry => decide (entry.1 = id))).map Prod.snd).bind written) := by
  induction entries generalizing files with
  | nil => simp
  | cons entry rest ih =>
      obtain ⟨name, model⟩ := entry
      obtain ⟨absent, unique⟩ := List.nodup_cons.mp unique
      have first : (persistModel files (name, model)).lookup id =
          (files.lookup id).or (if name = id then written model else none) := by
        rw [persistModel]
        dsimp only
        by_cases present : name ∈ files.keys
        · rw [if_pos present]
          by_cases here : name = id
          · obtain ⟨content, found⟩ := Dict.lookup_of_mem_keys files name present
            rw [← here, found, Option.some_or]
          · rw [if_neg here, Option.or_none]
        · rw [if_neg present]
          by_cases here : name = id
          · rw [if_pos here, ← here, (Dict.lookup_none_iff files name).mpr present, Option.none_or, written]
            cases model.toDict with
            | none => exact (Dict.lookup_none_iff files name).mpr present
            | some data => rw [Dict.lookup_insert, if_pos rfl]; rfl
          · rw [if_neg here, Option.or_none]
            cases model.toDict with
            | none => rfl
            | some data => rw [Dict.lookup_insert, if_neg (Ne.symm here)]
      rw [List.foldl_cons, ih _ unique, first, List.find?_cons]
      by_cases here : name = id
      · have nowhere : rest.find? (fun entry => decide (entry.1 = id)) = none := by
          rw [List.find?_eq_none]
          intro entry member same
          exact absent (List.mem_map.mpr ⟨entry, member, (of_decide_eq_true same).trans here.symm⟩)
        simp [here, nowhere]
      · simp [here, Option.or_none]

theorem persist_lookup (registry : ModelRegistry F (Model F)) (files : Dict String (Content F)) (id : String) :
    (registry.persistModels files).lookup id = (files.lookup id).or (fileOf registry id) :=
  persist_models_lookup registry.models.entries files id registry.models.unique

-- Whatever a call changed, what is then written is what the registry holds, if
-- no model was lost.
theorem persist_saved (ids : IdSource) (saved : SavedRegistry F) (after : ModelRegistry F (Model F)) (inv : Saved ids saved)
    (kept : Kept ids after) (same : ∀ id content, fileOf saved.registry id = some content → fileOf after id = some content) :
    Saved ids ⟨after, after.persist saved.directory⟩ := by
  have disk : after.persist saved.directory = { saved.directory with
      records := some (.ok after.snapshot)
      history := saved.directory.history ++ after.audit.getLast?.toList
      models := after.persistModels saved.directory.models } := by
    rw [persist, if_pos inv.writable]
  refine { kept with writable := ?_, snapshot := .inl ?_, files := fun id => ?_ }
  · rw [disk]
    exact inv.writable
  · rw [disk]
  · rw [disk]
    dsimp only
    rw [persist_lookup, inv.files]
    cases before : fileOf saved.registry id with
    | none => rw [Option.none_or]
    | some content => rw [Option.some_or, same id content before]

-- What every call but `register` keeps.
structure Framed (before after : ModelRegistry F (Model F)) : Prop where
  order : after.order = before.order
  models : after.models = before.models
  keys : after.records.keys = before.records.keys
  own : ∀ id record, after.records.lookup id = some record → ∃ old, before.records.lookup id = some old ∧ record.id = old.id

theorem change_framed (registry after : ModelRegistry F (Model F)) (id : String) (f : ModelRecord F → ModelRecord F)
    (own : ∀ record, (f record).id = record.id) (records : after.records = registry.records.modify id f)
    (order : after.order = registry.order) (models : after.models = registry.models) : Framed registry after := by
  refine ⟨order, models, by rw [records, Dict.keys_modify], fun name record found => ?_⟩
  rw [records] at found
  obtain ⟨old, present, rfl | rfl⟩ := Dict.lookup_modify_old registry.records id name f record found
  · exact ⟨old, present, own old⟩
  · exact ⟨record, present, rfl⟩

theorem switch_framed (registry : ModelRegistry F (Model F)) (id : String) (stack : List String) (entry : AuditEntry F) :
    Framed registry (ActivationStack.switchTo registry id stack entry) := by
  refine ⟨?_, ?_, (ActivationStack.switch_same_models registry id stack entry).keys, fun name record found => ?_⟩
  · cases active : registry.activeId <;> simp only [ActivationStack.switchTo, active, change]
  · cases active : registry.activeId <;> simp only [ActivationStack.switchTo, active, change]
  · rw [ActivationStack.switch_lookup] at found
    split at found
    · obtain ⟨old, present, rfl⟩ := Option.map_eq_some_iff.mp found
      exact ⟨old, present, rfl⟩
    · split at found
      · obtain ⟨old, present, rfl⟩ := Option.map_eq_some_iff.mp found
        exact ⟨old, present, rfl⟩
      · exact ⟨record, found, rfl⟩

theorem framed_kept (ids : IdSource) (before after : ModelRegistry F (Model F)) (framed : Framed before after)
    (base : Base ids after) (short : after.activationStack.length ≤ stackLimit) (kept : Kept ids before) : Kept ids after := by
  refine { base with order := ?_, own := fun id record found => ?_, modelled := ?_, trained := ?_, short := short }
  · rw [framed.order, framed.keys, kept.order]
  · obtain ⟨old, present, same⟩ := framed.own id record found
    rw [same, kept.own id old present]
  · rw [framed.models, framed.keys, kept.modelled]
  · rw [framed.models]
    exact kept.trained

-- A call that raises changes nothing; any other returns the record it changed.
def Answered (registry : ModelRegistry F (Model F)) (answer : Option (ModelRecord F) × ModelRegistry F (Model F)) : Prop :=
  answer = (none, registry) ∨
    Framed registry answer.2 ∧ answer.2.activationStack.length ≤ stackLimit ∧
      ∃ id ∈ registry.records.keys, answer.1 = answer.2.records.lookup id

theorem answered_saved (ids : IdSource) (saved : SavedRegistry F)
    (answer : Option (ModelRecord F) × ModelRegistry F (Model F)) (base : Base ids answer.2)
    (answered : Answered saved.registry answer) (inv : Saved ids saved) : Saved ids (saved.answered answer) := by
  rcases answered with rfl | ⟨framed, short, id, known, answers⟩
  · exact inv
  · rw [← framed.keys] at known
    obtain ⟨record, found⟩ := Dict.lookup_of_mem_keys _ _ known
    rw [SavedRegistry.answered, answers, found]
    refine persist_saved ids saved answer.2 inv (framed_kept ids _ _ framed base short inv.toKept) (fun name content same => ?_)
    rw [fileOf, framed.models]
    exact same

theorem approve_answered (registry : ModelRegistry F (Model F)) (id reasons now : String)
    (short : registry.activationStack.length ≤ stackLimit) : Answered registry (registry.approve id reasons now) := by
  rw [approve]
  cases found : registry.records.lookup id with
  | none => exact .inl rfl
  | some record =>
      refine .inr ⟨change_framed registry _ id _ ?_ rfl rfl rfl, short, id, Dict.mem_keys_of_lookup _ _ _ found, rfl⟩
      exact fun _ => rfl

theorem reject_answered (registry : ModelRegistry F (Model F)) (id reasons now : String)
    (short : registry.activationStack.length ≤ stackLimit) : Answered registry (registry.reject id reasons now) := by
  rw [reject]
  cases found : registry.records.lookup id with
  | none => exact .inl rfl
  | some record =>
      refine .inr ⟨change_framed registry _ id _ ?_ rfl rfl rfl, short, id, Dict.mem_keys_of_lookup _ _ _ found, rfl⟩
      exact fun _ => rfl

theorem activate_answered (ids : IdSource) (registry : ModelRegistry F (Model F)) (id now : String) (base : Base ids registry)
    (short : registry.activationStack.length ≤ stackLimit) : Answered registry (registry.activate id now) := by
  cases found : registry.records.lookup id with
  | none => exact .inl (by rw [activate, found])
  | some record =>
      have known := Dict.mem_keys_of_lookup _ _ _ found
      rcases ActivationStack.activate_cases registry id now base.named with ⟨unknown, -⟩ | ⟨-, entry, stack, same, -, pushed⟩
      · exact absurd known unknown
      · refine .inr ⟨same ▸ switch_framed registry id stack entry, ?_, id, known, by rw [activate, found]; rfl⟩
        rw [same, ActivationStack.switchTo, pushed]
        dsimp only
        split
        · split
          · exact short
          · rw [Deque.push, Deque.newest_length]
            exact Nat.min_le_left _ _
        · exact short

theorem rollback_answered (ids : IdSource) (registry : ModelRegistry F (Model F)) (now : String) (base : Base ids registry)
    (short : registry.activationStack.length ≤ stackLimit) : Answered registry (registry.rollback now) := by
  cases last : registry.activationStack.getLast? with
  | none => exact .inl (by rw [rollback, last])
  | some restore =>
      have known := base.stacked restore (List.mem_of_getLast? last)
      rcases ActivationStack.rollback_cases registry now base.stacked with ⟨empty, -⟩ | ⟨newest, entry, top, -, same, -⟩
      · rw [last] at empty
        cases empty
      · rw [last] at top
        cases top
        obtain ⟨record, found⟩ := Dict.lookup_of_mem_keys _ _ known
        refine .inr ⟨same ▸ switch_framed registry restore _ entry, ?_, restore, known, ?_⟩
        · rw [same, ActivationStack.switchTo]
          dsimp only
          rw [List.length_dropLast]
          omega
        · rw [rollback, last]
          dsimp only
          rw [found]
          rfl

theorem register_kept (ids : IdSource) (registry : ModelRegistry F (Model F)) (model : Model F) (given : Registration F)
    (now : String) (trained : model.Trained) (kept : Kept ids registry) : Kept ids (registry.register ids model given now).2 := by
  have fresh := ActivationStack.fresh_id ids registry kept.toBase
  have unmodelled : ids.draw registry.drawn ∉ registry.models.keys := by rwa [kept.modelled]
  have keys : (registry.register ids model given now).2.records.keys = registry.records.keys ++ [ids.draw registry.drawn] :=
    Dict.keys_insert_fresh _ _ _ fresh
  refine { ActivationStack.register_base ids registry model given now kept.toBase with
    order := ?_, own := fun id record found => ?_, modelled := ?_, trained := fun id other found => ?_, short := kept.short }
  · rw [keys, ← kept.order]
    rfl
  · rw [ActivationStack.register_lookup] at found
    by_cases here : id = ids.draw registry.drawn
    · rw [if_pos here] at found
      cases found
      exact here.symm
    · rw [if_neg here] at found
      exact kept.own id record found
  · rw [keys, ← kept.modelled]
    exact Dict.keys_insert_fresh _ _ _ unmodelled
  · have lookup := Dict.lookup_insert registry.models (ids.draw registry.drawn) id model
    rw [show (registry.register ids model given now).2.models.lookup id = _ from lookup] at found
    by_cases here : id = ids.draw registry.drawn
    · rw [if_pos here] at found
      cases found
      exact trained
    · rw [if_neg here] at found
      exact kept.trained id other found

def RegistersTrained : RegistryCall F (Model F) → Prop
  | .register model _ _ => model.Trained
  | _ => True

theorem step_saved (ids : IdSource) (saved : SavedRegistry F) (call : RegistryCall F (Model F)) (trained : RegistersTrained call)
    (inv : Saved ids saved) : Saved ids (saved.step ids call) := by
  have base := ActivationStack.call_base ids saved.registry call inv.toBase
  cases call with
  | register model given now =>
      refine persist_saved ids saved _ inv (register_kept ids saved.registry model given now trained inv.toKept)
        (fun id content same => ?_)
      have apart : id ≠ ids.draw saved.registry.drawn := by
        rintro rfl
        have absent := (Dict.lookup_none_iff saved.registry.models _).mpr
          (inv.modelled ▸ ActivationStack.fresh_id ids saved.registry inv.toBase)
        rw [fileOf, absent] at same
        cases same
      have lookup := Dict.lookup_insert saved.registry.models (ids.draw saved.registry.drawn) id model
      rw [fileOf, show (saved.registry.register ids model given now).2.models.lookup id = _ from lookup, if_neg apart]
      exact same
  | approve id reasons now =>
      exact answered_saved ids saved _ base (approve_answered saved.registry id reasons now inv.short) inv
  | reject id reasons now =>
      exact answered_saved ids saved _ base (reject_answered saved.registry id reasons now inv.short) inv
  | activate id now =>
      exact answered_saved ids saved _ base (activate_answered ids saved.registry id now inv.toBase inv.short) inv
  | rollback now =>
      exact answered_saved ids saved _ base (rollback_answered ids saved.registry now inv.toBase inv.short) inv

theorem fresh_saved (ids : IdSource) : Saved ids ({} : SavedRegistry F) where
  toBase := (ActivationStack.fresh_inv ids).toBase
  order := rfl
  own _ _ found := by cases found
  modelled := rfl
  trained _ _ found := by cases found
  short := Nat.zero_le _
  writable := rfl
  snapshot := .inr ⟨rfl, rfl, rfl, rfl⟩
  files _ := rfl

theorem run_saved (ids : IdSource) (calls : List (RegistryCall F (Model F))) (trained : ∀ call ∈ calls, RegistersTrained call) :
    Saved ids (final (SavedRegistry.step ids) {} calls) := by
  have each := Run.each_of_mem (SavedRegistry.step ids) RegistersTrained ({} : SavedRegistry F) calls trained
  exact Run.always_final _ _ _ _ (Run.always_of_invariant (SavedRegistry.step ids) (fun _ call => RegistersTrained call)
    (Saved ids) (Saved ids) (fun saved call inv allowed => step_saved ids saved call allowed inv) (fun _ inv => inv)
    _ calls (fresh_saved ids) each)

theorem load_records [PyFloat F] (now : String) (records : List (ModelRecord F)) (registry : ModelRegistry F (Model F))
    (fresh : (registry.records.keys ++ records.map ModelRecord.id).Nodup) :
    ∃ loaded, loadRecords now (records.map ModelRecord.toDict) registry = .ok loaded ∧
      loaded.records.entries = registry.records.entries ++ records.map (fun record => (record.id, record)) ∧
      loaded.order = registry.order ++ records.map ModelRecord.id := by
  induction records generalizing registry with
  | nil => exact ⟨registry, rfl, (List.append_nil _).symm, (List.append_nil _).symm⟩
  | cons record rest ih =>
      have absent : record.id ∉ registry.records.keys := fun present =>
        (List.nodup_append.mp fresh).2.2 _ present _ List.mem_cons_self rfl
      have keys : (registry.addRecord record).records.keys = registry.records.keys ++ [record.id] :=
        Dict.keys_insert_fresh _ _ _ absent
      obtain ⟨loaded, done, entries, order⟩ := ih (registry.addRecord record) (by
        rw [keys, List.append_assoc]
        exact fresh)
      refine ⟨loaded, ?_, ?_, ?_⟩
      · simp only [List.map_cons, loadRecords, ModelRecord.round_trip, Json.ok_bind]
        exact done
      · rw [entries, show (registry.addRecord record).records.entries = _ from Dict.entries_insert_fresh _ _ _ absent,
          List.append_assoc]
        rfl
      · rw [order, addRecord, List.append_assoc]
        rfl

structure SameRegistry (before after : ModelRegistry F (Model F)) : Prop where
  records : after.records = before.records
  order : after.order = before.order
  activeId : after.activeId = before.activeId
  activationStack : after.activationStack = before.activationStack

theorem text_of_option (text : Option String) : textOf (optionText text : Json F) = text := by
  cases text <;> rfl

-- Whatever the model files are, all but the models is as it was.
theorem load_saved [Floats F] (ids : IdSource) (saved : SavedRegistry F) (files : Dict String (Content F)) (drawn : Nat)
    (now : String) (inv : Saved ids saved) :
    ∃ loaded, SameRegistry saved.registry loaded ∧ load { saved.directory with models := files } drawn now =
      (rehydrateModels files saved.registry.order .empty).map (fun models => { loaded with models := models }) := by
  rcases inv.snapshot with some | ⟨none, records, activeId, stack⟩
  · have values : saved.registry.order.filterMap saved.registry.records.lookup = saved.registry.records.values := by
      rw [inv.order, Dict.lookups_of_keys]
    have ownIds : saved.registry.records.values.map (fun record => (record.id, record)) = saved.registry.records.entries := by
      rw [Dict.values, List.map_map]
      refine (List.map_congr_left (fun entry member => ?_)).trans (List.map_id _)
      exact Prod.ext (inv.own entry.1 entry.2 (Dict.lookup_of_mem _ _ _ member)) rfl
    have names : saved.registry.records.values.map ModelRecord.id = saved.registry.records.keys := by
      rw [Dict.keys, ← ownIds, List.map_map]
      rfl
    obtain ⟨loaded, done, entries, order⟩ := load_records now saved.registry.records.values { drawn := drawn }
      (by rw [names]; exact saved.registry.records.keys_nodup)
    have sameRecords : loaded.records = saved.registry.records := Dict.ext_entries _ _ (entries.trans ownIds)
    have sameOrder : loaded.order = saved.registry.order := (order.trans names).trans inv.order.symm
    have texts : saved.registry.activationStack.map (Json.toText ∘ Json.str (F := F)) = saved.registry.activationStack :=
      (List.map_congr_left (fun _ _ => rfl)).trans (List.map_id _)
    refine ⟨{ loaded with activeId := saved.registry.activeId, activationStack := saved.registry.activationStack },
      ⟨sameRecords, sameOrder, rfl, rfl⟩, ?_⟩
    rw [load]
    dsimp only
    rw [some]
    simp only [snapshot, values, Json.get, Json.iterate, Json.member_here, Json.member_later, Option.getD_some, ne_eq,
      String.reduceEq, not_false_eq_true, Json.ok_bind, done, List.map_map, texts, text_of_option, sameOrder,
      Deque.newest_all stackLimit _ inv.short]
    cases rehydrateModels files saved.registry.order .empty <;> rfl
  · have order : saved.registry.order = [] := by
      rw [inv.order, records]
      rfl
    refine ⟨{ drawn := drawn }, ⟨records.symm, order.symm, activeId.symm, stack.symm⟩, ?_⟩
    rw [load]
    dsimp only
    rw [none, order]
    rfl

-- What a restart makes of one file.
def decoded [Floats F] (files : Dict String (Content F)) (id : String) : Option (Model F) :=
  (files.lookup id).bind (fun content => (decodeModel content).toOption.map .native)

-- A file that decodes, or fails in a way that is caught.
def Readable [Floats F] (content : Content F) : Prop := ∀ error, decodeModel content = .error error → caught error = true

theorem rehydrate_ok_iff [Floats F] (files : Dict String (Content F)) (order : List String) (models : Dict String (Model F)) :
    (∃ result, rehydrateModels files order models = .ok result) ↔
      ∀ id ∈ order, ∀ content, files.lookup id = some content → Readable content := by
  induction order generalizing models with
  | nil => exact ⟨fun _ => List.forall_mem_nil _, fun _ => ⟨models, rfl⟩⟩
  | cons id rest ih =>
      rw [List.forall_mem_cons]
      cases found : files.lookup id with
      | none =>
          rw [rehydrateModels, found]
          exact (ih models).trans (by simp)
      | some content =>
          rw [rehydrateModels, found]
          cases model : decodeModel content with
          | ok model' => 
              simp only [model]
              refine (ih _).trans ⟨fun later => ⟨fun other same => ?_, later⟩, And.right⟩
              cases same
              intro error failed
              rw [model] at failed
              cases failed
          | error error =>
              simp only [model]
              by_cases kind : caught error = true
              · rw [if_pos kind]
                refine (ih _).trans ⟨fun later => ⟨fun other same => ?_, later⟩, And.right⟩
                cases same
                intro other failed
                rw [model] at failed
                cases failed
                exact kind
              · rw [if_neg kind]
                refine ⟨fun ⟨_, impossible⟩ => (nomatch impossible), fun all => absurd (all.1 content rfl error model) kind⟩

theorem rehydrate_step [Floats F] (files : Dict String (Content F)) (name : String) (rest : List String)
    (models result : Dict String (Model F)) (done : rehydrateModels files (name :: rest) models = .ok result) :
    ∃ next, rehydrateModels files rest next = .ok result ∧
      ∀ id, next.lookup id = if id = name then (decoded files id).or (models.lookup id) else models.lookup id := by
  rw [rehydrateModels] at done
  cases found : files.lookup name with
  | none =>
      rw [found] at done
      refine ⟨models, done, fun id => ?_⟩
      split
      next here => rw [here, decoded, found, Option.bind_none, Option.none_or]
      next => rfl
  | some content =>
      rw [found] at done
      dsimp only at done
      cases read : decodeModel content with
      | ok model =>
          rw [read] at done
          refine ⟨_, done, fun id => ?_⟩
          rw [Dict.lookup_insert]
          refine ite_congr rfl (fun here => ?_) (fun _ => rfl)
          rw [here, decoded, found, Option.bind_some, read]
          rfl
      | error error =>
          rw [read] at done
          dsimp only at done
          split at done
          · refine ⟨models, done, fun id => ?_⟩
            split
            next here =>
              rw [here, decoded, found, Option.bind_some, read]
              exact (Option.none_or).symm
            next => rfl
          · cases done

theorem rehydrate_lookup [Floats F] (files : Dict String (Content F)) (order : List String)
    (models result : Dict String (Model F)) (done : rehydrateModels files order models = .ok result) (id : String) :
    result.lookup id = if id ∈ order then (decoded files id).or (models.lookup id) else models.lookup id := by
  induction order generalizing models with
  | nil =>
      cases done
      rw [if_neg List.not_mem_nil]
  | cons name rest ih =>
      obtain ⟨next, later, step⟩ := rehydrate_step files name rest models result done
      rw [ih next later, step]
      by_cases here : id = name
      · by_cases again : id ∈ rest
        · simp [here, ← Option.or_assoc]
        · rw [if_neg again, if_pos here, if_pos (here ▸ List.mem_cons_self)]
      · simp [here]

-- A voting ensemble has no file.
def survivor : Model F → Option (Model F)
  | .native model => some (.native model)
  | .voting _ => none

theorem decoded_saved [Floats F] (ids : IdSource) (saved : SavedRegistry F) (inv : Saved ids saved) (id : String) :
    decoded saved.directory.models id = (saved.registry.models.lookup id).bind survivor := by
  rw [decoded, inv.files, fileOf]
  cases found : saved.registry.models.lookup id with
  | none => rfl
  | some model =>
      rw [Option.bind_some, Option.bind_some]
      cases model with
      | voting ensemble => rfl
      | native model =>
          have read : decodeModel (.ok model.toDict) = .ok model := model_round_trip model (inv.trained id _ found)
          rw [written, Model.toDict, Option.map_some, Option.bind_some, read]
          rfl

theorem readable_saved [Floats F] (ids : IdSource) (saved : SavedRegistry F) (inv : Saved ids saved) (id : String)
    (content : Content F) (found : saved.directory.models.lookup id = some content) : Readable content := by
  rw [inv.files, fileOf] at found
  obtain ⟨model, registered, same⟩ := Option.bind_eq_some_iff.mp found
  cases model with
  | voting ensemble => cases same
  | native model =>
      cases same
      have read : decodeModel (.ok model.toDict) = .ok model := model_round_trip model (inv.trained id _ registered)
      intro error failed
      rw [read] at failed
      cases failed

theorem load_readable [Floats F] (ids : IdSource) (saved : SavedRegistry F) (files : Dict String (Content F)) (drawn : Nat)
    (now : String) (inv : Saved ids saved) :
    (∃ restored, load { saved.directory with models := files } drawn now = .ok restored) ↔
      ∀ id ∈ saved.registry.order, ∀ content, files.lookup id = some content → Readable content := by
  obtain ⟨loaded, -, same⟩ := load_saved ids saved files drawn now inv
  rw [← rehydrate_ok_iff files saved.registry.order .empty, same]
  cases rehydrateModels files saved.registry.order .empty with
  | ok models => exact ⟨fun _ => ⟨models, rfl⟩, fun _ => ⟨_, rfl⟩⟩
  | error error => exact ⟨fun ⟨_, impossible⟩ => (nomatch impossible), fun ⟨_, impossible⟩ => (nomatch impossible)⟩

theorem load_restores [Floats F] (ids : IdSource) (saved : SavedRegistry F) (files : Dict String (Content F)) (drawn : Nat)
    (now : String) (inv : Saved ids saved) (restored : ModelRegistry F (Model F))
    (done : load { saved.directory with models := files } drawn now = .ok restored) :
    SameRegistry saved.registry restored ∧
      ∀ id, restored.models.lookup id = if id ∈ saved.registry.order then decoded files id else none := by
  obtain ⟨loaded, alike, same⟩ := load_saved ids saved files drawn now inv
  rw [same] at done
  cases outcome : rehydrateModels files saved.registry.order .empty with
  | error error =>
      rw [outcome] at done
      cases done
  | ok models =>
      rw [outcome] at done
      cases done
      refine ⟨⟨alike.records, alike.order, alike.activeId, alike.activationStack⟩, fun id => ?_⟩
      have lookup := rehydrate_lookup files saved.registry.order .empty models outcome id
      have nothing : (Dict.empty : Dict String (Model F)).lookup id = none := rfl
      rw [nothing, Option.or_none] at lookup
      exact lookup

-- The registry after a restart, as it was but for the ensembles.
theorem restart_saved [Floats F] (ids : IdSource) (saved : SavedRegistry F) (now : String) (inv : Saved ids saved) :
    ∃ restored, load saved.directory saved.registry.drawn now = .ok restored ∧ SameRegistry saved.registry restored ∧
      ∀ id, restored.models.lookup id = (saved.registry.models.lookup id).bind survivor := by
  obtain ⟨restored, done⟩ := (load_readable ids saved saved.directory.models saved.registry.drawn now inv).mpr
    (fun id _ content found => readable_saved ids saved inv id content found)
  obtain ⟨same, models⟩ := load_restores ids saved saved.directory.models saved.registry.drawn now inv restored done
  refine ⟨restored, done, same, fun id => ?_⟩
  rw [models]
  split
  next known => exact decoded_saved ids saved inv id
  next unknown =>
    rw [inv.order, ← inv.modelled, ← Dict.lookup_none_iff] at unknown
    rw [unknown, Option.bind_none]

-- What the active model says of a row; `none` without an active model.
def probability [Floats F] (registry : ModelRegistry F (Model F)) (row : List F) : Option (Except PyError F) :=
  registry.activeModel.map (Model.predictOne row)

def Survives [Floats F] (saved : SavedRegistry F) (now : String) : Prop :=
  ∃ restored, load saved.directory saved.registry.drawn now = .ok restored ∧ SameRegistry saved.registry restored ∧
    ∀ row, probability restored row = probability saved.registry row

-- With `content` in the file of one model, the others are loaded.
def Isolated [Floats F] (saved : SavedRegistry F) (now id : String) (content : Content F) : Prop :=
  ∃ restored, load { saved.directory with models := saved.directory.models.insert id content } saved.registry.drawn now =
      .ok restored ∧
    ∀ other, other ≠ id → restored.models.lookup other = saved.registry.models.lookup other

theorem survives_iff [Floats F] (ids : IdSource) (saved : SavedRegistry F) (now : String) (inv : Saved ids saved) :
    Survives saved now ↔ ∀ ensemble, saved.registry.activeModel ≠ some (.voting ensemble) := by
  obtain ⟨restored, done, same, models⟩ := restart_saved ids saved now inv
  have active : restored.activeModel = saved.registry.activeModel.bind survivor := by
    rw [activeModel, activeModel, same.activeId]
    cases saved.registry.activeId with
    | none => rfl
    | some id => exact models id
  constructor
  · rintro ⟨other, loaded, -, predicts⟩ ensemble chosen
    rw [done] at loaded
    cases loaded
    have empty := predicts []
    rw [probability, probability, active, chosen] at empty
    cases empty
  · intro native
    refine ⟨restored, done, same, fun row => ?_⟩
    rw [probability, probability, active]
    cases chosen : saved.registry.activeModel with
    | none => rfl
    | some model =>
        cases model with
        | native model => rfl
        | voting ensemble => exact absurd chosen (native ensemble)

theorem model_isolated_iff [Floats F] (ids : IdSource) (saved : SavedRegistry F) (now id : String) (content : Content F)
    (known : id ∈ saved.registry.order) (inv : Saved ids saved) :
    Isolated saved now id content ↔ Readable content ∧
      ∀ other ensemble, other ≠ id → saved.registry.models.lookup other ≠ some (.voting ensemble) := by
  have lookup (other : String) := Dict.lookup_insert saved.directory.models id other content
  -- The file of any other model is as it was written.
  have others (other : String) (apart : other ≠ id) : decoded (saved.directory.models.insert id content) other =
      (saved.registry.models.lookup other).bind survivor := by
    rw [← decoded_saved ids saved inv, decoded, lookup, if_neg apart, decoded]
  have readable : (∀ name ∈ saved.registry.order, ∀ found, (saved.directory.models.insert id content).lookup name = some found →
      Readable found) ↔ Readable content := by
    refine ⟨fun all => all id known content ((lookup id).trans (if_pos rfl)), fun own name _ found present => ?_⟩
    rw [lookup] at present
    by_cases here : name = id
    · rw [if_pos here] at present
      exact Option.some.inj present ▸ own
    · rw [if_neg here] at present
      exact readable_saved ids saved inv name found present
  have restores (restored : ModelRegistry F (Model F)) (done : load { saved.directory with
      models := saved.directory.models.insert id content } saved.registry.drawn now = .ok restored) (other : String)
      (apart : other ≠ id) : restored.models.lookup other = (saved.registry.models.lookup other).bind survivor := by
    obtain ⟨-, models⟩ := load_restores ids saved _ saved.registry.drawn now inv restored done
    rw [models, others other apart]
    split
    next => rfl
    next unknown =>
      rw [inv.order, ← inv.modelled, ← Dict.lookup_none_iff] at unknown
      rw [unknown, Option.bind_none]
  constructor
  · rintro ⟨restored, done, kept⟩
    refine ⟨readable.mp ((load_readable ids saved _ saved.registry.drawn now inv).mp ⟨restored, done⟩), ?_⟩
    intro other ensemble apart registered
    have gone := restores restored done other apart
    rw [kept other apart, registered] at gone
    cases gone
  · rintro ⟨own, native⟩
    obtain ⟨restored, done⟩ := (load_readable ids saved _ saved.registry.drawn now inv).mpr (readable.mpr own)
    refine ⟨restored, done, fun other apart => ?_⟩
    rw [restores restored done other apart]
    cases registered : saved.registry.models.lookup other with
    | none => rfl
    | some model =>
        cases model with
        | native model => rfl
        | voting ensemble => exact absurd registered (native other ensemble apart)

-- After any calls that register trained models, a restart keeps the records,
-- their order, the active id and the stack, and the predictions just if the
-- active model is no ensemble.
theorem models_survive_iff [Floats F] (ids : IdSource) (calls : List (RegistryCall F (Model F))) (now : String)
    (trained : ∀ call ∈ calls, RegistersTrained call) :
    let saved := final (SavedRegistry.step ids) {} calls
    (∃ restored, load saved.directory saved.registry.drawn now = .ok restored ∧ SameRegistry saved.registry restored) ∧
      (Survives saved now ↔ ∀ ensemble, saved.registry.activeModel ≠ some (.voting ensemble)) ∧
      ∀ id ∈ saved.registry.order, ∀ content, (Isolated saved now id content ↔ Readable content ∧
        ∀ other ensemble, other ≠ id → saved.registry.models.lookup other ≠ some (.voting ensemble)) := by
  have inv := run_saved ids calls trained
  obtain ⟨restored, done, same, -⟩ := restart_saved ids _ now inv
  exact ⟨⟨restored, done, same⟩, survives_iff ids _ now inv, fun id known content => model_isolated_iff ids _ now id content known inv⟩

def stump : NativeModel Extended :=
  .tree ⟨6, 6, .finite 1, "best", 7,
    some (.split (.finite (1 / 2)) 0 (.finite 3) (.leaf (.finite (1 / 4))) (.leaf (.finite (3 / 4)))), [.finite 1], 1, true⟩

def registering (model : Model Extended) : RegistryCall Extended (Model Extended) := .register model { metrics := [], dataset := [], featureNames := [] } "t"

def stumpRun : List (RegistryCall Extended (Model Extended)) := [registering (.native stump), .activate "0" "t"]

def ensembleRun : List (RegistryCall Extended (Model Extended)) :=
  [registering (.voting ⟨[stump], .soft, [.finite 1], true⟩), .activate "0" "t"]

theorem stump_trained : ∀ call ∈ stumpRun, RegistersTrained call := by
  intro call member
  simp only [stumpRun, List.mem_cons, List.not_mem_nil, or_false] at member
  rcases member with rfl | rfl
  · exact rfl
  · trivial

theorem models_survive_stump :
    Survives (final (SavedRegistry.step ActivationStack.counting) {} stumpRun) "t" ∧
      Isolated (final (SavedRegistry.step ActivationStack.counting) {} stumpRun) "t" "0" (.error .value) := by
  obtain ⟨-, survives, isolated⟩ := models_survive_iff ActivationStack.counting stumpRun "t" stump_trained
  have models : (final (SavedRegistry.step ActivationStack.counting) {} stumpRun).registry.models =
      Dict.empty.insert "0" (.native stump) := rfl
  have active : (final (SavedRegistry.step ActivationStack.counting) {} stumpRun).registry.activeModel =
      some (.native stump) := rfl
  refine ⟨survives.mpr ?_, (isolated "0" (by decide +kernel) (.error .value)).mpr ⟨?_, ?_⟩⟩
  · intro ensemble chosen
    rw [active] at chosen
    cases chosen
  · intro error failed
    cases failed
    rfl
  · intro other ensemble apart registered
    rw [models, Dict.lookup_insert, if_neg apart] at registered
    cases registered

-- An active ensemble is lost, and a file that holds a list stops the loading.
theorem models_lost : ¬ Survives (final (SavedRegistry.step ActivationStack.counting) {} ensembleRun) "t" ∧
    ¬ Isolated (final (SavedRegistry.step ActivationStack.counting) {} stumpRun) "t" "0" (.ok (.arr [])) := by
  refine ⟨fun ⟨restored, done, _, predicts⟩ => ?_, fun ⟨restored, done, _⟩ => ?_⟩
  · have gone : (load (final (SavedRegistry.step ActivationStack.counting) {} ensembleRun).directory 1 "t").toOption.bind
        activeModel = none := rfl
    rw [show load _ 1 "t" = _ from done] at gone
    have same := predicts [.finite 1]
    rw [probability, show restored.activeModel = none from gone] at same
    cases same
  · cases done

end QuantEngine.Learning.Restart
