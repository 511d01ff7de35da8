import QuantEngine.Dashboard.ConfigStore
import QuantEngine.Library.Extended
import QuantEngine.Library.Run

set_option autoImplicit false

namespace QuantEngine.ConfigStore

open Run

variable {F : Type}

theorem member_absent (entries : List (String × Json F)) (key : String) (absent : key ∉ Json.keys entries) :
    Json.member entries key = none := by
  rw [Json.member, Option.map_eq_none_iff, List.find?_eq_none]
  intro entry member same
  exact absent (List.mem_map.mpr ⟨entry, member, of_decide_eq_true same⟩)

-- What a list of entries says of a key, and otherwise what was there.
theorem lookup_insert_all_member (d : Dict String (Json F)) (fresh : List (String × Json F)) (key : String)
    (unique : (Json.keys fresh).Nodup) : (d.insertAll fresh).lookup key = (Json.member fresh key).or (d.lookup key) := by
  induction fresh generalizing d with
  | nil => rfl
  | cons entry rest ih =>
      obtain ⟨name, value⟩ := entry
      obtain ⟨absent, unique⟩ := List.nodup_cons.mp unique
      have step := ih (d.insert name value) unique
      rw [Dict.lookup_insert] at step
      refine step.trans ?_
      by_cases here : key = name
      · subst here
        rw [member_absent rest key absent, if_pos rfl, Json.member_here]
        rfl
      · rw [if_neg here, Json.member_later key name value rest (Ne.symm here)]

theorem member_of_mem (entries : List (String × Json F)) (entry : String × Json F) (unique : (Json.keys entries).Nodup)
    (member : entry ∈ entries) : Json.member entries entry.1 = some entry.2 := by
  induction entries with
  | nil => exact absurd member List.not_mem_nil
  | cons head rest ih =>
      obtain ⟨absent, unique⟩ := List.nodup_cons.mp unique
      rcases List.mem_cons.mp member with rfl | later
      · exact Json.member_here _ _ _
      · have apart : head.1 ≠ entry.1 := fun same => absent (List.mem_map.mpr ⟨entry, later, same.symm⟩)
        rw [Json.member_later entry.1 head.1 head.2 rest apart, ih unique later]

theorem member_mem (entries : List (String × Json F)) (key : String) (value : Json F)
    (found : Json.member entries key = some value) : (key, value) ∈ entries := by
  obtain ⟨entry, first, rfl⟩ := Option.map_eq_some_iff.mp found
  have name : entry.1 = key := by simpa using List.find?_some first
  rw [← name]
  exact List.mem_of_find?_eq_some first

theorem resolve_reapply_entry (settings : Settings F) (entry : String × Json F) (path : String) (listed : path ∈ whitelist) :
    resolve (RuntimeConfigStore.reapplyEntry settings entry) path = if path = entry.1 then entry.2 else resolve settings path := by
  rw [RuntimeConfigStore.reapplyEntry]
  split
  · exact resolve_set_live settings entry.1 _ entry.2 path listed
  · rename_i other
    have apart : path ≠ entry.1 := by
      rintro rfl
      exact other listed
    rw [if_neg apart]

theorem resolve_reapply (store : RuntimeConfigStore F) (settings : Settings F) (path : String) (listed : path ∈ whitelist) :
    resolve (store.reapply settings) path = (store.overrides.lookup path).getD (resolve settings path) := by
  have entries : ∀ (entries : List (String × Json F)) (settings : Settings F), (Json.keys entries).Nodup →
      resolve (entries.foldl RuntimeConfigStore.reapplyEntry settings) path =
        (Json.member entries path).getD (resolve settings path) := by
    intro entries
    induction entries with
    | nil => exact fun _ _ => rfl
    | cons entry rest ih =>
        intro settings unique
        obtain ⟨absent, unique⟩ := List.nodup_cons.mp unique
        rw [List.foldl_cons, ih _ unique, resolve_reapply_entry settings entry path listed]
        by_cases here : path = entry.1
        · subst here
          rw [member_absent rest entry.1 absent, if_pos rfl, Json.member_here]
          rfl
        · rw [if_neg here, Json.member_later path entry.1 entry.2 rest (Ne.symm here)]
  exact entries store.overrides.entries settings store.overrides.unique

variable [PyFloat F]

def check (settings : Settings F) (entry : String × Json F) : Except PyError (Json F) :=
  if entry.1 ∈ whitelist then coerce (resolve settings entry.1) entry.2 else .error .key

-- The converted entries of a patch before the first that is rejected.
def accepted (settings : Settings F) : List (String × Json F) → List (String × Json F)
  | [] => []
  | entry :: rest =>
      match check settings entry with
      | .error _ => []
      | .ok coerced => (entry.1, coerced) :: accepted settings rest

def rejects (settings : Settings F) (entries : List (String × Json F)) : Prop :=
  (accepted settings entries).length < entries.length

theorem accepted_keys (settings : Settings F) (entries : List (String × Json F)) :
    (Json.keys (accepted settings entries)).Sublist (Json.keys entries) := by
  induction entries with
  | nil => exact List.Sublist.refl _
  | cons entry rest ih =>
      rw [accepted]
      split
      · exact List.nil_sublist _
      · exact ih.cons_cons entry.1

theorem accepted_listed (settings : Settings F) (entries : List (String × Json F)) (entry : String × Json F)
    (member : entry ∈ accepted settings entries) : entry.1 ∈ whitelist := by
  induction entries with
  | nil => exact absurd member List.not_mem_nil
  | cons head rest ih =>
      rw [accepted] at member
      cases checked : check settings head with
      | error e => simp [checked] at member
      | ok coerced =>
          rw [checked] at member
          rcases List.mem_cons.mp member with rfl | later
          · by_contra other
            simp [check, other] at checked
          · exact ih later

-- A key is converted to the type that it has when the patch arrives.
theorem accepted_set_live (settings : Settings F) (path : String) (listed : path ∈ whitelist) (value : Json F)
    (entries : List (String × Json F)) (absent : path ∉ Json.keys entries) :
    accepted (setLive settings path listed value) entries = accepted settings entries := by
  induction entries with
  | nil => rfl
  | cons entry rest ih =>
      rw [Json.keys, List.map_cons, List.mem_cons, not_or] at absent
      have same : check (setLive settings path listed value) entry = check settings entry := by
        by_cases whitelisted : entry.1 ∈ whitelist
        · rw [check, check, resolve_set_live settings path listed value entry.1 whitelisted, if_neg (Ne.symm absent.1)]
        · rw [check, check, if_neg whitelisted, if_neg whitelisted]
      rw [accepted, accepted, same, ih absent.2]

-- What `apply` has done when it returns or raises.
theorem apply_entries_spec (entries : List (String × Json F)) (settings : Settings F) (overrides applied : Dict String (Json F))
    (unique : (Json.keys entries).Nodup) :
    let result := applyEntries settings overrides applied entries
    let taken := accepted settings entries
    ((∃ e, result.1 = .error e) ↔ rejects settings entries) ∧ result.2.2 = overrides.insertAll taken ∧
      ∀ path ∈ whitelist, resolve result.2.1 path = (Json.member taken path).getD (resolve settings path) := by
  induction entries generalizing settings overrides applied with
  | nil => simp [applyEntries, accepted, rejects, Dict.insertAll, Json.member]
  | cons entry rest ih =>
      obtain ⟨key, value⟩ := entry
      obtain ⟨absent, unique⟩ := List.nodup_cons.mp unique
      by_cases listed : key ∈ whitelist
      · cases coerced : coerce (resolve settings key) value with
        | error e =>
            have checked : check settings (key, value) = .error e := by rw [check, if_pos listed]; exact coerced
            simp [applyEntries, listed, coerced, accepted, checked, rejects, Dict.insertAll, Json.member]
        | ok new =>
            have checked : check settings (key, value) = .ok new := by rw [check, if_pos listed]; exact coerced
            obtain ⟨raises, stored, live⟩ := ih (setLive settings key listed new) (overrides.insert key new) (applied.insert key new) unique
            have taken : accepted settings ((key, value) :: rest) = (key, new) :: accepted settings rest := by
              rw [accepted, checked]
            have later := accepted_set_live settings key listed new rest absent
            simp only [applyEntries, dif_pos listed, coerced, taken, rejects, List.length_cons, Nat.add_lt_add_iff_right]
            rw [later] at stored live
            rw [rejects, later] at raises
            refine ⟨raises, stored, fun path also => ?_⟩
            rw [live path also, resolve_set_live settings key listed new path also]
            by_cases here : path = key
            · have nowhere := member_absent (accepted settings rest) key (fun member => absent ((accepted_keys settings rest).subset member))
              rw [here, nowhere, if_pos rfl, Json.member_here]
              rfl
            · rw [if_neg here, Json.member_later path key new _ (Ne.symm here)]
      · have checked : check settings (key, value) = .error .key := by rw [check, if_neg listed]
        simp [applyEntries, listed, accepted, checked, rejects, Dict.insertAll, Json.member]

namespace System

-- The live settings are the fresh ones under the overrides.
def Layered (fresh : Settings F) (system : System F) : Prop :=
  ∀ path ∈ whitelist, resolve system.settings path = (system.store.overrides.lookup path).getD (resolve fresh path)

-- A patch on which `apply` raises changes nothing.
def Atomic (system : System F) (patch : Dict String (Json F)) : Prop :=
  ∀ e, (system.apply patch).1 = .error e →
    (∀ path ∈ whitelist, resolve (system.step patch).settings path = resolve system.settings path) ∧
      (system.step patch).store = system.store ∧ (system.step patch).file = system.file

-- The entries before the first rejected one set what is live and stored already.
def Unbroken (system : System F) (patch : Dict String (Json F)) : Prop :=
  rejects system.settings patch.entries → ∀ entry ∈ accepted system.settings patch.entries,
    resolve system.settings entry.1 = entry.2 ∧ system.store.overrides.lookup entry.1 = some entry.2

-- After a patch that succeeds, a new process on the file has the same settings.
def Survives (fresh : Settings F) (system : System F) (patch : Dict String (Json F)) : Prop :=
  ∀ applied, (system.apply patch).1 = .ok applied → ∀ path ∈ whitelist,
    resolve (start fresh (system.step patch).file).settings path = resolve (system.step patch).settings path

-- The default of every path is its value before any override.
def DefaultsKept (fresh : Settings F) (system : System F) : Prop :=
  ∀ entry ∈ system.store.effective system.settings, entry.2.default = resolve fresh entry.1

omit [PyFloat F] in
theorem defaults_kept_iff (fresh : Settings F) (system : System F) :
    DefaultsKept fresh system ↔ ∀ path ∈ whitelist, resolve system.settings path = resolve fresh path := by
  rw [DefaultsKept, RuntimeConfigStore.effective, List.forall_mem_map]
  rfl

-- What is accepted is the default.
def DefaultsOnly (fresh : Settings F) (system : System F) (patch : Dict String (Json F)) : Prop :=
  ∀ entry ∈ accepted system.settings patch.entries, entry.2 = resolve fresh entry.1

theorem apply_cases (system : System F) (patch : Dict String (Json F)) :
    let taken := accepted system.settings patch.entries
    ((∃ e, (system.apply patch).1 = .error e ∧ (system.step patch).file = system.file) ∧ rejects system.settings patch.entries ∨
        (∃ applied, (system.apply patch).1 = .ok applied ∧ (system.step patch).file = (system.step patch).store.persist) ∧
          ¬ rejects system.settings patch.entries) ∧
      (system.step patch).store = { system.store with overrides := system.store.overrides.insertAll taken } ∧
      ∀ path ∈ whitelist,
        resolve (system.step patch).settings path = (Json.member taken path).getD (resolve system.settings path) := by
  obtain ⟨raises, stored, live⟩ :=
    apply_entries_spec patch.entries system.settings system.store.overrides .empty patch.unique
  simp only [step, apply]
  rcases result : applyEntries system.settings system.store.overrides .empty patch.entries with ⟨outcome, settings, overrides⟩
  rw [result] at raises stored live
  cases outcome with
  | error e => exact ⟨.inl ⟨⟨e, rfl, rfl⟩, raises.mp ⟨e, rfl⟩⟩, by rw [← stored], live⟩
  | ok applied =>
      have whole : ¬ rejects system.settings patch.entries := fun short => by
        obtain ⟨e, other⟩ := raises.mpr short
        cases other
      exact ⟨.inr ⟨⟨applied, rfl, rfl⟩, whole⟩, by rw [← stored], live⟩

theorem accepted_unique (system : System F) (patch : Dict String (Json F)) :
    (Json.keys (accepted system.settings patch.entries)).Nodup :=
  (accepted_keys system.settings patch.entries).nodup patch.unique

omit [PyFloat F] in
theorem layered_start (fresh : Settings F) (file : ConfigFile F) : Layered fresh (start fresh file) :=
  fun path listed => resolve_reapply _ fresh path listed

theorem layered_step (fresh : Settings F) (system : System F) (patch : Dict String (Json F)) (layered : Layered fresh system) :
    Layered fresh (system.step patch) := by
  intro path listed
  obtain ⟨-, stored, live⟩ := system.apply_cases patch
  rw [live path listed, layered path listed, stored,
    lookup_insert_all_member _ _ path (system.accepted_unique patch)]
  cases Json.member (accepted system.settings patch.entries) path <;> rfl

theorem atomic_iff (system : System F) (patch : Dict String (Json F)) : system.Atomic patch ↔ system.Unbroken patch := by
  obtain ⟨outcome, stored, live⟩ := system.apply_cases patch
  have unique := system.accepted_unique patch
  rcases outcome with ⟨⟨e, raised, file⟩, short⟩ | ⟨⟨applied, returned, -⟩, whole⟩
  · constructor
    · intro atomic _ entry member
      obtain ⟨settings, store, -⟩ := atomic e raised
      have named := member_of_mem _ entry unique member
      have listed := accepted_listed system.settings patch.entries entry member
      constructor
      · rw [← settings entry.1 listed, live entry.1 listed, named, Option.getD_some]
      · rw [← store, stored, lookup_insert_all_member _ _ entry.1 unique, named, Option.some_or]
    · intro unbroken e' _
      have already := unbroken short
      refine ⟨fun path listed => ?_, ?_, file⟩
      · rw [live path listed]
        cases found : Json.member (accepted system.settings patch.entries) path with
        | none => rfl
        | some value => exact (already (path, value) (member_mem _ path value found)).1.symm
      · rw [stored, Dict.insert_all_own _ _ (fun entry member => Dict.lookup_mem _ _ _ (already entry member).2)]
  · exact iff_of_true (fun e raised => by rw [returned] at raised; cases raised) (fun short => absurd short whole)

theorem survives (fresh : Settings F) (system : System F) (patch : Dict String (Json F)) (layered : Layered fresh system) :
    system.Survives fresh patch := by
  intro applied returned path listed
  obtain ⟨outcome, -, -⟩ := system.apply_cases patch
  rcases outcome with ⟨⟨e, raised, -⟩, -⟩ | ⟨⟨-, -, file⟩, -⟩
  · rw [raised] at returned
    cases returned
  · rw [file, layered_step fresh system patch layered path listed]
    exact layered_start fresh _ path listed

theorem defaults_step (fresh : Settings F) (system : System F) (patch : Dict String (Json F)) (kept : DefaultsKept fresh system) :
    DefaultsKept fresh (system.step patch) ↔ system.DefaultsOnly fresh patch := by
  obtain ⟨-, -, live⟩ := system.apply_cases patch
  have unique := system.accepted_unique patch
  rw [defaults_kept_iff] at kept ⊢
  constructor
  · intro after entry member
    have listed := accepted_listed system.settings patch.entries entry member
    have now := after entry.1 listed
    rw [live entry.1 listed, member_of_mem _ entry unique member, Option.getD_some] at now
    exact now
  · intro only path listed
    rw [live path listed]
    cases found : Json.member (accepted system.settings patch.entries) path with
    | none => exact kept path listed
    | some value => exact only (path, value) (member_mem _ path value found)

-- Where a file has overrides, these are the defaults from the start.
def StoredDefaults (fresh : Settings F) (file : ConfigFile F) : Prop :=
  ∀ path ∈ whitelist, ∀ value, (RuntimeConfigStore.load file).overrides.lookup path = some value → value = resolve fresh path

omit [PyFloat F] in
theorem defaults_start (fresh : Settings F) (file : ConfigFile F) :
    DefaultsKept fresh (start fresh file) ↔ StoredDefaults fresh file := by
  rw [defaults_kept_iff]
  refine forall_congr' fun path => forall_congr' fun listed => ?_
  have store : (start fresh file).store = RuntimeConfigStore.load file := rfl
  rw [layered_start fresh file path listed, store]
  cases (RuntimeConfigStore.load file).overrides.lookup path with
  | none => simp
  | some value => simp

end System

def openPositions : String := "execution.risk.max_open_positions"

theorem open_positions_default : resolve (Settings.default (F := Extended)) openPositions = .int 5 := by
  rcases value_put_all (defaultValues (F := Extended)) (.object []) openPositions (by decide) default_listed with
    ⟨entry, member, own, read⟩ | ⟨absent, -⟩
  · have five : entry.2 = .int 5 := by
      simp only [defaultValues, List.mem_cons, List.not_mem_nil, or_false] at member
      rcases member with rfl | rfl | rfl | rfl | rfl | rfl | rfl | rfl | rfl | rfl | rfl | rfl | rfl | rfl | rfl | rfl | rfl |
        rfl | rfl | rfl | rfl | rfl | rfl | rfl | rfl | rfl | rfl | rfl | rfl | rfl | rfl | rfl | rfl | rfl | rfl | rfl | rfl |
        rfl | rfl <;> simp [openPositions] at own ⊢
    rw [resolve, Settings.default, read, five]
    rfl
  · exact absurd (by decide) absent

def launched : System Extended := System.start .default .absent

def raised : Dict String (Json Extended) := Dict.empty.insert openPositions (.int 3)

theorem raised_accepted (rest : List (String × Json Extended)) :
    accepted launched.settings ((openPositions, .int 3) :: rest) = (openPositions, .int 3) :: accepted launched.settings rest := by
  have current : resolve launched.settings openPositions = .int 5 := open_positions_default
  have checked : check launched.settings (openPositions, .int 3) = .ok (.int 3) := by
    rw [check, if_pos (by decide), current]
    rfl
  rw [accepted, checked]

end QuantEngine.ConfigStore
