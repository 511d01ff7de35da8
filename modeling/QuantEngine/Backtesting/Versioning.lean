import Mathlib.Data.List.Range
import QuantEngine.Library.Dict
import QuantEngine.Library.Extended
import QuantEngine.Library.Fallible
import QuantEngine.Library.Json
import QuantEngine.Library.JsonText
import QuantEngine.Library.Text

set_option autoImplicit false

namespace QuantEngine.Backtesting

variable {F : Type}

structure ParameterSet (F : Type) where
  strategy : String
  version : String
  parameters : List (String × Json F)
  notes : String
  createdAt : String

namespace ParameterSet

def toDict (entry : ParameterSet F) : Json F :=
  .obj [("strategy", .str entry.strategy), ("version", .str entry.version), ("parameters", .obj entry.parameters),
    ("notes", .str entry.notes), ("created_at", .str entry.createdAt)]

-- `dict(data)` of an object; nothing else is ever written.
def asDict : Json F → Except PyError (List (String × Json F))
  | .obj members => .ok members
  | _ => .error .type

def fromDict [PyFloat F] (now : String) (payload : Json F) : Except PyError (ParameterSet F) := do
  let strategy ← payload.item "strategy"
  let version ← payload.item "version"
  let parameters ← asDict (← payload.get "parameters" (.obj []))
  let notes ← payload.get "notes" (.str "")
  let createdAt ← payload.get "created_at" (.str now)
  .ok ⟨strategy.toText, version.toText, parameters, notes.toText, createdAt.toText⟩

theorem read_back [PyFloat F] (now : String) (entry : ParameterSet F) : fromDict now entry.toDict = .ok entry := by
  simp only [fromDict, toDict, asDict, Json.item, Json.get, Json.member_here, Json.member_later, Option.getD_some, ne_eq,
    String.reduceEq, not_false_eq_true, Json.ok_bind, Json.toText]

end ParameterSet

-- The directory of a store: the names of its files, and what `json.loads` makes of each.
abbrev VersionFiles (F : Type) := Dict String (Except PyError (Json F))

namespace VersionStore

def safe (strategy : String) : String :=
  String.ofList (strategy.toList.map (fun c => if c = '/' ∨ c = '\\' then '_' else c))

-- `_path`.
def fileName (strategy : String) : String := safe strategy ++ ".json"

-- `item.version.split(".")[1]` as an integer.
def minorOf (version : String) : Except PyError Int :=
  match (Text.split '.' version)[1]? with
  | none => .error (.other "IndexError")
  | some part => match Text.parseInt part with
    | none => .error .value
    | some minor => .ok minor

-- `_next_version`.
def nextVersion (history : List (ParameterSet F)) : Except PyError String :=
  if history.isEmpty then .ok "1.0"
  else do
    let dotted := history.filter (fun item => item.version.toList.contains '.')
    let minors ← dotted.mapM (fun item => minorOf item.version)
    .ok ("1." ++ toString (match minors.max? with
      | some last => last + 1
      | none => 0))

variable [PyFloat F]

def history (files : VersionFiles F) (now strategy : String) : Except PyError (List (ParameterSet F)) :=
  match files.lookup (fileName strategy) with
  | none => .ok []
  | some content => do
      let payload ← content
      let items ← payload.iterate
      Json.mapAll (ParameterSet.fromDict now) items

def add (files : VersionFiles F) (now strategy : String) (parameters : List (String × Json F)) (notes : String) :
    Except PyError (ParameterSet F × VersionFiles F) := do
  let history ← history files now strategy
  let version ← nextVersion history
  let entry : ParameterSet F := ⟨strategy, version, parameters, notes, now⟩
  .ok (entry, files.insert (fileName strategy) (.ok (.arr ((history ++ [entry]).map ParameterSet.toDict))))

def latest (files : VersionFiles F) (now strategy : String) : Except PyError (Option (ParameterSet F)) := do
  let history ← history files now strategy
  .ok history.getLast?

def get (files : VersionFiles F) (now strategy version : String) : Except PyError (Option (ParameterSet F)) := do
  let history ← history files now strategy
  .ok (history.find? (fun item => decide (item.version = version)))

def rollback (files : VersionFiles F) (now strategy version : String) : Except PyError (ParameterSet F × VersionFiles F) := do
  match ← get files now strategy version with
  | none => .error .key
  | some target => add files now strategy target.parameters ("rollback a v" ++ version)

inductive Call (F : Type) where
  | add (now strategy : String) (parameters : List (String × Json F)) (notes : String)
  | rollback (now strategy version : String)

def Call.strategy : Call F → String
  | .add _ strategy _ _ => strategy
  | .rollback _ strategy _ => strategy

def answer (files : VersionFiles F) : Call F → Except PyError (ParameterSet F × VersionFiles F)
  | .add now strategy parameters notes => add files now strategy parameters notes
  | .rollback now strategy version => rollback files now strategy version

-- The files, and the entries that were returned so far.
structure Session (F : Type) where
  files : VersionFiles F
  added : List (ParameterSet F)

-- A call that raises writes nothing.
def call (session : Session F) (given : Call F) : Session F :=
  match answer session.files given with
  | .ok (entry, files) => ⟨files, session.added ++ [entry]⟩
  | .error _ => session

-- Calls on an empty directory.
def run (calls : List (Call F)) : Session F := calls.foldl call ⟨.empty, []⟩

end VersionStore

end QuantEngine.Backtesting

namespace QuantEngine.Backtesting.VersionStore

variable {F : Type}

def versionText (minor : Nat) : String := "1." ++ toString (minor : Int)

theorem version_chars (minor : Nat) : (versionText minor).toList = '1' :: '.' :: Nat.toDigits 10 minor := by
  rw [versionText, String.toList_append, JsonText.int_text]
  simp

theorem version_injective : Function.Injective versionText := by
  intro a b same
  have chars := congrArg String.toList same
  rw [version_chars, version_chars] at chars
  exact JsonText.digits_unique a b (List.cons.inj (List.cons.inj chars).2).2

theorem minor_of_version (minor : Nat) : minorOf (versionText minor) = .ok (minor : Int) := by
  have plain : '.' ∉ Nat.toDigits 10 minor := fun member => absurd (JsonText.digits_chars minor '.' member) (by decide)
  have parts : Text.split '.' (versionText minor) = ["1", String.ofList (Nat.toDigits 10 minor)] := by
    rw [Text.split, version_chars]
    have first := (Text.split_chars_plain '.' ['1'] (Nat.toDigits 10 minor) (by decide)).2
    rw [List.singleton_append] at first
    rw [first, (Text.split_chars_plain '.' (Nat.toDigits 10 minor) [] plain).1]
    rfl
  rw [minorOf, parts]
  simp only [List.getElem?_cons_succ, List.getElem?_cons_zero, Text.parse_digits]

def Numbered (entries : List (ParameterSet F)) : Prop :=
  entries.map ParameterSet.version = (List.range entries.length).map versionText

theorem last_minor (count : Nat) : ((List.range (count + 1)).map (fun minor : Nat => (minor : Int))).max? = some (count : Int) := by
  refine List.max?_eq_some_iff.mpr ⟨List.mem_map.mpr ⟨count, List.mem_range.mpr (Nat.lt_succ_self count), rfl⟩, ?_⟩
  intro minor member
  obtain ⟨place, inside, rfl⟩ := List.mem_map.mp member
  have below := List.mem_range.mp inside
  omega

-- The versions 1.0 to 1.n are followed by 1.(n+1).
theorem next_numbered (entries : List (ParameterSet F)) (numbered : Numbered entries) :
    nextVersion entries = .ok (versionText entries.length) := by
  rw [nextVersion]
  cases entries with
  | nil =>
      have first : "1.0" = versionText 0 := String.toList_inj.mp (by rw [version_chars]; rfl)
      exact congrArg Except.ok first
  | cons first rest =>
      have known : ∀ item ∈ first :: rest, ∃ minor, item.version = versionText minor := by
        intro item member
        have version : item.version ∈ (first :: rest).map ParameterSet.version := List.mem_map_of_mem member
        rw [numbered] at version
        obtain ⟨minor, _, same⟩ := List.mem_map.mp version
        exact ⟨minor, same.symm⟩
      have dotted : (first :: rest).filter (fun item => item.version.toList.contains '.') = first :: rest := by
        refine List.filter_eq_self.mpr (fun item member => ?_)
        obtain ⟨minor, same⟩ := known item member
        rw [same, version_chars]
        simp
      have minors : (first :: rest).mapM (fun item => minorOf item.version) =
          .ok ((List.range (first :: rest).length).map (fun minor : Nat => (minor : Int))) := by
        have read := Fallible.map_ok (fun version => minorOf version) (fun version =>
          match minorOf version with
          | .ok minor => minor
          | .error _ => 0) ((first :: rest).map ParameterSet.version) (fun version member => by
            rw [numbered] at member
            obtain ⟨minor, _, rfl⟩ := List.mem_map.mp member
            rw [minor_of_version])
        rw [List.mapM_map] at read
        refine read.trans ?_
        rw [numbered, List.map_map]
        congr 1
        refine List.map_congr_left (fun minor _ => ?_)
        simp only [Function.comp_apply, minor_of_version]
      simp only [List.isEmpty_cons, Bool.false_eq_true, if_false, dotted, minors]
      rw [Json.ok_bind, List.length_cons, last_minor]
      rfl

-- The entries that were added under a file name, whatever their strategies.
def group (added : List (ParameterSet F)) (name : String) : List (ParameterSet F) :=
  added.filter (fun entry => decide (fileName entry.strategy = name))

-- Each file holds the entries of its name, with consecutive versions.
structure Kept (session : Session F) : Prop where
  files : ∀ name, session.files.lookup name = if group session.added name = [] then none
    else some (.ok (.arr ((group session.added name).map ParameterSet.toDict)))
  numbered : ∀ name, Numbered (group session.added name)

theorem group_snoc (added : List (ParameterSet F)) (entry : ParameterSet F) (name : String) :
    group (added ++ [entry]) name = if fileName entry.strategy = name then group added name ++ [entry] else group added name := by
  rw [group, List.filter_append]
  split
  · rename_i same
    rw [List.filter_singleton, decide_eq_true same]
    rfl
  · rename_i other
    rw [List.filter_singleton, decide_eq_false other]
    exact List.append_nil _

theorem numbered_snoc (entries : List (ParameterSet F)) (entry : ParameterSet F) (numbered : Numbered entries)
    (version : entry.version = versionText entries.length) : Numbered (entries ++ [entry]) := by
  rw [Numbered, List.map_append, numbered, List.length_append, List.length_singleton, List.range_succ, List.map_append,
    List.map_singleton, List.map_singleton, version]

variable [PyFloat F]

theorem history_kept (session : Session F) (kept : Kept session) (now strategy : String) :
    history session.files now strategy = .ok (group session.added (fileName strategy)) := by
  rw [history, kept.files]
  split
  · rename_i none
    split at none
    · rename_i empty
      rw [empty]
    · exact nomatch none
  · rename_i content found
    split at found
    · exact nomatch found
    · obtain rfl := Option.some.inj found
      exact Json.map_all_inverse ParameterSet.toDict (ParameterSet.fromDict now) _ (fun entry _ => ParameterSet.read_back now entry)

def nextEntry (session : Session F) (now strategy : String) (parameters : List (String × Json F)) (notes : String) : ParameterSet F :=
  ⟨strategy, versionText (group session.added (fileName strategy)).length, parameters, notes, now⟩

theorem add_kept (session : Session F) (kept : Kept session) (now strategy : String) (parameters : List (String × Json F))
    (notes : String) : add session.files now strategy parameters notes =
      .ok (nextEntry session now strategy parameters notes, session.files.insert (fileName strategy)
        (.ok (.arr ((group session.added (fileName strategy) ++ [nextEntry session now strategy parameters notes]).map
          ParameterSet.toDict)))) := by
  rw [add, history_kept session kept, Json.ok_bind, next_numbered _ (kept.numbered _), Json.ok_bind]
  rfl

omit [PyFloat F] in
theorem kept_snoc (session : Session F) (kept : Kept session) (now strategy : String) (parameters : List (String × Json F))
    (notes : String) : Kept
      ⟨session.files.insert (fileName strategy)
        (.ok (.arr ((group session.added (fileName strategy) ++ [nextEntry session now strategy parameters notes]).map
          ParameterSet.toDict))), session.added ++ [nextEntry session now strategy parameters notes]⟩ where
  files := by
    intro name
    have owner : fileName (nextEntry session now strategy parameters notes).strategy = fileName strategy := rfl
    rw [Dict.lookup_insert, group_snoc, owner]
    by_cases here : fileName strategy = name
    · rw [if_pos here.symm, if_pos here, if_neg (by simp), here]
    · rw [if_neg (fun same => here same.symm), if_neg here, kept.files]
  numbered := by
    intro name
    rw [group_snoc]
    change Numbered (if fileName strategy = name then _ else _)
    by_cases here : fileName strategy = name
    · rw [if_pos here]
      exact numbered_snoc _ _ (kept.numbered name) (by rw [nextEntry, here])
    · rw [if_neg here]
      exact kept.numbered name

-- What a call does: it raises, or it adds the next entry of its strategy.
theorem call_cases (session : Session F) (kept : Kept session) (given : Call F) :
    (call session given = session ∧ ∃ now strategy version, given = .rollback now strategy version ∧
        get session.files now strategy version = .ok none) ∨
      ∃ entry, (call session given).added = session.added ++ [entry] ∧ entry.strategy = given.strategy ∧
        Kept (call session given) ∧ ∀ now strategy version, given = .rollback now strategy version →
          ∃ target, get session.files now strategy version = .ok (some target) ∧ entry.parameters = target.parameters := by
  cases given with
  | add now strategy parameters notes =>
      refine Or.inr ⟨nextEntry session now strategy parameters notes, ?_, rfl, ?_, fun _ _ _ same => nomatch same⟩
      · rw [call, answer, add_kept session kept]
      · rw [call, answer, add_kept session kept]
        exact kept_snoc session kept now strategy parameters notes
  | rollback now strategy version =>
      have read : get session.files now strategy version =
          .ok ((group session.added (fileName strategy)).find? (fun item => decide (item.version = version))) := by
        rw [get, history_kept session kept, Json.ok_bind]
      cases found : (group session.added (fileName strategy)).find? (fun item => decide (item.version = version)) with
      | none =>
          rw [found] at read
          refine Or.inl ⟨?_, now, strategy, version, rfl, read⟩
          rw [call, answer, rollback, read, Json.ok_bind]
      | some target =>
          rw [found] at read
          have done : answer session.files (.rollback now strategy version) =
              add session.files now strategy target.parameters ("rollback a v" ++ version) := by
            rw [answer, rollback, read, Json.ok_bind]
          rw [add_kept session kept] at done
          refine Or.inr ⟨nextEntry session now strategy target.parameters ("rollback a v" ++ version), ?_, rfl, ?_, ?_⟩
          · rw [call, done]
          · rw [call, done]
            exact kept_snoc session kept now strategy target.parameters ("rollback a v" ++ version)
          · rintro _ _ _ ⟨⟩
            exact ⟨target, read, rfl⟩

theorem run_snoc (calls : List (Call F)) (given : Call F) : run (calls ++ [given]) = call (run calls) given := by
  rw [run, List.foldl_append]
  rfl

theorem run_kept (calls : List (Call F)) : Kept (run calls) := by
  induction calls using List.reverseRecOn with
  | nil => exact ⟨fun _ => rfl, fun _ => rfl⟩
  | append_singleton calls given ih =>
      rw [run_snoc]
      rcases call_cases (run calls) ih given with ⟨same, _⟩ | ⟨_, _, _, kept, _⟩
      · rw [same]
        exact ih
      · exact kept

theorem added_grows (calls more : List (Call F)) : (run calls).added <+: (run (calls ++ more)).added := by
  induction more using List.reverseRecOn with
  | nil => exact (List.append_nil calls).symm ▸ List.prefix_refl _
  | append_singleton more given ih =>
      rw [← List.append_assoc, run_snoc]
      rcases call_cases (run (calls ++ more)) (run_kept _) given with ⟨same, _⟩ | ⟨entry, added, _⟩
      · rwa [same]
      · rw [added]
        exact ih.trans (List.prefix_append _ _)

def ownEntries (added : List (ParameterSet F)) (strategy : String) : List (ParameterSet F) :=
  added.filter (fun entry => decide (entry.strategy = strategy))

-- What a store is to be for some strategies, along a run of calls.
structure Isolated (known : String → Prop) (calls : List (Call F)) : Prop where
  history : ∀ before, before <+: calls → ∀ strategy, known strategy → ∀ now,
    history (run before).files now strategy = .ok (ownEntries (run before).added strategy)
  distinct : ∀ strategy, known strategy → ((ownEntries (run calls).added strategy).map ParameterSet.version).Nodup
  unchanged : ∀ before, before <+: calls → ∀ strategy, known strategy → ∀ now earlier later,
    VersionStore.history (run before).files now strategy = .ok earlier →
      VersionStore.history (run calls).files now strategy = .ok later → earlier <+: later
  apart : ∀ before given, before ++ [given] <+: calls → ∀ strategy, known strategy → strategy ≠ given.strategy → ∀ now,
    VersionStore.history (run (before ++ [given])).files now strategy = VersionStore.history (run before).files now strategy
  restored : ∀ before now strategy version, before ++ [.rollback now strategy version] <+: calls → known strategy →
    ∀ reading target, get (run before).files now strategy version = .ok (some target) →
      ∃ last, latest (run (before ++ [.rollback now strategy version])).files reading strategy = .ok (some last) ∧
        last.parameters = target.parameters

omit [PyFloat F] in
-- No other strategy of `known` is stored under the name of one that something is added to.
def Unshared (known : String → Prop) (calls : List (Call F)) : Prop :=
  ∀ now strategy parameters notes, Call.add now strategy parameters notes ∈ calls →
    ∀ other, known other → safe other = safe strategy → other = strategy

theorem file_name_eq (first second : String) : fileName first = fileName second ↔ safe first = safe second := by
  rw [fileName, fileName, ← String.toList_inj, String.toList_append, String.toList_append, List.append_left_inj, String.toList_inj]

theorem group_distinct (calls : List (Call F)) (name : String) :
    ((group (run calls).added name).map ParameterSet.version).Nodup := by
  have numbered := (run_kept calls).numbered name
  rw [numbered]
  exact List.Nodup.map version_injective List.nodup_range

-- Under names that are not shared, an entry is one of a strategy that was added to.
theorem unshared_owned (known : String → Prop) (calls : List (Call F)) (inPlay : ∀ given ∈ calls, known given.strategy)
    (unshared : Unshared known calls) :
    ∀ entry ∈ (run calls).added, ∃ now parameters notes, Call.add now entry.strategy parameters notes ∈ calls := by
  induction calls using List.reverseRecOn with
  | nil => exact fun _ member => nomatch member
  | append_singleton calls given ih =>
      have before := ih (fun other member => inPlay other (List.mem_append_left _ member))
        (fun now strategy parameters notes member => unshared now strategy parameters notes (List.mem_append_left _ member))
      have earlier : ∀ entry ∈ (run calls).added, ∃ now parameters notes,
          Call.add now entry.strategy parameters notes ∈ calls ++ [given] := by
        intro entry member
        obtain ⟨now, parameters, notes, there⟩ := before entry member
        exact ⟨now, parameters, notes, List.mem_append_left _ there⟩
      rw [run_snoc]
      rcases call_cases (run calls) (run_kept calls) given with ⟨same, _⟩ | ⟨entry, added, own, _, restored⟩
      · rw [same]
        exact earlier
      · rw [added]
        intro held member
        rcases List.mem_append.mp member with old | new
        · exact earlier held old
        · obtain rfl := List.mem_singleton.mp new
          rw [own]
          cases given with
          | add now strategy parameters notes => exact ⟨now, parameters, notes, List.mem_append_right _ List.mem_cons_self⟩
          | rollback now strategy version =>
              obtain ⟨target, found, _⟩ := restored now strategy version rfl
              rw [get, history_kept _ (run_kept calls), Json.ok_bind] at found
              have there := List.mem_filter.mp (List.mem_of_find?_eq_some (Except.ok.inj found))
              obtain ⟨when_, parameters, notes, listed⟩ := earlier target there.1
              have shared := (file_name_eq _ _).mp (of_decide_eq_true there.2)
              have same := unshared when_ target.strategy parameters notes listed strategy
                (inPlay _ (List.mem_append_right _ List.mem_cons_self)) shared.symm
              exact ⟨when_, parameters, notes, same ▸ listed⟩

theorem group_own (known : String → Prop) (calls : List (Call F)) (inPlay : ∀ given ∈ calls, known given.strategy)
    (unshared : Unshared known calls) (strategy : String) (member : known strategy) :
    group (run calls).added (fileName strategy) = ownEntries (run calls).added strategy := by
  refine List.filter_congr (fun entry there => ?_)
  obtain ⟨now, parameters, notes, listed⟩ := unshared_owned known calls inPlay unshared entry there
  refine decide_eq_decide.mpr ⟨fun shared => ?_, fun same => by rw [same]⟩
  exact (unshared now entry.strategy parameters notes listed strategy member ((file_name_eq _ _).mp shared).symm).symm

omit [PyFloat F] in
theorem prefix_part {known : String → Prop} {before calls : List (Call F)} (part : before <+: calls)
    (inPlay : ∀ given ∈ calls, known given.strategy) (unshared : Unshared known calls) :
    (∀ given ∈ before, known given.strategy) ∧ Unshared known before :=
  ⟨fun given member => inPlay given (part.subset member),
    fun now strategy parameters notes member => unshared now strategy parameters notes (part.subset member)⟩

theorem unshared_isolated (known : String → Prop) (calls : List (Call F)) (inPlay : ∀ given ∈ calls, known given.strategy)
    (unshared : Unshared known calls) : Isolated known calls where
  history := by
    intro before part strategy member now
    obtain ⟨played, apart⟩ := prefix_part part inPlay unshared
    rw [history_kept _ (run_kept before), group_own known before played apart strategy member]
  distinct := by
    intro strategy member
    rw [← group_own known calls inPlay unshared strategy member]
    exact group_distinct calls _
  unchanged := by
    rintro before ⟨more, rfl⟩ strategy member now earlier later first second
    rw [history_kept _ (run_kept before)] at first
    rw [history_kept _ (run_kept (before ++ more))] at second
    obtain rfl := Except.ok.inj first
    obtain rfl := Except.ok.inj second
    exact (added_grows before more).filter _
  apart := by
    intro before given part strategy member other now
    obtain ⟨played, apart⟩ := prefix_part part inPlay unshared
    obtain ⟨earlier, fewer⟩ := prefix_part ((List.prefix_append _ _).trans part) inPlay unshared
    rw [history_kept _ (run_kept _), history_kept _ (run_kept before), group_own known _ played apart strategy member,
      group_own known before earlier fewer strategy member, run_snoc]
    rcases call_cases (run before) (run_kept before) given with ⟨same, _⟩ | ⟨entry, added, own, _⟩
    · rw [same]
    · rw [added, ownEntries, List.filter_append, List.filter_singleton,
        decide_eq_false (fun same => other (same.symm.trans own))]
      exact congrArg Except.ok (List.append_nil _)
  restored := by
    intro before now strategy version part member reading target found
    rcases call_cases (run before) (run_kept before) (.rollback now strategy version) with
      ⟨_, _, _, _, same, none⟩ | ⟨entry, added, own, kept, restored⟩
    · obtain ⟨rfl, rfl, rfl⟩ := Call.rollback.inj same
      rw [found] at none
      exact nomatch none
    · obtain ⟨other, read, parameters⟩ := restored now strategy version rfl
      rw [found] at read
      obtain rfl := Option.some.inj (Except.ok.inj read)
      refine ⟨entry, ?_, parameters⟩
      rw [run_snoc, latest, history_kept _ kept, Json.ok_bind, added, group_snoc, own, Call.strategy, if_pos rfl,
        List.getLast?_append, List.getLast?_singleton]
      rfl

theorem isolated_unshared (known : String → Prop) (calls : List (Call F)) (isolated : Isolated known calls) :
    Unshared known calls := by
  intro now strategy parameters notes member other listed shared
  obtain ⟨before, after, rfl⟩ := List.append_of_mem member
  have part : before ++ [Call.add now strategy parameters notes] <+: before ++ Call.add now strategy parameters notes :: after :=
    ⟨after, by simp⟩
  have read := isolated.history _ part other listed now
  rw [history_kept _ (run_kept _)] at read
  have entries := Except.ok.inj read
  rcases call_cases (run before) (run_kept before) (.add now strategy parameters notes) with ⟨_, _, _, _, same, _⟩ | ⟨entry, added, own, _⟩
  · exact nomatch same
  · rw [run_snoc, added] at entries
    have held : entry ∈ group ((run before).added ++ [entry]) (fileName other) := by
      refine List.mem_filter.mpr ⟨List.mem_append_right _ List.mem_cons_self, decide_eq_true ?_⟩
      rw [own]
      exact (file_name_eq _ _).mpr shared.symm
    rw [entries] at held
    exact (of_decide_eq_true (List.mem_filter.mp held).2).symm.trans own

-- Strategies are isolated exactly where no two of them share a file.
theorem isolated_iff (known : String → Prop) (calls : List (Call F)) (inPlay : ∀ given ∈ calls, known given.strategy) :
    Isolated known calls ↔ Unshared known calls :=
  ⟨isolated_unshared known calls, unshared_isolated known calls inPlay⟩

theorem isolated_iff_trend : Isolated (fun strategy => strategy = "trend") [Call.add (F := ℚ) "2024" "trend" [] ""] ↔
    Unshared (fun strategy => strategy = "trend") [Call.add (F := ℚ) "2024" "trend" [] ""] :=
  isolated_iff _ _ (by simp [Call.strategy])

-- Two strategies that differ in a slash and an underscore have one history.
theorem slash_shared : ¬ Isolated (fun strategy => strategy = "a/b" ∨ strategy = "a_b")
    [Call.add (F := ℚ) "2024" "a/b" [] "", .add "2025" "a_b" [] ""] := by
  intro isolated
  have same := isolated_unshared _ _ isolated "2024" "a/b" [] "" List.mem_cons_self "a_b" (Or.inr rfl) (by decide)
  exact absurd same (by decide)

end QuantEngine.Backtesting.VersionStore
