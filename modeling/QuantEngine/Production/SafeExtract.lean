import QuantEngine.Library.PathText
import QuantEngine.Library.Text
import QuantEngine.Production.Backup

set_option autoImplicit false

namespace QuantEngine.SafeExtract

open Backup (FileName Path Blob Disk spelled)

-- What is left of a written path: a single dot and an empty name say nothing.
inductive Part where
  | up
  | down (name : FileName)

def partOf (piece : List Char) : Option Part :=
  if piece = ['.', '.'] then some .up
  else if plain : String.ofList piece ≠ "" ∧ String.ofList piece ≠ "." ∧ String.ofList piece ≠ ".." ∧
      '/' ∉ (String.ofList piece).toList then some (.down ⟨String.ofList piece, plain⟩)
  else none

def parts (text : String) : List Part := (Text.splitChars '/' text.toList).filterMap partOf

def absolute (text : String) : Bool := text.toList.head? = some '/'

-- There is nothing above the root.
def enter (path : Path) : Part → Path
  | .up => path.dropLast
  | .down name => path ++ [name]

-- `(base / text).resolve()`: an absolute path stands for itself.
def resolve (base : Path) (text : String) : Path := (parts text).foldl enter (if absolute text then [] else base)

def refused (target member : Path) : Bool := !(spelled target).isPrefixOf (spelled member)

-- The paths to which the members are taken out, in order; a refused one is
-- passed over.
def extracted (target : Path) (members : List (String × FileEntry Blob)) : List (Path × FileEntry Blob) :=
  (members.map (fun member => (resolve target member.1, member.2))).filter (fun member => !refused target member.1)

def safeExtract (workingDir : Path) (destination : String) (members : List (String × FileEntry Blob)) (disk : Disk) :
    Option Disk :=
  disk.placeAll (extracted (resolve workingDir destination) members)

def names (path : Path) : List (List Char) := path.map (fun name => name.text.toList)

-- Beside the last directory of the target, under a longer name that begins with its.
def Beside (target path : Path) : Prop :=
  ∃ above last other below, target = above ++ [last] ∧ path = above ++ other :: below ∧
    last.text.toList <+: other.text.toList ∧ last ≠ other

theorem name_ext (first second : FileName) (same : first.text.toList = second.text.toList) : first = second := by
  obtain ⟨first, _⟩ := first
  obtain ⟨second, _⟩ := second
  cases String.toList_inj.mp same
  rfl

theorem names_inj (first second : Path) (same : names first = names second) : first = second :=
  List.map_injective_iff.mpr (fun a b => name_ext a b) same

theorem names_prefix (short long : Path) : names short <+: names long ↔ short <+: long := by
  constructor
  · intro starts
    obtain ⟨upper, begins, same⟩ := List.prefix_map_iff.mp starts
    exact names_inj _ _ same ▸ begins
  · exact fun starts => List.IsPrefix.map _ starts

theorem names_lookalike (short long : Path) : PathText.Lookalike (names short) (names long) ↔ Beside short long := by
  constructor
  · rintro ⟨above, last, other, below, first, second, starts, apart⟩
    obtain ⟨upper, tail, rfl, here, ends⟩ := List.map_eq_append_iff.mp first
    obtain ⟨name, rfl, rfl⟩ := List.map_eq_singleton_iff.mp ends
    obtain ⟨upper', tail', rfl, there, goes⟩ := List.map_eq_append_iff.mp second
    obtain ⟨other, below, rfl, rfl, rfl⟩ := List.map_eq_cons_iff.mp goes
    have same := names_inj _ _ (here.trans there.symm)
    exact ⟨upper, name, other, below, rfl, by rw [same], starts, fun equal => apart (equal ▸ rfl)⟩
  · rintro ⟨above, last, other, below, rfl, rfl, starts, apart⟩
    refine ⟨names above, last.text.toList, other.text.toList, names below, by simp [names], by simp [names], starts, ?_⟩
    exact fun same => apart (name_ext last other same)

theorem spelled_names (path : Path) (below : path ≠ []) : spelled path = PathText.spell '/' (names path) := by
  rw [spelled, if_neg (by simpa using below), PathText.spell, names, List.flatMap_map]

theorem names_plain (path : Path) : ∀ name ∈ names path, '/' ∉ name := by
  intro name member
  obtain ⟨file, -, rfl⟩ := List.mem_map.mp member
  exact file.plain.2.2.2

-- The texts tell the paths apart but for the directories beside the target.
theorem spelled_prefix (target path : Path) :
    spelled target <+: spelled path ↔ target <+: path ∨ Beside target path := by
  by_cases root : target = []
  · have first : ∃ rest, spelled path = '/' :: rest := by
      cases path with
      | nil => exact ⟨[], rfl⟩
      | cons name rest => exact ⟨_, rfl⟩
    obtain ⟨rest, text⟩ := first
    rw [root, text]
    simp [spelled, List.nil_prefix]
  · by_cases top : path = []
    · have long : ¬ spelled target <+: spelled path := by
        rw [top, spelled_names target root]
        obtain ⟨name, rest, rfl⟩ := List.exists_cons_of_ne_nil root
        intro starts
        have letters : name.text.toList ++ PathText.spell '/' (names rest) <+: [] := (List.cons_prefix_cons.mp starts).2
        have empty := (List.append_eq_nil_iff.mp (List.prefix_nil.mp letters)).1
        exact name.plain.1 (String.toList_eq_nil_iff.mp empty)
      have lookalike := (names_lookalike target []).not.mp (PathText.lookalike_empty _)
      rw [top] at long ⊢
      simp [long, root, lookalike]
    · rw [spelled_names target root, spelled_names path top,
        PathText.spell_prefix '/' _ _ (names_plain target) (names_plain path), names_prefix, names_lookalike]

-- The name of a member that lies below the target by its components.
def written (path : Path) : String := String.ofList (PathText.spell '/' (names path)).tail

theorem part_of_name (name : FileName) : partOf name.text.toList = some (.down name) := by
  have dots : name.text.toList ≠ ['.', '.'] := fun same => name.plain.2.2.1 (String.toList_inj.mp same)
  have back : String.ofList name.text.toList = name.text := String.ofList_toList
  rw [partOf, if_neg dots, dif_pos (by rw [back]; exact name.plain)]
  simp only [back]

theorem parts_written (path : Path) : parts (written path) = path.map Part.down := by
  rw [parts, written, String.toList_ofList]
  induction path with
  | nil => rfl
  | cons name rest ih =>
      rw [names, List.map_cons, PathText.spell_cons, List.tail_cons, ← names]
      cases rest with
      | nil =>
          rw [show PathText.spell '/' (names []) = [] from rfl, List.append_nil,
            (Text.split_chars_plain '/' _ [] name.plain.2.2.2).1]
          simp [part_of_name]
      | cons next rest =>
          rw [show names (next :: rest) = next.text.toList :: names rest from rfl, PathText.spell_cons,
            (Text.split_chars_plain '/' _ _ name.plain.2.2.2).2, List.filterMap_cons, part_of_name]
          rw [show names (next :: rest) = next.text.toList :: names rest from rfl, PathText.spell_cons, List.tail_cons] at ih
          rw [ih]
          rfl

theorem written_relative (path : Path) : absolute (written path) = false := by
  rw [absolute, written, String.toList_ofList]
  cases path with
  | nil => rfl
  | cons name rest =>
      rw [names, List.map_cons, PathText.spell_cons, List.tail_cons]
      cases letters : name.text.toList with
      | nil => exact absurd (String.toList_eq_nil_iff.mp letters) name.plain.1
      | cons first others =>
          have apart : first ≠ '/' := fun same => name.plain.2.2.2 (by rw [letters, same]; exact List.mem_cons_self)
          simp [apart]

theorem enter_all (base path : Path) : (path.map Part.down).foldl enter base = base ++ path := by
  induction path generalizing base with
  | nil => exact (List.append_nil base).symm
  | cons name rest ih =>
      rw [List.map_cons, List.foldl_cons, enter, ih, List.append_assoc]
      rfl

-- A member named by its components is taken out as from an archive of paths.
theorem extract_by_components (target : Path) (members : List (Path × FileEntry Blob)) (disk : Disk) :
    disk.placeAll (extracted target (members.map (fun member => (written member.1, member.2)))) =
      Backup.BackupService.safeExtract target members disk := by
  have below (path : Path) : resolve target (written path) = target ++ path := by
    rw [resolve, parts_written, written_relative, if_neg Bool.false_ne_true, enter_all]
  have same : extracted target (members.map (fun member => (written member.1, member.2))) =
      (members.map (fun member => (target ++ member.1, member.2))).filter
        (fun member => (spelled target).isPrefixOf (spelled member.1)) := by
    simp [extracted, refused, List.map_map, Function.comp_def, below]
  rw [same, Backup.BackupService.safeExtract]

theorem taken_iff (target : Path) (members : List (String × FileEntry Blob)) (path : Path) :
    (∃ entry, (path, entry) ∈ extracted target members) ↔
      ∃ member ∈ members, resolve target member.1 = path ∧ (target <+: path ∨ Beside target path) := by
  simp only [extracted, refused, List.mem_filter, List.mem_map, Bool.not_not, List.isPrefixOf_iff_prefix, spelled_prefix]
  constructor
  · rintro ⟨entry, ⟨member, given, same⟩, allowed⟩
    cases same
    exact ⟨member, given, rfl, allowed⟩
  · rintro ⟨member, given, rfl, allowed⟩
    exact ⟨member.2, ⟨member, given, rfl⟩, allowed⟩

theorem beside_outside (target path : Path) (beside : Beside target path) : ¬ target <+: path := by
  rintro ⟨rest, split⟩
  obtain ⟨above, last, other, below, rfl, rfl, -, apart⟩ := beside
  rw [List.append_assoc] at split
  exact apart (List.cons.inj (List.append_cancel_left split)).1

theorem extraction_contained_iff (workingDir : Path) (destination : String) (members : List (String × FileEntry Blob)) :
    let target := resolve workingDir destination
    (∀ taken ∈ extracted target members, target <+: taken.1) ↔
      ∀ member ∈ members, ¬ Beside target (resolve target member.1) := by
  intro target
  constructor
  · intro contained member given beside
    obtain ⟨entry, taken⟩ := (taken_iff target members _).mpr ⟨member, given, rfl, .inr beside⟩
    exact beside_outside target _ beside (contained _ taken)
  · intro apart taken given
    obtain ⟨member, known, same, inside | beside⟩ := (taken_iff target members taken.1).mp ⟨taken.2, given⟩
    · exact inside
    · exact absurd (same ▸ beside) (apart member known)

-- `/data/outside` begins with the text of `/data/out`.
theorem sibling_written :
    (extracted (resolve [] "/data/out") [("../outside/x", .file (.text "new"))]).map Prod.fst = [resolve [] "/data/outside/x"] ∧
      ¬ resolve [] "/data/out" <+: resolve [] "/data/outside/x" := by
  decide

end QuantEngine.SafeExtract
