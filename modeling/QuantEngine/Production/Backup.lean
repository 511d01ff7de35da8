import QuantEngine.Library.FileTree
import Mathlib.Data.List.Sort

set_option autoImplicit false

namespace QuantEngine.Backup

open FileTree (Fits Closed Keeps fits_refl closed_above)

structure FileName where
  text : String
  plain : text ≠ "" ∧ text ≠ "." ∧ text ≠ ".." ∧ '/' ∉ text.toList
  deriving DecidableEq

abbrev Path := List FileName

-- `str(path)`, letter by letter.
def spelled (path : Path) : List Char :=
  if path.isEmpty then ['/'] else path.flatMap (fun name => '/' :: name.text.toList)

def parent (path : Path) : Path := path.dropLast

theorem extended_plain (name : FileName) (suffix : String) (long : 2 ≤ suffix.length) (plain : '/' ∉ suffix.toList) :
    name.text ++ suffix ≠ "" ∧ name.text ++ suffix ≠ "." ∧ name.text ++ suffix ≠ ".." ∧
      '/' ∉ (name.text ++ suffix).toList := by
  have nonempty : 1 ≤ name.text.length := by
    by_contra empty
    exact name.plain.1 (String.length_eq_zero_iff.mp (by omega))
  have longer (other : String) (short : other.length ≤ 2) : name.text ++ suffix ≠ other := by
    intro same
    have lengths := congrArg String.length same
    rw [String.length_append] at lengths
    omega
  refine ⟨longer "" (by decide), longer "." (by decide), longer ".." (by decide), fun slash => ?_⟩
  rw [String.toList_append] at slash
  cases List.mem_append.mp slash with
  | inl first => exact name.plain.2.2.2 first
  | inr second => exact plain second

def FileName.extend (name : FileName) (suffix : String) (long : 2 ≤ suffix.length) (plain : '/' ∉ suffix.toList) :
    FileName := ⟨name.text ++ suffix, extended_plain name suffix long plain⟩

structure BackupRecord where
  backupId : FileName
  createdAt : String
  kind : String
  path : Path
  sizeBytes : Nat
  sha256 : String
  files : List Path

-- The content of a file: text, an archive, a manifest, or one of them with
-- text appended to it.
inductive Blob where
  | text (content : String)
  | tar (members : List (Path × FileEntry Blob))
  | json (record : BackupRecord)
  | appended (before : Blob) (line : String)

def Blob.append (before : Blob) (line : String) : Blob :=
  match before with
  | .text content => .text (content ++ line)
  | other => .appended other line

abbrev Disk := FileTree FileName Blob

inductive AuditAction where
  | backupCreated
  | backupRestored
  | backupRotated

-- The log of a file, with the text of an entry about a target.
structure AuditLog where
  path : Path
  entry : AuditAction → String → String

namespace AuditLog

def written (now : Option (FileEntry Blob)) (line : String) : Option Blob :=
  match now with
  | none => some (.text line)
  | some .dir => none
  | some (.file before) => some (before.append line)

-- A line that cannot be written is dropped.
def record (log : AuditLog) (action : AuditAction) (target : String) (disk : Disk) : Disk :=
  ((written (disk.look log.path) (log.entry action target ++ "\n")).bind
    (fun content => disk.place log.path (.file content))).getD disk

end AuditLog

structure Source where
  parent : Path
  name : FileName
  deriving DecidableEq

def Source.path (source : Source) : Path := source.parent ++ [source.name]

structure BackupSettings where
  backupDir : Path
  sources : List Source
  retention : Int := 14
  compress : Bool := true

-- How the bytes of a file are hashed and counted is left open.
structure BackupService where
  settings : BackupSettings
  audit : Option AuditLog := none
  sha256 : Blob → String
  size : Blob → Nat

theorem manifest_suffix_plain : 2 ≤ ".manifest.json".length ∧ '/' ∉ ".manifest.json".toList := by decide

theorem gz_suffix_plain : 2 ≤ ".tar.gz".length ∧ '/' ∉ ".tar.gz".toList := by decide

theorem tar_suffix_plain : 2 ≤ ".tar".length ∧ '/' ∉ ".tar".toList := by decide

namespace BackupService

variable (service : BackupService)

def manifestPath (backupId : FileName) : Path :=
  service.settings.backupDir ++ [backupId.extend ".manifest.json" manifest_suffix_plain.1 manifest_suffix_plain.2]

def archivePath (backupId : FileName) : Path :=
  service.settings.backupDir ++ [if service.settings.compress
    then backupId.extend ".tar.gz" gz_suffix_plain.1 gz_suffix_plain.2
    else backupId.extend ".tar" tar_suffix_plain.1 tar_suffix_plain.2]

def note (action : AuditAction) (target : String) (disk : Disk) : Disk :=
  match service.audit with
  | none => disk
  | some log => log.record action target disk

def byName (a b : Path × FileEntry Blob) : Prop :=
  ¬ List.Lex (fun x y : String => x < y) (b.1.map FileName.text) (a.1.map FileName.text)

instance decidableByName : DecidableRel byName := fun a b =>
  inferInstanceAs (Decidable (¬ List.Lex (fun x y : String => x < y) (b.1.map FileName.text) (a.1.map FileName.text)))

-- `tar.add(source, arcname=source.name)`: a directory with all below it, in
-- order, less the archive itself.
def addSource (disk : Disk) (archive : Path) (source : Source) : List (Path × FileEntry Blob) :=
  ((disk.nodes.entries.filter (fun entry => decide (source.path <+: entry.1 ∧ entry.1 ≠ archive))).insertionSort
    byName).map (fun entry => (source.name :: entry.1.drop source.path.length, entry.2))

def existing (disk : Disk) : List Source :=
  service.settings.sources.filter (fun source => (disk.look source.path).isSome)

def addSources (disk : Disk) (archive : Path) : List (Path × FileEntry Blob) :=
  (service.existing disk).flatMap (addSource disk archive)

-- The directory of the backups is made and the archive opened, still empty.
def open_ (backupId : FileName) (disk : Disk) : Option Disk :=
  (disk.place service.settings.backupDir .dir).bind (fun made => made.place (service.archivePath backupId) (.file (.tar [])))

def recordOf (backupId : FileName) (createdAt kind : String) (opened : Disk) : BackupRecord :=
  let archive := service.archivePath backupId
  let content := Blob.tar (service.addSources opened archive)
  { backupId := backupId
    createdAt := createdAt
    kind := kind
    path := archive
    sizeBytes := service.size content
    sha256 := service.sha256 content
    files := (service.existing opened).map Source.path }

def suffixed (name : FileName) (suffix : String) : Bool := suffix.toList.isSuffixOf name.text.toList

-- The record of a manifest that lies in the directory of the backups.
def manifestAt (entry : Path × FileEntry Blob) : Option BackupRecord :=
  match entry.2 with
  | .file (.json record) =>
      if parent entry.1 = service.settings.backupDir ∧ (entry.1.getLast?.any (fun name => suffixed name ".manifest.json"))
      then some record else none
  | _ => none

def newestFirst (a b : BackupRecord) : Prop := b.createdAt ≤ a.createdAt

instance decidableNewestFirst : DecidableRel newestFirst := fun a b =>
  inferInstanceAs (Decidable (b.createdAt ≤ a.createdAt))

def listBackups (disk : Disk) : List BackupRecord :=
  (disk.nodes.entries.filterMap service.manifestAt).insertionSort newestFirst

-- What is missing already is no error; a directory is, and so is a path below a
-- file.
def unlink (disk : Disk) (path : Path) : Option Disk :=
  if disk.fileAt path then disk.remove path
  else if disk.dirAt path || path.inits.any disk.fileAt then none
  else some disk

def outdated (disk : Disk) : List BackupRecord :=
  (service.listBackups disk).drop (max 1 service.settings.retention).toNat

def discard (disk : Disk) (record : BackupRecord) : Disk × Bool :=
  match unlink disk record.path with
  | none => (disk, false)
  | some less => match unlink less (service.manifestPath record.backupId) with
    | none => (less, false)
    | some least => (least, true)

def discardAll (disk : Disk) (records : List BackupRecord) : Disk × List FileName :=
  records.foldl (fun state record =>
    let discarded := service.discard state.1 record
    (discarded.1, if discarded.2 then state.2 ++ [record.backupId] else state.2)) (disk, [])

def rotate (disk : Disk) : Disk :=
  let discarded := service.discardAll disk (service.outdated disk)
  if discarded.2.isEmpty then discarded.1 else service.note .backupRotated "backups" discarded.1

def create (backupId : FileName) (createdAt kind : String) (disk : Disk) : Option (BackupRecord × Disk) := do
  let opened ← service.open_ backupId disk
  let record := service.recordOf backupId createdAt kind opened
  let packed ← opened.place record.path (.file (.tar (service.addSources opened record.path)))
  let noted ← packed.place (service.manifestPath backupId) (.file (.json record))
  pure (record, service.rotate (service.note .backupCreated backupId.text noted))

def fileContent (disk : Disk) (path : Path) : Option Blob :=
  match disk.look path with
  | some (.file content) => some content
  | _ => none

def get (backupId : FileName) (disk : Disk) : Option BackupRecord :=
  match fileContent disk (service.manifestPath backupId) with
  | some (.json record) => some record
  | _ => none

def verifyRecord (record : BackupRecord) (disk : Disk) : Bool :=
  (fileContent disk record.path).any (fun content => decide (service.sha256 content = record.sha256))

def tarMembers (disk : Disk) (path : Path) : Option (List (Path × FileEntry Blob)) :=
  match fileContent disk path with
  | some (.tar members) => some members
  | _ => none

-- A member is taken out to its own path below the target where that begins with
-- the text of the target.
def safeExtract (target : Path) (members : List (Path × FileEntry Blob)) (disk : Disk) : Option Disk :=
  disk.placeAll ((members.map (fun member => (target ++ member.1, member.2))).filter
    (fun member => (spelled target).isPrefixOf (spelled member.1)))

-- A backup that is unknown or that fails its verification raises, as does
-- whatever is in the way of a member.
def restore (backupId : FileName) (destination : Option Path) (disk : Disk) : Option Disk := do
  let record ← service.get backupId disk
  let target := destination.getD (parent service.settings.backupDir)
  if service.verifyRecord record disk then
    let ready ← disk.place target .dir
    let members ← tarMembers ready record.path
    let extracted ← safeExtract target members ready
    pure (service.note .backupRestored backupId.text extracted)
  else none

-- There is a file above the path, or a directory at it.
def Unwritable (look : Path → Option (FileEntry Blob)) (path : Path) : Prop :=
  look path = some .dir ∨ ∃ upper name rest content, path = upper ++ name :: rest ∧ look upper = some (.file content)

theorem unwritable_same (before after : Path → Option (FileEntry Blob)) (closed : Closed before) (base path : Path)
    (same : ∀ rest, before (base ++ rest) = after (base ++ rest)) (present : before base ≠ none) (below : base <+: path)
    (unwritable : Unwritable before path) : Unwritable after path := by
  cases unwritable with
  | inl directory =>
      obtain ⟨rest, split⟩ := below
      rw [← split, same] at directory
      exact .inl (split ▸ directory)
  | inr blocked =>
      obtain ⟨upper, name, rest, content, split, file⟩ := blocked
      refine .inr ⟨upper, name, rest, content, split, ?_⟩
      cases List.prefix_or_prefix_of_prefix below (split ▸ List.prefix_append upper (name :: rest)) with
      | inl inside =>
          obtain ⟨more, deeper⟩ := inside
          rw [← deeper, ← same, deeper]
          exact file
      | inr above =>
          obtain ⟨more, higher⟩ := above
          cases more with
          | nil =>
              rw [List.append_nil] at higher
              rw [higher, ← List.append_nil base, ← same, List.append_nil, ← higher]
              exact file
          | cons next more =>
              have directory := closed_above before closed upper more next (higher.symm ▸ present)
              exact absurd (directory.symm.trans file) (fun clash => by cases clash)

theorem spelled_below (target : Path) (name : FileName) (rest : Path) :
    (spelled target).isPrefixOf (spelled (target ++ name :: rest)) = true := by
  rw [List.isPrefixOf_iff_prefix, spelled, spelled]
  cases target with
  | nil => exact ⟨name.text.toList ++ rest.flatMap (fun name => '/' :: name.text.toList), rfl⟩
  | cons first others =>
      rw [if_neg (by simp), if_neg (by simp), List.flatMap_append]
      exact List.prefix_append _ _

-- An entry that cannot be written changes nothing.
theorem record_cases (log : AuditLog) (action : AuditAction) (target : String) (disk : Disk) :
    log.record action target disk = disk ∨
      ∃ content, disk.place log.path (.file content) = some (log.record action target disk) := by
  rw [AuditLog.record]
  cases placed : (AuditLog.written (disk.look log.path) (log.entry action target ++ "\n")).bind
      (fun content => disk.place log.path (.file content)) with
  | none => exact .inl rfl
  | some next =>
      obtain ⟨content, -, made⟩ := Option.bind_eq_some_iff.mp placed
      exact .inr ⟨content, made⟩

theorem note_keeps (action : AuditAction) (target : String) (disk : Disk) : Keeps disk (service.note action target disk) := by
  rw [note]
  cases service.audit with
  | none => exact fun path => fits_refl _
  | some log =>
      cases record_cases log action target disk with
      | inl same =>
          dsimp only
          rw [same]
          exact fun path => fits_refl _
      | inr written =>
          obtain ⟨content, made⟩ := written
          exact disk.place_from_keeps _ [] log.path (.file content) made

theorem note_apart (action : AuditAction) (target : String) (disk : Disk) (path : Path)
    (apart : ∀ log, service.audit = some log → ¬ path <+: log.path) :
    (service.note action target disk).look path = disk.look path := by
  rw [note]
  cases logs : service.audit with
  | none => rfl
  | some log =>
      cases record_cases log action target disk with
      | inl same =>
          dsimp only
          rw [same]
      | inr written =>
          obtain ⟨content, made⟩ := written
          exact disk.place_from_apart _ [] log.path path (.file content) made (apart log logs)

theorem append_ne (before : Blob) (line : String) : before.append (line ++ "\n") ≠ before := by
  have longer (text : String) : text ++ (line ++ "\n") ≠ text := by
    intro same
    have lengths := congrArg String.length same
    rw [String.length_append, String.length_append] at lengths
    have newline : "\n".length = 1 := rfl
    omega
  have deeper : Blob.appended before (line ++ "\n") ≠ before := by
    intro same
    have sizes := congrArg sizeOf same
    simp only [Blob.appended.sizeOf_spec] at sizes
    omega
  cases before with
  | text content => exact fun same => longer content (Blob.text.inj same)
  | tar members => exact deeper
  | json record => exact deeper
  | appended inner last => exact deeper

theorem not_dir_file (content : Blob) : ¬ Fits (some (.dir : FileEntry Blob)) (some (.file content)) := by
  intro fits
  obtain ⟨entry, wanted, kind⟩ := fits (.file content) rfl
  rw [← Option.some.inj wanted] at kind
  exact Bool.false_ne_true kind.symm

theorem record_unwritable (log : AuditLog) (action : AuditAction) (target : String) (disk : Disk)
    (unwritable : Unwritable disk.look log.path) : log.record action target disk = disk := by
  cases unwritable with
  | inl directory =>
      rw [AuditLog.record, directory]
      rfl
  | inr blocked =>
      obtain ⟨upper, name, rest, content, split, file⟩ := blocked
      cases record_cases log action target disk with
      | inl same => exact same
      | inr written =>
          obtain ⟨line, made⟩ := written
          have nonempty : log.path ≠ [] := by
            rw [split]
            exact fun empty => absurd empty (by simp)
          rw [← List.dropLast_append_getLast nonempty] at made
          have opened := disk.place_open _ _ _ (.file line) made
          rw [List.dropLast_append_getLast nonempty] at opened
          exact absurd (file ▸ opened.above upper name rest split) (not_dir_file content)

theorem record_writable (log : AuditLog) (action : AuditAction) (target : String) (disk : Disk)
    (writable : ¬ Unwritable disk.look log.path) :
    ∃ content, (log.record action target disk).look log.path = some (.file content) ∧
      disk.look log.path ≠ some (.file content) := by
  rw [Unwritable, not_or] at writable
  have above (upper : Path) (name : FileName) (rest : Path) (split : log.path = upper ++ name :: rest) :
      Fits (some .dir) (disk.look upper) := by
    intro old now
    cases old with
    | dir => exact ⟨.dir, rfl, rfl⟩
    | file content => exact absurd ⟨upper, name, rest, content, split, now⟩ writable.2
  have put (content : Blob) (here : Fits (some (.file content)) (disk.look log.path)) :
      ∃ next, disk.place log.path (.file content) = some next ∧ next.look log.path = some (.file content) :=
    disk.open_place log.path (.file content) ⟨above, here⟩
  rw [AuditLog.record]
  cases now : disk.look log.path with
  | none =>
      obtain ⟨next, placed, found⟩ := put (.text (log.entry action target ++ "\n"))
        (fun old there => absurd (now.symm.trans there).symm (Option.some_ne_none old))
      rw [AuditLog.written, Option.bind_some, placed]
      exact ⟨_, found, (Option.some_ne_none _).symm⟩
  | some old =>
      cases old with
      | dir => exact absurd now writable.1
      | file before =>
          obtain ⟨next, placed, found⟩ := put (before.append (log.entry action target ++ "\n"))
            (fun old there => ⟨_, rfl, by rw [← Option.some.inj (now.symm.trans there)]; rfl⟩)
          rw [AuditLog.written, Option.bind_some, placed]
          refine ⟨_, found, fun same => ?_⟩
          exact append_ne before _ (FileEntry.file.inj (Option.some.inj same)).symm

end BackupService

end QuantEngine.Backup
