import QuantEngine.Production.Backup

set_option autoImplicit false

namespace QuantEngine.Backup

open FileTree (Fits Closed Keeps Open fits_refl fits_trans closed_above keeps_trans)

namespace BackupService

variable (service : BackupService)

-- What the disk holds as the sources are added, but for the archive that is
-- being written.
def held (record : BackupRecord) (opened : Disk) (path : Path) : Option (FileEntry Blob) :=
  if path = record.path then none else opened.look path

-- Where the default destination puts a source.
def landing (source : Source) : Path := parent service.settings.backupDir ++ [source.name]

-- The archive and its manifest are as they were written, whatever else became of
-- the disk.
structure Untouched (record : BackupRecord) (opened between : Disk) : Prop where
  archive : between.look record.path = some (.file (.tar (service.addSources opened record.path)))
  manifest : between.look (service.manifestPath record.backupId) = some (.file (.json record))

def BroughtBack (record : BackupRecord) (opened between : Disk) : Prop :=
  ∃ restored, service.restore record.backupId none between = some restored ∧
    ∀ source ∈ service.existing opened, service.landing source = source.path ∧
      ∀ rest, restored.look (source.path ++ rest) = held record opened (source.path ++ rest)

-- Every source lies next to the directory of the backups; what is at or below it
-- by now was there as the backup was made, and of the same kind; and the audit
-- log does not lie in a source, unless it could not be written there.
structure Restorable (record : BackupRecord) (opened between : Disk) : Prop where
  place : ∀ source ∈ service.existing opened, service.landing source = source.path
  room : ∀ source ∈ service.existing opened, ∀ rest,
    Fits (held record opened (source.path ++ rest)) (between.look (source.path ++ rest))
  log : ∀ log, service.audit = some log → ∀ source ∈ service.existing opened, source.path <+: log.path →
    Unwritable (held record opened) log.path

section

variable (record : BackupRecord) (opened between : Disk)

def unpacked : List (Path × FileEntry Blob) :=
  (service.addSources opened record.path).map (fun member => (parent service.settings.backupDir ++ member.1, member.2))

theorem unpacked_safe :
    (service.unpacked record opened).filter
      (fun member => (spelled (parent service.settings.backupDir)).isPrefixOf (spelled member.1)) =
      service.unpacked record opened := by
  refine List.filter_eq_self.mpr (fun member inside => ?_)
  obtain ⟨packed, added, same⟩ := List.mem_map.mp inside
  obtain ⟨source, -, packing⟩ := List.mem_flatMap.mp added
  obtain ⟨entry, -, shape⟩ := List.mem_map.mp packing
  rw [← same, ← shape]
  exact spelled_below _ source.name _

variable (named : record.path = service.archivePath record.backupId)
  (untouched : service.Untouched record opened between)

include named untouched

theorem target_dir : between.look (parent service.settings.backupDir) = some .dir := by
  have directory : between.look service.settings.backupDir = some .dir := by
    have archived := untouched.archive
    rw [named, archivePath] at archived
    exact between.parents _ _ (archived ▸ Option.some_ne_none _)
  rw [parent]
  cases backups : service.settings.backupDir with
  | nil => exact between.root
  | cons first rest =>
      rw [backups] at directory
      rw [← List.dropLast_append_getLast (List.cons_ne_nil first rest)] at directory
      exact between.parents _ _ (directory ▸ Option.some_ne_none _)

variable (hashed : record.sha256 = service.sha256 (.tar (service.addSources opened record.path)))

include hashed

theorem restore_unpacks :
    ∃ ready : Disk, (∀ path, ready.look path = between.look path) ∧ service.restore record.backupId none between =
      (ready.placeAll (service.unpacked record opened)).map (service.note .backupRestored record.backupId.text) := by
  obtain ⟨ready, placed, -, same⟩ := FileTree.place_from_toward between.look between.tree_closed between []
    (parent service.settings.backupDir) .dir (fun path => fits_refl _) between.root
    (service.target_dir record opened between named untouched)
  have looks (path : Path) : ready.look path = between.look path := (same path).elim id id
  have got : service.get record.backupId between = some record := by
    rw [get, fileContent, untouched.manifest]
  have verified : service.verifyRecord record between = true := by
    rw [verifyRecord, fileContent, untouched.archive, Option.any_some, hashed]
    exact decide_eq_true rfl
  have members : tarMembers ready record.path = some (service.addSources opened record.path) := by
    rw [tarMembers, fileContent, looks, untouched.archive]
  refine ⟨ready, looks, ?_⟩
  have made : between.place (parent service.settings.backupDir) .dir = some ready := placed
  rw [restore, got, Option.bind_eq_bind, Option.bind_some]
  dsimp only [Option.getD]
  rw [if_pos verified, made, Option.bind_eq_bind, Option.bind_some, members, Option.bind_eq_bind, Option.bind_some,
    safeExtract]
  have safe := service.unpacked_safe record opened
  rw [unpacked] at safe ⊢
  rw [safe]
  cases ready.placeAll _ with
  | none => rfl
  | some extracted => rfl

end

theorem create_record (backupId : FileName) (createdAt kind : String) (disk opened finished : Disk) (record : BackupRecord)
    (started : service.open_ backupId disk = some opened)
    (created : service.create backupId createdAt kind disk = some (record, finished)) :
    record = service.recordOf backupId createdAt kind opened := by
  rw [create, started, Option.bind_eq_bind, Option.bind_some] at created
  obtain ⟨packed, -, noting⟩ := Option.bind_eq_some_iff.mp created
  obtain ⟨noted, -, made⟩ := Option.bind_eq_some_iff.mp noting
  exact (congrArg Prod.fst (Option.some.inj made)).symm

theorem opened_archive (backupId : FileName) (disk opened : Disk) (started : service.open_ backupId disk = some opened) :
    opened.look (service.archivePath backupId) = some (.file (.tar [])) := by
  obtain ⟨made, -, placed⟩ := Option.bind_eq_some_iff.mp started
  exact made.place_from_here opened [] service.settings.backupDir _ (.file (.tar [])) placed

theorem landing_below (source : Source) (rest : Path) (place : service.landing source = source.path) :
    parent service.settings.backupDir ++ source.name :: rest = source.path ++ rest := by
  rw [← place, landing, List.append_assoc]
  rfl

section

variable (record : BackupRecord) (opened between : Disk)
  (archived : opened.look record.path = some (.file (.tar [])))

def underSource (path : Path) : Bool := (service.existing opened).any (fun source => decide (source.path <+: path))

-- What the restored disk is to be: as backed up below the sources, and as it was
-- elsewhere.
def goal (path : Path) : Option (FileEntry Blob) :=
  if service.underSource opened path then held record opened path else between.look path

theorem under_source (path : Path) :
    service.underSource opened path = true ↔ ∃ source ∈ service.existing opened, source.path <+: path := by
  rw [underSource, List.any_eq_true]
  exact exists_congr (fun source => and_congr_right (fun _ => decide_eq_true_iff))

include archived

theorem held_closed : Closed (held record opened) := by
  intro path name present
  rw [held] at present
  have above : opened.look path = some .dir := by
    split at present
    · exact absurd rfl present
    · exact opened.parents path name present
  rw [held]
  by_cases here : path = record.path
  · rw [here, archived] at above
    exact absurd (Option.some.inj above) (fun same => by cases same)
  · rw [if_neg here]
    exact above

variable (place : ∀ source ∈ service.existing opened, service.landing source = source.path)
  (target : between.look (parent service.settings.backupDir) = some .dir)

include place target

theorem goal_closed : Closed (service.goal record opened between) := by
  intro path name present
  rw [goal] at present ⊢
  by_cases below : service.underSource opened path = true
  · rw [if_pos below]
    obtain ⟨source, member, inside⟩ := (service.under_source opened path).mp below
    have deeper := (service.under_source opened (path ++ [name])).mpr
      ⟨source, member, inside.trans (List.prefix_append path [name])⟩
    rw [if_pos deeper] at present
    exact held_closed record opened archived path name present
  · rw [if_neg below]
    by_cases deeper : service.underSource opened (path ++ [name]) = true
    · obtain ⟨source, member, inside⟩ := (service.under_source opened (path ++ [name])).mp deeper
      have root : source.path = path ++ [name] := by
        cases List.prefix_concat_iff.mp inside with
        | inl same => exact same
        | inr above => exact absurd ((service.under_source opened path).mpr ⟨source, member, above⟩) below
      have next := (place source member).trans root
      rw [landing] at next
      rw [← (List.append_inj' next rfl).1]
      exact target
    · rw [if_neg deeper] at present
      exact between.parents path name present

omit archived target in
theorem unpacked_own (path : Path) (entry : FileEntry Blob) :
    (path, entry) ∈ service.unpacked record opened ↔
      service.underSource opened path = true ∧ held record opened path = some entry := by
  rw [under_source, held]
  constructor
  · intro member
    obtain ⟨packed, added, same⟩ := List.mem_map.mp member
    obtain ⟨source, listed, inside⟩ := List.mem_flatMap.mp added
    obtain ⟨item, sorted, shape⟩ := List.mem_map.mp inside
    obtain ⟨there, matched⟩ := List.mem_filter.mp ((List.perm_insertionSort _ _).mem_iff.mp sorted)
    obtain ⟨below, apart⟩ := of_decide_eq_true matched
    obtain ⟨rest, split⟩ := below
    have origin : item.1 = path := by
      have first := congrArg Prod.fst same
      rw [← shape] at first
      dsimp only at first
      rw [← split, List.drop_left, landing_below service source rest (place source listed)] at first
      exact split.symm.trans first
    have content : item.2 = entry := by
      have second := congrArg Prod.snd same
      rw [← shape] at second
      exact second
    rw [← origin, ← content, if_neg apart]
    exact ⟨⟨source, listed, ⟨rest, split⟩⟩, Dict.lookup_of_mem opened.nodes item.1 item.2 there⟩
  · intro both
    obtain ⟨⟨source, listed, below⟩, found⟩ := both
    have apart : path ≠ record.path := by
      intro same
      rw [if_pos same] at found
      exact Option.some_ne_none entry found.symm
    rw [if_neg apart] at found
    obtain ⟨rest, split⟩ := below
    refine List.mem_map.mpr ⟨(source.name :: path.drop source.path.length, entry), ?_, ?_⟩
    · refine List.mem_flatMap.mpr ⟨source, listed, List.mem_map.mpr ⟨(path, entry), ?_, rfl⟩⟩
      refine (List.perm_insertionSort _ _).mem_iff.mpr (List.mem_filter.mpr ⟨Dict.lookup_mem opened.nodes path entry found, ?_⟩)
      exact decide_eq_true ⟨⟨rest, split⟩, apart⟩
    · have origin : parent service.settings.backupDir ++ source.name :: path.drop source.path.length = path := by
        rw [← split, List.drop_left]
        exact landing_below service source rest (place source listed)
      exact Prod.ext origin rfl

variable (room : ∀ source ∈ service.existing opened, ∀ rest,
    Fits (held record opened (source.path ++ rest)) (between.look (source.path ++ rest)))

include room

theorem unpack_restores (ready : Disk) (looks : ∀ path, ready.look path = between.look path) :
    ∃ extracted, ready.placeAll (service.unpacked record opened) = some extracted ∧
      ∀ path, service.underSource opened path = true → extracted.look path = held record opened path := by
  have wanted (path : Path) (below : service.underSource opened path = true) :
      service.goal record opened between path = held record opened path := if_pos below
  have fits (path : Path) : Fits (service.goal record opened between path) (ready.look path) := by
    rw [looks]
    by_cases below : service.underSource opened path = true
    · rw [wanted path below]
      obtain ⟨source, member, rest, split⟩ := (service.under_source opened path).mp below
      exact split ▸ room source member rest
    · rw [goal, if_neg below]
      exact fits_refl _
  obtain ⟨extracted, placed, found, outcome⟩ := FileTree.place_all_toward (service.goal record opened between)
    (service.goal_closed record opened between archived place target) ready (service.unpacked record opened) fits
    (fun item member => by
      obtain ⟨below, meant⟩ := (service.unpacked_own record opened place item.1 item.2).mp member
      rw [wanted item.1 below, meant])
  refine ⟨extracted, placed, fun path below => ?_⟩
  cases meant : held record opened path with
  | some entry => exact found (path, entry) ((service.unpacked_own record opened place path entry).mpr ⟨below, meant⟩)
  | none =>
      cases outcome path with
      | inr reached => rw [reached, wanted path below, meant]
      | inl kept =>
          rw [kept]
          cases now : ready.look path with
          | none => rfl
          | some old =>
              obtain ⟨entry, present, -⟩ := fits path old now
              rw [wanted path below, meant] at present
              exact absurd present.symm (Option.some_ne_none entry)

end

section

variable (record : BackupRecord) (opened between extracted : Disk)
  (archived : opened.look record.path = some (.file (.tar [])))
  (restored : ∀ path, service.underSource opened path = true → extracted.look path = held record opened path)
  (present : ∀ source ∈ service.existing opened, held record opened source.path ≠ none)

include archived restored present

theorem noted_iff :
    (∀ source ∈ service.existing opened, ∀ rest,
        (service.note .backupRestored record.backupId.text extracted).look (source.path ++ rest) =
          held record opened (source.path ++ rest)) ↔
      ∀ log, service.audit = some log → ∀ source ∈ service.existing opened, source.path <+: log.path →
        Unwritable (held record opened) log.path := by
  have below (source : Source) (member : source ∈ service.existing opened) (rest : Path) :
      extracted.look (source.path ++ rest) = held record opened (source.path ++ rest) :=
    restored _ ((service.under_source opened _).mpr ⟨source, member, List.prefix_append source.path rest⟩)
  constructor
  · intro kept log audited source member inside
    by_contra writable
    have free : ¬ Unwritable extracted.look log.path := by
      refine fun unwritable => writable ?_
      refine unwritable_same extracted.look (held record opened) extracted.tree_closed source.path log.path
        (below source member) ?_ inside unwritable
      rw [← List.append_nil source.path, below source member, List.append_nil]
      exact present source member
    obtain ⟨content, found, changed⟩ := record_writable log .backupRestored record.backupId.text extracted free
    obtain ⟨rest, split⟩ := inside
    have noted := kept source member rest
    rw [note, audited, split] at noted
    rw [← split, below source member rest, split] at changed
    exact changed (noted.symm.trans found)
  · intro unwritable source member rest
    by_cases touched : ∃ log, service.audit = some log ∧ source.path <+: log.path
    · obtain ⟨log, audited, inside⟩ := touched
      have blocked : Unwritable extracted.look log.path :=
        unwritable_same (held record opened) extracted.look (held_closed record opened archived) source.path log.path
          (fun rest => (below source member rest).symm) (present source member) inside (unwritable log audited source member inside)
      rw [note, audited]
      dsimp only
      rw [record_unwritable log .backupRestored record.backupId.text extracted blocked]
      exact below source member rest
    · rw [service.note_apart .backupRestored record.backupId.text extracted (source.path ++ rest)
        (fun log audited inside => touched ⟨log, audited, (List.prefix_append source.path rest).trans inside⟩)]
      exact below source member rest

end

theorem source_held (record : BackupRecord) (opened between : Disk) (untouched : service.Untouched record opened between)
    (source : Source) (member : source ∈ service.existing opened)
    (room : Fits (held record opened (source.path ++ [])) (between.look (source.path ++ []))) :
    held record opened source.path ≠ none := by
  rw [List.append_nil] at room
  have there := (List.mem_filter.mp member).2
  rw [held] at room ⊢
  by_cases same : source.path = record.path
  · rw [if_pos same, same, untouched.archive] at room
    obtain ⟨entry, wanted, -⟩ := room _ rfl
    exact absurd wanted.symm (Option.some_ne_none entry)
  · rw [if_neg same]
    exact Option.isSome_iff_ne_none.mp there

theorem room_listed (record : BackupRecord) (opened between : Disk) (source : Source)
    (listed : ∀ entry ∈ between.nodes.entries, source.path <+: entry.1 →
      (held record opened entry.1).any (fun kept => kept.isDir == entry.2.isDir) = true) (rest : Path) :
    Fits (held record opened (source.path ++ rest)) (between.look (source.path ++ rest)) := by
  intro old now
  have kept := listed (source.path ++ rest, old) (Dict.lookup_mem between.nodes _ old now) (List.prefix_append source.path rest)
  obtain ⟨entry, wanted, kind⟩ := (Option.any_eq_true _ _).mp kept
  exact ⟨entry, wanted, beq_iff_eq.mp kind⟩

end BackupService

def production : FileName := ⟨"production", by decide⟩

def registry : FileName := ⟨"registry", by decide⟩

def dataDir : Path := [⟨"app", by decide⟩, ⟨"data", by decide⟩]

def stateFile : Path := dataDir ++ [production, ⟨"state.json", by decide⟩]

def modelFile : Path := dataDir ++ [⟨"ml", by decide⟩, registry, ⟨"model.json", by decide⟩]

def auditFile : Path := [⟨"app", by decide⟩, ⟨"logs", by decide⟩, ⟨"audit.jsonl", by decide⟩]

def twoFiles : Disk :=
  (FileTree.bare.placeAll [(stateFile, .file (.text "one")), (modelFile, .file (.text "one"))]).getD FileTree.bare

def backing (source : Source) : BackupService where
  settings := { backupDir := dataDir ++ [⟨"backups", by decide⟩], sources := [source] }
  audit := some ⟨auditFile, fun _ target => target⟩
  sha256 := fun _ => "digest"
  size := fun _ => 0

def firstBackup : FileName := ⟨"backup_20260101T000000Z", by decide⟩

def stateSource : Source := ⟨dataDir, production⟩

def modelSource : Source := ⟨dataDir ++ [⟨"ml", by decide⟩], registry⟩

def openedFor (source : Source) : Disk := ((backing source).open_ firstBackup twoFiles).getD twoFiles

def creation (source : Source) : Option (BackupRecord × Disk) :=
  (backing source).create firstBackup "2026-01-01T00:00:00+00:00" "manual" twoFiles

def madeFor (source : Source) : BackupRecord × Disk :=
  (creation source).getD ((backing source).recordOf firstBackup "" "" twoFiles, twoFiles)

def changed (source : Source) (path : Path) : Disk :=
  ((madeFor source).2.place path (.file (.text "two"))).getD (madeFor source).2

theorem state_made :
    (backing stateSource).open_ firstBackup twoFiles = some (openedFor stateSource) ∧
      creation stateSource = some (madeFor stateSource) :=
  ⟨(Option.getD_of_ne_none (Option.isSome_iff_ne_none.mp (by decide +kernel)) _).symm,
    (Option.getD_of_ne_none (Option.isSome_iff_ne_none.mp (by decide +kernel)) _).symm⟩

def textAt (disk : Disk) (path : Path) : Option String :=
  match disk.look path with
  | some (.file (.text content)) => some content
  | _ => none

end QuantEngine.Backup
