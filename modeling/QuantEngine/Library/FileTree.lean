import QuantEngine.Library.Dict

set_option autoImplicit false

namespace QuantEngine

inductive FileEntry (β : Type) where
  | dir
  | file (content : β)

def FileEntry.isDir {β : Type} : FileEntry β → Bool
  | .dir => true
  | .file _ => false

-- A tree of files, by path from the root. Whatever is in it lies in a
-- directory.
structure FileTree (ν β : Type) [DecidableEq ν] where
  nodes : Dict (List ν) (FileEntry β)
  root : nodes.lookup [] = some .dir
  parents : ∀ path name, nodes.lookup (path ++ [name]) ≠ none → nodes.lookup path = some .dir

namespace FileTree

variable {ν β : Type}

-- What is there now is of the kind of what is wanted there.
def Fits (wanted now : Option (FileEntry β)) : Prop :=
  ∀ old, now = some old → ∃ entry, wanted = some entry ∧ entry.isDir = old.isDir

theorem dir_of_isDir (entry : FileEntry β) (isDir : entry.isDir = true) : entry = .dir := by
  cases entry with
  | dir => rfl
  | file content => exact absurd isDir Bool.false_ne_true

theorem fits_refl (entry : Option (FileEntry β)) : Fits entry entry := fun old now => ⟨old, now, rfl⟩

theorem fits_trans (a b c : Option (FileEntry β)) (first : Fits a b) (second : Fits b c) : Fits a c := by
  intro old now
  obtain ⟨middle, there, same⟩ := second old now
  obtain ⟨entry, wanted, kind⟩ := first middle there
  exact ⟨entry, wanted, kind.trans same⟩

def Closed (goal : List ν → Option (FileEntry β)) : Prop :=
  ∀ path name, goal (path ++ [name]) ≠ none → goal path = some .dir

theorem closed_above (goal : List ν → Option (FileEntry β)) (closed : Closed goal) (path rest : List ν) (name : ν)
    (wanted : goal (path ++ name :: rest) ≠ none) : goal path = some .dir := by
  induction rest generalizing path name with
  | nil => exact closed path name wanted
  | cons next rest ih =>
      have below : goal (path ++ [name]) = some .dir := ih (path ++ [name]) next (by simpa using wanted)
      exact closed path name (below ▸ Option.some_ne_none _)

theorem below_ne_nil (path : List ν) (name : ν) : path ++ [name] ≠ [] := fun empty => absurd empty (by simp)

variable [DecidableEq ν]

def look (tree : FileTree ν β) (path : List ν) : Option (FileEntry β) := tree.nodes.lookup path

theorem bare_lookup (path : List ν) (name : ν) :
    (⟨[([], .dir)], List.nodup_singleton _⟩ : Dict (List ν) (FileEntry β)).lookup (path ++ [name]) = none := by
  rw [Dict.lookup_none_iff]
  intro present
  exact below_ne_nil path name (List.mem_singleton.mp present)

def bare : FileTree ν β where
  nodes := ⟨[([], .dir)], List.nodup_singleton _⟩
  root := rfl
  parents := fun path name present => absurd (bare_lookup path name) present

theorem tree_closed (tree : FileTree ν β) : Closed tree.look := tree.parents

def dirAt (tree : FileTree ν β) (path : List ν) : Bool := (tree.look path).any FileEntry.isDir

def fileAt (tree : FileTree ν β) (path : List ν) : Bool := (tree.look path).any (fun entry => !entry.isDir)

def admits (tree : FileTree ν β) (path : List ν) (entry : FileEntry β) : Bool :=
  (tree.look path).all (fun old => old.isDir == entry.isDir)

theorem dir_at (tree : FileTree ν β) (path : List ν) (there : tree.dirAt path = true) : tree.look path = some .dir := by
  rw [dirAt, Option.any_eq_true] at there
  obtain ⟨entry, found, isDir⟩ := there
  rw [found, dir_of_isDir entry isDir]

theorem admits_iff (tree : FileTree ν β) (path : List ν) (entry : FileEntry β) :
    tree.admits path entry = true ↔ Fits (some entry) (tree.look path) := by
  rw [admits, Option.all_eq_true]
  constructor
  · intro all old now
    exact ⟨entry, rfl, (beq_iff_eq.mp (all old now)).symm⟩
  · intro fits old now
    obtain ⟨same, wanted, kind⟩ := fits old now
    rw [← Option.some.inj wanted] at kind
    exact beq_iff_eq.mpr kind.symm

theorem insert_closed (tree : FileTree ν β) (parent : List ν) (name : ν) (entry : FileEntry β)
    (within : tree.look parent = some .dir) (kind : Fits (some entry) (tree.look (parent ++ [name]))) :
    Closed (tree.nodes.insert (parent ++ [name]) entry).lookup := by
  intro path child present
  have above : tree.look path = some .dir := by
    rw [Dict.lookup_insert] at present
    by_cases here : path ++ [child] = parent ++ [name]
    · rw [(List.append_inj' here rfl).1]
      exact within
    · rw [if_neg here] at present
      exact tree.parents path child present
  rw [Dict.lookup_insert]
  by_cases here : path = parent ++ [name]
  · rw [if_pos here]
    obtain ⟨same, wanted, isDir⟩ := kind .dir (here ▸ above)
    rw [← Option.some.inj wanted] at isDir
    rw [dir_of_isDir entry isDir]
  · rw [if_neg here]
    exact above

-- An entry put into a directory: a new one, a directory that is there already,
-- or a file written anew.
def enter (tree : FileTree ν β) (parent : List ν) (name : ν) (entry : FileEntry β) : Option (FileTree ν β) :=
  if allowed : tree.dirAt parent = true ∧ tree.admits (parent ++ [name]) entry = true then
    some {
      nodes := tree.nodes.insert (parent ++ [name]) entry
      root := by rw [Dict.lookup_insert, if_neg (below_ne_nil parent name).symm]; exact tree.root
      parents := tree.insert_closed parent name entry (tree.dir_at parent allowed.1)
        ((tree.admits_iff (parent ++ [name]) entry).mp allowed.2) }
  else none

-- The directories above a path are made where they are not there, and the entry
-- put at the path. Whatever else is in the way is an error.
def placeFrom (tree : FileTree ν β) (base : List ν) : List ν → FileEntry β → Option (FileTree ν β)
  | [], entry => if entry.isDir then some tree else none
  | [name], entry => tree.enter base name entry
  | name :: next :: rest, entry =>
      (tree.enter base name .dir).bind (fun later => later.placeFrom (base ++ [name]) (next :: rest) entry)

def place (tree : FileTree ν β) (path : List ν) (entry : FileEntry β) : Option (FileTree ν β) := tree.placeFrom [] path entry

def placeAll (tree : FileTree ν β) (items : List (List ν × FileEntry β)) : Option (FileTree ν β) :=
  items.foldlM (fun later item => later.place item.1 item.2) tree

theorem erase_closed (tree : FileTree ν β) (path : List ν) (there : tree.fileAt path = true) :
    Closed (tree.nodes.erase path).lookup := by
  intro other name present
  rw [Dict.lookup_erase] at present
  have above : tree.look other = some .dir := by
    split at present
    · exact absurd rfl present
    · exact tree.parents other name present
  rw [Dict.lookup_erase]
  by_cases here : other = path
  · rw [fileAt, ← here, above] at there
    exact absurd there Bool.false_ne_true
  · rw [if_neg here]
    exact above

def remove (tree : FileTree ν β) (path : List ν) : Option (FileTree ν β) :=
  if there : tree.fileAt path = true then
    some {
      nodes := tree.nodes.erase path
      root := by
        rw [Dict.lookup_erase]
        split
        · rename_i here
          rw [← here, fileAt, look, tree.root] at there
          exact absurd there Bool.false_ne_true
        · exact tree.root
      parents := tree.erase_closed path there }
  else none

theorem enter_some (tree next : FileTree ν β) (parent : List ν) (name : ν) (entry : FileEntry β)
    (entered : tree.enter parent name entry = some next) :
    tree.look parent = some .dir ∧ Fits (some entry) (tree.look (parent ++ [name])) ∧
      ∀ path, next.look path = if path = parent ++ [name] then some entry else tree.look path := by
  rw [enter] at entered
  split at entered
  · rename_i allowed
    refine ⟨tree.dir_at parent allowed.1, (tree.admits_iff _ entry).mp allowed.2, fun path => ?_⟩
    rw [← Option.some.inj entered]
    exact Dict.lookup_insert tree.nodes (parent ++ [name]) path entry
  · exact absurd entered.symm (Option.some_ne_none next)

theorem enter_allowed (tree : FileTree ν β) (parent : List ν) (name : ν) (entry : FileEntry β)
    (within : tree.look parent = some .dir) (kind : Fits (some entry) (tree.look (parent ++ [name]))) :
    ∃ next, tree.enter parent name entry = some next := by
  have allowed : tree.dirAt parent = true ∧ tree.admits (parent ++ [name]) entry = true := by
    refine ⟨?_, (tree.admits_iff _ entry).mpr kind⟩
    rw [dirAt, within]
    rfl
  rw [enter, dif_pos allowed]
  exact ⟨_, rfl⟩

-- What is in a tree after an entry is placed: nothing is lost, and nothing
-- changes its kind.
def Keeps (before after : FileTree ν β) : Prop := ∀ path, Fits (after.look path) (before.look path)

theorem enter_keeps (tree next : FileTree ν β) (parent : List ν) (name : ν) (entry : FileEntry β)
    (entered : tree.enter parent name entry = some next) : Keeps tree next := by
  obtain ⟨-, kind, looks⟩ := tree.enter_some next parent name entry entered
  intro path
  rw [looks]
  by_cases here : path = parent ++ [name]
  · rw [if_pos here, here]
    exact kind
  · rw [if_neg here]
    exact fits_refl _

theorem keeps_trans (a b c : FileTree ν β) (first : Keeps a b) (second : Keeps b c) : Keeps a c :=
  fun path => fits_trans _ _ _ (second path) (first path)

theorem place_from_keeps (tree next : FileTree ν β) (base path : List ν) (entry : FileEntry β)
    (placed : tree.placeFrom base path entry = some next) : Keeps tree next := by
  induction path generalizing tree base with
  | nil =>
      rw [placeFrom] at placed
      split at placed
      · rw [← Option.some.inj placed]
        exact fun path => fits_refl _
      · exact absurd placed.symm (Option.some_ne_none next)
  | cons name rest ih =>
      cases rest with
      | nil => exact tree.enter_keeps next base name entry placed
      | cons second rest =>
          obtain ⟨later, entered, after⟩ := Option.bind_eq_some_iff.mp placed
          exact keeps_trans tree later next (tree.enter_keeps later base name .dir entered) (ih later (base ++ [name]) after)

theorem place_from_apart (tree next : FileTree ν β) (base path other : List ν) (entry : FileEntry β)
    (placed : tree.placeFrom base path entry = some next) (apart : ¬ other <+: base ++ path) :
    next.look other = tree.look other := by
  induction path generalizing tree base with
  | nil =>
      rw [placeFrom] at placed
      split at placed
      · rw [Option.some.inj placed]
      · exact absurd placed.symm (Option.some_ne_none next)
  | cons name rest ih =>
      have elsewhere : other ≠ base ++ [name] := by
        intro same
        rw [same] at apart
        exact apart ⟨rest, by simp⟩
      cases rest with
      | nil =>
          rw [(tree.enter_some next base name entry placed).2.2, if_neg elsewhere]
      | cons second rest =>
          obtain ⟨later, entered, after⟩ := Option.bind_eq_some_iff.mp placed
          rw [ih later (base ++ [name]) after (by simpa using apart),
            (tree.enter_some later base name .dir entered).2.2, if_neg elsewhere]

theorem place_from_here (tree next : FileTree ν β) (base path : List ν) (name : ν) (entry : FileEntry β)
    (placed : tree.placeFrom base (path ++ [name]) entry = some next) :
    next.look (base ++ (path ++ [name])) = some entry := by
  induction path generalizing tree base with
  | nil =>
      rw [(tree.enter_some next base name entry placed).2.2]
      exact if_pos rfl
  | cons first rest ih =>
      obtain ⟨second, others, split⟩ : ∃ second others, rest ++ [name] = second :: others := by
        cases rest with
        | nil => exact ⟨name, [], rfl⟩
        | cons second others => exact ⟨second, others ++ [name], rfl⟩
      rw [List.cons_append, split] at placed
      obtain ⟨later, entered, after⟩ := Option.bind_eq_some_iff.mp placed
      rw [← split] at after
      have found := ih later (base ++ [first]) after
      simpa using found

-- Towards a tree that is wanted: where what is there fits it, an entry of it is
-- placed, and what is there then is as before or as wanted.
theorem place_from_toward (goal : List ν → Option (FileEntry β)) (closed : Closed goal) (tree : FileTree ν β)
    (base path : List ν) (entry : FileEntry β) (fits : ∀ other, Fits (goal other) (tree.look other))
    (there : tree.look base = some .dir) (wanted : goal (base ++ path) = some entry) :
    ∃ next, tree.placeFrom base path entry = some next ∧ next.look (base ++ path) = some entry ∧
      ∀ other, next.look other = tree.look other ∨ next.look other = goal other := by
  induction path generalizing tree base with
  | nil =>
      rw [List.append_nil] at wanted
      obtain ⟨same, placed, isDir⟩ := fits base .dir there
      rw [Option.some.inj (placed.symm.trans wanted)] at isDir
      rw [placeFrom, dir_of_isDir entry isDir, List.append_nil]
      exact ⟨tree, rfl, there, fun _ => .inl rfl⟩
  | cons name rest ih =>
      have one (item : FileEntry β) (meant : goal (base ++ [name]) = some item) :
          ∃ next, tree.enter base name item = some next ∧ next.look (base ++ [name]) = some item ∧
            ∀ other, next.look other = tree.look other ∨ next.look other = goal other := by
        obtain ⟨next, entered⟩ := tree.enter_allowed base name item there (meant ▸ fits (base ++ [name]))
        have looks := (tree.enter_some next base name item entered).2.2
        refine ⟨next, entered, ?_, fun other => ?_⟩
        · rw [looks, if_pos rfl]
        · rw [looks]
          by_cases here : other = base ++ [name]
          · rw [if_pos here, here, meant]
            exact .inr rfl
          · rw [if_neg here]
            exact .inl rfl
      cases rest with
      | nil => exact one entry wanted
      | cons second rest =>
          have above : goal (base ++ [name]) = some .dir :=
            closed_above goal closed (base ++ [name]) rest second
              (by simpa using wanted.symm ▸ Option.some_ne_none entry)
          obtain ⟨later, entered, here, before⟩ := one .dir above
          have still (other : List ν) : Fits (goal other) (later.look other) := by
            cases before other with
            | inl same => exact same ▸ fits other
            | inr same => exact same ▸ fits_refl (goal other)
          obtain ⟨next, placed, found, after⟩ := ih later (base ++ [name]) still here (by simpa using wanted)
          refine ⟨next, ?_, by simpa using found, fun other => ?_⟩
          · rw [placeFrom, entered]
            exact placed
          · cases after other with
            | inl same => exact same ▸ before other
            | inr same => exact .inr same

theorem place_all_keeps (tree next : FileTree ν β) (items : List (List ν × FileEntry β))
    (placed : tree.placeAll items = some next) : Keeps tree next := by
  induction items generalizing tree with
  | nil => exact Option.some.inj placed ▸ fun path => fits_refl _
  | cons item rest ih =>
      obtain ⟨later, first, after⟩ := Option.bind_eq_some_iff.mp placed
      exact keeps_trans tree later next (tree.place_from_keeps later [] item.1 item.2 first) (ih later after)

theorem place_all_toward (goal : List ν → Option (FileEntry β)) (closed : Closed goal) (tree : FileTree ν β)
    (items : List (List ν × FileEntry β)) (fits : ∀ other, Fits (goal other) (tree.look other))
    (wanted : ∀ item ∈ items, goal item.1 = some item.2) :
    ∃ next, tree.placeAll items = some next ∧ (∀ item ∈ items, next.look item.1 = some item.2) ∧
      ∀ other, next.look other = tree.look other ∨ next.look other = goal other := by
  induction items generalizing tree with
  | nil => exact ⟨tree, rfl, fun _ member => absurd member List.not_mem_nil, fun _ => .inl rfl⟩
  | cons item rest ih =>
      have meant := wanted item List.mem_cons_self
      obtain ⟨later, first, here, before⟩ := place_from_toward goal closed tree [] item.1 item.2 fits tree.root meant
      have still (other : List ν) : Fits (goal other) (later.look other) := by
        cases before other with
        | inl same => exact same ▸ fits other
        | inr same => exact same ▸ fits_refl (goal other)
      obtain ⟨next, placed, found, after⟩ := ih later still (fun other member => wanted other (List.mem_cons_of_mem _ member))
      refine ⟨next, Option.bind_eq_some_iff.mpr ⟨later, first, placed⟩, fun other member => ?_, fun other => ?_⟩
      · cases List.mem_cons.mp member with
        | inl same =>
            rw [same]
            cases after item.1 with
            | inl kept => exact kept.trans here
            | inr reached => exact reached.trans meant
        | inr later => exact found other later
      · cases after other with
        | inl same => exact same ▸ before other
        | inr same => exact .inr same

-- A path at which an entry can be placed: no file lies above it, and what is
-- there is of the kind of the entry.
structure Open (tree : FileTree ν β) (path : List ν) (entry : FileEntry β) : Prop where
  above : ∀ upper name rest, path = upper ++ name :: rest → Fits (some .dir) (tree.look upper)
  here : Fits (some entry) (tree.look path)

theorem place_open (tree next : FileTree ν β) (path : List ν) (name : ν) (entry : FileEntry β)
    (placed : tree.place (path ++ [name]) entry = some next) : tree.Open (path ++ [name]) entry := by
  have keeps := tree.place_from_keeps next [] (path ++ [name]) entry placed
  have found := tree.place_from_here next [] path name entry placed
  rw [List.nil_append] at found
  refine ⟨fun upper first rest split => ?_, found ▸ keeps (path ++ [name])⟩
  have above := closed_above next.look next.tree_closed upper rest first (split ▸ found ▸ Option.some_ne_none entry)
  exact above ▸ keeps upper

def placing (tree : FileTree ν β) (path : List ν) (entry : FileEntry β) (other : List ν) : Option (FileEntry β) :=
  if other = path then some entry else if other <+: path then some .dir else tree.look other

theorem placing_closed (tree : FileTree ν β) (path : List ν) (entry : FileEntry β) (opened : tree.Open path entry) :
    Closed (tree.placing path entry) := by
  intro other name present
  have longer : other ≠ other ++ [name] := fun same => absurd (congrArg List.length same) (by simp)
  have directory (below : other ++ [name] <+: path) : tree.placing path entry other = some .dir := by
    have shorter : other ≠ path := by
      intro same
      rw [← same] at below
      exact absurd below.length_le (by simp)
    rw [placing, if_neg shorter, if_pos ((List.prefix_append other [name]).trans below)]
  rw [placing] at present
  by_cases same : other ++ [name] = path
  · exact directory (same ▸ List.prefix_refl _)
  · rw [if_neg same] at present
    by_cases below : other ++ [name] <+: path
    · exact directory below
    · rw [if_neg below] at present
      have above := tree.parents other name present
      rw [placing]
      by_cases here : other = path
      · obtain ⟨item, wanted, isDir⟩ := opened.here .dir (here ▸ above)
        rw [← Option.some.inj wanted] at isDir
        rw [if_pos here, dir_of_isDir entry isDir]
      · rw [if_neg here]
        split
        · rfl
        · exact above

theorem placing_fits (tree : FileTree ν β) (path : List ν) (entry : FileEntry β) (opened : tree.Open path entry)
    (other : List ν) : Fits (tree.placing path entry other) (tree.look other) := by
  rw [placing]
  by_cases here : other = path
  · rw [if_pos here, here]
    exact opened.here
  · rw [if_neg here]
    by_cases below : other <+: path
    · rw [if_pos below]
      obtain ⟨rest, split⟩ := below
      cases rest with
      | nil => exact absurd ((List.append_nil other).symm.trans split) here
      | cons name rest => exact opened.above other name rest split.symm
    · rw [if_neg below]
      exact fits_refl _

theorem open_place (tree : FileTree ν β) (path : List ν) (entry : FileEntry β) (opened : tree.Open path entry) :
    ∃ next, tree.place path entry = some next ∧ next.look path = some entry := by
  obtain ⟨next, placed, found, -⟩ := place_from_toward (tree.placing path entry) (tree.placing_closed path entry opened) tree
    [] path entry (tree.placing_fits path entry opened) tree.root (if_pos rfl)
  exact ⟨next, placed, found⟩

end FileTree

end QuantEngine
