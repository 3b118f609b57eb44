import MessageMarkup.Proofs.Files.Entries
import MessageMarkup.Proofs.Settings.FromFile

/-!
# Finding the settings file

Settings that are not asked for by a path come from the nearest entry that has the name of the
settings file, whatever it is: an entry that cannot be read, or that spells no proper settings, is
not passed over for one that lies farther away. Nothing else on the disk counts.
-/

set_option autoImplicit false

namespace MessageMarkup.Settings

/-- The entry of a directory that has the name of the settings file. -/
def entryIn? (disk : Disk) (folder : Folder) : Option (Except Unreadable String) :=
  disk.at? (folder.pathOf fileName)

/-- The nearest such entry among the working directory and those it lies in. -/
structure Nearest (surroundings : Surroundings) (folder : Folder)
    (entry : Except Unreadable String) : Prop where
  within : folder <:+ surroundings.working
  present : entryIn? surroundings.disk folder = some entry
  first : ∀ nearer, nearer <:+ surroundings.working → folder.length < nearer.length →
    entryIn? surroundings.disk nearer = none

/-- Neither the working directory nor one it lies in has such an entry. -/
def Unsettled (surroundings : Surroundings) : Prop :=
  ∀ folder, folder <:+ surroundings.working → entryIn? surroundings.disk folder = none

/-- The settings that an entry gives. -/
def ofEntry (environment : Environment) (path : String) :
    Except Unreadable String → Except Fault Settings
  | .ok text => ofFile environment path text
  | .error reason => .error (.unreadable reason)

/-- The settings with those for one run on top, which must be without flaws then. -/
def overriding (overrides : Option Overrides) (settings : Settings) : Except Fault Settings :=
  match overrides with
  | some overrides => check (settings.override overrides)
  | none => .ok settings

/-- The fault of an entry: that of the first stage that fails. -/
inductive EntryFault (environment : Environment) : Except Unreadable String → Fault → Prop where
  | unreadable (reason : Unreadable) : EntryFault environment (.error reason) (.unreadable reason)
  | malformed {text : String} : ofText? text = none → EntryFault environment (.ok text) .malformed
  | unexpanded {text : String} {written : Settings} {fault : Fault} :
      ofText? text = some written → written.expandBases environment = .error fault →
      EntryFault environment (.ok text) fault
  | flawed {text : String} {written expanded : Settings} {flaw : Flaw} :
      ofText? text = some written → written.expandBases environment = .ok expanded →
      expanded.flaw? = some flaw → EntryFault environment (.ok text) (.flawed flaw)

variable {surroundings : Surroundings} {folder : Folder} {entry : Except Unreadable String}

/-! ## Where the file is found -/

theorem isSome_entryIn? (disk : Disk) (folder : Folder) :
    (entryIn? disk folder).isSome = disk.has (folder.pathOf fileName) := by
  rw [entryIn?, Disk.at?]
  cases disk.has (folder.pathOf fileName) <;> rfl

theorem eq_of_entryIn? {disk : Disk} (present : entryIn? disk folder = some entry) :
    disk (folder.pathOf fileName) = entry := by
  rw [entryIn?, Disk.at?] at present
  split at present
  · exact Option.some.inj present
  · cases present

theorem discover_eq (surroundings : Surroundings) :
    discover surroundings =
      (surroundings.working.ancestors.find? fun folder =>
        (entryIn? surroundings.disk folder).isSome).map fun folder => folder.pathOf fileName := by
  rw [discover, candidates, List.find?_map]
  congr 2
  funext folder
  exact (isSome_entryIn? surroundings.disk folder).symm

theorem nearest_iff :
    Nearest surroundings folder entry ↔
      surroundings.working.ancestors.find?
          (fun folder => (entryIn? surroundings.disk folder).isSome) = some folder ∧
        entryIn? surroundings.disk folder = some entry := by
  simp only [Folder.find?_ancestors_eq_some_iff, Option.isSome_eq_false_iff, Option.isNone_iff_eq_none]
  constructor
  · rintro ⟨within, present, first⟩
    exact ⟨⟨within, by rw [present, Option.isSome_some], first⟩, present⟩
  · rintro ⟨⟨within, _, first⟩, present⟩
    exact ⟨within, present, first⟩

theorem discover_eq_some_iff {path : String} :
    discover surroundings = some path ↔
      ∃ folder entry, Nearest surroundings folder entry ∧ folder.pathOf fileName = path := by
  simp only [discover_eq, Option.map_eq_some_iff, nearest_iff]
  constructor
  · rintro ⟨folder, found, located⟩
    have present := List.find?_some found
    obtain ⟨entry, present⟩ := Option.isSome_iff_exists.mp present
    exact ⟨folder, entry, ⟨found, present⟩, located⟩
  · rintro ⟨folder, _, ⟨found, _⟩, located⟩
    exact ⟨folder, found, located⟩

theorem discover_eq_none_iff : discover surroundings = none ↔ Unsettled surroundings := by
  simp only [discover_eq, Option.map_eq_none_iff, List.find?_eq_none, Folder.mem_ancestors_iff,
    Option.isSome_iff_ne_none, ne_eq, not_not, Unsettled]

/-- There is a nearest entry as soon as there is one. -/
theorem unsettled_iff : Unsettled surroundings ↔ ¬∃ folder entry, Nearest surroundings folder entry := by
  rw [← discover_eq_none_iff, Option.eq_none_iff_forall_ne_some]
  constructor
  · rintro none ⟨folder, entry, nearest⟩
    exact none _ (discover_eq_some_iff.mpr ⟨folder, entry, nearest, rfl⟩)
  · intro none path found
    obtain ⟨folder, entry, nearest, _⟩ := discover_eq_some_iff.mp found
    exact none ⟨folder, entry, nearest⟩

/-! ## What the file gives -/

theorem load_eq (surroundings : Surroundings) (path : Option String) (overrides : Option Overrides) :
    load surroundings path overrides = loadBase surroundings path >>= overriding overrides := by
  cases overrides <;> rfl

theorem loadFile_eq (present : entryIn? surroundings.disk folder = some entry) :
    loadFile surroundings (folder.pathOf fileName) =
      ofEntry surroundings.environment (folder.pathOf fileName) entry := by
  rw [loadFile, eq_of_entryIn? present]
  cases entry <;> rfl

theorem Nearest.load_eq (nearest : Nearest surroundings folder entry) (overrides : Option Overrides) :
    load surroundings none overrides =
      ofEntry surroundings.environment (folder.pathOf fileName) entry >>= overriding overrides := by
  have found : discover surroundings = some (folder.pathOf fileName) :=
    discover_eq_some_iff.mpr ⟨folder, entry, nearest, rfl⟩
  have base : loadBase surroundings none = loadFile surroundings (folder.pathOf fileName) := by
    rw [loadBase, found]
  rw [Settings.load_eq, base, loadFile_eq nearest.present]

theorem Unsettled.load_eq (unsettled : Unsettled surroundings) (overrides : Option Overrides) :
    load surroundings none overrides = overriding overrides {} := by
  have base : loadBase surroundings none = .ok {} := by
    rw [loadBase, discover_eq_none_iff.mpr unsettled]
  rw [Settings.load_eq, base]
  rfl

theorem ofEntry_eq_error_iff {environment : Environment} {path : String} {fault : Fault} :
    ofEntry environment path entry = .error fault ↔ EntryFault environment entry fault := by
  constructor
  · intro failed
    cases entry with
    | error reason =>
        cases failed
        exact .unreadable reason
    | ok text =>
        rw [ofEntry, ofFile] at failed
        split at failed
        · rename_i unspelled
          cases failed
          exact .malformed unspelled
        · rename_i written spelled
          rcases Json.bind_eq_error.mp failed with unset | ⟨expanded, done, refused⟩
          · exact .unexpanded spelled unset
          · obtain ⟨flaw, found, rfl⟩ := check_eq_error_iff.mp refused
            exact .flawed spelled done found
  · intro faulty
    cases faulty with
    | unreadable reason => rfl
    | malformed unspelled => simp only [ofEntry, ofFile, unspelled]
    | unexpanded spelled unset =>
        simp only [ofEntry, ofFile, spelled]
        exact Json.bind_eq_error.mpr (.inl unset)
    | flawed spelled done found =>
        simp only [ofEntry, ofFile, spelled]
        exact Json.bind_eq_error.mpr (.inr ⟨_, done, check_eq_error_iff.mpr ⟨_, found, rfl⟩⟩)

theorem path_of_overriding {overrides : Option Overrides} {base settings : Settings}
    (done : overriding overrides base = .ok settings) : settings.path = base.path := by
  cases overrides with
  | none =>
      cases done
      rfl
  | some overrides =>
      obtain ⟨_, rfl⟩ := check_eq_ok_iff.mp done
      rfl

theorem path_of_ofEntry {environment : Environment} {path : String} {settings : Settings}
    (given : ofEntry environment path entry = .ok settings) : settings.path = some path := by
  cases entry with
  | error reason => cases given
  | ok text =>
      rw [ofEntry, ofFile] at given
      split at given
      · cases given
      · obtain ⟨_, _, checked⟩ := Json.bind_eq_ok.mp given
        obtain ⟨_, rfl⟩ := check_eq_ok_iff.mp checked
        rfl

theorem Nearest.path_eq (nearest : Nearest surroundings folder entry) {overrides : Option Overrides}
    {settings : Settings} (loaded : load surroundings none overrides = .ok settings) :
    settings.path = some (folder.pathOf fileName) := by
  rw [nearest.load_eq] at loaded
  obtain ⟨base, given, done⟩ := Json.bind_eq_ok.mp loaded
  rw [path_of_overriding done, path_of_ofEntry given]

theorem path_eq_none_iff {overrides : Option Overrides} {settings : Settings}
    (loaded : load surroundings none overrides = .ok settings) :
    settings.path = none ↔ Unsettled surroundings := by
  constructor
  · intro none
    refine unsettled_iff.mpr ?_
    rintro ⟨folder, entry, nearest⟩
    rw [nearest.path_eq loaded] at none
    cases none
  · intro unsettled
    rw [unsettled.load_eq] at loaded
    rw [path_of_overriding loaded]

theorem load_eq_default_iff : load surroundings none none = .ok {} ↔ Unsettled surroundings := by
  constructor
  · intro loaded
    exact (path_eq_none_iff loaded).mp rfl
  · intro unsettled
    exact unsettled.load_eq none

/-! ## What does not count -/

/-- Disks that agree as far as to the nearest entry have the same one. -/
theorem Nearest.congr (nearest : Nearest surroundings folder entry) {disk : Disk}
    (agree : ∀ near, near <:+ surroundings.working → folder.length ≤ near.length →
      entryIn? disk near = entryIn? surroundings.disk near) :
    Nearest { surroundings with disk } folder entry where
  within := nearest.within
  present := (agree folder nearest.within (Nat.le_refl _)).trans nearest.present
  first nearer within longer :=
    (agree nearer within (Nat.le_of_lt longer)).trans (nearest.first nearer within longer)

/-- Settings without a path come from the nearest entry alone, faults of it included, and are the
defaults only if there is none. On a disk that holds a tree the entries are those of the tree, as
far as paths can be followed. -/
theorem load_nearest (surroundings : Surroundings) (overrides : Option Overrides) :
    (∀ folder entry, Nearest surroundings folder entry →
      load surroundings none overrides =
          ofEntry surroundings.environment (folder.pathOf fileName) entry >>= overriding overrides ∧
        (∀ settings, load surroundings none overrides = .ok settings →
          settings.path = some (folder.pathOf fileName)) ∧
        (∀ fault, EntryFault surroundings.environment entry fault →
          load surroundings none overrides = .error fault) ∧
        ∀ disk : Disk,
          (∀ near, near <:+ surroundings.working → folder.length ≤ near.length →
            entryIn? disk near = entryIn? surroundings.disk near) →
          load { surroundings with disk } none overrides = load surroundings none overrides) ∧
    ((¬∃ folder entry, Nearest surroundings folder entry) ↔ Unsettled surroundings) ∧
    (Unsettled surroundings → load surroundings none overrides = overriding overrides {}) ∧
    (load surroundings none none = .ok {} ↔ Unsettled surroundings) ∧
    (∀ settings, load surroundings none overrides = .ok settings →
      (settings.path = none ↔ Unsettled surroundings)) ∧
    ∀ tree : FileTree, (∀ name ∈ surroundings.working, Path.Proper name) →
      ∀ folder : Folder, folder <:+ surroundings.working →
        entryIn? (tree.disk surroundings.working) folder =
          if (folder.pathOf fileName).utf8ByteSize < FileTree.pathLimit then
            (tree.at? (folder.reverse ++ [fileName])).map FileTree.text
          else none := by
  refine ⟨?_, unsettled_iff.symm, fun unsettled => unsettled.load_eq overrides, load_eq_default_iff,
    fun _ loaded => path_eq_none_iff loaded, ?_⟩
  · intro folder entry nearest
    refine ⟨nearest.load_eq overrides, fun _ loaded => nearest.path_eq loaded, ?_, ?_⟩
    · intro fault faulty
      rw [nearest.load_eq, ofEntry_eq_error_iff.mpr faulty]
      rfl
    · intro disk agree
      rw [nearest.load_eq, (nearest.congr agree).load_eq]
  · intro tree proper folder within
    refine FileTree.at?_disk tree surroundings.working ?_
    intro part member
    rcases List.mem_append.mp member with above | own
    · exact proper part (within.subset (List.mem_reverse.mp above))
    · rw [List.mem_singleton.mp own]
      exact ⟨by decide, by decide, by decide, by decide⟩

/-- A tree with a proper settings file, and below it a directory of the same name. -/
def shadowedTree : FileTree :=
  .directory [("home", .directory [
    ("ann", .directory [("notes", .directory []), (fileName, .directory [])]),
    (fileName, .file "render.context = 'reply'".toUTF8)])]

def shadowedSurroundings : Surroundings where
  working := ["notes", "ann", "home"]
  disk := shadowedTree.disk ["notes", "ann", "home"]
  environment _ := none

theorem load_nearest_directory :
    Nearest shadowedSurroundings ["ann", "home"] (.error .directory) ∧
      load shadowedSurroundings none none = .error (.unreadable .directory) ∧
      entryIn? shadowedSurroundings.disk ["home"] = some (.ok "render.context = 'reply'") := by
  have nearest : Nearest shadowedSurroundings ["ann", "home"] (.error .directory) := by
    refine ⟨by decide, by decide +kernel, fun nearer within longer => ?_⟩
    have own : nearer = ["notes", "ann", "home"] := within.eq_of_length_le longer
    subst own
    decide +kernel
  obtain ⟨of_nearest, _⟩ := load_nearest shadowedSurroundings none
  obtain ⟨_, _, faults, _⟩ := of_nearest _ _ nearest
  exact ⟨nearest, faults _ (.unreadable .directory), by decide +kernel⟩

end MessageMarkup.Settings
