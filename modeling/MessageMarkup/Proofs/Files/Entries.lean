import MessageMarkup.Files.Tree

/-!
# Entries of file trees

What there is in a tree at the end of a way of names, and what the disk that holds the tree gives at
the path that spells these names. The directories that a directory lies in are its suffixes.
-/

set_option autoImplicit false

namespace MessageMarkup

/-! ## Directories that lie in one another -/

namespace Folder

theorem mem_ancestors_iff {folder working : Folder} :
    folder ∈ working.ancestors ↔ folder <:+ working := by
  induction working with
  | nil => simp [ancestors]
  | cons name rest ih => rw [ancestors, List.mem_cons, ih, List.suffix_cons_iff]

/-- The nearest directory with a property is the longest one. -/
theorem find?_ancestors_eq_some_iff {holds : Folder → Bool} {folder working : Folder} :
    working.ancestors.find? holds = some folder ↔
      folder <:+ working ∧ holds folder = true ∧
        ∀ nearer, nearer <:+ working → folder.length < nearer.length → holds nearer = false := by
  induction working with
  | nil =>
      simp only [ancestors, List.find?_singleton, List.suffix_nil]
      constructor
      · intro found
        split at found
        · rename_i own
          cases found
          exact ⟨rfl, own, fun nearer same longer => by simp [same] at longer⟩
        · cases found
      · rintro ⟨rfl, own, _⟩
        exact if_pos own
  | cons name rest ih =>
      rw [ancestors]
      by_cases own : holds (name :: rest) = true
      · rw [List.find?_cons_of_pos own, Option.some_inj]
        constructor
        · rintro rfl
          exact ⟨List.suffix_rfl, own, fun nearer within longer =>
            absurd within.length_le (Nat.not_le_of_lt longer)⟩
        · rintro ⟨within, _, first⟩
          rcases List.suffix_cons_iff.mp within with same | farther
          · exact same.symm
          · have shadowed := first (name :: rest) List.suffix_rfl (Nat.lt_succ_of_le farther.length_le)
            rw [own] at shadowed
            cases shadowed
      · rw [List.find?_cons_of_neg own, ih]
        constructor
        · rintro ⟨within, present, first⟩
          refine ⟨within.trans (List.suffix_cons name rest), present, fun nearer near longer => ?_⟩
          rcases List.suffix_cons_iff.mp near with rfl | near
          · exact Bool.eq_false_iff.mpr own
          · exact first nearer near longer
        · rintro ⟨within, present, first⟩
          rcases List.suffix_cons_iff.mp within with rfl | within
          · exact absurd present own
          · exact ⟨within, present, fun nearer near longer =>
              first nearer (near.trans (List.suffix_cons name rest)) longer⟩

end Folder

/-! ## Paths and the names in them -/

namespace Path

/-- A name that an entry of a directory can have. -/
structure Proper (name : String) : Prop where
  whole : '/' ∉ name.toList
  busy : isIdle name = false
  down : name ≠ ".."
  short : name.utf8ByteSize ≤ FileTree.longestName

theorem split_append {name : List Char} (whole : '/' ∉ name) (rest : List Char) :
    split (name ++ '/' :: rest) = name :: split rest := by
  induction name with
  | nil => rw [List.nil_append, split, if_pos rfl]
  | cons char name ih =>
      obtain ⟨other, whole⟩ := List.ne_and_not_mem_of_not_mem_cons whole
      rw [List.cons_append, split, if_neg other.symm, ih whole]

theorem split_whole {name : List Char} (whole : '/' ∉ name) : split name = [name] := by
  induction name with
  | nil => rfl
  | cons char name ih =>
      obtain ⟨other, whole⟩ := List.ne_and_not_mem_of_not_mem_cons whole
      rw [split, if_neg other.symm, ih whole]

theorem split_intercalate {names : List (List Char)} (whole : ∀ name ∈ names, '/' ∉ name)
    (nonempty : names ≠ []) : split (['/'].intercalate names) = names := by
  induction names with
  | nil => exact absurd rfl nonempty
  | cons first rest ih =>
      rw [List.forall_mem_cons] at whole
      cases rest with
      | nil =>
          rw [List.intercalate_singleton]
          exact split_whole whole.1
      | cons second rest =>
          rw [List.intercalate_cons_cons, List.append_assoc, List.singleton_append,
            split_append whole.1, ih whole.2 (List.cons_ne_nil _ _)]

theorem names_pathOf {folder : Folder} {name : String}
    (whole : ∀ part ∈ folder.reverse ++ [name], '/' ∉ part.toList) :
    names (folder.pathOf name) = "" :: (folder.reverse ++ [name]) := by
  have spelled : (folder.pathOf name).toList =
      [] ++ '/' :: ['/'].intercalate ((folder.reverse ++ [name]).map String.toList) := by
    rw [Folder.pathOf, String.toList_append, String.toList_intercalate]
    rfl
  have parts : split (['/'].intercalate ((folder.reverse ++ [name]).map String.toList)) =
      (folder.reverse ++ [name]).map String.toList := by
    apply split_intercalate
    · rw [List.forall_mem_map]
      exact whole
    · simp
  rw [names, spelled, split_append List.not_mem_nil, parts, List.map_cons, List.map_map]
  simp [Function.comp_def]

end Path

/-! ## Following names -/

/-- The entry of a disk at a path: its text, or why there is none though there is something. -/
def Disk.at? (disk : Disk) (path : String) : Option (Except Unreadable String) :=
  if disk.has path then some (disk path) else none

namespace FileTree

/-- What there is at the end of a way of names. -/
def at? (tree : FileTree) : List String → Option FileTree
  | [] => some tree
  | name :: rest =>
      match tree with
      | .file _ => none
      | .directory entries => (entries.lookup name).bind fun child => child.at? rest

/-- A walk ends at what there is, or it fails since there is nothing. -/
inductive Leads : Except Unreadable Place → Option FileTree → Prop where
  | there (place : Place) : Leads (.ok place) (some place.tree)
  | nowhere {reason : Unreadable} : reason.isPresent = false → Leads (.error reason) none

theorem Leads.bind {result : Except Unreadable Place} {there : Option FileTree}
    {next : Place → Except Unreadable Place} {further : FileTree → Option FileTree}
    (leads : Leads result there) (leadsNext : ∀ place, Leads (next place) (further place.tree)) :
    Leads (result >>= next) (there.bind further) := by
  cases leads with
  | there place => exact leadsNext place
  | nowhere absent => exact .nowhere absent

theorem leads_step (place : Place) {name : String} (proper : Path.Proper name) :
    Leads (place.step name) (place.tree.at? [name]) := by
  obtain ⟨tree, above⟩ := place
  cases tree with
  | file bytes => exact .nowhere rfl
  | directory entries =>
      have short : ¬longestName < name.utf8ByteSize := Nat.not_lt_of_le proper.short
      simp only [Place.step, proper.busy, proper.down, short, if_false, Bool.false_eq_true, at?]
      cases entries.lookup name with
      | none => exact .nowhere rfl
      | some child => exact .there ⟨child, directory entries :: above⟩

theorem at?_cons (tree : FileTree) (name : String) (rest : List String) :
    tree.at? (name :: rest) = (tree.at? [name]).bind fun child => child.at? rest := by
  cases tree with
  | file bytes => rfl
  | directory entries =>
      rw [at?, at?]
      cases entries.lookup name <;> rfl

theorem leads_follow {names : List String} (proper : ∀ name ∈ names, Path.Proper name)
    (place : Place) : Leads (place.follow names) (place.tree.at? names) := by
  induction names generalizing place with
  | nil => exact .there place
  | cons name rest ih =>
      obtain ⟨first, later⟩ := List.forall_mem_cons.mp proper
      rw [Place.follow, List.foldlM_cons, at?_cons]
      exact (leads_step place first).bind (ih later)

theorem at?_disk_of_leads {tree : FileTree} {working : Folder} {path : String}
    {there : Option FileTree} (leads : Leads (tree.locate working path) there) :
    (tree.disk working).at? path = there.map text := by
  generalize located : tree.locate working path = result at leads
  cases leads with
  | there place =>
      have given : tree.disk working path = place.tree.text := by
        rw [disk, located]
        rfl
      have has : (tree.disk working).has path = true := by
        rw [Disk.has, given]
        cases place.tree with
        | directory entries => rfl
        | file bytes =>
            rw [text]
            cases String.fromUTF8? bytes <;> rfl
      rw [Disk.at?, if_pos has, given]
      rfl
  | @nowhere reason absent =>
      have given : tree.disk working path = .error reason := by
        rw [disk, located]
        rfl
      rw [Disk.at?, Disk.has, given]
      exact if_neg (by simpa using absent)

/-- The disk that holds a tree gives what there is at the end of the names, unless their path is too
long to be followed. -/
theorem at?_disk (tree : FileTree) (working : Folder) {folder : Folder} {name : String}
    (proper : ∀ part ∈ folder.reverse ++ [name], Path.Proper part) :
    (tree.disk working).at? (folder.pathOf name) =
      if (folder.pathOf name).utf8ByteSize < pathLimit then
        (tree.at? (folder.reverse ++ [name])).map text
      else none := by
  have spelled : (folder.pathOf name).toList =
      '/' :: ("/".intercalate (folder.reverse ++ [name])).toList := by
    rw [Folder.pathOf, String.toList_append]
    rfl
  have nonempty : folder.pathOf name ≠ "" := by
    intro empty
    rw [empty] at spelled
    cases spelled
  have absolute : Path.isAbsolute (folder.pathOf name) = true := by
    rw [Path.isAbsolute, spelled]
    rfl
  have parts := Path.names_pathOf fun part member => (proper part member).whole
  by_cases short : (folder.pathOf name).utf8ByteSize < pathLimit
  · rw [if_pos short]
    apply at?_disk_of_leads
    rw [locate, if_neg nonempty, if_neg (Nat.not_le_of_lt short), absolute, parts]
    cases tree with
    | file bytes =>
        -- Not even the slash in front can be followed from a file.
        have nothing : (file bytes).at? (folder.reverse ++ [name]) = none := by
          cases folder.reverse <;> rfl
        rw [nothing]
        exact .nowhere rfl
    | directory entries => exact leads_follow proper ⟨directory entries, []⟩
  · rw [if_neg short]
    have long : tree.locate working (folder.pathOf name) = .error .longName := by
      rw [locate, if_neg nonempty, if_pos (Nat.le_of_not_lt short)]
    have nowhere : Leads (tree.locate working (folder.pathOf name)) none := by
      rw [long]
      exact .nowhere rfl
    exact at?_disk_of_leads nowhere

end FileTree

end MessageMarkup
