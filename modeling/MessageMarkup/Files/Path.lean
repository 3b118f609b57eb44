/-!
# Paths

A path is names with slashes between them. A directory is named by the names on the
way to it, and lies in others up to the root.
-/

set_option autoImplicit false

namespace MessageMarkup

/-- The names between the slashes of a path. -/
def Path.split : List Char → List (List Char)
  | [] => [[]]
  | char :: rest =>
      if char = '/' then [] :: split rest
      else
        match split rest with
        | [] => [[char]]
        | name :: others => (char :: name) :: others

theorem Path.split_ne_nil (chars : List Char) : Path.split chars ≠ [] := by
  induction chars with
  | nil => simp [split]
  | cons char rest ih =>
      rw [split]
      split
      · simp
      · split <;> simp

theorem Path.not_mem_of_mem_split {chars name : List Char} (member : name ∈ Path.split chars) :
    '/' ∉ name := by
  induction chars generalizing name with
  | nil => simp_all [split]
  | cons char rest ih =>
      rw [split] at member
      split at member
      · rcases List.mem_cons.mp member with rfl | later
        · simp
        · exact ih later
      · rename_i other
        split at member
        · rename_i empty
          exact absurd empty (split_ne_nil rest)
        · rename_i first others parts
          rcases List.mem_cons.mp member with rfl | later
          · intro slash
            rcases List.mem_cons.mp slash with same | inside
            · exact other same.symm
            · exact ih (by simp [parts]) inside
          · exact ih (by simp [parts, later])

/-- The names between the slashes of a path. -/
def Path.names (path : String) : List String :=
  (Path.split path.toList).map String.ofList

def Path.isAbsolute (path : String) : Bool :=
  path.toList.head? == some '/'

/-- Whether a name leads nowhere else. -/
def Path.isIdle (name : String) : Bool :=
  name == "" || name == "."

/-- A directory: the names on the way from it to the root, its own first. -/
abbrev Folder := List String

namespace Folder

/-- A directory and those it lies in, nearest first. The root is the last. -/
def ancestors : Folder → List Folder
  | [] => [[]]
  | name :: rest => (name :: rest) :: ancestors rest

theorem getLast?_ancestors (folder : Folder) : folder.ancestors.getLast? = some [] := by
  induction folder with
  | nil => rfl
  | cons name rest ih =>
      rw [ancestors, List.getLast?_cons, ih]
      rfl

def pathOf (folder : Folder) (name : String) : String :=
  "/" ++ "/".intercalate (folder.reverse ++ [name])

end Folder

end MessageMarkup
