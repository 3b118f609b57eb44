import MessageMarkup.Files.Disk
import MessageMarkup.Files.Path

/-!
# File trees

A tree of files and directories, and how a path is followed in it: name by name, from
the root if it starts with a slash and otherwise from the working directory. Only a
directory can be gone on from; `..` leads to the directory that it lies in.
-/

set_option autoImplicit false

namespace MessageMarkup

/-- A file with its bytes, or a directory with its entries by name. -/
inductive FileTree where
  | file (bytes : ByteArray)
  | directory (entries : List (String × FileTree))

namespace FileTree

instance : Inhabited FileTree := ⟨.directory []⟩

/-- A place in a tree: what is there, and the directories that it lies in, nearest
first. -/
structure Place where
  tree : FileTree
  above : List FileTree

/-- The most bytes of a name. -/
def longestName : Nat := 255

/-- The bytes that a path has to stay below. -/
def pathLimit : Nat := 4096

def Place.step (place : Place) (name : String) : Except Unreadable Place :=
  match place.tree with
  | .file _ => .error .notDirectory
  | .directory entries =>
      if Path.isIdle name then .ok place
      else if name = ".." then
        match place.above with
        | [] => .ok place
        | parent :: above => .ok ⟨parent, above⟩
      else if longestName < name.utf8ByteSize then .error .longName
      else
        match entries.lookup name with
        | some tree => .ok ⟨tree, place.tree :: place.above⟩
        | none => .error .missing

def Place.follow (place : Place) (names : List String) : Except Unreadable Place :=
  names.foldlM Place.step place

/-- The place that a path leads to in a tree with a working directory. -/
def locate (tree : FileTree) (working : Folder) (path : String) : Except Unreadable Place :=
  if path = "" then .error .missing
  else if pathLimit ≤ path.utf8ByteSize then .error .longName
  else do
    let root : Place := ⟨tree, []⟩
    let start ← if Path.isAbsolute path then .ok root else root.follow working.reverse
    start.follow (Path.names path)

def text : FileTree → Except Unreadable String
  | .directory _ => .error .directory
  | .file bytes =>
      match String.fromUTF8? bytes with
      | some text => .ok text
      | none => .error .notText

/-- The disk that holds a tree, in a working directory. -/
def disk (tree : FileTree) (working : Folder) : Disk := fun path => do
  (← tree.locate working path).tree.text

/-- The tree with another one at the end of a way of names. Directories on the way are
made where there are none. -/
def graft (tree : FileTree) : List String → FileTree → FileTree
  | [], added => added
  | name :: rest, added =>
      let entries :=
        match tree with
        | .directory entries => entries
        | .file _ => []
      let child := (entries.lookup name).getD (.directory [])
      .directory ((name, graft child rest added) :: entries.filter fun entry => entry.1 != name)

end FileTree

end MessageMarkup
