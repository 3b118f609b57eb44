/-!
# Directories of names

Mentions are shown by name. A resolver answers with the name of a channel, role
or user, or with nothing; a directory is a resolver that keeps the names in three
independent tables, in which the last name given to an id counts.
-/

set_option autoImplicit false

namespace MessageMarkup

/-- Answers with the names of mentioned channels, roles and users. -/
structure Resolver where
  channel : String → Option String
  role : String → Option String
  user : String → Option String

namespace Resolver

def none : Resolver where
  channel _ := Option.none
  role _ := Option.none
  user _ := Option.none

end Resolver

/-- Names by id, the latest first. -/
structure Names where
  entries : List (String × String)
  deriving DecidableEq, Repr

namespace Names

def empty : Names := ⟨[]⟩

instance : Inhabited Names := ⟨empty⟩

def insert (names : Names) (id name : String) : Names :=
  ⟨(id, name) :: names.entries.filter fun entry => entry.1 != id⟩

def find? (names : Names) (id : String) : Option String :=
  (names.entries.find? fun entry => entry.1 == id).map Prod.snd

def isEmpty (names : Names) : Bool :=
  names.entries.isEmpty

theorem find?_insert_self (names : Names) (id name : String) :
    (names.insert id name).find? id = some name := by
  simp [insert, find?]

theorem find?_insert_of_ne (names : Names) {id other : String} (name : String)
    (different : id ≠ other) : (names.insert id name).find? other = names.find? other := by
  have distinct : (id == other) = false := by simpa using different
  simp only [insert, find?, List.find?_cons, distinct, List.find?_filter]
  congr 2
  funext entry
  by_cases same : entry.1 = other
  · subst same
    simpa using Ne.symm different
  · simp [same]

end Names

structure Directory where
  channels : Names
  roles : Names
  users : Names
  deriving DecidableEq, Repr

namespace Directory

def empty : Directory := ⟨.empty, .empty, .empty⟩

instance : Inhabited Directory := ⟨empty⟩

def withChannel (directory : Directory) (id name : String) : Directory :=
  { directory with channels := directory.channels.insert id name }

def withRole (directory : Directory) (id name : String) : Directory :=
  { directory with roles := directory.roles.insert id name }

def withUser (directory : Directory) (id name : String) : Directory :=
  { directory with users := directory.users.insert id name }

def isEmpty (directory : Directory) : Bool :=
  directory.channels.isEmpty && directory.roles.isEmpty && directory.users.isEmpty

/-- Answers from the three tables. -/
def resolver (directory : Directory) : Resolver where
  channel := directory.channels.find?
  role := directory.roles.find?
  user := directory.users.find?

end Directory

end MessageMarkup
