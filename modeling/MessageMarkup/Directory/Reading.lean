import MessageMarkup.Directory.Basic
import MessageMarkup.Json.Refusal

/-!
# Reading directories

A directory is an object with tables of channels, roles and users, or an array of
up to three tables in this order. A table is an object from ids to records, and a
record an object with a name or an array of nothing but a name. Here a value of
the wrong shape is refused.
-/

set_option autoImplicit false

namespace MessageMarkup.Directory

open Json

inductive Section where
  | channels
  | roles
  | users
  deriving DecidableEq, Repr

namespace Section

def all : List Section := [.channels, .roles, .users]

def spelling : Section → String
  | .channels => "channels"
  | .roles => "roles"
  | .users => "users"

def ofSpelling? (name : String) : Option Section :=
  all.find? fun table => table.spelling == name

/-- What messages call a record of the table. -/
def recordName : Section → String
  | .channels => "struct Channel"
  | .roles => "struct Role"
  | .users => "struct User"

/-- The field of a record that holds the name. -/
def nameField : Section → String
  | .channels => "name"
  | .roles => "name"
  | .users => "username"

end Section

def withTable (directory : Directory) (table : Section) (names : Names) : Directory :=
  match table with
  | .channels => { directory with channels := names }
  | .roles => { directory with roles := names }
  | .users => { directory with users := names }

def readName : Document → Reading String
  | .string spelling => Reading.ofFault spelling.text
  | other => other.refuse "a string"

/-- The name among the members of a record, unless it was read already. -/
def readRecordMembers (table : Section) (stop : Option Fault) (found : Option String) :
    List (Spelling × Document) → Reading String
  | [] => do
      Reading.ofFault (close stop)
      match found with
      | some name => return name
      | none => throw (.shape (.missingField table.nameField))
  | (name, value) :: rest => do
      let name ← Reading.ofFault name.text
      if name == table.nameField then
        if found.isSome then throw (.shape (.duplicateField name))
        let text ← readName value
        readRecordMembers table stop (some text) rest
      else
        Reading.ofFault value.skip
        readRecordMembers table stop found rest

/-- The name in a record, at a depth that leaves `room` for more. -/
def readRecord (room : Nat) (table : Section) : Document → Reading String
  | .object members stop =>
      if room = 0 then throw (.fault .malformed)
      else readRecordMembers table stop none members
  | .array items stop =>
      if room = 0 then throw (.fault .malformed)
      else
        match items with
        | [] => do
            Reading.ofFault (close stop)
            throw (.shape (.wrongLength 0 table.recordName 1))
        | [item] => do
            let name ← readName item
            Reading.ofFault (close stop)
            return name
        | item :: _ => do
            let _ ← readName item
            throw (.fault .malformed)
  | other => other.refuse table.recordName

/-- The entries of a table, added to the names that were read already. -/
def readEntries (room : Nat) (table : Section) (stop : Option Fault) (names : Names) :
    List (Spelling × Document) → Reading Names
  | [] => do
      Reading.ofFault (close stop)
      return names
  | (id, value) :: rest => do
      let id ← Reading.ofFault id.text
      let name ← readRecord room table value
      readEntries room table stop (names.insert id name) rest

/-- A table, at a depth that leaves `room` for more. -/
def readTable (room : Nat) (table : Section) : Document → Reading Names
  | .object members stop =>
      if room = 0 then throw (.fault .malformed)
      else readEntries (room - 1) table stop .empty members
  | other => other.refuse "a map"

/-- The tables among the members of an object. `seen` lists those read already. -/
def readSections (room : Nat) (stop : Option Fault) (seen : List Section)
    (directory : Directory) : List (Spelling × Document) → Reading Directory
  | [] => do
      Reading.ofFault (close stop)
      return directory
  | (name, value) :: rest => do
      let name ← Reading.ofFault name.text
      match Section.ofSpelling? name with
      | none =>
          Reading.ofFault value.skip
          readSections room stop seen directory rest
      | some table =>
          if seen.contains table then throw (.shape (.duplicateField name))
          let names ← readTable room table value
          readSections room stop (table :: seen) (directory.withTable table names) rest

/-- Tables in order. Those that are not given are empty. -/
def readTables (room : Nat) (stop : Option Fault) (directory : Directory)
    (tables : List Section) (items : List Document) : Reading Directory :=
  match tables, items with
  | _, [] => do
      Reading.ofFault (close stop)
      return directory
  | [], _ :: _ => throw (.fault .malformed)
  | table :: tables, item :: items => do
      let names ← readTable room table item
      readTables room stop (directory.withTable table names) tables items

def readDirectory (room : Nat) : Document → Reading Directory
  | .object members stop =>
      if room = 0 then throw (.fault .malformed)
      else readSections (room - 1) stop [] .empty members
  | .array items stop =>
      if room = 0 then throw (.fault .malformed)
      else readTables (room - 1) stop .empty Section.all items
  | other => other.refuse "struct MapResolver"

def read (text : String) : Reading Directory :=
  Json.readText readDirectory text

end MessageMarkup.Directory
