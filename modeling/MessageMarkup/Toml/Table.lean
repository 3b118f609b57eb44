import MessageMarkup.Toml.Value

/-!
# Filling tables

A document is a list of pairs and a list of sections, each a header with its pairs.
A key is set once. A table gets its keys in one place: what a header or braces have
written, no dotted key adds to, and a header follows a table that so far was only
part of longer headers.
-/

set_option autoImplicit false

namespace MessageMarkup.Toml

structure Pair where
  path : List String
  value : Value

/-- A header with the pairs below it. The header of an element starts a further
table of an array. -/
structure Section where
  element : Bool
  path : List String
  pairs : List Pair

/-- A value at a dotted key of a table. The path to the key makes dotted tables where
there are none. `dotted` is whether there is such a path: the key belongs in a dotted
table then, and otherwise not. -/
def Entries.set? (form : Form) (entries : Entries) (dotted : Bool) (value : Value) :
    List String → Option Entries
  | [] => none
  | [key] =>
      match entries.get? key with
      | some _ => none
      | none => if (form == .dotted) == dotted then some (entries.append key value) else none
  | key :: next :: rest =>
      match entries.get? key with
      | none => do
          let inner ← set? .dotted [] dotted value (next :: rest)
          return entries.append key (.table .dotted inner)
      | some (.table .implied inner) => do
          let inner ← set? .implied inner dotted value (next :: rest)
          return entries.replace key (.table .implied inner)
      | some (.table .dotted inner) => do
          let inner ← set? .dotted inner dotted value (next :: rest)
          return entries.replace key (.table .dotted inner)
      | some (.array items true) =>
          match items.getLast? with
          | some (.table form inner) => do
              let inner ← set? form inner dotted value (next :: rest)
              return entries.replace key (.array (items.dropLast ++ [.table form inner]) true)
          | _ => none
      | some _ => none

def Entries.setAll? (form : Form) (entries : Entries) (pairs : List Pair) : Option Entries :=
  pairs.foldlM
    (fun entries pair => entries.set? form (1 < pair.path.length) pair.value pair.path) entries

/-- The pairs of a section in the table that its header names. The tables on the way
are made where there are none. -/
def Entries.place? (element : Bool) (pairs : List Pair) (entries : Entries) :
    List String → Option Entries
  | [] => none
  | [key] =>
      match element, entries.get? key with
      | true, none => do
          let inner ← Entries.setAll? .headed [] pairs
          return entries.append key (.array [.table .headed inner] true)
      | true, some (.array items true) => do
          let inner ← Entries.setAll? .headed [] pairs
          return entries.replace key (.array (items ++ [.table .headed inner]) true)
      | false, none => do
          let inner ← Entries.setAll? .headed [] pairs
          return entries.append key (.table .headed inner)
      | false, some (.table .implied inner) => do
          let inner ← Entries.setAll? .headed inner pairs
          return entries.replace key (.table .headed inner)
      | _, some _ => none
  | key :: next :: rest =>
      match entries.get? key with
      | none => do
          let inner ← place? element pairs [] (next :: rest)
          return entries.append key (.table .implied inner)
      | some (.table .inline _) => none
      | some (.table form inner) => do
          let inner ← place? element pairs inner (next :: rest)
          return entries.replace key (.table form inner)
      | some (.array items true) =>
          match items.getLast? with
          | some (.table form inner) => do
              let inner ← place? element pairs inner (next :: rest)
              return entries.replace key (.array (items.dropLast ++ [.table form inner]) true)
          | _ => none
      | some _ => none

/-- The table of a document: its pairs, then its sections. -/
def Entries.ofSections? (pairs : List Pair) (sections : List Section) : Option Entries := do
  let entries ← Entries.setAll? .headed [] pairs
  sections.foldlM (fun entries part => entries.place? part.element part.pairs part.path) entries

end MessageMarkup.Toml
