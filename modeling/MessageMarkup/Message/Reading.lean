import MessageMarkup.Json.Refusal
import MessageMarkup.Message.Fields

/-!
# Reading messages

A message is an array of nodes. A node is an object with any of the nine fields or
an array of all of them; a document of another shape is refused, and so is a field
that is given twice. Values of fields are kept whole, values under other names are
passed over.
-/

set_option autoImplicit false

namespace MessageMarkup.Message

open Json

/-- What messages call a record of nine fields. -/
def recordName : String := "struct RawNode"

/-- A field's value, read at a depth that leaves `room` for more. -/
def readField (room : Nat) (document : Document) : Reading Field := do
  let value ← Reading.ofFault (document.keep room)
  return .ofValue value

/-- The fields among the members of an object, besides those that were read already. -/
def readMembers (room : Nat) (stop : Option Fault) (fields : Fields) :
    List (Spelling × Document) → Reading Fields
  | [] => do
      Reading.ofFault (close stop)
      return fields
  | (name, value) :: rest => do
      let name ← Reading.ofFault name.text
      match Key.ofSpelling? name with
      | none =>
          Reading.ofFault value.skip
          readMembers room stop fields rest
      | some key =>
          if (fields key).isSome then throw (.shape (.duplicateField name))
          let field ← readField room value
          readMembers room stop (fields.set key field) rest

/-- The fields in the order in which a node lists them: one item for each. -/
def readItems (room : Nat) (stop : Option Fault) (fields : Fields) (keys : List Key)
    (items : List Document) : Reading Fields :=
  match keys, items with
  | [], [] => do
      Reading.ofFault (close stop)
      return fields
  | [], _ :: _ => throw (.fault .malformed)
  | missing, [] => do
      Reading.ofFault (close stop)
      throw (.shape
        (.wrongLength (Key.all.length - missing.length) recordName Key.all.length))
  | key :: keys, item :: items => do
      let field ← readField room item
      readItems room stop (fields.set key field) keys items

def readNode (room : Nat) : Document → Reading Node
  | .object members stop =>
      if room = 0 then throw (.fault .malformed)
      else do
        let fields ← readMembers (room - 1) stop .none members
        return fields.node
  | .array items stop =>
      if room = 0 then throw (.fault .malformed)
      else do
        let fields ← readItems (room - 1) stop .none Key.all items
        return fields.node
  | other => other.refuse recordName

def readNodes (room : Nat) : List Document → Reading (List Node)
  | [] => return []
  | item :: rest => do
      let node ← readNode room item
      return node :: (← readNodes room rest)

def readMessage (room : Nat) : Document → Reading (List Node)
  | .array items stop =>
      if room = 0 then throw (.fault .malformed)
      else do
        let nodes ← readNodes (room - 1) items
        Reading.ofFault (close stop)
        return nodes
  | other => other.refuse "a sequence"

def read (text : String) : Reading (List Node) :=
  Json.readText readMessage text

end MessageMarkup.Message
