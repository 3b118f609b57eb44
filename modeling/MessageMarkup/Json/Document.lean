/-!
# Documents

What a JSON text spells, up to the point where it stops making sense. Numbers and
strings keep their spelling, objects keep repeated names, and a text that breaks
off still has the part before the break: readers that go through a document from
left to right meet its faults where they stand.
-/

set_option autoImplicit false

namespace MessageMarkup.Json

/-- Why a text cannot be read on. -/
inductive Fault where
  /-- A character that cannot stand where it is. -/
  | malformed
  /-- The text ends too early. -/
  | unfinished
  deriving DecidableEq, Repr

/-- A number as it is spelled. `fraction` holds the digits after the point and is
empty if there is no point; `exponent` is a sign and digits. -/
structure Numeral where
  negative : Bool
  whole : List Char
  fraction : List Char
  exponent : Option (Bool × List Char)
  deriving DecidableEq, Repr

/-- A piece of a string: a character, or a code unit given by its number. -/
inductive Piece where
  | char (char : Char)
  | unit (code : Nat)
  deriving DecidableEq, Repr

/-- A string as it is spelled, and the fault that keeps it from being closed. -/
structure Spelling where
  pieces : List Piece
  stop : Option Fault
  deriving DecidableEq, Repr

/-- A value as it is spelled. `stop` is the fault that keeps an array or object from
being closed; if there is one, then nothing follows it in the document. -/
inductive Document where
  | null
  | boolean (value : Bool)
  | number (numeral : Numeral)
  /-- A number that ends with the text before it is complete. -/
  | cutNumber
  | string (spelling : Spelling)
  | array (items : List Document) (stop : Option Fault)
  | object (members : List (Spelling × Document)) (stop : Option Fault)
  /-- No value stands where there should be one. -/
  | missing (fault : Fault)

instance : Inhabited Document := ⟨.null⟩

structure Scanned where
  root : Document
  trailing : Option Fault

end MessageMarkup.Json
