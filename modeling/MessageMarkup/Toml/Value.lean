/-!
# TOML values

The values of a TOML document. A table remembers how it came about, because that
decides whether later lines may add to it.
-/

set_option autoImplicit false

namespace MessageMarkup.Toml

/-- How a table came about. -/
inductive Form where
  /-- By a header of its own. -/
  | headed
  /-- As part of the header of a table inside it. -/
  | implied
  /-- By a dotted key. -/
  | dotted
  /-- Between braces. -/
  | inline
  deriving DecidableEq, Repr

/-- A number with a fraction or an exponent. -/
inductive Real where
  | infinite
  | undefined
  /-- The digits, and the power of ten they are multiplied by. -/
  | decimal (digits : List Char) (exponent : Int)
  deriving DecidableEq, Repr

/-- A value. An array of tables grows by headers, any other array is complete. -/
inductive Value where
  | string (text : String)
  | integer (value : Int)
  | real (value : Real)
  | boolean (value : Bool)
  /-- A date, a time or both, as it is spelled. -/
  | moment (text : String)
  | array (items : List Value) (growing : Bool)
  | table (form : Form) (entries : List (String × Value))

instance : Inhabited Value := ⟨.boolean false⟩

abbrev Entries := List (String × Value)

def Entries.get? (entries : Entries) (key : String) : Option Value :=
  (entries.find? fun entry => entry.1 == key).map Prod.snd

/-- The entries with another value for a key that is among them. -/
def Entries.replace (entries : Entries) (key : String) (value : Value) : Entries :=
  entries.map fun entry => if entry.1 == key then (key, value) else entry

def Entries.append (entries : Entries) (key : String) (value : Value) : Entries :=
  entries ++ [(key, value)]

theorem Entries.get?_append_of_some {entries : Entries} {key other : String} {found value : Value}
    (present : entries.get? key = some found) :
    (entries.append other value).get? key = some found := by
  obtain ⟨entry, first, rfl⟩ := Option.map_eq_some_iff.mp present
  simp [Entries.get?, Entries.append, List.find?_append, first]

theorem Entries.get?_append_self {entries : Entries} {key : String} (value : Value)
    (absent : entries.get? key = none) :
    (entries.append key value).get? key = some value := by
  have missing := Option.map_eq_none_iff.mp absent
  simp [Entries.get?, Entries.append, List.find?_append, missing]

/-- A table without its form. -/
def Value.entries? : Value → Option Entries
  | .table _ entries => some entries
  | _ => none

end MessageMarkup.Toml
