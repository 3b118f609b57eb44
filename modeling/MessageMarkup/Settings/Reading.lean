import MessageMarkup.Settings.Basic
import MessageMarkup.Toml.Bounds
import MessageMarkup.Toml.Reading

/-!
# Settings in TOML

Settings are grouped in sections. What is not set keeps its default, and what is
unknown is passed over. A section is a table, or an array of its fields in order.
-/

set_option autoImplicit false

namespace MessageMarkup.Settings

open Toml (Value Entries)

/-- The values of the fields of a section, by their names. A moment is a section
without known fields. -/
def fields? (names : List String) : Option Value → Option (String → Option Value)
  | none => some fun _ => none
  | some (.table _ entries) =>
      if entries.all fun entry => names.contains entry.1 || entry.2.isBounded then
        some fun name => Entries.get? entries name
      else none
  | some (.array items _) => some fun name => (names.zip items).lookup name
  | some (.moment _) => some fun _ => none
  | some _ => none

/-- A field's value, or the default of one that is not set. -/
def field? {α : Type} (default : α) (ofValue? : Value → Option α) : Option Value → Option α
  | none => some default
  | some value => ofValue? value

/-- A context is its name, or a table with nothing but an empty value under its
name. -/
def context? : Value → Option Context
  | .string name => Context.ofName? name
  | .table _ [(name, .table _ [])] => Context.ofName? name
  | .table _ [(name, .array [] _)] => Context.ofName? name
  | _ => none

def text? : Value → Option String
  | .string text => some text
  | _ => none

def boolean? : Value → Option Bool
  | .boolean value => some value
  | _ => none

/-- A whole number of 32 bits. -/
def minutes? : Value → Option Int
  | .integer value => if Text.fitsSigned 32 value then some value else none
  | _ => none

/-- The name under which a moment stands as an entry of a table. -/
def momentName : String := "$__toml_private_datetime"

def colours? : Value → Option (List (String × String))
  | .table _ entries =>
      (entries.mapM fun entry => (text? entry.2).map fun text => (entry.1, text)).map sortColours
  | .moment text => some [(momentName, text)]
  | _ => none

def sections : List String := ["render", "emoji", "timestamp", "highlight", "theme"]

def ofEntries? (entries : Entries) : Option Settings := do
  guard (entries.all fun entry => sections.contains entry.1 || entry.2.isBounded)
  let standard : Settings := {}
  let render ← fields? ["context"] (entries.get? "render")
  let context ← field? standard.context context? (render "context")
  let emoji ← fields? ["custom_base_url", "unicode_base_url"] (entries.get? "emoji")
  let custom ← field? standard.emoji.custom text? (emoji "custom_base_url")
  let unicode ← field? standard.emoji.unicode text? (emoji "unicode_base_url")
  let timestamp ← fields? ["utc_offset_minutes"] (entries.get? "timestamp")
  let offsetMinutes ← field? standard.offsetMinutes minutes? (timestamp "utc_offset_minutes")
  let code ← fields? ["enabled"] (entries.get? "highlight")
  let highlight ← field? standard.highlight boolean? (code "enabled")
  let colours ← field? standard.colours colours? (entries.get? "theme")
  return { context, emoji := { custom, unicode }, offsetMinutes, highlight, colours }

def ofText? (text : String) : Option Settings := do
  ofEntries? (← Toml.read text)

end MessageMarkup.Settings
