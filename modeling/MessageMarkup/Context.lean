import MessageMarkup.Text.Blank

/-!
# Display contexts

Where a message is shown decides which formatting is honoured.
-/

set_option autoImplicit false

namespace MessageMarkup

/-- Where rendered markup is shown. -/
inductive Context where
  /-- The message itself. -/
  | content
  /-- The one-line preview of a message that is replied to. -/
  | reply
  /-- A heading, which shows mentions, emoji and times by their label only. -/
  | header
  deriving DecidableEq, Repr, Inhabited

namespace Context

def all : List Context := [.content, .reply, .header]

def name : Context → String
  | .content => "content"
  | .reply => "reply"
  | .header => "header"

/-- The context of exactly this name. -/
def ofName? (name : String) : Option Context :=
  all.find? fun context => context.name == name

structure UnknownName where
  given : String
  deriving DecidableEq, Repr

def UnknownName.message (error : UnknownName) : String :=
  "unknown render context '" ++ error.given ++ "' (expected content, reply, or header)"

/-- The context that a person typed: white space around the name and the case of
ASCII letters do not matter. -/
def read (text : String) : Except UnknownName Context :=
  match ofName? ((Text.trim text).map Char.toLower) with
  | some context => .ok context
  | none => .error ⟨text⟩

theorem ofName?_name (context : Context) : ofName? context.name = some context := by
  cases context <;> rfl

end Context

end MessageMarkup
