import MessageMarkup.Json.Value
import MessageMarkup.Message.Node
import MessageMarkup.Text.Blank

/-!
# Nodes from fields

A node is spelled by nine fields, each of which may be absent or unfit: a field
that does not hold what its place needs counts as absent, and a node that lacks
something its kind needs becomes an unknown node with the same kind and content.
Which fields there are and what they hold is all that counts, not how they are
arranged.
-/

set_option autoImplicit false

namespace MessageMarkup.Message

inductive Key where
  | kind
  | content
  | target
  | id
  | language
  | timestamp
  | format
  | name
  | animated
  deriving DecidableEq, Repr

namespace Key

/-- Every field, in the order in which a node lists them. -/
def all : List Key :=
  [.kind, .content, .target, .id, .language, .timestamp, .format, .name, .animated]

def spelling : Key → String
  | .kind => "type"
  | .content => "content"
  | .target => "target"
  | .id => "id"
  | .language => "lang"
  | .timestamp => "timestamp"
  | .format => "format"
  | .name => "name"
  | .animated => "animated"

def ofSpelling? (name : String) : Option Key :=
  all.find? fun key => key.spelling == name

theorem ofSpelling?_spelling (key : Key) : ofSpelling? key.spelling = some key := by
  cases key <;> rfl

end Key

/-- What a value can serve as. A value serves as at most one of text, number and
flag; content may be text, nodes or one node. -/
structure Field where
  text : Option String := none
  number : Option Int := none
  flag : Option Bool := none
  content : Option Content := none
  node : Option Node := none

def Field.unfit : Field := {}

/-- The fields that are given. -/
def Fields := Key → Option Field

namespace Fields

def none : Fields := fun _ => Option.none

def set (fields : Fields) (key : Key) (field : Field) : Fields :=
  fun other => if other = key then some field else fields other

def text (fields : Fields) (key : Key) : Option String :=
  (fields key).bind Field.text

/-- A field as an identifier, which may be spelled as a number. -/
def identifier (fields : Fields) (key : Key) : Option String :=
  (fields key).bind fun field => field.text <|> field.number.map toString

/-- A field as a number of seconds, which may be spelled as text. -/
def seconds (fields : Fields) (key : Key) : Option Int :=
  (fields key).bind fun field =>
    (field.text.bind fun text => Text.signed? 64 (Text.trim text)) <|> field.number

/-- A field as a flag, which is off if absent. -/
def flag (fields : Fields) (key : Key) : Bool :=
  ((fields key).bind Field.flag).getD false

/-- A field as content, which is empty if absent. -/
def contentOf (fields : Fields) (key : Key) : Content :=
  ((fields key).bind Field.content).getD .empty

def style (fields : Fields) : Option Timestamp.Style :=
  (fields.text .format).bind Timestamp.Style.ofCode?

def emoji (fields : Fields) : Option Emoji :=
  (fields.text .name).map fun name =>
    { id := (fields.identifier .id).filter fun id => !id.isEmpty, name,
      animated := fields.flag .animated }

/-- Text that content consists of. -/
def typed : Content → Option String
  | .text text => some text
  | .nodes _ => Option.none

/-- The node of a kind that has a model here, if nothing it needs is missing. -/
def model? (fields : Fields) (kind : String) (content : Content) : Option Node :=
  match kind with
  | "text" => (typed content).map .text
  | "link" => (fields.text .target).map fun target => .link .labelled target content
  | "url" | "autolink" => (fields.text .target).map fun target => .link .bare target content
  | "blockQuote" => some (.blockQuote content)
  | "br" | "newline" => some .lineBreak
  | "channel" => (fields.identifier .id).map fun id => .entity (.channel id) content
  | "role" => (fields.identifier .id).map fun id => .entity (.role id) content
  | "user" => (fields.identifier .id).map fun id => .entity (.user id) content
  | "here" => some (.entity (.broadcast .here) content)
  | "everyone" => some (.entity (.broadcast .everyone) content)
  | "codeBlock" =>
      (typed content).map
        (.codeBlock ((fields.text .language).filter fun language => !language.isEmpty))
  | "inlineCode" => (typed content).map .inlineCode
  | "em" => some (.styled .emphasis content)
  | "strong" => some (.styled .strong content)
  | "underline" => some (.styled .underline content)
  | "strikethrough" => some (.styled .strikethrough content)
  | "emoticon" => some (.emoticon content)
  | "spoiler" => some (.spoiler content)
  | "emoji" | "twemoji" => fields.emoji.map fun emoji => .entity (.emoji emoji) content
  | "timestamp" =>
      (fields.seconds .timestamp).map fun seconds =>
        .entity (.timestamp seconds fields.style) content
  | _ => Option.none

def node (fields : Fields) : Node :=
  let kind := (fields.text .kind).getD ""
  let content := fields.contentOf .content
  (fields.model? kind content).getD (.unknown kind content)

/-- The fields of an object, in which no field may be given twice. -/
def ofMembers? : List (String × Field) → Option Fields
  | [] => some none
  | (name, field) :: rest => do
      let fields ← ofMembers? rest
      match Key.ofSpelling? name with
      | Option.none => some fields
      | some key => if (fields key).isSome then Option.none else some (fields.set key field)

/-- The fields of an array, which has to have exactly one value for each. -/
def ofItems? (items : List Field) : Option Fields :=
  if items.length = Key.all.length then
    some ((Key.all.zip items).foldr (fun entry fields => fields.set entry.1 entry.2) none)
  else Option.none

end Fields

/-- All values that are there, if all are. -/
def allNodes : List Field → Option (List Node)
  | [] => some []
  | field :: rest => do
      let node ← field.node
      return node :: (← allNodes rest)

namespace Field

mutual

/-- What a value can serve as. An array is nodes if every item is one; otherwise it
may still be one node in positional form. -/
def ofValue : Json.Value → Field
  | .null => unfit
  | .boolean value => { flag := some value }
  | .number (.integer value) => { number := some value |>.filter (Text.fitsSigned 64) }
  | .number (.float _ _) => unfit
  | .string text => { text := some text, content := some (.text text) }
  | .array items =>
      let fields := ofItems items
      let node := (Fields.ofItems? fields).map Fields.node
      { content := ((allNodes fields).map .nodes) <|> node.map fun node => .nodes [node], node }
  | .object members =>
      let node := (Fields.ofMembers? (ofMembers members)).map Fields.node
      { content := node.map fun node => .nodes [node], node }

def ofItems : List Json.Value → List Field
  | [] => []
  | item :: rest => ofValue item :: ofItems rest

def ofMembers : List (String × Json.Value) → List (String × Field)
  | [] => []
  | (name, value) :: rest => (name, ofValue value) :: ofMembers rest

end

end Field

end MessageMarkup.Message
