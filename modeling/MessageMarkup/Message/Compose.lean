import MessageMarkup.Message.Node

/-!
# Composing messages

Nodes as a program would build them by hand. An entity is given the markup that
people type for it as its label.
-/

set_option autoImplicit false

namespace MessageMarkup

/-- The markup that is typed for an entity. A custom emoji is typed with its id,
even an empty one. -/
def Entity.typed : Entity → String
  | .emoji { id := some id, name, animated } =>
      (if animated then "<a:" else "<:") ++ name ++ ":" ++ id ++ ">"
  | .emoji { id := none, name, .. } => name
  | entity => entity.rawForm

namespace Node

/-- A link with nodes as its label. -/
def linkTo (target : String) (label : List Node) : Node :=
  .link .labelled target (.nodes label)

/-- An address that is its own label. -/
def address (target : String) : Node :=
  .link .bare target (.nodes [.text target])

def quote (children : List Node) : Node :=
  .blockQuote (.nodes children)

def style (style : InlineStyle) (children : List Node) : Node :=
  .styled style (.nodes children)

def hide (children : List Node) : Node :=
  .spoiler (.nodes children)

/-- An entity labelled by the markup that is typed for it. -/
def ofEntity (entity : Entity) : Node :=
  .entity entity (.nodes [.text entity.typed])

/-- A node with other content. Nodes without content stay as they are. -/
def withContent (node : Node) (content : Content) : Node :=
  match node with
  | .link form target _ => .link form target content
  | .blockQuote _ => .blockQuote content
  | .styled style _ => .styled style content
  | .emoticon _ => .emoticon content
  | .spoiler _ => .spoiler content
  | .entity mentioned _ => .entity mentioned content
  | .unknown kind _ => .unknown kind content
  | .text typed => .text typed
  | .lineBreak => .lineBreak
  | .codeBlock language code => .codeBlock language code
  | .inlineCode code => .inlineCode code

/-- Nodes inside templates: they become the content of the last template, that the
content of the one before it, and so on; the first template is the outermost. -/
def nest (templates nodes : List Node) : List Node :=
  templates.foldr (fun template inner => [template.withContent (.nodes inner)]) nodes

end Node

end MessageMarkup
