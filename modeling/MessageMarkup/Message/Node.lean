import MessageMarkup.Emoji
import MessageMarkup.Timestamp.Format

/-!
# Messages

A message is a list of nodes. Many nodes carry content, which is either text as
it was typed or further nodes. Entities (mentions, emoji, timestamps) carry
content too: it is their label, shown where the entity itself is not.
-/

set_option autoImplicit false

namespace MessageMarkup

/-- Whom a broadcast addresses. -/
inductive Audience where
  | here
  | everyone
  deriving DecidableEq, Repr

def Audience.keyword : Audience → String
  | .here => "here"
  | .everyone => "everyone"

/-- Something a message refers to, whose presentation is looked up or computed
when the message is shown. -/
inductive Entity where
  | channel (id : String)
  | role (id : String)
  | user (id : String)
  | broadcast (audience : Audience)
  | emoji (emoji : Emoji)
  | timestamp (seconds : Int) (style : Option Timestamp.Style)
  deriving DecidableEq, Repr

inductive InlineStyle where
  | emphasis
  | strong
  | underline
  | strikethrough
  deriving DecidableEq, Repr

/-- Links have a label of their own; a bare address is its own label and opens
elsewhere. -/
inductive LinkForm where
  | labelled
  | bare
  deriving DecidableEq, Repr

mutual

/-- What a node holds: text as it was typed, or nodes. -/
inductive Content where
  | text (text : String)
  | nodes (nodes : List Node)

/-- A piece of a message. `unknown` keeps the kind and the content of a piece that
has no model here or that lacks something its kind needs. -/
inductive Node where
  | text (text : String)
  | lineBreak
  | link (form : LinkForm) (target : String) (content : Content)
  | blockQuote (content : Content)
  | codeBlock (language : Option String) (code : String)
  | inlineCode (code : String)
  | styled (style : InlineStyle) (content : Content)
  | emoticon (content : Content)
  | spoiler (content : Content)
  | entity (entity : Entity) (label : Content)
  | unknown (kind : String) (content : Content)

end

namespace Content

def empty : Content := .nodes []

instance : Inhabited Content := ⟨empty⟩

/-- Whether there is nothing in the content: no character, or no node. -/
def isEmpty : Content → Bool
  | .text typed => typed.isEmpty
  | .nodes inner => inner.isEmpty

end Content

/-- The raw form of an entity, shown where it has no label. -/
def Entity.rawForm : Entity → String
  | .channel id => "<#" ++ id ++ ">"
  | .role id => "<@&" ++ id ++ ">"
  | .user id => "<@" ++ id ++ ">"
  | .broadcast audience => "@" ++ audience.keyword
  | .emoji shown => shown.alternative
  | .timestamp seconds _ => "<t:" ++ toString seconds ++ ">"

def Entity.kind : Entity → String
  | .channel _ => "channel"
  | .role _ => "role"
  | .user _ => "user"
  | .broadcast audience => audience.keyword
  | .emoji _ => "emoji"
  | .timestamp _ _ => "timestamp"

def InlineStyle.kind : InlineStyle → String
  | .emphasis => "em"
  | .strong => "strong"
  | .underline => "underline"
  | .strikethrough => "strikethrough"

def LinkForm.kind : LinkForm → String
  | .labelled => "link"
  | .bare => "url"

namespace Node

instance : Inhabited Node := ⟨.lineBreak⟩

def kind : Node → String
  | .text _ => "text"
  | .lineBreak => "br"
  | .link form _ _ => form.kind
  | .blockQuote _ => "blockQuote"
  | .codeBlock _ _ => "codeBlock"
  | .inlineCode _ => "inlineCode"
  | .styled style _ => style.kind
  | .emoticon _ => "emoticon"
  | .spoiler _ => "spoiler"
  | .entity mentioned _ => mentioned.kind
  | .unknown kind _ => kind

end Node

end MessageMarkup
