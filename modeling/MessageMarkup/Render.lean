import MessageMarkup.Context
import MessageMarkup.Directory.Basic
import MessageMarkup.Highlight.Highlighter
import MessageMarkup.Html
import MessageMarkup.Message.Node

/-!
# Rendering

A renderer turns the nodes of a message into markup for a context. It holds the
services that do not come with the message: names for mentions, a highlighter,
the addresses of emoji and the clock for timestamps. Entities are shown by these
services, except in a header, where only their labels are.
-/

set_option autoImplicit false

namespace MessageMarkup

/-- The services that a message is shown with. -/
structure Renderer where
  resolver : Resolver
  highlighter : Highlighter
  emoji : Emoji.Bases
  offset : UtcOffset

/-- No names, all grammars, the public image hosts and universal time. -/
def Renderer.standard : Renderer where
  resolver := .none
  highlighter := .grammars
  emoji := .standard
  offset := .utc

def InlineStyle.tag : InlineStyle → Html.Tag
  | .emphasis => .emphasis
  | .strong => .strong
  | .underline => .underline
  | .strikethrough => .strikethrough

/-- What a link has besides its target: a bare address opens elsewhere. -/
def LinkForm.attributes : LinkForm → List Html.Attribute
  | .labelled => []
  | .bare => [.fixed "target" "_blank", .fixed "rel" "noreferrer"]

namespace Html

def mention (shown : String) : Html :=
  .element .span [.flag "mention"] [.text shown]

def inlineCode (code : String) : Html :=
  .element .code [.flag "inline"] [.text code]

/-- Code on lines of its own, in the markup of a highlighter. -/
def codeBlock (language markup : String) : Html :=
  .element .preformatted [.flag "code"]
    [.element .code [.quoted "class" ("hljs language-" ++ language)] [.source markup]]

def picture (address alternative : String) : Html :=
  .void .image
    [.flag "emoji", .quoted "src" address, .quoted "alt" alternative, .fixed "draggable" "false"]
    false

/-- A time, which looks like a spoiler that was opened. -/
def time (shown : String) : Html :=
  .element .span [.flag "spoiler", .fixed "class" "revealed"] [.text shown]

def spoiler (children : List Html) : Html :=
  .element .span
    [.flag "spoiler", .fixed "onclick" "this.classList.add('revealed')"] children

/-- A quotation beside its bar. -/
def quotation (children : List Html) : Html :=
  .element .blockquote [] [.element .span [] [], .element .division [] children]

def newline : Html := .void .lineBreak [] true

end Html

namespace Renderer

/-- An entity as the services show it. A timestamp out of range has no such form. -/
def present (renderer : Renderer) (entity : Entity) : Option Html :=
  match entity with
  | .channel id =>
      some (.mention ((renderer.resolver.channel id).elim entity.rawForm ("#" ++ ·)))
  | .role id =>
      some (.mention ((renderer.resolver.role id).elim entity.rawForm ("@" ++ ·)))
  | .user id =>
      some (.mention ((renderer.resolver.user id).elim entity.rawForm ("@" ++ ·)))
  | .broadcast _ => some (.mention entity.rawForm)
  | .emoji emoji => some (.picture (renderer.emoji.url emoji) emoji.alternative)
  | .timestamp seconds style =>
      (Timestamp.format renderer.offset seconds style).map .time

/-- The services show an entity as a mention, as a picture or as a time. -/
theorem present_cases {renderer : Renderer} {entity : Entity} {shown : Html}
    (presented : renderer.present entity = some shown) :
    (∃ text, shown = .mention text) ∨
      (∃ address alternative, shown = .picture address alternative) ∨ ∃ text, shown = .time text := by
  cases entity with
  | channel | role | user | broadcast =>
      cases presented
      exact .inl ⟨_, rfl⟩
  | emoji emoji =>
      cases presented
      exact .inr (.inl ⟨_, _, rfl⟩)
  | timestamp seconds style =>
      obtain ⟨text, _, rfl⟩ := Option.map_eq_some_iff.mp presented
      exact .inr (.inr ⟨text, rfl⟩)

/-- An entity as it is shown in a context. A header shows nothing but labels. -/
def presentIn (renderer : Renderer) (context : Context) (entity : Entity) : Option Html :=
  match context with
  | .header => none
  | .content => renderer.present entity
  | .reply => renderer.present entity

theorem presentIn_of_ne_header {renderer : Renderer} {context : Context} (shows : context ≠ .header)
    (entity : Entity) : renderer.presentIn context entity = renderer.present entity := by
  cases context with
  | header => exact absurd rfl shows
  | content | reply => rfl

theorem present_of_presentIn {renderer : Renderer} {context : Context} {entity : Entity}
    {shown : Html} (presented : renderer.presentIn context entity = some shown) :
    renderer.present entity = some shown := by
  cases context with
  | header => cases presented
  | content | reply => exact presented

/-- Code on lines of its own; a reply has it inside the line. -/
def code (renderer : Renderer) (context : Context) (language : Option String) (code : String) :
    Html :=
  match context with
  | .reply => .inlineCode code
  | _ =>
      let chosen := renderer.highlighter.languageFor language
      .codeBlock chosen (renderer.highlighter.highlight code chosen)

/-- A line break; a reply has a space instead and a header nothing. -/
def lineBreak : Context → List Html
  | .content => [.newline]
  | .reply => [.text " "]
  | .header => []

mutual

/-- The markup of a node in a context. -/
def node (renderer : Renderer) (context : Context) : Node → List Html
  | .text text => [.text text]
  | .lineBreak => lineBreak context
  | .link form target label =>
      [.element .anchor (.quoted "href" target :: form.attributes)
        (renderer.content context label)]
  | .blockQuote inner =>
      match context with
      | .reply => renderer.content context inner
      | _ => [.quotation (renderer.content context inner)]
  | .codeBlock language code => [renderer.code context language code]
  | .inlineCode code => [.inlineCode code]
  | .styled style inner => [.element style.tag [] (renderer.content context inner)]
  | .emoticon inner => renderer.content context inner
  | .spoiler inner => [.spoiler (renderer.content context inner)]
  | .entity entity label =>
      match renderer.presentIn context entity with
      | some shown => [shown]
      | none =>
          if label.isEmpty then [.text entity.rawForm] else renderer.content .header label
  | .unknown _ inner => renderer.content context inner

def content (renderer : Renderer) (context : Context) : Content → List Html
  | .text text => [.text text]
  | .nodes inner => renderer.nodes context inner

def nodes (renderer : Renderer) (context : Context) : List Node → List Html
  | [] => []
  | first :: rest => renderer.node context first ++ renderer.nodes context rest

end

/-- A message as text of markup. -/
def render (renderer : Renderer) (context : Context) (message : List Node) : String :=
  Html.writeAll (renderer.nodes context message)

theorem nodes_append (renderer : Renderer) (context : Context) (left right : List Node) :
    renderer.nodes context (left ++ right) =
      renderer.nodes context left ++ renderer.nodes context right := by
  induction left with
  | nil => simp [nodes]
  | cons first rest ih => simp [nodes, ih]

end Renderer

end MessageMarkup
