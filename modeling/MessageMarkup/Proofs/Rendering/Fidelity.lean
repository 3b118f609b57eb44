import MessageMarkup.Proofs.Rendering.WellFormed

/-!
# Rendered messages show what they should

Reading the markup of a message back, tags aside, gives the text that the message
shows, character by character, and the values that stand between quotes: nothing is
lost, repeated, moved or escaped twice.
-/

set_option autoImplicit false

namespace MessageMarkup

/-- What somebody who reads markup gets: a character of text, or the value of an
attribute. -/
inductive Shown where
  | char (char : Char)
  | value (name value : String)
  deriving DecidableEq, Repr

def Shown.text (text : String) : List Shown :=
  text.toList.map Shown.char

/-! ## Reading markup -/

namespace Markup

/-- What an attribute shows. Addresses, alternative texts and the classes of code have
a value of interest; other attributes belong to the vocabulary. -/
def Attribute.shown? (element : String) : Attribute → Option Shown
  | ⟨name, some value⟩ =>
      if name ∈ ["href", "src", "alt"] ∨ (element = "code" ∧ name = "class") then
        some (.value name (.ofList (Text.unescape value.toList)))
      else none
  | ⟨_, none⟩ => none

/-- What a lexeme shows. Entities count as the characters that they stand for. -/
def Lexeme.shown : Lexeme → List Shown
  | .plain char => [.char char]
  | .entity char => [.char char]
  | .tag (.opening name attributes _) => attributes.filterMap (Attribute.shown? name)
  | .tag (.closing _) => []

/-- What markup shows, if it can be read. -/
def shown? (markup : String) : Option (List Shown) :=
  (lex markup).map (·.flatMap Lexeme.shown)

end Markup

/-! ## What a message shows -/

namespace Renderer

/-- The text of a mention: the name behind its sign, or the raw form. -/
def mentionText (sign : String) (name : Option String) (entity : Entity) : String :=
  match name with
  | some name => sign ++ name
  | none => entity.rawForm

/-- What the services show for an entity, where they are asked. -/
def entityShown? (renderer : Renderer) (entity : Entity) : Option (List Shown) :=
  match entity with
  | .channel id => some (Shown.text (mentionText "#" (renderer.resolver.channel id) entity))
  | .role id => some (Shown.text (mentionText "@" (renderer.resolver.role id) entity))
  | .user id => some (Shown.text (mentionText "@" (renderer.resolver.user id) entity))
  | .broadcast audience => some (Shown.text ("@" ++ audience.keyword))
  | .emoji emoji =>
      some [.value "src" (renderer.emoji.url emoji), .value "alt" emoji.alternative]
  | .timestamp seconds style =>
      (Timestamp.format renderer.offset seconds style).map Shown.text

mutual

/-- What a node shows. The label of an entity is shown in a header and for a timestamp
out of range, always as in a header, and by the raw form if it is empty. -/
def nodeShown (renderer : Renderer) (context : Context) : Node → List Shown
  | .text text => Shown.text text
  | .lineBreak => if context = .reply then Shown.text " " else []
  | .link _ target label => .value "href" target :: renderer.contentShown context label
  | .blockQuote inner => renderer.contentShown context inner
  | .codeBlock _ code =>
      if context = .reply then Shown.text code
      else .value "class" ("hljs language-" ++ Highlighter.plaintext) :: Shown.text code
  | .inlineCode code => Shown.text code
  | .styled _ inner => renderer.contentShown context inner
  | .emoticon inner => renderer.contentShown context inner
  | .spoiler inner => renderer.contentShown context inner
  | .entity entity label =>
      match if context = .header then none else renderer.entityShown? entity with
      | some shown => shown
      | none =>
          if label.isEmpty then Shown.text entity.rawForm else renderer.contentShown .header label
  | .unknown _ inner => renderer.contentShown context inner

def contentShown (renderer : Renderer) (context : Context) : Content → List Shown
  | .text text => Shown.text text
  | .nodes inner => renderer.nodesShown context inner

def nodesShown (renderer : Renderer) (context : Context) : List Node → List Shown
  | [] => []
  | first :: rest => renderer.nodeShown context first ++ renderer.nodesShown context rest

end

end Renderer

/-! ## What a tree shows -/

namespace Html

def shownAll (pieces : List Html) : List Shown :=
  (lexemesAll pieces).flatMap Markup.Lexeme.shown

@[simp] theorem shownAll_nil : shownAll [] = [] := by
  simp [shownAll, lexemesAll]

@[simp] theorem shownAll_append (left right : List Html) :
    shownAll (left ++ right) = shownAll left ++ shownAll right := by
  simp [shownAll, lexemesAll_append]

theorem shown_chars (text : String) :
    (text.toList.map Markup.Lexeme.ofChar).flatMap Markup.Lexeme.shown = Shown.text text := by
  have single : ∀ char, (Markup.Lexeme.ofChar char).shown = [.char char] := by
    intro char
    unfold Markup.Lexeme.ofChar
    split <;> rfl
  rw [List.flatMap_map, Shown.text, List.map_eq_flatMap]
  simp only [single]

@[simp] theorem shownAll_text (text : String) : shownAll [.text text] = Shown.text text := by
  simp [shownAll, lexemesAll, lexemes, shown_chars]

@[simp] theorem shownAll_source_escape (code : String) :
    shownAll [.source (Text.escape code)] = Shown.text code := by
  simp [shownAll, lexemesAll, lexemes, Markup.lex_escape, shown_chars]

theorem shown?_quoted (element name value : String) :
    Markup.Attribute.shown? element (Attribute.read (.quoted name value)) =
      if name ∈ ["href", "src", "alt"] ∨ (element = "code" ∧ name = "class") then
        some (.value name value) else none := by
  simp [Attribute.read, Markup.Attribute.shown?, Text.toList_escape, Text.unescape_escapeChars]

@[simp] theorem shown?_flag (element name : String) :
    Markup.Attribute.shown? element (Attribute.read (.flag name)) = none := rfl

theorem shown?_fixed (element name value : String) :
    Markup.Attribute.shown? element (Attribute.read (.fixed name value)) =
      if name ∈ ["href", "src", "alt"] ∨ (element = "code" ∧ name = "class") then
        some (.value name (.ofList (Text.unescape value.toList))) else none := rfl

/-- An element shows the values of its attributes, then its children. -/
@[simp] theorem shownAll_element (tag : Tag) (attributes : List Attribute)
    (children : List Html) :
    shownAll [.element tag attributes children] =
      attributes.filterMap (Markup.Attribute.shown? tag.name ∘ Attribute.read) ++
        shownAll children := by
  simp [shownAll, lexemesAll, lexemes, opening, closing, Markup.Lexeme.shown, List.filterMap_map]

@[simp] theorem shownAll_void (tag : Tag) (attributes : List Attribute) (slashed : Bool) :
    shownAll [.void tag attributes slashed] =
      attributes.filterMap (Markup.Attribute.shown? tag.name ∘ Attribute.read) := by
  simp [shownAll, lexemesAll, lexemes, opening, Markup.Lexeme.shown, List.filterMap_map]

theorem shown_mention (text : String) : shownAll [mention text] = Shown.text text := by
  simp [mention]

theorem shown_inlineCode (code : String) : shownAll [inlineCode code] = Shown.text code := by
  simp [inlineCode]

theorem shown_codeBlock (language code : String) :
    shownAll [codeBlock language (Text.escape code)] =
      .value "class" ("hljs language-" ++ language) :: Shown.text code := by
  simp [codeBlock, shown?_quoted, Tag.name, List.filterMap_cons]

theorem shown_picture (address alternative : String) :
    shownAll [picture address alternative] =
      [.value "src" address, .value "alt" alternative] := by
  simp [picture, shown?_quoted, shown?_fixed, List.filterMap_cons]

theorem shown_time (text : String) : shownAll [time text] = Shown.text text := by
  simp [time, shown?_fixed, Tag.name, List.filterMap_cons]

theorem shown_spoiler (children : List Html) :
    shownAll [spoiler children] = shownAll children := by
  simp [spoiler, shown?_fixed, Tag.name, List.filterMap_cons]

theorem shown_quotation (children : List Html) :
    shownAll [quotation children] = shownAll children := by
  have apart := shownAll_append [.element .span [] []] [.element .division [] children]
  rw [List.singleton_append] at apart
  simp [quotation, apart]

theorem shown_link (form : LinkForm) (target : String) (children : List Html) :
    shownAll [.element .anchor (.quoted "href" target :: form.attributes) children] =
      .value "href" target :: shownAll children := by
  cases form <;>
    simp [LinkForm.attributes, shown?_quoted, shown?_fixed, Tag.name]

end Html

/-! ## Messages are shown as they should -/

namespace Renderer

theorem shown_present (renderer : Renderer) (entity : Entity) :
    (renderer.present entity).map (fun shown => Html.shownAll [shown]) =
      renderer.entityShown? entity := by
  cases entity with
  | channel id =>
      cases found : renderer.resolver.channel id <;>
        simp [present, entityShown?, Html.shown_mention, mentionText, found]
  | role id =>
      cases found : renderer.resolver.role id <;>
        simp [present, entityShown?, Html.shown_mention, mentionText, found]
  | user id =>
      cases found : renderer.resolver.user id <;>
        simp [present, entityShown?, Html.shown_mention, mentionText, found]
  | broadcast audience => simp [present, entityShown?, Html.shown_mention, Entity.rawForm]
  | emoji emoji => simp [present, entityShown?, Html.shown_picture]
  | timestamp seconds style =>
      simp [present, entityShown?, Option.map_map, Function.comp_def, Html.shown_time]

theorem shown_presentIn (renderer : Renderer) (context : Context) (entity : Entity) :
    (renderer.presentIn context entity).map (fun shown => Html.shownAll [shown]) =
      if context = .header then none else renderer.entityShown? entity := by
  cases context with
  | header => simp [presentIn]
  | content | reply => simp [presentIn, shown_present]

theorem shown_lineBreak (context : Context) :
    Html.shownAll (lineBreak context) = if context = .reply then Shown.text " " else [] := by
  cases context <;> simp [lineBreak, Html.newline]

theorem shown_code {renderer : Renderer} (plain : renderer.highlighter = .plain)
    (context : Context) (language : Option String) (code : String) :
    Html.shownAll [renderer.code context language code] =
      if context = .reply then Shown.text code
      else .value "class" ("hljs language-" ++ Highlighter.plaintext) :: Shown.text code := by
  have unsupported : Highlighter.plain.languageFor language = Highlighter.plaintext := by
    cases language <;> simp [Highlighter.languageFor, Highlighter.plain]
  cases context with
  | reply => simp [Renderer.code, Html.shown_inlineCode]
  | content | header =>
      simp only [Renderer.code, plain, unsupported, reduceCtorEq, ↓reduceIte]
      exact Html.shown_codeBlock _ code

mutual

/-- The markup of a node shows what the node shows. -/
theorem shown_node {renderer : Renderer} (plain : renderer.highlighter = .plain)
    (context : Context) : ∀ node : Node,
    Html.shownAll (renderer.node context node) = renderer.nodeShown context node
  | .text text => by simp [node, nodeShown]
  | .lineBreak => by simp [node, nodeShown, shown_lineBreak]
  | .link form target label => by
      simp only [node, nodeShown, Html.shown_link, shown_content plain context label]
  | .blockQuote inner => by
      have shown := shown_content plain context inner
      cases context with
      | reply => simpa only [node, nodeShown] using shown
      | content | header => simpa only [node, nodeShown, Html.shown_quotation] using shown
  | .codeBlock language code => by
      simp only [node, nodeShown, shown_code plain]
  | .inlineCode code => by simp only [node, nodeShown, Html.shown_inlineCode]
  | .styled style inner => by
      simp [node, nodeShown, shown_content plain context inner]
  | .emoticon inner => by simp only [node, nodeShown, shown_content plain context inner]
  | .spoiler inner => by
      simp only [node, nodeShown, Html.shown_spoiler, shown_content plain context inner]
  | .entity entity label => by
      have presented := shown_presentIn renderer context entity
      simp only [node, nodeShown, ← presented]
      cases renderer.presentIn context entity with
      | some shown => simp
      | none =>
          simp only [Option.map_none]
          split
          · exact Html.shownAll_text entity.rawForm
          · exact shown_content plain .header label
  | .unknown _ inner => by simp only [node, nodeShown, shown_content plain context inner]

theorem shown_content {renderer : Renderer} (plain : renderer.highlighter = .plain)
    (context : Context) : ∀ content : Content,
    Html.shownAll (renderer.content context content) = renderer.contentShown context content
  | .text text => by simp [content, contentShown]
  | .nodes inner => by simp only [content, contentShown, shown_nodes plain context inner]

theorem shown_nodes {renderer : Renderer} (plain : renderer.highlighter = .plain)
    (context : Context) : ∀ nodes : List Node,
    Html.shownAll (renderer.nodes context nodes) = renderer.nodesShown context nodes
  | [] => by simp [nodes, nodesShown]
  | first :: rest => by
      simp only [nodes, nodesShown, Html.shownAll_append, shown_node plain context first,
        shown_nodes plain context rest]

end

/-- What is read back from the markup of a message is what the message shows: its text
and its quoted values, in document order and unescaped exactly once. -/
theorem shown_render (renderer : Renderer) (context : Context) (message : List Node) :
    Markup.shown? (renderer.unhighlighted.render context message) =
      some (renderer.unhighlighted.nodesShown context message) := by
  have safe : renderer.unhighlighted.highlighter.Safe := Highlighter.safe_plain
  rw [Markup.shown?, lex_render context message safe, Option.map_some]
  exact congrArg some (shown_nodes rfl context message)

end Renderer

end MessageMarkup
