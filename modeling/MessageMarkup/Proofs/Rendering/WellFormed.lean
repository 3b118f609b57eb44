import MessageMarkup.Proofs.Markup.Tree
import MessageMarkup.Render

/-!
# Rendered messages are well formed

Whatever a message and the services say, the markup of a message is in the language
of rendered messages, provided that the highlighter's markup is.
-/

set_option autoImplicit false

namespace MessageMarkup

/-- A highlighter whose markup is well formed, whatever the code and the language. -/
def Highlighter.Safe (highlighter : Highlighter) : Prop :=
  ∀ code language, Markup.WellFormed (highlighter.highlight code language)

theorem Highlighter.safe_plain : plain.Safe := by
  intro code language
  exact Markup.wellFormed_escape code

/-- The same services without highlighting: code is escaped and nothing else. -/
def Renderer.unhighlighted (renderer : Renderer) : Renderer :=
  { renderer with highlighter := .plain }

namespace Html

theorem admits_quoted (lead : String) (fixed : Text.escape lead = lead) (name varying : String) :
    (Markup.Slot.interpolated name lead).Admits
      (Attribute.read (.quoted name (lead ++ varying))) := by
  refine ⟨Text.escapeChars varying.toList, Text.escaped_escapeChars _, ?_⟩
  rw [Attribute.read, Text.escape_append, fixed, Text.escape]

theorem admits_plain (name value : String) :
    (Markup.Slot.interpolated name "").Admits (Attribute.read (.quoted name value)) := by
  simpa using admits_quoted "" rfl name value

variable {allowed : String → Prop}

theorem proper_mention (shown : String) : (mention shown).Proper allowed :=
  ⟨by decide, ⟨{ name := "span", slots := [.flag "mention"] }, by decide, rfl, rfl,
    .cons rfl .nil⟩, trivial, trivial⟩

theorem proper_inlineCode (code : String) : (inlineCode code).Proper allowed :=
  ⟨by decide, ⟨{ name := "code", slots := [.flag "inline"] }, by decide, rfl, rfl,
    .cons rfl .nil⟩, trivial, trivial⟩

theorem proper_codeBlock (language : String) {markup : String} (isAllowed : allowed markup) :
    (codeBlock language markup).Proper allowed := by
  have outer : (opening .preformatted [.flag "code"] false).Known :=
    ⟨{ name := "pre", slots := [.flag "code"] }, by decide, rfl, rfl, .cons rfl .nil⟩
  have inner : (opening .code [.quoted "class" ("hljs language-" ++ language)] false).Known :=
    ⟨{ name := "code", slots := [.interpolated "class" "hljs language-"] }, by decide, rfl, rfl,
      .cons (admits_quoted "hljs language-" rfl "class" language) .nil⟩
  exact ⟨by decide, outer, ⟨by decide, inner, isAllowed, trivial⟩, trivial⟩

theorem proper_picture (address alternative : String) : (picture address alternative).Proper allowed :=
  ⟨by decide, ⟨{ name := "img", slots := [.flag "emoji", .interpolated "src" "",
      .interpolated "alt" "", .fixed "draggable" "false"] }, by decide, rfl, rfl,
    .cons rfl (.cons (admits_plain "src" address) (.cons (admits_plain "alt" alternative)
      (.cons rfl .nil)))⟩⟩

theorem proper_time (shown : String) : (time shown).Proper allowed :=
  ⟨by decide, ⟨{ name := "span", slots := [.flag "spoiler", .fixed "class" "revealed"] },
    by decide, rfl, rfl, .cons rfl (.cons rfl .nil)⟩, trivial, trivial⟩

theorem proper_spoiler {children : List Html} (proper : AllProper allowed children) :
    (spoiler children).Proper allowed :=
  ⟨by decide, ⟨{ name := "span", slots := [.flag "spoiler",
      .fixed "onclick" "this.classList.add('revealed')"] }, by decide, rfl, rfl,
    .cons rfl (.cons rfl .nil)⟩, proper⟩

theorem proper_quotation {children : List Html} (proper : AllProper allowed children) :
    (quotation children).Proper allowed := by
  have bare : ∀ tag ∈ [Tag.blockquote, .span, .division], (opening tag [] false).Known := by
    intro tag member
    refine ⟨{ name := tag.name }, ?_, rfl, rfl, .nil⟩
    revert tag
    decide
  exact ⟨by decide, bare _ (by decide), ⟨by decide, bare _ (by decide), trivial⟩,
    ⟨by decide, bare _ (by decide), proper⟩, trivial⟩

theorem proper_newline : newline.Proper allowed :=
  ⟨by decide, { name := "br", slashed := true }, by decide, rfl, rfl, .nil⟩

theorem proper_styled (style : InlineStyle) {children : List Html} (proper : AllProper allowed children) :
    (element style.tag [] children).Proper allowed := by
  refine ⟨?_, ⟨{ name := style.tag.name }, ?_, rfl, rfl, .nil⟩, proper⟩ <;>
    cases style <;> decide

theorem proper_link (form : LinkForm) (target : String) {children : List Html}
    (proper : AllProper allowed children) :
    (element .anchor (.quoted "href" target :: form.attributes) children).Proper allowed := by
  refine ⟨by decide, ?_, proper⟩
  cases form with
  | labelled =>
      exact ⟨{ name := "a", slots := [.interpolated "href" ""] }, by decide, rfl, rfl,
        .cons (admits_plain "href" target) .nil⟩
  | bare =>
      exact ⟨{ name := "a", slots := [.interpolated "href" "", .fixed "target" "_blank",
          .fixed "rel" "noreferrer"] }, by decide, rfl, rfl,
        .cons (admits_plain "href" target) (.cons rfl (.cons rfl .nil))⟩

end Html

namespace Renderer

variable {renderer : Renderer} {allowed : String → Prop}

theorem proper_present {entity : Entity} {shown : Html}
    (presented : renderer.present entity = some shown) : shown.Proper allowed := by
  rcases present_cases presented with ⟨text, rfl⟩ | ⟨address, alternative, rfl⟩ | ⟨text, rfl⟩
  · exact Html.proper_mention text
  · exact Html.proper_picture address alternative
  · exact Html.proper_time text

theorem proper_lineBreak (context : Context) : Html.AllProper allowed (lineBreak context) := by
  cases context with
  | content => exact ⟨Html.proper_newline, trivial⟩
  | reply => exact ⟨trivial, trivial⟩
  | header => trivial

theorem proper_code (context : Context) (language : Option String) (code : String)
    (safe : ∀ code language, allowed (renderer.highlighter.highlight code language)) :
    (renderer.code context language code).Proper allowed := by
  cases context with
  | reply => exact Html.proper_inlineCode code
  | content | header => exact Html.proper_codeBlock _ (safe code _)

/-- An entity is shown as the services show it, in its raw form, or by its label. -/
theorem node_entity_cases (renderer : Renderer) (context : Context) (entity : Entity)
    (label : Content) :
    (∃ shown, renderer.presentIn context entity = some shown ∧
        renderer.node context (.entity entity label) = [shown]) ∨
      renderer.node context (.entity entity label) = [.text entity.rawForm] ∨
      renderer.node context (.entity entity label) = renderer.content .header label := by
  rw [node]
  cases presented : renderer.presentIn context entity with
  | some shown => exact .inl ⟨shown, rfl, rfl⟩
  | none =>
      by_cases empty : label.isEmpty = true
      · exact .inr (.inl (if_pos empty))
      · exact .inr (.inr (if_neg empty))

mutual

theorem proper_node (context : Context)
    (safe : ∀ code language, allowed (renderer.highlighter.highlight code language)) :
    ∀ node : Node, Html.AllProper allowed (renderer.node context node)
  | .text _ => ⟨trivial, trivial⟩
  | .lineBreak => proper_lineBreak context
  | .link form target label =>
      ⟨Html.proper_link form target (proper_content context safe label), trivial⟩
  | .blockQuote inner => by
      have proper := proper_content context safe inner
      cases context with
      | reply => exact proper
      | content | header => exact ⟨Html.proper_quotation proper, trivial⟩
  | .codeBlock language code => ⟨proper_code context language code safe, trivial⟩
  | .inlineCode code => ⟨Html.proper_inlineCode code, trivial⟩
  | .styled style inner => ⟨Html.proper_styled style (proper_content context safe inner), trivial⟩
  | .emoticon inner => proper_content context safe inner
  | .spoiler inner => ⟨Html.proper_spoiler (proper_content context safe inner), trivial⟩
  | .entity entity label => by
      rcases renderer.node_entity_cases context entity label with
        ⟨shown, presented, same⟩ | same | same
      · rw [same]
        exact ⟨proper_present (present_of_presentIn presented), trivial⟩
      · rw [same]
        exact ⟨trivial, trivial⟩
      · rw [same]
        exact proper_content .header safe label
  | .unknown _ inner => proper_content context safe inner

theorem proper_content (context : Context)
    (safe : ∀ code language, allowed (renderer.highlighter.highlight code language)) :
    ∀ content : Content, Html.AllProper allowed (renderer.content context content)
  | .text _ => ⟨trivial, trivial⟩
  | .nodes inner => proper_nodes context safe inner

theorem proper_nodes (context : Context)
    (safe : ∀ code language, allowed (renderer.highlighter.highlight code language)) :
    ∀ nodes : List Node, Html.AllProper allowed (renderer.nodes context nodes)
  | [] => trivial
  | first :: rest =>
      Html.allProper_append (proper_node context safe first) (proper_nodes context safe rest)

end

theorem lex_render (context : Context) (message : List Node)
    (safe : renderer.highlighter.Safe) :
    Markup.lex (renderer.render context message) =
      some (Html.lexemesAll (renderer.nodes context message)) :=
  (Html.fragment_writeAll (fun _ wellFormed => wellFormed) _ (proper_nodes context safe message)).lex_eq

/-- With a highlighter whose markup is well formed, so is every rendered message: text
holds no reserved character, every tag belongs to the vocabulary, and elements are
closed in the reverse of their order. -/
theorem wellFormed_render (renderer : Renderer) (context : Context) (message : List Node)
    (safe : renderer.highlighter.Safe) :
    Markup.WellFormed (renderer.render context message) :=
  (Html.fragment_writeAll (fun _ wellFormed => wellFormed) _ (proper_nodes context safe message)).wellFormed

/-- A message that tries to leave an attribute and to close elements of its own. -/
theorem wellFormed_render_hostile :
    Highlighter.plain.Safe ∧
      Markup.WellFormed
        (standard.unhighlighted.render .content
          [.link .bare "\" onclick=\"steal()" (.nodes
            [.codeBlock (some "rust") "</code></pre><script>", .text "</a>&lt;"])]) :=
  ⟨Highlighter.safe_plain, wellFormed_render _ _ _ Highlighter.safe_plain⟩

end Renderer

end MessageMarkup
