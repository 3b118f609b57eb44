import MessageMarkup.Proofs.Markup.Block
import MessageMarkup.Proofs.Rendering.WellFormed

/-!
# Headers

A header is rendered from its message and the highlighter alone. Neither names nor
addresses nor times are asked for, and no element stands in it that a service would fill:
an entity is text, or what its label holds.
-/

set_option autoImplicit false

namespace MessageMarkup

namespace Markup

/-- How the tags begin with which mentions, images, times and line breaks are shown. -/
def serviceStarts : List String :=
  ["<span mention>", "<img", "<span spoiler class=\"revealed\">", "<br/>"]

/-- Whether a mention, an image, a time or a line break stands anywhere in markup. -/
def HasService (markup : String) : Prop :=
  ∃ start ∈ serviceStarts, start.toList <:+: markup.toList

/-- How the tags of a header may begin after their first bracket. -/
def headerStarts : List String :=
  ["/", "em>", "strong>", "u>", "s>", "a href=", "blockquote>", "span>", "div>", "pre code>",
    "code class=", "code inline>", "span spoiler onclick="]

/-- A tag of a header is no tag of a service: the one differs from the other before either
of them ends. -/
theorem headerStarts_apart :
    ∀ start ∈ serviceStarts, ∃ rest, start.toList = '<' :: rest ∧
      ∀ own ∈ headerStarts, ¬ own.toList <+: rest ∧ ¬ rest <+: own.toList := by
  intro start member
  simp only [serviceStarts, List.mem_cons, List.not_mem_nil, or_false] at member
  rcases member with rfl | rfl | rfl | rfl <;> exact ⟨_, rfl, by decide⟩

def Tag.InHeader (tag : Tag) : Prop :=
  ∃ own ∈ headerStarts, own.toList <+: tag.spell

theorem Tag.inHeader_closing (name : String) : (Tag.closing name).InHeader :=
  ⟨"/", by decide, by simp [spell]⟩

end Markup

/-! ## Markup of headers -/

namespace Html

/-- Pieces of markup with no tags but those of a header. -/
def InHeader (pieces : List Html) : Prop :=
  ∀ tag, .tag tag ∈ lexemesAll pieces → tag.InHeader

theorem inHeader_append {left right : List Html} (first : InHeader left)
    (second : InHeader right) : InHeader (left ++ right) := by
  intro tag member
  rw [lexemesAll_append] at member
  exact (List.mem_append.mp member).elim (first tag) (second tag)

theorem tag_not_mem_chars (tag : Markup.Tag) (text : String) :
    .tag tag ∉ text.toList.map Markup.Lexeme.ofChar := by
  intro member
  obtain ⟨char, _, same⟩ := List.mem_map.mp member
  unfold Markup.Lexeme.ofChar at same
  split at same <;> cases same

theorem inHeader_text (text : String) : InHeader [.text text] := by
  intro tag member
  simp only [lexemesAll, lexemes, List.append_nil] at member
  exact absurd member (tag_not_mem_chars tag text)

theorem inHeader_source_escape (code : String) : InHeader [.source (Text.escape code)] := by
  intro tag member
  simp only [lexemesAll, lexemes, Markup.lex_escape, Option.getD_some, List.append_nil] at member
  exact absurd member (tag_not_mem_chars tag code)

theorem inHeader_element {tag : Tag} {attributes : List Attribute} {children : List Html}
    (opens : (opening tag attributes false).InHeader) (inner : InHeader children) :
    InHeader [.element tag attributes children] := by
  intro written member
  simp only [lexemesAll, lexemes, List.cons_append, List.append_nil, List.mem_cons,
    List.mem_append, List.not_mem_nil, or_false, Markup.Lexeme.tag.injEq] at member
  rcases member with rfl | inside | rfl
  · exact opens
  · exact inner written inside
  · exact Markup.Tag.inHeader_closing _

theorem inHeader_link (form : LinkForm) (target : String) {children : List Html}
    (inner : InHeader children) :
    InHeader [.element .anchor (.quoted "href" target :: form.attributes) children] := by
  apply inHeader_element _ inner
  exact ⟨"a href=", by decide, by simp [opening, Markup.Tag.spell, Markup.Attribute.spell,
    Attribute.read, Tag.name]⟩

theorem inHeader_quotation {children : List Html} (inner : InHeader children) :
    InHeader [quotation children] := by
  have bar : InHeader [.element .span [] []] :=
    inHeader_element ⟨"span>", by decide, by decide⟩ (fun _ member => by cases member)
  have quoted : InHeader [.element .division [] children] :=
    inHeader_element ⟨"div>", by decide, by decide⟩ inner
  exact inHeader_element ⟨"blockquote>", by decide, by decide⟩ (inHeader_append bar quoted)

theorem inHeader_codeBlock (language code : String) :
    InHeader [codeBlock language (Text.escape code)] := by
  apply inHeader_element ⟨"pre code>", by decide, by decide⟩
  apply inHeader_element _ (inHeader_source_escape code)
  exact ⟨"code class=", by decide, by simp [opening, Markup.Tag.spell, Markup.Attribute.spell,
    Attribute.read, Tag.name]⟩

theorem inHeader_inlineCode (code : String) : InHeader [inlineCode code] :=
  inHeader_element ⟨"code inline>", by decide, by decide⟩ (inHeader_text code)

theorem inHeader_styled (style : InlineStyle) {children : List Html} (inner : InHeader children) :
    InHeader [.element style.tag [] children] := by
  apply inHeader_element _ inner
  cases style with
  | emphasis => exact ⟨"em>", by decide, by decide⟩
  | strong => exact ⟨"strong>", by decide, by decide⟩
  | underline => exact ⟨"u>", by decide, by decide⟩
  | strikethrough => exact ⟨"s>", by decide, by decide⟩

theorem inHeader_spoiler {children : List Html} (inner : InHeader children) :
    InHeader [spoiler children] :=
  inHeader_element ⟨"span spoiler onclick=", by decide, by decide⟩ inner

/-- The tag of a service would begin like a tag of a header. -/
theorem not_hasService_writeAll {pieces : List Html} (proper : AllProper EscapedSource pieces)
    (header : InHeader pieces) : ¬ Markup.HasService (writeAll pieces) := by
  rintro ⟨start, member, occurs⟩
  obtain ⟨rest, spelled, apart⟩ := Markup.headerStarts_apart start member
  have fragment := fragment_writeAll (fun _ => EscapedSource.wellFormed) pieces proper
  rw [fragment.spelled, spelled] at occurs
  obtain ⟨tag, after, found, begins⟩ := Markup.exists_tag_of_infix fragment.known occurs
  obtain ⟨own, ownMember, owned⟩ := header tag found
  obtain ⟨notWithin, notBeyond⟩ := apart own ownMember
  have ownBegins : own.toList <+: tag.spell ++ after := owned.trans (List.prefix_append _ _)
  exact (List.prefix_or_prefix_of_prefix ownBegins begins).elim notWithin notBeyond

end Html

namespace Renderer

/-! ## No service is asked -/

mutual

theorem node_header {first second : Renderer} (same : first.highlighter = second.highlighter) :
    ∀ node : Node, first.node .header node = second.node .header node
  | .text _ => rfl
  | .lineBreak => rfl
  | .link form target label => by
      rw [node, node, content_header same label]
  | .blockQuote quoted =>
      congrArg (fun shown => [Html.quotation shown]) (content_header same quoted)
  | .codeBlock language code => by
      simp only [node, Renderer.code, same]
  | .inlineCode _ => rfl
  | .styled style styled => by
      rw [node, node, content_header same styled]
  | .emoticon shown => content_header same shown
  | .spoiler hidden => by
      rw [node, node, content_header same hidden]
  | .entity entity label => by
      simp only [node, presentIn, content_header same label]
  | .unknown _ kept => content_header same kept

theorem content_header {first second : Renderer} (same : first.highlighter = second.highlighter) :
    ∀ content : Content, first.content .header content = second.content .header content
  | .text _ => rfl
  | .nodes inner => nodes_header same inner

theorem nodes_header {first second : Renderer} (same : first.highlighter = second.highlighter) :
    ∀ nodes : List Node, first.nodes .header nodes = second.nodes .header nodes
  | [] => rfl
  | head :: tail => by
      rw [nodes, nodes, node_header same head, nodes_header same tail]

end

/-! ## No element of a service -/

mutual

theorem inHeader_node {renderer : Renderer} (plain : renderer.highlighter = .plain) :
    ∀ node : Node, Html.InHeader (renderer.node .header node)
  | .text text => Html.inHeader_text text
  | .lineBreak => fun _ member => by cases member
  | .link form target label => Html.inHeader_link form target (inHeader_content plain label)
  | .blockQuote quoted => Html.inHeader_quotation (inHeader_content plain quoted)
  | .codeBlock language code => by
      simp only [node, Renderer.code, plain]
      exact Html.inHeader_codeBlock _ code
  | .inlineCode code => Html.inHeader_inlineCode code
  | .styled style styled => Html.inHeader_styled style (inHeader_content plain styled)
  | .emoticon shown => inHeader_content plain shown
  | .spoiler hidden => Html.inHeader_spoiler (inHeader_content plain hidden)
  | .entity entity label => by
      rcases renderer.node_entity_cases .header entity label with
        ⟨shown, presented, _⟩ | same | same
      · cases presented
      · rw [same]
        exact Html.inHeader_text entity.rawForm
      · rw [same]
        exact inHeader_content plain label
  | .unknown _ kept => inHeader_content plain kept

theorem inHeader_content {renderer : Renderer} (plain : renderer.highlighter = .plain) :
    ∀ content : Content, Html.InHeader (renderer.content .header content)
  | .text text => Html.inHeader_text text
  | .nodes inner => inHeader_nodes plain inner

theorem inHeader_nodes {renderer : Renderer} (plain : renderer.highlighter = .plain) :
    ∀ nodes : List Node, Html.InHeader (renderer.nodes .header nodes)
  | [] => fun _ member => by cases member
  | head :: tail => Html.inHeader_append (inHeader_node plain head) (inHeader_nodes plain tail)

end

/-- Headers resolve nothing. With one highlighter they are the same whatever the other
services are, and without highlighting there is no mention, no image, no time and no line
break in them. -/
theorem header_resolves_nothing (message : List Node) :
    (∀ (first second : Renderer) (highlighter : Highlighter),
        ({ first with highlighter := highlighter } : Renderer).render .header message =
          ({ second with highlighter := highlighter } : Renderer).render .header message) ∧
      ∀ renderer : Renderer,
        ¬ Markup.HasService (renderer.unhighlighted.render .header message) := by
  constructor
  · intro first second highlighter
    have same : ({ first with highlighter := highlighter } : Renderer).nodes .header message =
        ({ second with highlighter := highlighter } : Renderer).nodes .header message :=
      nodes_header (by rfl) message
    exact congrArg Html.writeAll same
  · intro renderer
    have proper : Html.AllProper Html.EscapedSource
        (renderer.unhighlighted.nodes .header message) :=
      proper_nodes .header (fun code _ => ⟨code, rfl⟩) message
    have header : Html.InHeader (renderer.unhighlighted.nodes .header message) :=
      inHeader_nodes rfl message
    exact Html.not_hasService_writeAll proper header

/-- A mention inside of the label of a mention. -/
example :
    standard.render .header
        [.entity (.user "42") (.nodes [.styled .strong (.nodes
          [.entity (.role "7") .empty, .lineBreak])])] =
      "<strong>&lt;@&amp;7&gt;</strong>" := by
  decide

end Renderer

end MessageMarkup
