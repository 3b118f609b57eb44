import MessageMarkup.Proofs.Rendering.Blocks

/-!
# Previews of replies

The preview of a reply has no block-level elements of its own, and no highlighter takes
part in it. The label of a timestamp that is out of range is shown as in a header,
though, also in a preview, so quotations and code in such a label remain what they are.
-/

set_option autoImplicit false

namespace MessageMarkup.Renderer

variable {renderer : Renderer}

/-! ## Without code on lines of its own -/

theorem presentIn_highlighter (highlighter : Highlighter) (context : Context) (entity : Entity) :
    ({ renderer with highlighter := highlighter } : Renderer).presentIn context entity =
      renderer.presentIn context entity := by
  cases context <;> cases entity <;> rfl

mutual

/-- A node without code on lines of its own is shown without the highlighter. -/
theorem node_unhighlighted (context : Context) : ∀ node : Node,
    .preformatted ∉ Html.blocks (renderer.node context node) →
      renderer.unhighlighted.node context node = renderer.node context node
  | .text _, _ => rfl
  | .lineBreak, _ => rfl
  | .link form target label, absent => by
      rw [node, Html.blocks_element_of_not_mem (by decide)] at absent
      rw [node, node, content_unhighlighted context label absent]
  | .blockQuote quoted, absent => by
      cases context with
      | reply => exact content_unhighlighted .reply quoted absent
      | content | header =>
          have inner := content_unhighlighted _ quoted
            (mt Html.preformatted_mem_quotation.mpr absent)
          exact congrArg (fun shown => [Html.quotation shown]) inner
  | .codeBlock language code, absent => by
      cases context with
      | reply => rfl
      | content | header => exact absurd (List.mem_singleton.mpr rfl) absent
  | .inlineCode code, _ => rfl
  | .styled style styled, absent => by
      rw [node, Html.blocks_element_of_not_mem (by cases style <;> decide)] at absent
      rw [node, node, content_unhighlighted context styled absent]
  | .emoticon shown, absent => content_unhighlighted context shown absent
  | .spoiler hidden, absent => by
      rw [node, Html.spoiler, Html.blocks_element_of_not_mem (by decide)] at absent
      rw [node, node, content_unhighlighted context hidden absent]
  | .entity entity label, absent => by
      rw [node] at absent
      rw [node, node, unhighlighted, presentIn_highlighter]
      cases presented : renderer.presentIn context entity with
      | some shown => rfl
      | none =>
          simp only [presented] at absent ⊢
          by_cases empty : label.isEmpty = true
          · rw [if_pos empty, if_pos empty]
          · rw [if_neg empty] at absent
            rw [if_neg empty, if_neg empty]
            exact content_unhighlighted .header label absent
  | .unknown _ kept, absent => content_unhighlighted context kept absent

theorem content_unhighlighted (context : Context) : ∀ content : Content,
    .preformatted ∉ Html.blocks (renderer.content context content) →
      renderer.unhighlighted.content context content = renderer.content context content
  | .text _, _ => rfl
  | .nodes inner, absent => nodes_unhighlighted context inner absent

theorem nodes_unhighlighted (context : Context) : ∀ nodes : List Node,
    .preformatted ∉ Html.blocks (renderer.nodes context nodes) →
      renderer.unhighlighted.nodes context nodes = renderer.nodes context nodes
  | [], _ => rfl
  | first :: rest, absent => by
      rw [nodes, Html.blocks_append, List.mem_append, not_or] at absent
      rw [nodes, nodes, node_unhighlighted context first absent.1,
        nodes_unhighlighted context rest absent.2]

end

/-! ## Where the highlighter's markup stands -/

/-- Whether the highlighter's markup of some code stands in pieces of markup. -/
def ShowsHighlighted (renderer : Renderer) (pieces : List Html) : Prop :=
  ∃ code language,
    (renderer.highlighter.highlight code language).toList <:+: (Html.writeAll pieces).toList

theorem ShowsHighlighted.mono {part whole : List Html} (shown : renderer.ShowsHighlighted part)
    (within : (Html.writeAll part).toList <:+: (Html.writeAll whole).toList) :
    renderer.ShowsHighlighted whole := by
  obtain ⟨code, language, occurs⟩ := shown
  exact ⟨code, language, occurs.trans within⟩

theorem ShowsHighlighted.element {children : List Html} (inner : renderer.ShowsHighlighted children)
    (tag : Html.Tag) (attributes : List Html.Attribute) :
    renderer.ShowsHighlighted [.element tag attributes children] := by
  apply inner.mono
  rw [Html.writeAll, Html.writeAll, String.append_empty, Html.toList_write_element]
  exact List.infix_append _ _ _

theorem ShowsHighlighted.cons {pieces : List Html} (inner : renderer.ShowsHighlighted pieces)
    (piece : Html) : renderer.ShowsHighlighted (piece :: pieces) := by
  apply inner.mono
  rw [Html.writeAll, String.toList_append]
  exact (List.suffix_append _ _).isInfix

theorem showsHighlighted_code {context : Context} {language : Option String} {code : String}
    (member : .preformatted ∈ Html.blocks [renderer.code context language code]) :
    renderer.ShowsHighlighted [renderer.code context language code] := by
  cases context with
  | reply => cases member
  | content | header =>
      have source : renderer.ShowsHighlighted [.source (renderer.highlighter.highlight code
          (renderer.highlighter.languageFor language))] :=
        ⟨code, renderer.highlighter.languageFor language, by simp [Html.writeAll, Html.write]⟩
      exact (source.element _ _).element _ _

mutual

/-- Where there is an element of code on lines of its own, there is the markup of the
highlighter. -/
theorem showsHighlighted_node (context : Context) : ∀ node : Node,
    .preformatted ∈ Html.blocks (renderer.node context node) →
      renderer.ShowsHighlighted (renderer.node context node)
  | .text _, member => by cases member
  | .lineBreak, member => by
      cases context with
      | content =>
          have among : Html.Tag.preformatted ∈ [Html.Tag.lineBreak] := member
          exact absurd among (by decide)
      | reply | header => cases member
  | .link form target label, member => by
      rw [node, Html.blocks_element_of_not_mem (by decide)] at member
      exact (showsHighlighted_content context label member).element _ _
  | .blockQuote quoted, member => by
      cases context with
      | reply => exact showsHighlighted_content .reply quoted member
      | content | header =>
          have inner := showsHighlighted_content _ quoted (Html.preformatted_mem_quotation.mp member)
          exact ((inner.element _ _).cons _).element _ _
  | .codeBlock language code, member => showsHighlighted_code member
  | .inlineCode code, member => by cases member
  | .styled style styled, member => by
      rw [node, Html.blocks_element_of_not_mem (by cases style <;> decide)] at member
      exact (showsHighlighted_content context styled member).element _ _
  | .emoticon shown, member => showsHighlighted_content context shown member
  | .spoiler hidden, member => by
      rw [node, Html.spoiler, Html.blocks_element_of_not_mem (by decide)] at member
      exact (showsHighlighted_content context hidden member).element _ _
  | .entity entity label, member => by
      rcases renderer.node_entity_cases context entity label with
        ⟨shown, presented, same⟩ | same | same
      · rw [same, blocks_present (present_of_presentIn presented)] at member
        cases member
      · rw [same] at member
        cases member
      · rw [same] at member ⊢
        exact showsHighlighted_content .header label member
  | .unknown _ kept, member => showsHighlighted_content context kept member

theorem showsHighlighted_content (context : Context) : ∀ content : Content,
    .preformatted ∈ Html.blocks (renderer.content context content) →
      renderer.ShowsHighlighted (renderer.content context content)
  | .text _, member => by cases member
  | .nodes inner, member => showsHighlighted_nodes context inner member

theorem showsHighlighted_nodes (context : Context) : ∀ nodes : List Node,
    .preformatted ∈ Html.blocks (renderer.nodes context nodes) →
      renderer.ShowsHighlighted (renderer.nodes context nodes)
  | [], member => by cases member
  | first :: rest, member => by
      rw [nodes, Html.blocks_append, List.mem_append] at member
      rw [nodes]
      rcases member with inFirst | inRest
      · apply (showsHighlighted_node context first inFirst).mono
        rw [Html.writeAll_append, String.toList_append]
        exact (List.prefix_append _ _).isInfix
      · apply (showsHighlighted_nodes context rest inRest).mono
        rw [Html.writeAll_append, String.toList_append]
        exact (List.suffix_append _ _).isInfix

end

/-! ## Previews -/

/-- Markup has the tag of a block-level element exactly if the tree has the element. -/
theorem hasBlock_render_iff (renderer : Renderer) (context : Context) (message : List Node) :
    Markup.HasBlock (renderer.render context message) ↔
      Html.blocks (renderer.nodes context message) ≠ [] := by
  constructor
  · intro block inline
    have same : renderer.unhighlighted.nodes context message = renderer.nodes context message :=
      nodes_unhighlighted context message (by simp [inline])
    have proper : Html.AllProper Html.EscapedSource (renderer.nodes context message) := by
      rw [← same]
      exact proper_nodes context (fun code _ => ⟨code, rfl⟩) message
    refine Html.not_hasBlock_writeAll proper ?_ block
    intro tag member isBlock
    have among := Html.mem_blocks.mpr ⟨member, isBlock⟩
    simp [inline] at among
  · intro nonempty
    obtain ⟨tag, member⟩ := List.exists_mem_of_ne_nil _ nonempty
    obtain ⟨among, isBlock⟩ := Html.mem_blocks.mp member
    have proper : Html.AllProper (fun _ => True) (renderer.nodes context message) :=
      proper_nodes context (fun _ _ => trivial) message
    exact Html.hasBlock_writeAll isBlock _ proper among

theorem blocks_highlighter (highlighter : Highlighter) (context : Context) (message : List Node) :
    Html.blocks (({ renderer with highlighter := highlighter } : Renderer).nodes context message) =
      Html.blocks (renderer.nodes context message) := by
  rw [blocks_nodes, blocks_nodes]

theorem render_unhighlighted {context : Context} {message : List Node}
    (absent : .preformatted ∉ Html.blocks (renderer.nodes context message)) :
    renderer.unhighlighted.render context message = renderer.render context message := by
  rw [render, render, nodes_unhighlighted context message absent]

/-- A highlighter that answers with the same markup for all code. -/
def constantly (renderer : Renderer) (markup : String) : Renderer :=
  { renderer with highlighter := { supports := fun _ => false, highlight := fun _ _ => markup } }

theorem length_le_render_constantly {context : Context} {message : List Node}
    (member : .preformatted ∈ Html.blocks (renderer.nodes context message)) (markup : String) :
    markup.length ≤ ((renderer.constantly markup).render context message).length := by
  have standing : (renderer.constantly markup).ShowsHighlighted
      ((renderer.constantly markup).nodes context message) := by
    apply showsHighlighted_nodes
    rwa [constantly, blocks_highlighter]
  obtain ⟨code, language, occurs⟩ := standing
  have bound := occurs.length_le
  rw [String.length_toList, String.length_toList] at bound
  exact bound

/-- The highlighter takes part in a rendering exactly if there is an element of code on
lines of its own. -/
theorem render_highlighter_iff (renderer : Renderer) (context : Context) (message : List Node) :
    (∀ first second : Highlighter,
        ({ renderer with highlighter := first } : Renderer).render context message =
          ({ renderer with highlighter := second } : Renderer).render context message) ↔
      .preformatted ∉ Html.blocks (renderer.nodes context message) := by
  constructor
  · intro same member
    -- An answer that is longer than the whole message cannot stand in it.
    have bound := length_le_render_constantly member (renderer.render context message ++ "x")
    have unchanged : ∀ markup : String,
        (renderer.constantly markup).render context message = renderer.render context message :=
      fun _ => same _ renderer.highlighter
    have longer : "x".length = 1 := rfl
    rw [unchanged, String.length_append] at bound
    omega
  · intro absent first second
    have plain : ∀ highlighter : Highlighter,
        renderer.unhighlighted.render context message =
          ({ renderer with highlighter := highlighter } : Renderer).render context message := by
      intro highlighter
      have shown : ({ renderer with highlighter := highlighter } : Renderer).unhighlighted.render
          context message = _ := render_unhighlighted (by rwa [blocks_highlighter])
      exact shown
    rw [← plain first, ← plain second]

theorem blocks_reply (message : List Node) :
    Html.blocks (renderer.nodes .reply message) =
      (Node.fallbacks message).flatMap (Node.ownBlocks .header) := by
  have own : Node.blocks .reply = fun node => node.fallback.flatMap (Node.ownBlocks .header) := by
    funext node
    rw [Node.blocks, Node.ownBlocks_reply, List.nil_append]
  rw [blocks_nodes, own, Node.fallbacks, Node.exposed, List.flatMap_assoc]
  rfl

/-- A preview is inline, and the same with every highlighter, but for the quotations and
the code in the labels of timestamps that are out of range: it has a block-level element
exactly if there is such a quotation or such code, and the highlighter takes part in it
exactly if there is such code. -/
theorem preview_inline_iff (renderer : Renderer) (message : List Node) :
    (Markup.HasBlock (renderer.render .reply message) ↔
      ∃ node ∈ Node.fallbacks message, node.isBlockQuote = true ∨ node.isCodeBlock = true) ∧
    ((∀ first second : Highlighter,
        ({ renderer with highlighter := first } : Renderer).render .reply message =
          ({ renderer with highlighter := second } : Renderer).render .reply message) ↔
      ∀ node ∈ Node.fallbacks message, node.isCodeBlock = false) := by
  constructor
  · rw [hasBlock_render_iff, blocks_reply]
    simp only [ne_eq, List.flatMap_eq_nil_iff, not_forall, exists_prop,
      ← Node.ownBlocks_header_ne_nil]
  · rw [render_highlighter_iff, blocks_reply]
    simp only [List.mem_flatMap, Node.preformatted_mem_ownBlocks_header, not_exists, not_and,
      Bool.not_eq_true]

/-- A quotation in the label of a timestamp that is out of range. -/
example :
    standard.render .reply
        [.entity (.timestamp 8210266876800 none) (.nodes [.blockQuote (.nodes [.text "q"])])] =
      "<blockquote><span></span><div>q</div></blockquote>" := by
  decide

end MessageMarkup.Renderer
