import MessageMarkup.Proofs.Message.Subnodes
import MessageMarkup.Render

/-!
# Replacing nodes of a message

Nodes are replaced anywhere in a message: among its own nodes, in the content of a node that shows
its content, and in the label of an entity. What is put around the content of a node that shows it
does not depend on the content.
-/

set_option autoImplicit false

namespace MessageMarkup

/-- The nodes that show their content, as they are made of it. -/
inductive Node.Wrapper : (Content → Node) → Prop where
  | link (form : LinkForm) (target : String) : Wrapper (.link form target)
  | blockQuote : Wrapper .blockQuote
  | styled (style : InlineStyle) : Wrapper (.styled style)
  | emoticon : Wrapper .emoticon
  | spoiler : Wrapper .spoiler
  | unknown (kind : String) : Wrapper (.unknown kind)

namespace Node.Wrapper

variable {wrap : Content → Node}

theorem nodes_inj (wrapper : Wrapper wrap) {inner otherInner : List Node} :
    wrap (.nodes inner) = wrap (.nodes otherInner) ↔ inner = otherInner := by
  cases wrapper <;> simp

theorem reached_eq (wrapper : Wrapper wrap) (enters : Entity → Bool) (inner : Content) :
    (wrap inner).reached enters = wrap inner :: inner.reached enters := by
  cases wrapper <;> rfl

end Node.Wrapper

/-- Messages that differ by steps, each in the place of one node and any number of them. -/
inductive Node.Replaced (step : Node → Node → Prop) : List Node → List Node → Prop where
  | nil : Replaced step [] []
  | keep (node : Node) {rest otherRest : List Node} :
      Replaced step rest otherRest → Replaced step (node :: rest) (node :: otherRest)
  | step {node other : Node} {rest otherRest : List Node} :
      step node other → Replaced step rest otherRest →
      Replaced step (node :: rest) (other :: otherRest)
  | inside {wrap : Content → Node} {inner otherInner rest otherRest : List Node} :
      Wrapper wrap → Replaced step inner otherInner → Replaced step rest otherRest →
      Replaced step (wrap (.nodes inner) :: rest) (wrap (.nodes otherInner) :: otherRest)
  | label (entity : Entity) {inner otherInner rest otherRest : List Node} :
      Replaced step inner otherInner → Replaced step rest otherRest →
      Replaced step (.entity entity (.nodes inner) :: rest)
        (.entity entity (.nodes otherInner) :: otherRest)

theorem Node.Replaced.isEmpty_eq {step : Node → Node → Prop} {nodes others : List Node}
    (replaced : Node.Replaced step nodes others) : nodes.isEmpty = others.isEmpty := by
  cases replaced with
  | nil => rfl
  | keep | step | inside | label => rfl

/-! ## What stands around content -/

theorem Html.exists_around_element (tag : Tag) (attributes : List Attribute) :
    ∃ before after : String, ∀ children : List Html,
      writeAll [.element tag attributes children] = before ++ writeAll children ++ after := by
  refine ⟨openTag tag attributes ++ ">", endTag tag, ?_⟩
  intro children
  rw [writeAll, writeAll, write, String.append_empty]

theorem Html.exists_around_quotation : ∃ before after : String, ∀ children : List Html,
    writeAll [quotation children] = before ++ writeAll children ++ after := by
  obtain ⟨outer, outerEnd, around⟩ := exists_around_element .blockquote []
  obtain ⟨inner, innerEnd, within⟩ := exists_around_element .division []
  refine ⟨outer ++ writeAll [.element .span [] []] ++ inner, innerEnd ++ outerEnd, ?_⟩
  intro children
  have bar : writeAll [.element .span [] [], .element .division [] children] =
      writeAll [.element .span [] []] ++ writeAll [.element .division [] children] :=
    writeAll_append [_] [_]
  rw [quotation, around, bar, within]
  simp only [String.append_assoc]

/-- A node that shows its content is written as its content between two texts of its own. -/
theorem Node.Wrapper.exists_around {wrap : Content → Node} (wrapper : Node.Wrapper wrap)
    (renderer : Renderer) (context : Context) :
    ∃ before after : String, ∀ inner : Content,
      Html.writeAll (renderer.node context (wrap inner)) =
        before ++ Html.writeAll (renderer.content context inner) ++ after := by
  have plain : ∃ before after : String, ∀ inner : Content,
      Html.writeAll (renderer.content context inner) =
        before ++ Html.writeAll (renderer.content context inner) ++ after :=
    ⟨"", "", fun _ => by rw [String.empty_append, String.append_empty]⟩
  cases wrapper with
  | link form target =>
      obtain ⟨before, after, around⟩ :=
        Html.exists_around_element .anchor (.quoted "href" target :: form.attributes)
      exact ⟨before, after, fun _ => around _⟩
  | blockQuote =>
      cases context with
      | reply => exact plain
      | content | header =>
          obtain ⟨before, after, around⟩ := Html.exists_around_quotation
          exact ⟨before, after, fun _ => around _⟩
  | styled style =>
      obtain ⟨before, after, around⟩ := Html.exists_around_element style.tag []
      exact ⟨before, after, fun _ => around _⟩
  | spoiler =>
      obtain ⟨before, after, around⟩ := Html.exists_around_element .span
        [.flag "spoiler", .fixed "onclick" "this.classList.add('revealed')"]
      exact ⟨before, after, fun _ => around _⟩
  | emoticon => exact plain
  | unknown kind => exact plain

/-! ## Replacements that do not show -/

namespace Renderer

variable {renderer : Renderer} {context : Context}

theorem node_wrapper_congr {wrap : Content → Node} (wrapper : Node.Wrapper wrap)
    {inner other : List Node} (same : renderer.nodes context inner = renderer.nodes context other) :
    renderer.node context (wrap (.nodes inner)) = renderer.node context (wrap (.nodes other)) := by
  have sameContent : renderer.content context (.nodes inner) =
      renderer.content context (.nodes other) := same
  cases wrapper with
  | blockQuote =>
      cases context with
      | reply => exact same
      | content | header => simp only [node, sameContent]
  | link | styled | spoiler => simp only [node, sameContent]
  | emoticon | unknown => exact same

theorem node_label_congr (entity : Entity) {inner other : List Node}
    (sameEmpty : inner.isEmpty = other.isEmpty)
    (same : renderer.nodes .header inner = renderer.nodes .header other) :
    renderer.node context (.entity entity (.nodes inner)) =
      renderer.node context (.entity entity (.nodes other)) := by
  have sameContent : renderer.content .header (.nodes inner) =
      renderer.content .header (.nodes other) := same
  have empty : (Content.nodes inner).isEmpty = (Content.nodes other).isEmpty := sameEmpty
  simp only [node, empty, sameContent]

/-- Steps that do not show in the place of one node do not show anywhere in a message. -/
theorem nodes_replaced {step : Node → Node → Prop}
    (same : ∀ {node other : Node} (context : Context), step node other →
      renderer.node context node = renderer.node context other)
    {message other : List Node} (replaced : Node.Replaced step message other) (context : Context) :
    renderer.nodes context message = renderer.nodes context other := by
  -- The context is left general, as labels are shown as in a header.
  induction replaced generalizing context with
  | nil => rfl
  | keep node _ sameRest => rw [nodes, nodes, sameRest]
  | step stepped _ sameRest => rw [nodes, nodes, same context stepped, sameRest]
  | inside wrapper _ _ sameInner sameRest =>
      rw [nodes, nodes, node_wrapper_congr wrapper (sameInner context), sameRest]
  | label entity replaced _ sameInner sameRest =>
      rw [nodes, nodes, node_label_congr entity replaced.isEmpty_eq (sameInner .header), sameRest]

end Renderer

end MessageMarkup
