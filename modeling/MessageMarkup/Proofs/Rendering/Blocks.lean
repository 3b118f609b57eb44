import MessageMarkup.Proofs.Markup.Block
import MessageMarkup.Proofs.Message.Subnodes
import MessageMarkup.Proofs.Rendering.WellFormed

/-!
# Block-level elements of rendered messages

The block-level elements in the markup of a message are those of its quotations, its code
and its line breaks, as far as the context has them. A label that is shown in the place
of its entity is shown as in a header, whatever the context is.
-/

set_option autoImplicit false

namespace MessageMarkup

/-! ## The block-level elements of nodes -/

/-- The block-level elements that a node itself is shown with. -/
def Node.ownBlocks (context : Context) : Node → List Html.Tag
  | .lineBreak =>
      match context with
      | .content => [.lineBreak]
      | .reply | .header => []
  | .blockQuote _ =>
      match context with
      | .reply => []
      | .content | .header => [.blockquote, .division]
  | .codeBlock _ _ =>
      match context with
      | .reply => []
      | .content | .header => [.preformatted]
  | _ => []

theorem Node.ownBlocks_reply (node : Node) : node.ownBlocks .reply = [] := by
  cases node <;> rfl

theorem Node.ownBlocks_header_ne_nil {node : Node} :
    node.ownBlocks .header ≠ [] ↔ node.isBlockQuote = true ∨ node.isCodeBlock = true := by
  cases node <;> simp [ownBlocks, isBlockQuote, isCodeBlock]

theorem Node.preformatted_mem_ownBlocks_header {node : Node} :
    .preformatted ∈ node.ownBlocks .header ↔ node.isCodeBlock = true := by
  cases node <;> simp [ownBlocks, isCodeBlock]

/-- The labels that are entered in a context without regard to the entity. -/
def Context.showsLabels : Context → Bool
  | .header => true
  | .content | .reply => false

/-- The block-level elements that a node is shown with, without those of the nodes that
are reached from it. -/
def Node.blocks (context : Context) (node : Node) : List Html.Tag :=
  match context with
  | .header => node.ownBlocks .header
  | .content | .reply =>
      node.ownBlocks context ++ node.fallback.flatMap (Node.ownBlocks .header)

namespace Html

def blocks (pieces : List Html) : List Tag :=
  (elementsAll pieces).filter (· ∈ blockTags)

theorem blocks_append (left right : List Html) :
    blocks (left ++ right) = blocks left ++ blocks right := by
  simp [blocks]

theorem blocks_element_of_not_mem {tag : Tag} (inline : tag ∉ blockTags)
    (attributes : List Attribute) (children : List Html) :
    blocks [.element tag attributes children] = blocks children := by
  simp [blocks, elementsAll, elements, inline]

theorem blocks_quotation (children : List Html) :
    blocks [quotation children] = [.blockquote, .division] ++ blocks children := by
  simp [quotation, blocks, elementsAll, elements, blockTags]

theorem preformatted_mem_quotation {children : List Html} :
    .preformatted ∈ blocks [quotation children] ↔ .preformatted ∈ blocks children := by
  simp [blocks_quotation]

theorem mem_blocks {pieces : List Html} {tag : Tag} :
    tag ∈ blocks pieces ↔ tag ∈ elementsAll pieces ∧ tag ∈ blockTags := by
  simp [blocks]

end Html

namespace Renderer

variable {renderer : Renderer}

theorem blocks_present {entity : Entity} {shown : Html}
    (presented : renderer.present entity = some shown) : Html.blocks [shown] = [] := by
  rcases present_cases presented with ⟨text, rfl⟩ | ⟨address, alternative, rfl⟩ | ⟨text, rfl⟩ <;> rfl

theorem blocks_label {label : Content} (raw : String)
    (inner : Html.blocks (renderer.content .header label) =
      label.subnodes.flatMap (Node.blocks .header)) :
    Html.blocks (if label.isEmpty then [.text raw] else renderer.content .header label) =
      label.subnodes.flatMap (Node.blocks .header) := by
  by_cases empty : label.isEmpty = true
  · rw [if_pos empty, Content.subnodes, Content.reached_of_isEmpty empty]
    rfl
  · rw [if_neg empty, inner]

/-- The services leave an entity to its label only if it has a fallback. -/
theorem fallback_entity (renderer : Renderer) (entity : Entity) (label : Content) :
    (Node.entity entity label).fallback =
      if renderer.present entity = none then label.subnodes else [] := by
  cases entity with
  | channel | role | user | broadcast | emoji => rfl
  | timestamp seconds style =>
      simp only [present, Option.map_eq_none_iff, Timestamp.format_eq_none_iff, Node.fallback,
        ite_not]

theorem blocks_entity (context : Context) (entity : Entity) {label : Content}
    (inner : Html.blocks (renderer.content .header label) =
      label.subnodes.flatMap (Node.blocks .header)) :
    Html.blocks (renderer.node context (.entity entity label)) =
      ((Node.entity entity label).reached fun _ => context.showsLabels).flatMap
        (Node.blocks context) := by
  have labelled := blocks_label entity.rawForm inner
  have fallback := renderer.fallback_entity entity label
  cases context with
  | header =>
      rw [node, presentIn, labelled]
      rfl
  | content | reply =>
      simp only [Node.reached, Context.showsLabels, Bool.false_eq_true, ↓reduceIte,
        List.flatMap_singleton, Node.blocks, Node.ownBlocks, List.nil_append, node, presentIn]
      cases presented : renderer.present entity with
      | some shown =>
          simp only [presented, reduceCtorEq, ↓reduceIte] at fallback
          rw [fallback]
          exact blocks_present presented
      | none =>
          simp only [presented, ↓reduceIte] at fallback
          rw [fallback]
          exact labelled

mutual

/-- The block-level elements of a node's markup are those that the nodes inside of it are
shown with. -/
theorem blocks_node (context : Context) : ∀ node : Node,
    Html.blocks (renderer.node context node) =
      (node.reached fun _ => context.showsLabels).flatMap (Node.blocks context)
  | .text _ => by cases context <;> rfl
  | .lineBreak => by cases context <;> rfl
  | .link form target label => by
      have inner := blocks_content context label
      rw [node, Html.blocks_element_of_not_mem (by decide), inner]
      cases context <;> rfl
  | .blockQuote quoted => by
      have inner := blocks_content context quoted
      have around := Html.blocks_quotation (renderer.content context quoted)
      rw [inner] at around
      cases context with
      | reply => exact inner
      | content | header => exact around
  | .codeBlock language code => by cases context <;> rfl
  | .inlineCode code => by cases context <;> rfl
  | .styled style styled => by
      have inner := blocks_content context styled
      rw [node, Html.blocks_element_of_not_mem (by cases style <;> decide), inner]
      cases context <;> rfl
  | .emoticon shown => by
      have inner := blocks_content context shown
      rw [node, inner]
      cases context <;> rfl
  | .spoiler hidden => by
      have inner := blocks_content context hidden
      rw [node, Html.spoiler, Html.blocks_element_of_not_mem (by decide), inner]
      cases context <;> rfl
  | .entity entity label => blocks_entity context entity (blocks_content .header label)
  | .unknown _ kept => by
      have inner := blocks_content context kept
      rw [node, inner]
      cases context <;> rfl

theorem blocks_content (context : Context) : ∀ content : Content,
    Html.blocks (renderer.content context content) =
      (content.reached fun _ => context.showsLabels).flatMap (Node.blocks context)
  | .text _ => rfl
  | .nodes inner => by
      rw [content, Content.reached]
      exact blocks_nodes context inner

theorem blocks_nodes (context : Context) : ∀ nodes : List Node,
    Html.blocks (renderer.nodes context nodes) =
      (Node.reachedAll (fun _ => context.showsLabels) nodes).flatMap (Node.blocks context)
  | [] => rfl
  | first :: rest => by
      rw [nodes, Html.blocks_append, Node.reachedAll, List.flatMap_append,
        blocks_node context first, blocks_nodes context rest]

end

end Renderer

end MessageMarkup
