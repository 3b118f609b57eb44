import MessageMarkup.Proofs.Message.Normal
import MessageMarkup.Render

/-!
# Levels of nodes

How deep the nodes of a message lie in one another. The renderer goes as deep as the nodes do, so
that as many levels of its calls show a message as there are levels of nodes in it.
-/

set_option autoImplicit false

namespace MessageMarkup

mutual

/-- The greatest number of nodes that lie in one another, from a node downwards. -/
def Node.depth : Node → Nat
  | .text _ => 1
  | .lineBreak => 1
  | .link _ _ label => label.depth + 1
  | .blockQuote inner => inner.depth + 1
  | .codeBlock _ _ => 1
  | .inlineCode _ => 1
  | .styled _ inner => inner.depth + 1
  | .emoticon inner => inner.depth + 1
  | .spoiler inner => inner.depth + 1
  | .entity _ label => label.depth + 1
  | .unknown _ inner => inner.depth + 1

def Content.depth : Content → Nat
  | .text _ => 0
  | .nodes inner => Node.depthAll inner

def Node.depthAll : List Node → Nat
  | [] => 0
  | first :: rest => max first.depth (Node.depthAll rest)

end

theorem Node.depth_eq (node : Node) : node.depth = node.held.depth + 1 := by
  cases node <;> rfl

theorem Node.depthAll_le {nodes : List Node} {bound : Nat} :
    depthAll nodes ≤ bound ↔ ∀ node ∈ nodes, node.depth ≤ bound := by
  induction nodes with
  | nil => simp [depthAll]
  | cons first rest ih => rw [depthAll, Nat.max_le, ih, List.forall_mem_cons]

theorem Content.depth_le {content : Content} {bound : Nat} :
    content.depth ≤ bound ↔ ∀ node ∈ content.children, node.depth ≤ bound := by
  cases content with
  | text typed => simp [depth, children]
  | nodes inner => exact Node.depthAll_le

namespace Renderer

/-- The markup of content whose nodes are shown in a given way. -/
def contentBy (shown : Node → List Html) : Content → List Html
  | .text text => [.text text]
  | .nodes inner => inner.flatMap shown

/-- The markup of a node in a context, where the nodes in it are shown in a given way. -/
def nodeBy (renderer : Renderer) (shown : Context → Node → List Html) (context : Context) :
    Node → List Html
  | .text text => [.text text]
  | .lineBreak => lineBreak context
  | .link form target label =>
      [.element .anchor (.quoted "href" target :: form.attributes)
        (contentBy (shown context) label)]
  | .blockQuote inner =>
      match context with
      | .reply => contentBy (shown context) inner
      | _ => [.quotation (contentBy (shown context) inner)]
  | .codeBlock language code => [renderer.code context language code]
  | .inlineCode code => [.inlineCode code]
  | .styled style inner => [.element style.tag [] (contentBy (shown context) inner)]
  | .emoticon inner => contentBy (shown context) inner
  | .spoiler inner => [.spoiler (contentBy (shown context) inner)]
  | .entity entity label =>
      match renderer.presentIn context entity with
      | some shown => [shown]
      | none =>
          if label.isEmpty then [.text entity.rawForm] else contentBy (shown .header) label
  | .unknown _ inner => contentBy (shown context) inner

variable {renderer : Renderer}

theorem nodes_eq_flatMap (context : Context) (nodes : List Node) :
    renderer.nodes context nodes = nodes.flatMap (renderer.node context) := by
  induction nodes with
  | nil => rfl
  | cons first rest ih => rw [Renderer.nodes, ih, List.flatMap_cons]

theorem content_eq_contentBy (context : Context) (content : Content) :
    renderer.content context content = contentBy (renderer.node context) content := by
  cases content with
  | text typed => rfl
  | nodes inner => exact nodes_eq_flatMap context inner

/-- The renderer calls itself for nothing but the nodes that a node holds. -/
theorem node_eq_nodeBy (context : Context) (node : Node) :
    renderer.node context node = renderer.nodeBy renderer.node context node := by
  cases node with
  | text | lineBreak | codeBlock | inlineCode => rfl
  | link | styled | emoticon | spoiler | unknown =>
      simp only [Renderer.node, nodeBy, content_eq_contentBy]
  -- What becomes of the nodes inside depends on the context or on the services here.
  | blockQuote inner =>
      cases context <;> simp only [Renderer.node, nodeBy, content_eq_contentBy]
  | entity entity label =>
      cases presented : renderer.presentIn context entity <;>
        simp only [Renderer.node, nodeBy, presented, content_eq_contentBy]

theorem contentBy_congr {shown other : Node → List Html} {content : Content}
    (same : ∀ child ∈ content.children, shown child = other child) :
    contentBy shown content = contentBy other content := by
  cases content with
  | text typed => rfl
  | nodes inner => exact List.flatMap_congr same

theorem nodeBy_congr {shown other : Context → Node → List Html} (context : Context) {node : Node}
    (same : ∀ inside, ∀ child ∈ node.held.children, shown inside child = other inside child) :
    renderer.nodeBy shown context node = renderer.nodeBy other context node := by
  have held (inside : Context) :
      contentBy (shown inside) node.held = contentBy (other inside) node.held :=
    contentBy_congr (same inside)
  cases node with
  | text | lineBreak | codeBlock | inlineCode => rfl
  | link | blockQuote | styled | emoticon | spoiler | entity | unknown =>
      simp only [Node.held] at held
      simp only [nodeBy, held]

/-- The renderer with a number of levels of calls. What takes more is shown in a given way. -/
def levels (renderer : Renderer) (beyond : Context → Node → List Html) :
    Nat → Context → Node → List Html
  | 0 => beyond
  | bound + 1 => renderer.nodeBy (renderer.levels beyond bound)

/-- As many levels of calls are enough as there are levels of nodes. -/
theorem levels_eq_node {bound : Nat} {node : Node} (shallow : node.depth ≤ bound)
    (beyond : Context → Node → List Html) (context : Context) :
    renderer.levels beyond bound context node = renderer.node context node := by
  induction bound generalizing node context with
  | zero =>
      -- Without levels there is no node: each is a level of its own.
      rw [Node.depth_eq] at shallow
      omega
  | succ bound ih =>
      rw [Node.depth_eq, Nat.add_le_add_iff_right, Content.depth_le] at shallow
      rw [levels, node_eq_nodeBy]
      exact nodeBy_congr context fun inside child member => ih (shallow child member) inside

theorem flatMap_levels_eq_nodes {bound : Nat} {nodes : List Node}
    (shallow : ∀ node ∈ nodes, node.depth ≤ bound) (beyond : Context → Node → List Html)
    (context : Context) :
    nodes.flatMap (renderer.levels beyond bound context) = renderer.nodes context nodes := by
  rw [nodes_eq_flatMap]
  exact List.flatMap_congr fun node member => levels_eq_node (shallow node member) beyond context

end Renderer

end MessageMarkup
