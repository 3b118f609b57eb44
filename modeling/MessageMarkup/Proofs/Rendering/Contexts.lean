import MessageMarkup.Message.Compose
import MessageMarkup.Proofs.Rendering.Presence

/-!
# What contexts have in common

Few kinds of nodes are treated differently from one context to another. A message without them is
rendered to the same markup. What stands in labels does not count, as a label is shown alike in all
contexts that show it.
-/

set_option autoImplicit false

namespace MessageMarkup

/-- Whether two contexts do the same with a node, apart from the nodes inside of it. -/
def Node.TreatedAlike (context other : Context) : Node → Prop
  | .lineBreak => context = other
  | .blockQuote _ | .codeBlock _ _ => context = .reply ↔ other = .reply
  | .entity mentioned _ => mentioned.OutOfRange ∨ (context = .header ↔ other = .header)
  | .text _ | .link _ _ _ | .inlineCode _ | .styled _ _ | .emoticon _ | .spoiler _ | .unknown _ _ =>
      True

def Node.isLineBreak : Node → Bool
  | .lineBreak => true
  | _ => false

def Node.isEntity : Node → Bool
  | .entity _ _ => true
  | _ => false

theorem Node.treatedAlike_reply {node : Node} (notQuote : node.isBlockQuote = false)
    (notBreak : node.isLineBreak = false) (notCode : node.isCodeBlock = false) :
    node.TreatedAlike .content .reply := by
  cases node with
  | text | link | inlineCode | styled | emoticon | spoiler | unknown => trivial
  | entity => exact .inr (by decide)
  | blockQuote => cases notQuote
  | lineBreak => cases notBreak
  | codeBlock => cases notCode

theorem Node.treatedAlike_header {node : Node} (notBreak : node.isLineBreak = false)
    (notEntity : node.isEntity = false) : node.TreatedAlike .content .header := by
  cases node with
  | text | link | inlineCode | styled | emoticon | spoiler | unknown => trivial
  | blockQuote | codeBlock => exact iff_of_false (by decide) (by decide)
  | lineBreak => cases notBreak
  | entity => cases notEntity

namespace Renderer

variable {renderer : Renderer} {context other : Context}

theorem eq_or_ne_of_iff {special : Context} (both : context = special ↔ other = special) :
    context = other ∨ context ≠ special ∧ other ≠ special := by
  by_cases isSpecial : context = special
  · exact .inl (isSpecial.trans (both.mp isSpecial).symm)
  · exact .inr ⟨isSpecial, mt both.mpr isSpecial⟩

theorem presentIn_eq_of_treatedAlike {entity : Entity}
    (alike : entity.OutOfRange ∨ (context = .header ↔ other = .header)) :
    renderer.presentIn context entity = renderer.presentIn other entity := by
  rcases alike with outside | both
  · rw [presentIn_eq_none_iff.mpr (.inr outside), presentIn_eq_none_iff.mpr (.inr outside)]
  · rcases eq_or_ne_of_iff both with rfl | ⟨shows, otherShows⟩
    · rfl
    · rw [presentIn_of_ne_header shows, presentIn_of_ne_header otherShows]

theorem code_of_ne_reply (outside : context ≠ .reply) (language : Option String) (code : String) :
    renderer.code context language code = renderer.code .content language code := by
  cases context with
  | reply => exact absurd rfl outside
  | content | header => rfl

theorem node_blockQuote_of_ne_reply (outside : context ≠ .reply) (quoted : Content) :
    renderer.node context (.blockQuote quoted) = [.quotation (renderer.content context quoted)] := by
  cases context with
  | reply => exact absurd rfl outside
  | content | header => rfl

mutual

theorem node_treatedAlike : ∀ node : Node,
    (∀ inner ∈ node.reached fun _ => false, inner.TreatedAlike context other) →
      renderer.node context node = renderer.node other node
  | .text _, _ => rfl
  | .lineBreak, alike => by
      obtain rfl : context = other := alike _ List.mem_cons_self
      rfl
  | .link form target label, alike => by
      rw [node, node, content_treatedAlike label (List.forall_mem_cons.mp alike).2]
  | .blockQuote quoted, alike => by
      obtain ⟨both, inside⟩ := List.forall_mem_cons.mp alike
      have same := content_treatedAlike quoted inside
      rcases eq_or_ne_of_iff both with rfl | ⟨apart, otherApart⟩
      · rfl
      · rw [node_blockQuote_of_ne_reply apart, node_blockQuote_of_ne_reply otherApart, same]
  | .codeBlock language code, alike => by
      have both : context = .reply ↔ other = .reply := alike _ List.mem_cons_self
      rcases eq_or_ne_of_iff both with rfl | ⟨apart, otherApart⟩
      · rfl
      · rw [node, node, code_of_ne_reply apart, code_of_ne_reply otherApart]
  | .inlineCode _, _ => rfl
  | .styled style styled, alike => by
      rw [node, node, content_treatedAlike styled (List.forall_mem_cons.mp alike).2]
  | .emoticon shown, alike => content_treatedAlike shown (List.forall_mem_cons.mp alike).2
  | .spoiler hidden, alike => by
      rw [node, node, content_treatedAlike hidden (List.forall_mem_cons.mp alike).2]
  | .entity entity label, alike => by
      -- A label that is shown is shown as in a header by either context, whatever is in it.
      rw [node, node, presentIn_eq_of_treatedAlike (alike _ List.mem_cons_self)]
  | .unknown _ kept, alike => content_treatedAlike kept (List.forall_mem_cons.mp alike).2

theorem content_treatedAlike : ∀ content : Content,
    (∀ inner ∈ content.reached fun _ => false, inner.TreatedAlike context other) →
      renderer.content context content = renderer.content other content
  | .text _, _ => rfl
  | .nodes inner, alike => nodes_treatedAlike inner alike

theorem nodes_treatedAlike : ∀ nodes : List Node,
    (∀ inner ∈ Node.reachedAll (fun _ => false) nodes, inner.TreatedAlike context other) →
      renderer.nodes context nodes = renderer.nodes other nodes
  | [], _ => rfl
  | first :: rest, alike => by
      obtain ⟨inFirst, inRest⟩ := List.forall_mem_append.mp alike
      rw [nodes, nodes, node_treatedAlike first inFirst, nodes_treatedAlike rest inRest]

end

/-- A reply differs from the message itself only by quotations, line breaks and code on lines of its
own, and a header only by line breaks and entities, each of them outside of labels. -/
theorem render_contexts_agree (renderer : Renderer) (message : List Node) :
    ((∀ node ∈ Node.exposed message,
        node.isBlockQuote = false ∧ node.isLineBreak = false ∧ node.isCodeBlock = false) →
      renderer.render .content message = renderer.render .reply message) ∧
    ((∀ node ∈ Node.exposed message, node.isLineBreak = false ∧ node.isEntity = false) →
      renderer.render .content message = renderer.render .header message) := by
  constructor
  · intro absent
    refine congrArg Html.writeAll (nodes_treatedAlike message ?_)
    intro node member
    obtain ⟨notQuote, notBreak, notCode⟩ := absent node member
    exact Node.treatedAlike_reply notQuote notBreak notCode
  · intro absent
    refine congrArg Html.writeAll (nodes_treatedAlike message ?_)
    intro node member
    obtain ⟨notBreak, notEntity⟩ := absent node member
    exact Node.treatedAlike_header notBreak notEntity

/-- A reply with a quotation in the label of a user, and a header with a quotation. -/
theorem render_contexts_agree_quotation :
    (standard.render .content [.style .strong [.entity (.user "1") (.nodes [.quote []])]] =
        standard.render .reply [.style .strong [.entity (.user "1") (.nodes [.quote []])]]) ∧
      standard.render .content [.quote [.codeBlock none "x", .text "y"]] =
        standard.render .header [.quote [.codeBlock none "x", .text "y"]] := by
  exact ⟨(render_contexts_agree standard _).1 (by decide),
    (render_contexts_agree standard _).2 (by decide)⟩

end Renderer

end MessageMarkup
