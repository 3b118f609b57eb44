import MessageMarkup.Message.Compose
import MessageMarkup.Proofs.Rendering.Preview
import MessageMarkup.Proofs.Rendering.Replacement

/-!
# Language hints

A highlighter is asked for the language of a hint only if it knows that language. Hints that are
of no help to it may be exchanged for one another, and a message that has no others, but for those
that ask for plain text, is shown as with a highlighter that knows no language at all.
-/

set_option autoImplicit false

namespace MessageMarkup

namespace Highlighter

/-- A hint that is of no help to a highlighter: there is none, or it is empty, or the highlighter
does not know its language. -/
def Unhelpful (highlighter : Highlighter) (hint : Option String) : Prop :=
  ∀ language ∈ hint, language = "" ∨ highlighter.supports language = false

variable {highlighter : Highlighter} {hint : Option String}

theorem languageFor_of_unhelpful (unhelpful : highlighter.Unhelpful hint) :
    highlighter.languageFor hint = plaintext := by
  cases hint with
  | none => rfl
  | some language =>
      rcases unhelpful language rfl with rfl | unknown
      · rfl
      · simp [languageFor, unknown]

theorem unhelpful_plain (hint : Option String) : plain.Unhelpful hint :=
  fun _ _ => .inr rfl

theorem languageFor_plaintext : highlighter.languageFor (some plaintext) = plaintext :=
  ite_self _

/-- A library is not asked for plain text, so that code in it is escaped and nothing else. -/
theorem highlight_plaintext {Language : Type} (library : Highlight.Library Language)
    (code : String) : (ofLibrary library).highlight code plaintext = Text.escape code := by
  have notAsked : library.ask plaintext = none := by
    have isPlain : Highlight.isPlaintext plaintext = true := by decide +kernel
    simp [Highlight.Library.ask, isPlain]
  simp [ofLibrary, notAsked]

end Highlighter

/-- The step from a code block to one with the same code, where neither hint is of any help. -/
inductive Node.Rehinted (highlighter : Highlighter) : Node → Node → Prop where
  | codeBlock {hint other : Option String} (code : String) :
      highlighter.Unhelpful hint → highlighter.Unhelpful other →
      Rehinted highlighter (.codeBlock hint code) (.codeBlock other code)

/-- Two highlighters give the same for each code block among the nodes. -/
def Highlighter.AgreeOn (highlighter other : Highlighter) (nodes : List Node) : Prop :=
  ∀ hint code, .codeBlock hint code ∈ nodes →
    highlighter.languageFor hint = other.languageFor hint ∧
      highlighter.highlight code (highlighter.languageFor hint) =
        other.highlight code (other.languageFor hint)

namespace Highlighter.AgreeOn

variable {highlighter other : Highlighter} {first : Node} {nodes before after : List Node}

theorem tail (agree : highlighter.AgreeOn other (first :: nodes)) :
    highlighter.AgreeOn other nodes :=
  fun hint code within => agree hint code (.tail _ within)

theorem left (agree : highlighter.AgreeOn other (before ++ after)) :
    highlighter.AgreeOn other before :=
  fun hint code within => agree hint code (List.mem_append_left _ within)

theorem right (agree : highlighter.AgreeOn other (before ++ after)) :
    highlighter.AgreeOn other after :=
  fun hint code within => agree hint code (List.mem_append_right _ within)

end Highlighter.AgreeOn

namespace Renderer

variable {renderer : Renderer} {other : Highlighter}

theorem node_rehinted {node replaced : Node} (context : Context)
    (rehinted : Node.Rehinted renderer.highlighter node replaced) :
    renderer.node context node = renderer.node context replaced := by
  cases rehinted with
  | codeBlock code unhelpful otherUnhelpful =>
      simp only [Renderer.node, Renderer.code, Highlighter.languageFor_of_unhelpful unhelpful,
        Highlighter.languageFor_of_unhelpful otherUnhelpful]

/-! ## Highlighters that agree -/

/-- The same services with another highlighter. -/
def highlightedBy (renderer : Renderer) (highlighter : Highlighter) : Renderer :=
  { renderer with highlighter := highlighter }

mutual

theorem node_agreeOn (context : Context) : ∀ node : Node,
    renderer.highlighter.AgreeOn other (node.reached fun _ => true) →
      renderer.node context node = (renderer.highlightedBy other).node context node
  | .text _, _ => rfl
  | .lineBreak, _ => rfl
  | .link form target label, agree => by
      rw [node, node, content_agreeOn context label agree.tail]
  | .blockQuote quoted, agree => by
      have same := content_agreeOn context quoted agree.tail
      cases context with
      | reply => exact same
      | content | header => exact congrArg (fun shown => [Html.quotation shown]) same
  | .codeBlock hint code, agree => by
      obtain ⟨sameLanguage, sameMarkup⟩ := agree hint code (.head _)
      cases context with
      | reply => rfl
      | content | header =>
          simp only [node, Renderer.code, highlightedBy, sameMarkup]
          rw [sameLanguage]
  | .inlineCode code, _ => rfl
  | .styled style styled, agree => by
      rw [node, node, content_agreeOn context styled agree.tail]
  | .emoticon shown, agree => content_agreeOn context shown agree.tail
  | .spoiler hidden, agree => by
      rw [node, node, content_agreeOn context hidden agree.tail]
  | .entity entity label, agree => by
      rw [node, node, highlightedBy, presentIn_highlighter,
        content_agreeOn .header label agree.tail]
      rfl
  | .unknown _ kept, agree => content_agreeOn context kept agree.tail

theorem content_agreeOn (context : Context) : ∀ content : Content,
    renderer.highlighter.AgreeOn other (content.reached fun _ => true) →
      renderer.content context content = (renderer.highlightedBy other).content context content
  | .text _, _ => rfl
  | .nodes inner, agree => nodes_agreeOn context inner agree

theorem nodes_agreeOn (context : Context) : ∀ nodes : List Node,
    renderer.highlighter.AgreeOn other (Node.reachedAll (fun _ => true) nodes) →
      renderer.nodes context nodes = (renderer.highlightedBy other).nodes context nodes
  | [], _ => rfl
  | first :: rest, agree => by
      rw [nodes, nodes, node_agreeOn context first agree.left, nodes_agreeOn context rest agree.right]

end

/-- Hints that are of no help to the highlighter may be exchanged for one another wherever they
stand. With a library of languages a message is shown as without highlighting, if each of its hints
is of no help or asks for plain text by its very name. -/
theorem render_unhelpful (renderer : Renderer) (context : Context) (message : List Node) :
    (∀ other, Node.Replaced (Node.Rehinted renderer.highlighter) message other →
      renderer.render context message = renderer.render context other) ∧
    ∀ {Language : Type} (library : Highlight.Library Language),
      (∀ hint code, .codeBlock hint code ∈ Node.reachedAll (fun _ => true) message →
        hint = some Highlighter.plaintext ∨ (Highlighter.ofLibrary library).Unhelpful hint) →
      (renderer.highlightedBy (.ofLibrary library)).render context message =
        renderer.unhighlighted.render context message := by
  constructor
  · intro other replaced
    exact congrArg Html.writeAll (nodes_replaced node_rehinted replaced context)
  · intro Language library plain
    have agree : (Highlighter.ofLibrary library).AgreeOn .plain
        (Node.reachedAll (fun _ => true) message) := by
      intro hint code within
      have own : (Highlighter.ofLibrary library).languageFor hint = Highlighter.plaintext := by
        rcases plain hint code within with rfl | unhelpful
        · exact Highlighter.languageFor_plaintext
        · exact Highlighter.languageFor_of_unhelpful unhelpful
      rw [own, Highlighter.languageFor_of_unhelpful (Highlighter.unhelpful_plain hint),
        Highlighter.highlight_plaintext]
      exact ⟨rfl, rfl⟩
    have same : (renderer.highlightedBy (.ofLibrary library)).nodes context message =
        renderer.unhighlighted.nodes context message := nodes_agreeOn context message agree
    exact congrArg Html.writeAll same

/-- A hint in the label of a timestamp out of range, where it is shown; and three hints with which
the grammars show code plainly. -/
theorem render_unhelpful_label :
    let labelled (hint : Option String) : List Node :=
      [.entity (.timestamp 8210266876800 none) (.nodes [.codeBlock hint "a < b"])]
    let plain : List Node := [.codeBlock (some "plaintext") "a",
      .quote [.codeBlock (some "") "b", .codeBlock (some "no such") "c"]]
    Node.Replaced (Node.Rehinted standard.highlighter) (labelled (some "no such")) (labelled none) ∧
      standard.render .reply (labelled (some "no such")) = standard.render .reply (labelled none) ∧
      standard.render .content plain = standard.unhighlighted.render .content plain := by
  intro labelled plain
  have unknown : Highlighter.grammars.supports "no such" = false := by decide +kernel
  have unhelpful : Highlighter.grammars.Unhelpful (some "no such") := by
    rintro _ ⟨⟩
    exact .inr unknown
  have absent : Highlighter.grammars.Unhelpful none := by
    rintro _ ⟨⟩
  have empty : Highlighter.grammars.Unhelpful (some "") := by
    rintro _ ⟨⟩
    exact .inl rfl
  have replaced : Node.Replaced (Node.Rehinted standard.highlighter)
      (labelled (some "no such")) (labelled none) :=
    .label _ (.step (.codeBlock _ unhelpful absent) .nil) .nil
  refine ⟨replaced, (render_unhelpful standard .reply _).1 _ replaced,
    (render_unhelpful standard .content _).2 .grammars ?_⟩
  intro hint code within
  simp only [plain, Node.reachedAll, Node.reached, Node.quote, Content.reached, List.mem_append,
    List.mem_cons, List.not_mem_nil, or_false, false_or, Node.codeBlock.injEq, reduceCtorEq] at within
  rcases within with ⟨rfl, _⟩ | ⟨rfl, _⟩ | ⟨rfl, _⟩
  · exact .inl rfl
  · exact .inr empty
  · exact .inr unhelpful

end Renderer

end MessageMarkup
