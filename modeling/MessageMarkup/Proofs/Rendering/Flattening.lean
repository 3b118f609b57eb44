import Mathlib.Logic.Relation
import MessageMarkup.Proofs.Rendering.Replacement

/-!
# Flattening messages

Typed content is shown like the list of one text, and a node of unknown kind or an emoticon like the
nodes in it. Messages that become each other by such changes look the same unless a label that was
empty no longer is, or the other way round.
-/

set_option autoImplicit false

namespace MessageMarkup

inductive Node.Transparent : (Content → Node) → Prop where
  | emoticon : Transparent .emoticon
  | unknown (kind : String) : Transparent (.unknown kind)

inductive Node.Holder : (Content → Node) → Prop where
  | wrapper {wrap : Content → Node} : Wrapper wrap → Holder wrap
  | entity (entity : Entity) : Holder (.entity entity)

/-- One message is made from another by flattening it in one place, at any depth: the text that a
node holds becomes a list of one text, or a node that is shown as what it holds gives way to that. -/
inductive Node.Flattens : List Node → List Node → Prop where
  | typed {hold : Content → Node} (holder : Holder hold) (text : String) (rest : List Node) :
      Flattens (hold (.text text) :: rest) (hold (.nodes [.text text]) :: rest)
  | splice {wrap : Content → Node} (transparent : Transparent wrap) (inner rest : List Node) :
      Flattens (wrap (.nodes inner) :: rest) (inner ++ rest)
  | inside {hold : Content → Node} (holder : Holder hold) {inner other : List Node}
      (rest : List Node) :
      Flattens inner other → Flattens (hold (.nodes inner) :: rest) (hold (.nodes other) :: rest)
  | later (first : Node) {rest other : List Node} :
      Flattens rest other → Flattens (first :: rest) (first :: other)

def Node.entity? : Node → Option Entity
  | .entity mentioned _ => some mentioned
  | _ => none

def Node.label? : Node → Option Content
  | .entity _ label => some label
  | _ => none

/-- The entities of a message, those inside of labels included, in document order. -/
def Node.entities (message : List Node) : List Entity :=
  (Node.reachedAll (fun _ => true) message).filterMap Node.entity?

/-- Which labels are empty, of the entities that are among nodes. -/
def Node.verdicts (nodes : List Node) : List Bool :=
  (nodes.filterMap Node.label?).map Content.isEmpty

/-- Which labels of a message are empty, in the order of its entities. -/
def Node.emptyLabels (message : List Node) : List Bool :=
  Node.verdicts (Node.reachedAll (fun _ => true) message)

namespace Node

/-! ## Entities stay -/

theorem entities_cons (first : Node) (rest : List Node) :
    entities (first :: rest) =
      first.entity?.toList ++ first.held.subnodes.filterMap entity? ++ entities rest := by
  rw [entities, reachedAll, reached_all, List.filterMap_append, List.filterMap_cons]
  cases first.entity? <;> rfl

theorem entities_append (left right : List Node) :
    entities (left ++ right) = entities left ++ entities right := by
  induction left with
  | nil => rfl
  | cons first rest ih => simp only [List.cons_append, entities_cons, ih, List.append_assoc]

theorem Holder.entities_cons {hold : Content → Node} (holder : Holder hold) (content : Content)
    (rest : List Node) :
    entities (hold content :: rest) =
      (hold .empty).entity?.toList ++ content.subnodes.filterMap entity? ++ entities rest := by
  have kept : (hold content).entity? = (hold .empty).entity? ∧ (hold content).held = content := by
    cases holder with
    | entity => exact ⟨rfl, rfl⟩
    | wrapper wrapper => cases wrapper <;> exact ⟨rfl, rfl⟩
  rw [Node.entities_cons, kept.1, kept.2]

theorem Flattens.entities_eq {message other : List Node} (flattens : Flattens message other) :
    entities message = entities other := by
  induction flattens with
  | typed holder text rest =>
      rw [holder.entities_cons, holder.entities_cons]
      rfl
  | splice transparent inner rest =>
      rw [entities_cons, entities_append]
      cases transparent with
      | emoticon | unknown => rfl
  | @inside _ holder inner other _ _ same =>
      have sameInner : (Content.nodes inner).subnodes.filterMap entity? =
          (Content.nodes other).subnodes.filterMap entity? := same
      rw [holder.entities_cons, holder.entities_cons, sameInner]
  | later first _ same => rw [entities_cons, entities_cons, same]

theorem eq_of_flattened {α : Type} {value : List Node → α}
    (kept : ∀ {message other : List Node}, Flattens message other → value message = value other)
    {message other : List Node} (flattened : Relation.EqvGen Flattens message other) :
    value message = value other := by
  induction flattened with
  | rel _ _ flattens => exact kept flattens
  | refl => rfl
  | symm _ _ _ same => exact same.symm
  | trans _ _ _ _ _ same sameMore => exact same.trans sameMore

end Node

namespace Renderer

/-! ## Rendering with foreknowledge of labels

A label may be empty for a while between two messages that look the same, so what a single change
keeps cannot be the rendering. It is the rendering that does not look whether a label is empty. -/

def nextAnswer : StateM (List Bool) Bool :=
  modifyGet fun answers => (answers.headD true, answers.tail)

mutual

/-- The markup of a node in a context, if whether a label is empty is not found out from the label.
The answers are taken from a list, one for each label in document order. -/
def nodeTold (renderer : Renderer) (context : Context) : Node → StateM (List Bool) (List Html)
  | .link form target label => do
      let inner ← renderer.contentTold context label
      return [.element .anchor (.quoted "href" target :: form.attributes) inner]
  | .blockQuote quoted => do
      let inner ← renderer.contentTold context quoted
      return match context with
        | .reply => inner
        | _ => [.quotation inner]
  | .styled style styled => do
      let inner ← renderer.contentTold context styled
      return [.element style.tag [] inner]
  | .emoticon shown => renderer.contentTold context shown
  | .spoiler hidden => do
      let inner ← renderer.contentTold context hidden
      return [.spoiler inner]
  | .entity entity label => do
      let empty ← nextAnswer
      let inner ← renderer.contentTold .header label
      return match renderer.presentIn context entity with
        | some shown => [shown]
        | none => if empty then [.text entity.rawForm] else inner
  | .unknown _ kept => renderer.contentTold context kept
  | .text text => return renderer.node context (.text text)
  | .lineBreak => return renderer.node context .lineBreak
  | .codeBlock language code => return renderer.node context (.codeBlock language code)
  | .inlineCode code => return renderer.node context (.inlineCode code)

def contentTold (renderer : Renderer) (context : Context) : Content → StateM (List Bool) (List Html)
  | .text text => return [.text text]
  | .nodes inner => renderer.nodesTold context inner

def nodesTold (renderer : Renderer) (context : Context) : List Node → StateM (List Bool) (List Html)
  | [] => return []
  | first :: rest => do
      let shown ← renderer.nodeTold context first
      let more ← renderer.nodesTold context rest
      return shown ++ more

end

/-- A computation uses up some answers and has a result from them. -/
def Gives {α : Type} (told : StateM (List Bool) α) (answers : List Bool) (result : α) : Prop :=
  ∀ rest, told.run (answers ++ rest) = (result, rest)

theorem Gives.pure {α : Type} (result : α) : Gives (pure result) [] result :=
  fun _ => rfl

theorem Gives.next (answer : Bool) : Gives nextAnswer [answer] answer :=
  fun _ => rfl

theorem Gives.bind {α β : Type} {told : StateM (List Bool) α} {next : α → StateM (List Bool) β}
    {answers more : List Bool} {result : α} {final : β} (gives : Gives told answers result)
    (givesNext : Gives (next result) more final) : Gives (told >>= next) (answers ++ more) final := by
  intro rest
  rw [List.append_assoc, StateT.run_bind, gives]
  exact givesNext rest

theorem Gives.map {α β : Type} {told : StateM (List Bool) α} {answers : List Bool} {result : α}
    (gives : Gives told answers result) (next : α → β) :
    Gives (do let first ← told; return next first) answers (next result) := by
  have both : Gives (told >>= fun first => Pure.pure (next first)) (answers ++ []) (next result) :=
    gives.bind (.pure _)
  rwa [List.append_nil] at both

variable {renderer : Renderer}

mutual

theorem gives_nodeTold (context : Context) : ∀ node : Node,
    Gives (renderer.nodeTold context node) (Node.verdicts (node.reached fun _ => true))
      (renderer.node context node)
  | .link form target label => (gives_contentTold context label).map _
  | .blockQuote quoted => by
      cases context with
      | reply => exact (gives_contentTold .reply quoted).map _
      | content | header => exact (gives_contentTold _ quoted).map _
  | .styled style styled => (gives_contentTold context styled).map _
  | .emoticon shown => gives_contentTold context shown
  | .spoiler hidden => (gives_contentTold context hidden).map _
  | .entity entity label => by
      rw [node]
      exact (Gives.next label.isEmpty).bind ((gives_contentTold .header label).map _)
  | .unknown _ kept => gives_contentTold context kept
  | .text _ | .lineBreak | .codeBlock _ _ | .inlineCode _ => .pure _

theorem gives_contentTold (context : Context) : ∀ content : Content,
    Gives (renderer.contentTold context content) (Node.verdicts content.subnodes)
      (renderer.content context content)
  | .text _ => .pure _
  | .nodes inner => gives_nodesTold context inner

theorem gives_nodesTold (context : Context) : ∀ nodes : List Node,
    Gives (renderer.nodesTold context nodes) (Node.emptyLabels nodes) (renderer.nodes context nodes)
  | [] => .pure _
  | first :: rest => by
      rw [Node.emptyLabels, Node.reachedAll, Node.verdicts, List.filterMap_append, List.map_append]
      exact (gives_nodeTold context first).bind ((gives_nodesTold context rest).map _)

end

theorem nodesTold_append (context : Context) (left right : List Node) :
    renderer.nodesTold context (left ++ right) = do
      let shown ← renderer.nodesTold context left
      let more ← renderer.nodesTold context right
      return shown ++ more := by
  induction left with
  | nil => simp [nodesTold]
  | cons first rest ih =>
      simp only [List.cons_append, nodesTold, ih, bind_assoc, pure_bind, List.append_assoc]

/-! ## Flattening -/

theorem nodeTold_congr {hold : Content → Node} (holder : Node.Holder hold) {inner other : Content}
    (same : ∀ context, renderer.contentTold context inner = renderer.contentTold context other)
    (context : Context) :
    renderer.nodeTold context (hold inner) = renderer.nodeTold context (hold other) := by
  cases holder with
  | entity entity => simp only [nodeTold, same]
  | wrapper wrapper => cases wrapper <;> simp only [nodeTold, same]

theorem contentTold_typed (context : Context) (text : String) :
    renderer.contentTold context (.text text) = renderer.contentTold context (.nodes [.text text]) := by
  simp only [contentTold, nodesTold, nodeTold, node, pure_bind, List.append_nil]

theorem nodeTold_transparent {wrap : Content → Node} (transparent : Node.Transparent wrap)
    (context : Context) (inner : List Node) :
    renderer.nodeTold context (wrap (.nodes inner)) = renderer.nodesTold context inner := by
  cases transparent with
  | emoticon | unknown => rfl

theorem nodesTold_flattens {message other : List Node} (flattens : Node.Flattens message other)
    (context : Context) : renderer.nodesTold context message = renderer.nodesTold context other := by
  induction flattens generalizing context with
  | typed holder text rest =>
      have same : ∀ context, renderer.contentTold context (.text text) =
          renderer.contentTold context (.nodes [.text text]) :=
        fun context => contentTold_typed context text
      rw [nodesTold, nodesTold, nodeTold_congr holder same]
  | splice transparent inner rest =>
      rw [nodesTold, nodeTold_transparent transparent, nodesTold_append]
  | @inside hold holder inner other rest _ sameInner =>
      have same : ∀ context, renderer.contentTold context (.nodes inner) =
          renderer.contentTold context (.nodes other) := sameInner
      rw [nodesTold, nodesTold, nodeTold_congr holder same]
  | later first _ sameRest => rw [nodesTold, nodesTold, sameRest]

theorem nodes_eq_of_told {context : Context} {message other : List Node}
    (told : renderer.nodesTold context message = renderer.nodesTold context other)
    (labels : Node.emptyLabels message = Node.emptyLabels other) :
    renderer.nodes context message = renderer.nodes context other := by
  have one : (renderer.nodesTold context message).run (Node.emptyLabels message ++ []) =
      (renderer.nodes context message, []) := gives_nodesTold context message []
  have another : (renderer.nodesTold context other).run (Node.emptyLabels other ++ []) =
      (renderer.nodes context other, []) := gives_nodesTold context other []
  rw [told, labels, another] at one
  exact (congrArg Prod.fst one).symm

/-- A message looks the same after any number of changes between typed content and the list of one
text, and between a node of unknown kind or an emoticon and the nodes in it, in either direction and
at any depth, if the labels that were empty are the labels that are empty now. Its entities are still
the same, in the same order. A message in two parts looks like one part after the other. -/
theorem render_flattened (renderer : Renderer) (context : Context) :
    (∀ message other : List Node, Relation.EqvGen Node.Flattens message other →
      Node.entities message = Node.entities other ∧
        (Node.emptyLabels message = Node.emptyLabels other →
          renderer.render context message = renderer.render context other)) ∧
    ∀ left right : List Node, renderer.render context (left ++ right) =
      renderer.render context left ++ renderer.render context right := by
  constructor
  · intro message other flattened
    refine ⟨Node.eq_of_flattened Node.Flattens.entities_eq flattened, ?_⟩
    intro labels
    have told : renderer.nodesTold context message = renderer.nodesTold context other :=
      Node.eq_of_flattened (fun flattens => nodesTold_flattens flattens context) flattened
    exact congrArg Html.writeAll (nodes_eq_of_told told labels)
  · intro left right
    rw [render, nodes_append, Html.writeAll_append]
    rfl

/-- Bold typed text becomes a list, and the node of unknown kind in the label of a user gives way to
the text in it. -/
theorem render_flattened_label :
    Relation.EqvGen Node.Flattens
        [.styled .strong (.text "a"), .entity (.user "1") (.nodes [.unknown "x" (.text "b")])]
        [.styled .strong (.nodes [.text "a"]), .entity (.user "1") (.text "b")] ∧
      Node.emptyLabels
          [.styled .strong (.text "a"), .entity (.user "1") (.nodes [.unknown "x" (.text "b")])] =
        Node.emptyLabels
          [.styled .strong (.nodes [.text "a"]), .entity (.user "1") (.text "b")] ∧
      standard.render .header
          [.styled .strong (.text "a"), .entity (.user "1") (.nodes [.unknown "x" (.text "b")])] =
        standard.render .header
          [.styled .strong (.nodes [.text "a"]), .entity (.user "1") (.text "b")] := by
  have listed : Node.Flattens
      [.styled .strong (.text "a"), .entity (.user "1") (.nodes [.unknown "x" (.text "b")])]
      [.styled .strong (.nodes [.text "a"]), .entity (.user "1") (.nodes [.unknown "x" (.text "b")])] :=
    .typed (.wrapper (.styled .strong)) "a" _
  have inLabel {inner other : List Node} (flattens : Node.Flattens inner other) : Relation.EqvGen
      Node.Flattens
      [.styled .strong (.nodes [.text "a"]), .entity (.user "1") (.nodes inner)]
      [.styled .strong (.nodes [.text "a"]), .entity (.user "1") (.nodes other)] :=
    .rel _ _ (.later _ (.inside (.entity (.user "1")) [] flattens))
  have unpacked := (inLabel (.typed (.wrapper (.unknown "x")) "b" [])).trans _ _ _
    (inLabel (.splice (.unknown "x") [.text "b"] []))
  have unlisted : Relation.EqvGen Node.Flattens
      [.styled .strong (.nodes [.text "a"]), .entity (.user "1") (.nodes [.text "b"])]
      [.styled .strong (.nodes [.text "a"]), .entity (.user "1") (.text "b")] :=
    .symm _ _ (.rel _ _ (.later _ (.typed (.entity (.user "1")) "b" [])))
  have flattened := ((Relation.EqvGen.rel _ _ listed).trans _ _ _ unpacked).trans _ _ _ unlisted
  exact ⟨flattened, rfl, ((render_flattened standard .header).1 _ _ flattened).2 rfl⟩

end Renderer

end MessageMarkup
