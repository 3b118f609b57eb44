import MessageMarkup.Message.Compose
import MessageMarkup.Proofs.Emoji.Addresses
import MessageMarkup.Proofs.Rendering.Presence
import MessageMarkup.Proofs.Rendering.Replacement

/-!
# Emoji with an empty id

An empty id counts as none where an emoji is shown itself. Where a label is shown instead, it does
not: the label of a composed node is what is typed for the emoji, and an emoji with an empty id is
typed as a custom one.
-/

set_option autoImplicit false

namespace MessageMarkup

/-- A composed emoji with an empty id, and the same one without an id. -/
inductive Node.EmptyId : Node → Node → Prop where
  | emoji (name : String) (animated : Bool) :
      EmptyId (.ofEntity (.emoji ⟨some "", name, animated⟩)) (.ofEntity (.emoji ⟨none, name, animated⟩))

/-! ## Labels shown in the place of timestamps -/

/-- The label that is shown in the place of a timestamp out of range. -/
def Node.substitute? : Node → Option Content
  | .entity (.timestamp seconds _) label => if Timestamp.InRange seconds then none else some label
  | _ => none

/-- The labels that are shown in the place of timestamps out of range, except in headers. -/
def Node.substitutes (message : List Node) : List Content :=
  (Node.exposed message).filterMap Node.substitute?

namespace Node

theorem substitutes_cons (node : Node) (rest : List Node) :
    substitutes (node :: rest) = substitutes [node] ++ substitutes rest := by
  simp [substitutes, exposed, reachedAll]

theorem Wrapper.substitutes_eq {wrap : Content → Node} (wrapper : Wrapper wrap) (inner : List Node) :
    substitutes [wrap (.nodes inner)] = substitutes inner := by
  have none : substitute? (wrap (.nodes inner)) = none := by
    cases wrapper <;> rfl
  rw [substitutes, exposed, reachedAll, reachedAll, List.append_nil, wrapper.reached_eq,
    List.filterMap_cons_none none]
  rfl

theorem substitutes_of_outOfRange {entity : Entity} (out : entity.OutOfRange) (label : Content) :
    substitutes [.entity entity label] = [label] := by
  cases entity with
  | channel | role | user | broadcast | emoji => cases out
  | timestamp seconds style => simp [substitutes, exposed, reachedAll, reached, substitute?, if_neg out]

theorem substitutes_of_not_outOfRange {entity : Entity} (inRange : ¬ entity.OutOfRange)
    (label : Content) : substitutes [.entity entity label] = [] := by
  cases entity with
  | channel | role | user | broadcast | emoji => rfl
  | timestamp seconds style =>
      simp [substitutes, exposed, reachedAll, reached, substitute?, not_not.mp inRange]

end Node

/-! ## Parts that a text tells -/

/-- Two texts that are the same exactly if two lists of parts are; if not, the first is longer. -/
structure Tells {α : Type} (parts otherParts : List α) (text otherText : String) : Prop where
  length : parts.length = otherParts.length
  cases : (parts = otherParts ∧ text = otherText) ∨
    (parts ≠ otherParts ∧ otherText.length < text.length)

namespace Tells

variable {α β : Type} {parts otherParts : List α} {text otherText : String}

theorem refl (parts : List α) (text : String) : Tells parts parts text text :=
  ⟨rfl, .inl ⟨rfl, rfl⟩⟩

theorem text_eq_iff (tells : Tells parts otherParts text otherText) :
    text = otherText ↔ parts = otherParts := by
  rcases tells.cases with ⟨same, sameText⟩ | ⟨differ, longer⟩
  · exact iff_of_true sameText same
  · refine iff_of_false ?_ differ
    intro sameText
    rw [sameText] at longer
    exact Nat.lt_irrefl _ longer

theorem append {more otherMore : List α} {further otherFurther : String}
    (tells : Tells parts otherParts text otherText)
    (tellsMore : Tells more otherMore further otherFurther) :
    Tells (parts ++ more) (otherParts ++ otherMore) (text ++ further) (otherText ++ otherFurther) := by
  have length : (parts ++ more).length = (otherParts ++ otherMore).length := by
    rw [List.length_append, List.length_append, tells.length, tellsMore.length]
  have parts_eq_iff : parts ++ more = otherParts ++ otherMore ↔
      parts = otherParts ∧ more = otherMore :=
    ⟨fun same => List.append_inj same tells.length, fun same => by rw [same.1, same.2]⟩
  refine ⟨length, ?_⟩
  rw [ne_eq, parts_eq_iff, String.length_append, String.length_append]
  rcases tells.cases with ⟨same, sameText⟩ | ⟨differ, longer⟩ <;>
    rcases tellsMore.cases with ⟨sameMore, sameFurther⟩ | ⟨differMore, longerMore⟩
  · exact .inl ⟨⟨same, sameMore⟩, by rw [sameText, sameFurther]⟩
  · exact .inr ⟨fun all => differMore all.2, by rw [sameText]; omega⟩
  · exact .inr ⟨fun all => differ all.1, by rw [sameFurther]; omega⟩
  · exact .inr ⟨fun all => differ all.1, by omega⟩

theorem around (tells : Tells parts otherParts text otherText) (before after : String) :
    Tells parts otherParts (before ++ text ++ after) (before ++ otherText ++ after) := by
  refine ⟨tells.length, tells.cases.imp (And.imp_right ?_) (And.imp_right ?_)⟩
  · intro sameText
    rw [sameText]
  · intro longer
    simp only [String.length_append]
    omega

/-- The parts of the whole may be others than those of its content. -/
theorem relabel {whole otherWhole : List β} (tells : Tells parts otherParts text otherText)
    (length : whole.length = otherWhole.length) (same : whole = otherWhole ↔ parts = otherParts) :
    Tells whole otherWhole text otherText := by
  refine ⟨length, ?_⟩
  rw [ne_eq, same]
  exact tells.cases

end Tells

namespace Renderer

variable {renderer : Renderer} {context : Context} {message other : List Node}

theorem writeAll_cons (node : Node) (rest : List Node) :
    Html.writeAll (renderer.nodes context (node :: rest)) =
      Html.writeAll (renderer.node context node) ++ Html.writeAll (renderer.nodes context rest) := by
  rw [nodes, Html.writeAll_append]

/-- A label that is shown tells what it tells in a header. -/
theorem tells_label {step : Node → Node → Prop} {entity : Entity}
    (absent : renderer.presentIn context entity = none)
    (replaced : Node.Replaced step message other)
    (tells : Tells message other (Html.writeAll (renderer.nodes .header message))
      (Html.writeAll (renderer.nodes .header other))) :
    Tells message other
      (Html.writeAll (renderer.node context (.entity entity (.nodes message))))
      (Html.writeAll (renderer.node context (.entity entity (.nodes other)))) := by
  have shown (label : Content) : renderer.node context (.entity entity label) =
      if label.isEmpty then [.text entity.rawForm] else renderer.content .header label := by
    rw [node, absent]
  rw [shown, shown]
  have same : (Content.nodes message).isEmpty = (Content.nodes other).isEmpty := replaced.isEmpty_eq
  by_cases empty : (Content.nodes message).isEmpty = true
  · obtain rfl := List.isEmpty_iff.mp empty
    obtain rfl := List.isEmpty_iff.mp (same.symm.trans empty)
    exact .refl _ _
  · have otherHeld : ¬ (Content.nodes other).isEmpty = true := by rwa [← same]
    rw [if_neg empty, if_neg otherHeld]
    exact tells

/-! ## Headers -/

theorem header_ofEntity (entity : Entity) :
    Html.writeAll (renderer.node .header (.ofEntity entity)) = Text.escape entity.typed := by
  simp [Node.ofEntity, node, presentIn, Content.isEmpty, content, nodes, Html.writeAll, Html.write]

theorem length_escape_typed_lt (name : String) (animated : Bool) :
    (Text.escape (Entity.emoji ⟨none, name, animated⟩).typed).length <
      (Text.escape (Entity.emoji ⟨some "", name, animated⟩).typed).length := by
  have closing : (Text.escape ">").length = 4 := rfl
  simp only [Entity.typed, Text.escape_append, String.length_append, closing]
  omega

theorem tells_header (replaced : Node.Replaced Node.EmptyId message other) :
    Tells message other (Html.writeAll (renderer.nodes .header message))
      (Html.writeAll (renderer.nodes .header other)) := by
  induction replaced with
  | nil => exact .refl _ _
  | keep node _ tellsRest =>
      rw [writeAll_cons, writeAll_cons]
      exact (Tells.refl [node] _).append tellsRest
  | step emptied _ tellsRest =>
      rw [writeAll_cons, writeAll_cons]
      obtain ⟨name, animated⟩ := emptied
      rw [header_ofEntity, header_ofEntity]
      have first : Tells [Node.ofEntity (.emoji ⟨some "", name, animated⟩)]
          [Node.ofEntity (.emoji ⟨none, name, animated⟩)] _ _ :=
        ⟨rfl, .inr ⟨by simp [Node.ofEntity], length_escape_typed_lt name animated⟩⟩
      exact first.append tellsRest
  | @inside wrap inner otherInner _ _ wrapper _ _ tellsInner tellsRest =>
      rw [writeAll_cons, writeAll_cons]
      obtain ⟨before, after, around⟩ := wrapper.exists_around renderer .header
      rw [around, around]
      have first : Tells [wrap (.nodes inner)] [wrap (.nodes otherInner)] _ _ :=
        (tellsInner.around before after).relabel rfl (List.singleton_inj.trans wrapper.nodes_inj)
      exact first.append tellsRest
  | @label entity inner otherInner _ _ within _ tellsInner tellsRest =>
      rw [writeAll_cons, writeAll_cons]
      have shown : Tells inner otherInner
          (Html.writeAll (renderer.node .header (.entity entity (.nodes inner)))) _ :=
        tells_label rfl within tellsInner
      have first : Tells [Node.entity entity (.nodes inner)] [.entity entity (.nodes otherInner)] _ _ :=
        shown.relabel rfl (by simp)
      exact first.append tellsRest

/-! ## Elsewhere -/

theorem present_emptyId (name : String) (animated : Bool) :
    renderer.present (.emoji ⟨some "", name, animated⟩) =
      renderer.present (.emoji ⟨none, name, animated⟩) := rfl

theorem tells_elsewhere (elsewhere : context ≠ .header)
    (replaced : Node.Replaced Node.EmptyId message other) :
    Tells (Node.substitutes message) (Node.substitutes other)
      (Html.writeAll (renderer.nodes context message))
      (Html.writeAll (renderer.nodes context other)) := by
  have presented : ∀ entity, renderer.presentIn context entity = renderer.present entity :=
    presentIn_of_ne_header elsewhere
  induction replaced with
  | nil => exact .refl _ _
  | @keep node rest otherRest _ tellsRest =>
      rw [writeAll_cons, writeAll_cons, Node.substitutes_cons, Node.substitutes_cons node otherRest]
      exact (Tells.refl _ _).append tellsRest
  | @step node other rest otherRest emptied _ tellsRest =>
      rw [writeAll_cons, writeAll_cons, Node.substitutes_cons, Node.substitutes_cons other otherRest]
      obtain ⟨name, animated⟩ := emptied
      have same : renderer.node context (.ofEntity (.emoji ⟨some "", name, animated⟩)) =
          renderer.node context (.ofEntity (.emoji ⟨none, name, animated⟩)) := by
        simp only [Node.ofEntity, node, presented, present_emptyId]
        rfl
      rw [same]
      exact (Tells.refl [] _).append tellsRest
  | @inside wrap inner otherInner rest otherRest wrapper _ _ tellsInner tellsRest =>
      rw [writeAll_cons, writeAll_cons, Node.substitutes_cons, Node.substitutes_cons _ otherRest,
        wrapper.substitutes_eq, wrapper.substitutes_eq]
      obtain ⟨before, after, around⟩ := wrapper.exists_around renderer context
      rw [around, around]
      exact (tellsInner.around before after).append tellsRest
  | @label entity inner otherInner rest otherRest within _ _ tellsRest =>
      rw [writeAll_cons, writeAll_cons, Node.substitutes_cons, Node.substitutes_cons _ otherRest]
      by_cases out : entity.OutOfRange
      · have absent : renderer.presentIn context entity = none :=
          (presented entity).trans (present_eq_none_iff.mpr out)
        rw [Node.substitutes_of_outOfRange out, Node.substitutes_of_outOfRange out]
        have first : Tells [Content.nodes inner] [Content.nodes otherInner] _ _ :=
          (tells_label absent within (tells_header within)).relabel rfl (by simp)
        exact first.append tellsRest
      · obtain ⟨shown, isShown⟩ := Option.ne_none_iff_exists'.mp (mt present_eq_none_iff.mp out)
        have own (label : Content) : renderer.node context (.entity entity label) = [shown] := by
          rw [node, presented, isShown]
        rw [Node.substitutes_of_not_outOfRange out, Node.substitutes_of_not_outOfRange out, own, own]
        exact (Tells.refl [] _).append tellsRest

end Renderer

/-- An emoji with an empty id has the address and the alternative text of one without an id. Composed
nodes of the two are shown alike as well, however many of them are exchanged in a message, except in
labels that take the place of timestamps out of range. In a header they are never shown alike. -/
theorem emptyId_shown_iff (renderer : Renderer) (message other : List Node)
    (replaced : Node.Replaced Node.EmptyId message other) :
    (∀ (name : String) (animated : Bool),
        renderer.emoji.url ⟨some "", name, animated⟩ = renderer.emoji.url ⟨none, name, animated⟩ ∧
          Emoji.alternative ⟨some "", name, animated⟩ = Emoji.alternative ⟨none, name, animated⟩) ∧
      (∀ context ≠ .header, renderer.render context message = renderer.render context other ↔
        Node.substitutes message = Node.substitutes other) ∧
      (renderer.render .header message = renderer.render .header other ↔ message = other) :=
  ⟨fun _ _ => ⟨rfl, rfl⟩,
    fun _ elsewhere => (Renderer.tells_elsewhere elsewhere replaced).text_eq_iff,
    (Renderer.tells_header replaced).text_eq_iff⟩

/-- An emoji with an empty id in bold type, in the context that has it and in a header. -/
theorem emptyId_shown_bold :
    Renderer.standard.render .content [.style .strong [.ofEntity (.emoji ⟨some "", "x", false⟩)]] =
        Renderer.standard.render .content [.style .strong [.ofEntity (.emoji ⟨none, "x", false⟩)]] ∧
      Renderer.standard.render .header [.style .strong [.ofEntity (.emoji ⟨some "", "x", false⟩)]] ≠
        Renderer.standard.render .header [.style .strong [.ofEntity (.emoji ⟨none, "x", false⟩)]] := by
  have replaced : Node.Replaced Node.EmptyId
      [.style .strong [.ofEntity (.emoji ⟨some "", "x", false⟩)]]
      [.style .strong [.ofEntity (.emoji ⟨none, "x", false⟩)]] :=
    .inside (.styled .strong) (.step (.emoji "x" false) .nil) .nil
  obtain ⟨_, elsewhere, header⟩ := emptyId_shown_iff .standard _ _ replaced
  exact ⟨(elsewhere .content (by decide)).mpr rfl, mt header.mp (by simp [Node.style, Node.ofEntity])⟩

end MessageMarkup
