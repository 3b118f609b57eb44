import Mathlib.Logic.Relation
import MessageMarkup.Message.Compose
import MessageMarkup.Proofs.Rendering.Presence
import MessageMarkup.Proofs.Rendering.Replacement

/-!
# The two sides of entities

An entity has two sides: what it refers to, and its label. A context shows one of them. Messages
that differ only in the other one look the same, and so do an entity without a label and one whose
label is the markup that is typed for it.
-/

set_option autoImplicit false

namespace MessageMarkup

/-! ## The side that is not shown -/

/-- Whether the label of an entity is its side that a context shows. -/
def Entity.ShownByLabel (context : Context) (entity : Entity) : Prop :=
  context = .header ∨ entity.OutOfRange

/-- Messages that differ only in sides of entities that a context does not show, in any number of
places. A label that is shown is shown as in a header, so inside of it the sides of a header count. -/
inductive Node.SameSides : Context → List Node → List Node → Prop where
  | nil (context : Context) : SameSides context [] []
  | keep {context : Context} (node : Node) {rest otherRest : List Node} :
      SameSides context rest otherRest → SameSides context (node :: rest) (node :: otherRest)
  | inside {context : Context} {wrap : Content → Node} {inner otherInner rest otherRest : List Node} :
      Wrapper wrap → SameSides context inner otherInner → SameSides context rest otherRest →
      SameSides context (wrap (.nodes inner) :: rest) (wrap (.nodes otherInner) :: otherRest)
  | relabelled {context : Context} {entity : Entity} (label otherLabel : Content)
      {rest otherRest : List Node} :
      ¬ entity.ShownByLabel context → SameSides context rest otherRest →
      SameSides context (.entity entity label :: rest) (.entity entity otherLabel :: otherRest)
  | typed {context : Context} {entity other : Entity} {text : String} {rest otherRest : List Node} :
      entity.ShownByLabel context → other.ShownByLabel context → text ≠ "" →
      SameSides context rest otherRest →
      SameSides context (.entity entity (.text text) :: rest) (.entity other (.text text) :: otherRest)
  | labelled {context : Context} {entity other : Entity}
      {inner otherInner rest otherRest : List Node} :
      entity.ShownByLabel context → other.ShownByLabel context → inner ≠ [] →
      SameSides .header inner otherInner → SameSides context rest otherRest →
      SameSides context (.entity entity (.nodes inner) :: rest)
        (.entity other (.nodes otherInner) :: otherRest)

theorem Node.SameSides.ne_nil {context : Context} {nodes others : List Node}
    (same : Node.SameSides context nodes others) (held : nodes ≠ []) : others ≠ [] := by
  cases same with
  | nil => exact absurd rfl held
  | keep | inside | relabelled | typed | labelled => exact List.cons_ne_nil _ _

namespace Renderer

variable {renderer : Renderer} {context : Context} {message other : List Node}

theorem exists_node_of_not_shownByLabel {entity : Entity} (itself : ¬ entity.ShownByLabel context) :
    ∃ shown, ∀ label, renderer.node context (.entity entity label) = [shown] := by
  have presented : renderer.presentIn context entity ≠ none := mt presentIn_eq_none_iff.mp itself
  obtain ⟨shown, isShown⟩ := Option.ne_none_iff_exists'.mp presented
  exact ⟨shown, fun label => by rw [node, isShown]⟩

theorem node_of_shownByLabel {entity : Entity} (byLabel : entity.ShownByLabel context)
    {label : Content} (held : label.isEmpty = false) :
    renderer.node context (.entity entity label) = renderer.content .header label := by
  have absent : renderer.presentIn context entity = none := presentIn_eq_none_iff.mpr byLabel
  simp [node, absent, held]

theorem nodes_sameSides (same : Node.SameSides context message other) :
    renderer.nodes context message = renderer.nodes context other := by
  -- The context changes along the derivation: what is known of a label is known in a header.
  induction same with
  | nil => rfl
  | keep node _ sameRest => rw [nodes, nodes, sameRest]
  | inside wrapper _ _ sameInner sameRest =>
      rw [nodes, nodes, node_wrapper_congr wrapper sameInner, sameRest]
  | @relabelled context entity _ _ _ _ itself _ sameRest =>
      obtain ⟨shown, own⟩ : ∃ shown, ∀ label, renderer.node context (.entity entity label) = [shown] :=
        exists_node_of_not_shownByLabel itself
      rw [nodes, nodes, own, own, sameRest]
  | @typed _ _ _ text _ _ byLabel otherByLabel nonempty _ sameRest =>
      have held : (Content.text text).isEmpty = false := by
        simpa [Content.isEmpty] using nonempty
      rw [nodes, nodes, node_of_shownByLabel byLabel held, node_of_shownByLabel otherByLabel held,
        sameRest]
  | @labelled _ _ _ inner otherInner _ _ byLabel otherByLabel nonempty within _ sameInner sameRest =>
      have held : (Content.nodes inner).isEmpty = false := by
        simpa [Content.isEmpty] using nonempty
      have otherHeld : (Content.nodes otherInner).isEmpty = false := by
        simpa [Content.isEmpty] using within.ne_nil nonempty
      rw [nodes, nodes, node_of_shownByLabel byLabel held,
        node_of_shownByLabel otherByLabel otherHeld, content, content, sameInner, sameRest]

/-- Each context shows one side of an entity. In content and in a reply the labels of mentions,
emoji and timestamps in range may be any others; in a header an entity with a label that holds
something may be any other, and so may a timestamp out of range everywhere. -/
theorem render_sameSides (renderer : Renderer) {context : Context} {message other : List Node}
    (same : Node.SameSides context message other) :
    renderer.render context message = renderer.render context other :=
  congrArg Html.writeAll (nodes_sameSides same)

/-- Another label of a user beside another role inside of the label of a timestamp out of range. -/
theorem render_sameSides_reply :
    Node.SameSides .reply
        [.style .strong [.entity (.user "1") (.text "a"),
          .entity (.timestamp 8210266876800 none) (.nodes [.entity (.role "2") (.text "b")])]]
        [.style .strong [.entity (.user "1") (.nodes [.lineBreak]),
          .entity (.timestamp 8210266876800 none) (.nodes [.entity (.role "3") (.text "b")])]] ∧
      standard.render .reply
          [.style .strong [.entity (.user "1") (.text "a"),
            .entity (.timestamp 8210266876800 none) (.nodes [.entity (.role "2") (.text "b")])]] =
        standard.render .reply
          [.style .strong [.entity (.user "1") (.nodes [.lineBreak]),
            .entity (.timestamp 8210266876800 none) (.nodes [.entity (.role "3") (.text "b")])]] := by
  have itself : ¬ (Entity.user "1").ShownByLabel .reply := by
    simp [Entity.ShownByLabel, Entity.OutOfRange]
  have outside : (Entity.timestamp 8210266876800 none).ShownByLabel .reply :=
    .inr (by simp [Entity.OutOfRange, Timestamp.InRange, Timestamp.latest])
  have same : Node.SameSides .reply
      [.style .strong [.entity (.user "1") (.text "a"),
        .entity (.timestamp 8210266876800 none) (.nodes [.entity (.role "2") (.text "b")])]]
      [.style .strong [.entity (.user "1") (.nodes [.lineBreak]),
        .entity (.timestamp 8210266876800 none) (.nodes [.entity (.role "3") (.text "b")])]] :=
    .inside (.styled .strong)
      (.relabelled _ _ itself
        (.labelled outside outside (by simp)
          (.typed (.inl rfl) (.inl rfl) (by simp) (.nil _)) (.nil _))) (.nil _)
  exact ⟨same, render_sameSides standard same⟩

end Renderer

/-! ## Labels as they are typed -/

/-- An entity with an empty label, and one composed with the markup that is typed for it. Emoji without
an id need to have no more than the name in common. -/
inductive Node.Unlabelled : Node → Node → Prop where
  | entity (entity : Entity) {label : Content} :
      (∀ emoji, entity ≠ .emoji emoji) → label.isEmpty = true →
      Unlabelled (.entity entity label) (.ofEntity entity)
  | emoji (emoji : Emoji) (animated : Bool) {label : Content} :
      emoji.customId? = none → label.isEmpty = true →
      Unlabelled (.entity (.emoji emoji) label) (.ofEntity (.emoji ⟨none, emoji.name, animated⟩))

theorem Entity.typed_eq_rawForm {entity : Entity} (notEmoji : ∀ emoji, entity ≠ .emoji emoji) :
    entity.typed = entity.rawForm := by
  cases entity with
  | channel | role | user | broadcast | timestamp => rfl
  | emoji emoji => exact absurd rfl (notEmoji emoji)

namespace Renderer

variable {renderer : Renderer}

theorem node_of_isEmpty {entity other : Entity} {label : Content} (context : Context)
    (presented : renderer.present entity = renderer.present other)
    (typed : other.typed = entity.rawForm) (empty : label.isEmpty = true) :
    renderer.node context (.entity entity label) = renderer.node context (.ofEntity other) := by
  have presentedIn : renderer.presentIn context entity = renderer.presentIn context other := by
    cases context with
    | header => rfl
    | content | reply => exact presented
  -- The raw form stands for the empty label, and for the other label what is typed in it.
  have own : renderer.content .header (.nodes [.text other.typed]) = [.text entity.rawForm] := by
    rw [content, nodes, nodes, node, List.append_nil, typed]
  rw [Node.ofEntity, node, node, presentedIn, if_pos empty, own]
  rfl

theorem present_emoji_of_name {emoji other : Emoji} (idless : emoji.customId? = none)
    (otherIdless : other.customId? = none) (sameName : emoji.name = other.name) :
    renderer.present (.emoji emoji) = renderer.present (.emoji other) := by
  simp only [present, Emoji.Bases.url, Emoji.alternative, idless, otherIdless, sameName]

theorem node_eq_of_unlabelled {node other : Node} (context : Context)
    (unlabelled : Node.Unlabelled node other) :
    renderer.node context node = renderer.node context other := by
  cases unlabelled with
  | entity entity notEmoji empty =>
      exact node_of_isEmpty context rfl (Entity.typed_eq_rawForm notEmoji) empty
  | emoji emoji animated idless empty =>
      have alternative : emoji.alternative = emoji.name := by
        rw [Emoji.alternative, idless]
      exact node_of_isEmpty context (present_emoji_of_name idless rfl rfl) alternative.symm empty

/-- An entity with an empty label and one with the markup that is typed for it as its label look the
same, in every context, wherever they stand and however many of them are exchanged for each other. -/
theorem render_unlabelled (renderer : Renderer) (context : Context) {message other : List Node}
    (replaced : Node.Replaced (Relation.SymmGen Node.Unlabelled) message other) :
    renderer.render context message = renderer.render context other := by
  have step {node other : Node} (context : Context) (either : Relation.SymmGen Node.Unlabelled node other) :
      renderer.node context node = renderer.node context other :=
    either.elim (node_eq_of_unlabelled context) fun back => (node_eq_of_unlabelled context back).symm
  exact congrArg Html.writeAll (nodes_replaced step replaced context)

/-- A role and an emoji inside of the label of a timestamp out of range, one exchanged in each
direction. -/
theorem render_unlabelled_both :
    Node.Replaced (Relation.SymmGen Node.Unlabelled)
        [.entity (.timestamp 8210266876800 none)
          (.nodes [.entity (.role "<7>") .empty, .ofEntity (.emoji (.unicode "x"))])]
        [.entity (.timestamp 8210266876800 none)
          (.nodes [.ofEntity (.role "<7>"), .entity (.emoji ⟨some "", "x", true⟩) .empty])] ∧
      standard.render .reply
          [.entity (.timestamp 8210266876800 none)
            (.nodes [.entity (.role "<7>") .empty, .ofEntity (.emoji (.unicode "x"))])] =
        standard.render .reply
          [.entity (.timestamp 8210266876800 none)
            (.nodes [.ofEntity (.role "<7>"), .entity (.emoji ⟨some "", "x", true⟩) .empty])] := by
  have replaced : Node.Replaced (Relation.SymmGen Node.Unlabelled)
      [.entity (.timestamp 8210266876800 none)
        (.nodes [.entity (.role "<7>") .empty, .ofEntity (.emoji (.unicode "x"))])]
      [.entity (.timestamp 8210266876800 none)
        (.nodes [.ofEntity (.role "<7>"), .entity (.emoji ⟨some "", "x", true⟩) .empty])] :=
    .label _ (.step (.inl (.entity _ (fun _ same => by cases same) rfl))
      (.step (.inr (.emoji ⟨some "", "x", true⟩ false rfl rfl)) .nil)) .nil
  exact ⟨replaced, render_unlabelled standard .reply replaced⟩

end Renderer

end MessageMarkup
