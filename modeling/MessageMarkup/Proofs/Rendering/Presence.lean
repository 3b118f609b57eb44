import MessageMarkup.Proofs.Message.Subnodes
import MessageMarkup.Render

/-!
# Entities that disappear

A mention or a timestamp is shown by its label in a header, and a timestamp out of range in every
context. Its raw form takes the place of a label that holds nothing. A label may hold something
and still show nothing, though, and then the entity disappears.
-/

set_option autoImplicit false

namespace MessageMarkup

/-! ## Labels that show nothing -/

/-- The text that content holds itself, not in nodes. -/
def Content.typed : Content → String
  | .text typed => typed
  | .nodes _ => ""

/-- Whether a node puts nothing into a header, apart from what the nodes inside of it do. -/
def Node.Silent : Node → Prop
  | .text shown => shown = ""
  | .lineBreak => True
  | .emoticon inner => inner.typed = ""
  | .unknown _ inner => inner.typed = ""
  | .entity mentioned label =>
      label.typed = "" ∧ (label.isEmpty = true → mentioned.rawForm = "")
  | .link _ _ _ | .blockQuote _ | .codeBlock _ _ | .inlineCode _ | .styled _ _ | .spoiler _ => False

/-- Content without typed text in which every node, at any depth, is silent. -/
def Content.Blank (content : Content) : Prop :=
  content.typed = "" ∧ ∀ node ∈ content.subnodes, node.Silent

theorem Content.blank_of_isEmpty {content : Content} (empty : content.isEmpty = true) :
    content.Blank := by
  constructor
  · cases content with
    | text typed => exact String.isEmpty_iff.mp empty
    | nodes inner => rfl
  · rw [subnodes, reached_of_isEmpty empty]
    exact List.forall_mem_nil _

theorem Text.escape_eq_empty_iff {text : String} : escape text = "" ↔ text = "" := by
  have some (char : Char) : escapeChar char ≠ [] := by
    unfold escapeChar entity?
    split <;> rename_i found
    · split at found <;> cases found <;> decide
    · exact List.cons_ne_nil _ _
  rw [← String.toList_inj, ← String.toList_inj, toList_escape, escapeChars, String.toList_empty,
    List.flatMap_eq_nil_iff]
  simp [some, List.eq_nil_iff_forall_not_mem]

namespace Html

theorem writeAll_text_eq_empty_iff {shown : String} : writeAll [.text shown] = "" ↔ shown = "" := by
  rw [writeAll, writeAll, write, String.append_empty, Text.escape_eq_empty_iff]

theorem writeAll_element_ne_empty (tag : Tag) (attributes : List Attribute) (children : List Html) :
    writeAll [.element tag attributes children] ≠ "" := by
  simp [writeAll, write, openTag]

theorem writeAll_void_ne_empty (tag : Tag) (attributes : List Attribute) (slashed : Bool) :
    writeAll [.void tag attributes slashed] ≠ "" := by
  simp [writeAll, write, openTag]

end Html

/-- Whether an entity is a timestamp that has no text. -/
def Entity.OutOfRange : Entity → Prop
  | .timestamp seconds _ => ¬ Timestamp.InRange seconds
  | .channel _ | .role _ | .user _ | .broadcast _ | .emoji _ => False

theorem Entity.rawForm_ne_empty {entity : Entity} (notEmoji : ∀ emoji, entity ≠ .emoji emoji) :
    entity.rawForm ≠ "" := by
  cases entity with
  | channel | role | user | broadcast | timestamp => simp [rawForm]
  | emoji emoji => exact absurd rfl (notEmoji emoji)

namespace Renderer

variable {renderer : Renderer}

/-! ## Headers -/

/-- A blank label is shown as nothing, unless it holds nothing and the raw form takes its place. -/
theorem label_eq_empty_iff {label : Content} (raw : String)
    (inner : Html.writeAll (renderer.content .header label) = "" ↔ label.Blank) :
    Html.writeAll (if label.isEmpty then [.text raw] else renderer.content .header label) = "" ↔
      label.Blank ∧ (label.isEmpty = true → raw = "") := by
  by_cases empty : label.isEmpty = true
  · rw [if_pos empty, Html.writeAll_text_eq_empty_iff,
      and_iff_right (Content.blank_of_isEmpty empty), imp_iff_right empty]
  · rw [if_neg empty, inner, and_iff_left fun held => absurd held empty]

mutual

theorem header_node_eq_empty_iff : ∀ node : Node,
    Html.writeAll (renderer.node .header node) = "" ↔
      ∀ inner ∈ node.reached fun _ => true, inner.Silent
  | .text shown => by
      rw [Node.reached, List.forall_mem_singleton]
      exact Html.writeAll_text_eq_empty_iff
  | .lineBreak => by
      rw [Node.reached, List.forall_mem_singleton]
      exact iff_of_true rfl trivial
  | .link form target label =>
      iff_of_false (Html.writeAll_element_ne_empty _ _ _) fun all => all _ List.mem_cons_self
  | .blockQuote quoted =>
      iff_of_false (Html.writeAll_element_ne_empty _ _ _) fun all => all _ List.mem_cons_self
  | .codeBlock language code =>
      iff_of_false (Html.writeAll_element_ne_empty _ _ _) fun all => all _ List.mem_cons_self
  | .inlineCode code =>
      iff_of_false (Html.writeAll_element_ne_empty _ _ _) fun all => all _ List.mem_cons_self
  | .styled style styled =>
      iff_of_false (Html.writeAll_element_ne_empty _ _ _) fun all => all _ List.mem_cons_self
  | .emoticon shown => by
      rw [Node.reached, List.forall_mem_cons]
      exact header_content_eq_empty_iff shown
  | .spoiler hidden =>
      iff_of_false (Html.writeAll_element_ne_empty _ _ _) fun all => all _ List.mem_cons_self
  | .entity entity label => by
      rw [Node.reached_all, List.forall_mem_cons, node, presentIn]
      exact (label_eq_empty_iff _ (header_content_eq_empty_iff label)).trans and_right_comm
  | .unknown _ kept => by
      rw [Node.reached, List.forall_mem_cons]
      exact header_content_eq_empty_iff kept

theorem header_content_eq_empty_iff : ∀ content : Content,
    Html.writeAll (renderer.content .header content) = "" ↔ content.Blank
  | .text typed => by
      have inside : ∀ node ∈ (Content.text typed).subnodes, node.Silent := List.forall_mem_nil _
      rw [content, Html.writeAll_text_eq_empty_iff, Content.Blank, and_iff_left inside]
      rfl
  | .nodes inner => by
      rw [content, header_nodes_eq_empty_iff inner, Content.Blank]
      exact (and_iff_right rfl).symm

theorem header_nodes_eq_empty_iff : ∀ nodes : List Node,
    Html.writeAll (renderer.nodes .header nodes) = "" ↔
      ∀ inner ∈ Node.reachedAll (fun _ => true) nodes, inner.Silent
  | [] => iff_of_true rfl (List.forall_mem_nil _)
  | first :: rest => by
      rw [nodes, Html.writeAll_append, String.append_eq_empty_iff, Node.reachedAll,
        List.forall_mem_append, header_node_eq_empty_iff first, header_nodes_eq_empty_iff rest]

end

/-! ## Entities -/

theorem present_ne_empty {entity : Entity} {shown : Html}
    (presented : renderer.present entity = some shown) : Html.writeAll [shown] ≠ "" := by
  rcases present_cases presented with ⟨text, rfl⟩ | ⟨address, alternative, rfl⟩ | ⟨text, rfl⟩
  · exact Html.writeAll_element_ne_empty _ _ _
  · exact Html.writeAll_void_ne_empty _ _ _
  · exact Html.writeAll_element_ne_empty _ _ _

theorem present_eq_none_iff {entity : Entity} :
    renderer.present entity = none ↔ entity.OutOfRange := by
  cases entity with
  | channel | role | user | broadcast | emoji => simp [present, Entity.OutOfRange]
  | timestamp seconds style =>
      rw [present, Option.map_eq_none_iff, Timestamp.format_eq_none_iff]
      rfl

theorem presentIn_eq_none_iff {context : Context} {entity : Entity} :
    renderer.presentIn context entity = none ↔ context = .header ∨ entity.OutOfRange := by
  cases context with
  | header => simp [presentIn]
  | content | reply => simp [presentIn, present_eq_none_iff]

/-- A mention or a timestamp disappears exactly if its label is shown, holds something and shows
nothing of it. If the label holds nothing, its raw form is shown. -/
theorem mention_disappears_iff (renderer : Renderer) (context : Context) (entity : Entity)
    (label : Content) (notEmoji : ∀ emoji, entity ≠ .emoji emoji) :
    (renderer.render context [.entity entity label] = "" ↔
        (context = .header ∨ entity.OutOfRange) ∧ label.isEmpty = false ∧ label.Blank) ∧
      (context = .header ∨ entity.OutOfRange → label.isEmpty = true →
        renderer.render context [.entity entity label] = Text.escape entity.rawForm) := by
  have alone : renderer.render context [.entity entity label] =
      Html.writeAll (renderer.node context (.entity entity label)) := by
    rw [render, nodes, nodes, List.append_nil]
  have absent : renderer.presentIn context entity = none ↔ _ := presentIn_eq_none_iff
  rw [alone, node, ← absent]
  cases presented : renderer.presentIn context entity with
  | some shown =>
      have visible : Html.writeAll [shown] ≠ "" := present_ne_empty (present_of_presentIn presented)
      simp [visible]
  | none =>
      constructor
      · have raw := entity.rawForm_ne_empty notEmoji
        have told := label_eq_empty_iff entity.rawForm
          (header_content_eq_empty_iff label : Html.writeAll (renderer.content .header label) = "" ↔ _)
        simpa [raw, and_comm] using told
      · intro _ empty
        simp [empty, Html.writeAll, Html.write]

/-- A user whose label is one empty text. -/
theorem mention_disappears_user :
    standard.render .header [.entity (.user "1") (.nodes [.text ""])] = "" := by
  have told := mention_disappears_iff standard .header (.user "1") (.nodes [.text ""])
    (fun _ same => by cases same)
  refine told.1.mpr ⟨.inl rfl, rfl, rfl, ?_⟩
  exact List.forall_mem_singleton.mpr rfl

end Renderer

end MessageMarkup
