import MessageMarkup.Proofs.Message.Subnodes
import MessageMarkup.Proofs.Rendering.Header
import MessageMarkup.Proofs.Text.Cutting

/-!
# Mentions and their names

A resolver is asked for the mentions that are shown and for no others: for none in a header,
and nowhere for one that stands in the label of an entity. What it answers for the mentions
that are shown can be told from the markup.
-/

set_option autoImplicit false

namespace MessageMarkup

/-! ## Agreement -/

namespace Resolver

/-- Two resolvers have the same answer for a node, if it mentions something with a name. -/
def AgreeAt (first second : Resolver) : Node → Prop
  | .entity (.channel id) _ => first.channel id = second.channel id
  | .entity (.role id) _ => first.role id = second.role id
  | .entity (.user id) _ => first.user id = second.user id
  | _ => True

def AgreeOn (first second : Resolver) (nodes : List Node) : Prop :=
  ∀ node ∈ nodes, first.AgreeAt second node

variable {first second : Resolver}

theorem agreeOn_append {left right : List Node} :
    first.AgreeOn second (left ++ right) ↔
      first.AgreeOn second left ∧ first.AgreeOn second right :=
  List.forall_mem_append

theorem agreeOn_singleton {node : Node} :
    first.AgreeOn second [node] ↔ first.AgreeAt second node :=
  List.forall_mem_singleton

/-- A node that mentions nothing adds nothing to agree on. -/
theorem agreeOn_cons {node : Node} (own : first.AgreeAt second node) (inside : List Node) :
    first.AgreeOn second (node :: inside) ↔ first.AgreeOn second inside := by
  rw [AgreeOn, List.forall_mem_cons]
  exact and_iff_right own

end Resolver

namespace Text

theorem escapeChars_injective : Function.Injective escapeChars :=
  Function.LeftInverse.injective unescape_escapeChars

theorem bracket_not_mem_escapeChars (chars : List Char) : '<' ∉ escapeChars chars := by
  intro member
  have sign := (escaped_escapeChars chars).eq_of_mem_reserved member (by decide)
  cases sign

/-- Escaped text can be told from what follows it, if that begins with a bracket. -/
theorem escapeChars_append_inj {chars others after rest : List Char} :
    escapeChars chars ++ '<' :: after = escapeChars others ++ '<' :: rest ↔
      chars = others ∧ after = rest := by
  rw [append_mark_inj (bracket_not_mem_escapeChars chars) (bracket_not_mem_escapeChars others),
    escapeChars_injective.eq_iff]

end Text

/-! ## What markup tells -/

namespace Html

/-- Two lists of pieces have the same markup, and the same text after it, just if a condition
holds. -/
def SameIff (condition : Prop) (pieces others : List Html) : Prop :=
  ∀ after rest : List Char,
    (writeAll pieces).toList ++ after = (writeAll others).toList ++ rest ↔
      condition ∧ after = rest

variable {condition : Prop} {pieces others : List Html}

theorem sameIff_refl (holds : condition) (pieces : List Html) : SameIff condition pieces pieces := by
  intro after rest
  rw [List.append_cancel_left_eq, and_iff_right holds]

theorem SameIff.congr {other : Prop} (same : SameIff condition pieces others)
    (equivalent : other ↔ condition) : SameIff other pieces others := by
  intro after rest
  rw [equivalent]
  exact same after rest

theorem SameIff.append {further : Prop} {left right : List Html}
    (same : SameIff condition pieces others) (sameThen : SameIff further left right) :
    SameIff (condition ∧ further) (pieces ++ left) (others ++ right) := by
  intro after rest
  simp only [writeAll_append, String.toList_append, List.append_assoc]
  rw [same, sameThen, and_assoc]

theorem SameIff.element (same : SameIff condition pieces others) (tag : Tag)
    (attributes : List Attribute) :
    SameIff condition [.element tag attributes pieces] [.element tag attributes others] := by
  intro after rest
  simp only [writeAll, write, String.append_empty, String.toList_append, List.append_assoc,
    List.append_cancel_left_eq]
  rw [same, List.append_cancel_left_eq]

theorem SameIff.quotation (same : SameIff condition pieces others) :
    SameIff condition [.quotation pieces] [.quotation others] := by
  have bar : SameIff True [.element .span [] []] [.element .span [] []] := sameIff_refl trivial _
  have both := (bar.append (same.element .division [])).element .blockquote []
  exact both.congr (and_iff_right trivial).symm

theorem sameIff_mention {shown other : String} :
    SameIff (shown = other) [.mention shown] [.mention other] := by
  intro after rest
  have closing : (endTag .span).toList = '<' :: "/span>".toList := rfl
  simp only [mention, writeAll, write, String.append_empty, String.toList_append,
    List.append_assoc, List.append_cancel_left_eq, Text.toList_escape, closing, List.cons_append]
  rw [Text.escapeChars_append_inj, List.append_cancel_left_eq, String.toList_inj]

end Html

namespace Renderer

/-- The same services with another resolver. -/
def resolving (renderer : Renderer) (resolver : Resolver) : Renderer :=
  { renderer with resolver := resolver }

/-! ## Names that are shown -/

/-- Whether there is a name can be seen, if the raw form does not begin with the mark of one. -/
theorem named_inj {raw mark : String} (apart : ∀ name, raw ≠ mark ++ name) {name other : Option String} :
    name.elim raw (mark ++ ·) = other.elim raw (mark ++ ·) ↔ name = other := by
  cases name with
  | none =>
      cases other with
      | none => exact iff_of_true rfl rfl
      | some other => exact iff_of_false (apart other) (by simp)
  | some name =>
      cases other with
      | none => exact iff_of_false (Ne.symm (apart name)) (by simp)
      | some other => simp

theorem channel_apart (id name : String) : (Entity.channel id).rawForm ≠ "#" ++ name := by
  intro same
  have chars := congrArg String.toList same
  simp [Entity.rawForm] at chars

theorem role_apart (id name : String) : (Entity.role id).rawForm ≠ "@" ++ name := by
  intro same
  have chars := congrArg String.toList same
  simp [Entity.rawForm] at chars

theorem user_apart (id name : String) : (Entity.user id).rawForm ≠ "@" ++ name := by
  intro same
  have chars := congrArg String.toList same
  simp [Entity.rawForm] at chars

variable {renderer : Renderer} {first second : Resolver} {context : Context}

theorem sameIff_entity (shows : context ≠ .header) (entity : Entity) (label : Content) :
    Html.SameIff (first.AgreeAt second (.entity entity label))
      ((renderer.resolving first).node context (.entity entity label))
      ((renderer.resolving second).node context (.entity entity label)) := by
  rw [node, node, presentIn_of_ne_header shows, presentIn_of_ne_header shows]
  cases entity with
  | channel id => exact Html.sameIff_mention.congr (named_inj (channel_apart id)).symm
  | role id => exact Html.sameIff_mention.congr (named_inj (role_apart id)).symm
  | user id => exact Html.sameIff_mention.congr (named_inj (user_apart id)).symm
  | broadcast | emoji => exact Html.sameIff_refl trivial _
  | timestamp seconds style =>
      have sameLabel : (renderer.resolving first).content .header label =
          (renderer.resolving second).content .header label :=
        content_header (by rfl) label
      rw [sameLabel]
      exact Html.sameIff_refl trivial _

mutual

theorem sameIff_node (shows : context ≠ .header) :
    ∀ node : Node,
      Html.SameIff (first.AgreeOn second (node.reached fun _ => false))
        ((renderer.resolving first).node context node)
        ((renderer.resolving second).node context node)
  | .text _ | .lineBreak | .codeBlock _ _ | .inlineCode _ =>
      Html.sameIff_refl (Resolver.agreeOn_singleton.mpr (by trivial)) _
  | .link form target label =>
      ((sameIff_content shows label).element _ _).congr (Resolver.agreeOn_cons (by trivial) _)
  | .blockQuote quoted => by
      have own : first.AgreeAt second (.blockQuote quoted) := trivial
      have same := (sameIff_content shows quoted).congr (Resolver.agreeOn_cons own _)
      cases context with
      | reply => exact same
      | content | header => exact same.quotation
  | .styled style styled =>
      ((sameIff_content shows styled).element _ _).congr (Resolver.agreeOn_cons (by trivial) _)
  | .emoticon shown => (sameIff_content shows shown).congr (Resolver.agreeOn_cons (by trivial) _)
  | .spoiler hidden =>
      ((sameIff_content shows hidden).element _ _).congr (Resolver.agreeOn_cons (by trivial) _)
  | .entity entity label =>
      (sameIff_entity shows entity label).congr Resolver.agreeOn_singleton
  | .unknown _ kept => (sameIff_content shows kept).congr (Resolver.agreeOn_cons (by trivial) _)

theorem sameIff_content (shows : context ≠ .header) :
    ∀ content : Content,
      Html.SameIff (first.AgreeOn second (content.reached fun _ => false))
        ((renderer.resolving first).content context content)
        ((renderer.resolving second).content context content)
  | .text _ => Html.sameIff_refl (List.forall_mem_nil _) _
  | .nodes inner => sameIff_nodes shows inner

theorem sameIff_nodes (shows : context ≠ .header) :
    ∀ nodes : List Node,
      Html.SameIff (first.AgreeOn second (Node.reachedAll (fun _ => false) nodes))
        ((renderer.resolving first).nodes context nodes)
        ((renderer.resolving second).nodes context nodes)
  | [] => Html.sameIff_refl (List.forall_mem_nil _) _
  | head :: tail =>
      ((sameIff_node shows head).append (sameIff_nodes shows tail)).congr Resolver.agreeOn_append

end

/-- The names of mentions are all that a message takes from a resolver. With two of them it
looks the same just if it is a header, or if they agree on all mentions that are not inside of
a label. -/
theorem render_resolver_iff (renderer : Renderer) (context : Context) (message : List Node)
    (first second : Resolver) :
    (renderer.resolving first).render context message =
        (renderer.resolving second).render context message ↔
      context = .header ∨ first.AgreeOn second (Node.exposed message) := by
  by_cases header : context = .header
  · subst header
    exact iff_of_true (congrArg Html.writeAll (nodes_header (by rfl) message)) (.inl rfl)
  · have told : Html.SameIff (first.AgreeOn second (Node.exposed message))
        ((renderer.resolving first).nodes context message)
        ((renderer.resolving second).nodes context message) :=
      sameIff_nodes header message
    have same := told [] []
    rw [List.append_nil, List.append_nil, String.toList_inj] at same
    rw [or_iff_right header]
    exact same.trans (and_iff_left rfl)

end Renderer

end MessageMarkup
