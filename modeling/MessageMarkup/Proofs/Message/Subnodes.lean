import MessageMarkup.Message.Node

/-!
# The nodes inside of messages

Nodes stand inside of the content of other nodes. The labels of entities are content as
well, but they are shown only where the entity is not, so a walk through a message says
which labels it enters.
-/

set_option autoImplicit false

namespace MessageMarkup

/-! ## Walks -/

mutual

/-- A node and the nodes inside of it, in document order. Only the labels of those
entities are entered that the walk asks for. -/
def Node.reached (enters : Entity → Bool) : Node → List Node
  | .text text => [.text text]
  | .lineBreak => [.lineBreak]
  | .link form target label => .link form target label :: label.reached enters
  | .blockQuote inner => .blockQuote inner :: inner.reached enters
  | .codeBlock language code => [.codeBlock language code]
  | .inlineCode code => [.inlineCode code]
  | .styled style inner => .styled style inner :: inner.reached enters
  | .emoticon inner => .emoticon inner :: inner.reached enters
  | .spoiler inner => .spoiler inner :: inner.reached enters
  | .entity entity label =>
      .entity entity label :: if enters entity then label.reached enters else []
  | .unknown kind inner => .unknown kind inner :: inner.reached enters

def Content.reached (enters : Entity → Bool) : Content → List Node
  | .text _ => []
  | .nodes inner => Node.reachedAll enters inner

def Node.reachedAll (enters : Entity → Bool) : List Node → List Node
  | [] => []
  | first :: rest => first.reached enters ++ Node.reachedAll enters rest

end

/-- All nodes in content, at any depth. -/
def Content.subnodes (content : Content) : List Node :=
  content.reached fun _ => true

/-- What a node holds. A line break holds nothing. -/
def Node.held : Node → Content
  | .text typed => .text typed
  | .lineBreak => .empty
  | .link _ _ label => label
  | .blockQuote inner => inner
  | .codeBlock _ code => .text code
  | .inlineCode code => .text code
  | .styled _ inner => inner
  | .emoticon inner => inner
  | .spoiler inner => inner
  | .entity _ label => label
  | .unknown _ inner => inner

theorem Node.reached_all (node : Node) :
    node.reached (fun _ => true) = node :: node.held.subnodes := by
  cases node <;> rfl

/-- The nodes of a message that are not inside of a label. -/
def Node.exposed (message : List Node) : List Node :=
  Node.reachedAll (fun _ => false) message

theorem Content.reached_of_isEmpty {content : Content} (empty : content.isEmpty = true)
    (enters : Entity → Bool) : content.reached enters = [] := by
  cases content with
  | text typed => rfl
  | nodes inner =>
      obtain rfl := List.isEmpty_iff.mp empty
      rfl

/-! ## Kinds of nodes -/

def Node.isBlockQuote : Node → Bool
  | .blockQuote _ => true
  | _ => false

/-- Whether a node is code on lines of its own. -/
def Node.isCodeBlock : Node → Bool
  | .codeBlock _ _ => true
  | _ => false

/-! ## Timestamps out of range -/

/-- Whether a timestamp has a text. -/
def Timestamp.InRange (seconds : Int) : Prop :=
  earliest ≤ seconds ∧ seconds ≤ latest

instance (seconds : Int) : Decidable (Timestamp.InRange seconds) :=
  inferInstanceAs (Decidable (_ ∧ _))

theorem Timestamp.format_eq_none_iff {offset : UtcOffset} {seconds : Int}
    {style : Option Style} : format offset seconds style = none ↔ ¬ InRange seconds := by
  rw [InRange, ← format_isSome offset seconds style, Option.not_isSome_iff_eq_none]

/-- The nodes in the label of a timestamp that is out of range. -/
def Node.fallback : Node → List Node
  | .entity (.timestamp seconds _) label =>
      if Timestamp.InRange seconds then [] else label.subnodes
  | _ => []

/-- The nodes of a message that are shown in the place of timestamps out of range. -/
def Node.fallbacks (message : List Node) : List Node :=
  (Node.exposed message).flatMap Node.fallback

end MessageMarkup
