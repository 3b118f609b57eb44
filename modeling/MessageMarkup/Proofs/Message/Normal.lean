import MessageMarkup.Proofs.Json.Writing
import MessageMarkup.Proofs.Message.Reading

/-!
# Nodes in normal form

Reading never gives an empty language or an empty emoji id, and it gives an unknown node
only where no other kind of node fits.
-/

set_option autoImplicit false

namespace MessageMarkup

/-- Kinds that have a model whatever the content and the other fields are. -/
def contentKinds : List String :=
  ["blockQuote", "br", "newline", "here", "everyone", "em", "strong", "underline",
    "strikethrough", "emoticon", "spoiler"]

/-- Kinds that have a model whenever the content is text. -/
def typedKinds : List String :=
  ["text", "codeBlock", "inlineCode"]

/-- A node that reading can give, its content aside. Seconds are a number of 64 bits. -/
def Node.Normal : Node → Prop
  | .codeBlock language _ => language ≠ some ""
  | .entity (.emoji emoji) _ => emoji.id ≠ some ""
  | .entity (.timestamp seconds _) _ => Text.fitsSigned 64 seconds = true
  | .unknown kind content =>
      kind ∉ contentKinds ∧ (kind ∈ typedKinds → ∀ typed, content ≠ .text typed)
  | _ => True

/-- Nodes that are in normal form at every depth. -/
def Node.AllNormal (nodes : List Node) : Prop :=
  ∀ node ∈ Node.reachedAll (fun _ => true) nodes, node.Normal

def Content.children : Content → List Node
  | .text _ => []
  | .nodes inner => inner

theorem Content.subnodes_eq (content : Content) :
    content.subnodes = Node.reachedAll (fun _ => true) content.children := by
  cases content <;> rfl

theorem Node.allNormal_iff {nodes : List Node} :
    AllNormal nodes ↔ ∀ node ∈ nodes, node.Normal ∧ AllNormal node.held.children := by
  induction nodes with
  | nil => simp [AllNormal, reachedAll]
  | cons first rest ih =>
      rw [List.forall_mem_cons, ← ih]
      simp only [AllNormal, reachedAll, reached_all, List.cons_append, List.forall_mem_cons,
        List.forall_mem_append, Content.subnodes_eq, and_assoc]

theorem Node.allNormal_singleton {node : Node} :
    AllNormal [node] ↔ node.Normal ∧ AllNormal node.held.children := by
  rw [allNormal_iff, List.forall_mem_singleton]

theorem Node.AllNormal.of_mem {nodes : List Node} {node : Node} (normal : AllNormal nodes)
    (member : node ∈ nodes) : AllNormal [node] :=
  allNormal_singleton.mpr (allNormal_iff.mp normal node member)

theorem Node.allNormal_nil : AllNormal [] :=
  allNormal_iff.mpr (List.forall_mem_nil _)

namespace Message

open Json

/-! ## Fields that reading gives -/

structure Field.Sound (field : Field) : Prop where
  number : ∀ number, field.number = some number → Text.fitsSigned 64 number = true
  content : ∀ content, field.content = some content → Node.AllNormal content.children
  node : ∀ node, field.node = some node → Node.AllNormal [node]

def Fields.Sound (fields : Fields) : Prop :=
  ∀ key field, fields key = some field → field.Sound

theorem fits_of_signed? {text : String} {value : Int} (read : Text.signed? 64 text = some value) :
    Text.fitsSigned 64 value = true :=
  (Option.filter_eq_some_iff.mp read).2

theorem Fields.Sound.seconds {fields : Fields} (sound : fields.Sound) {key : Key} {value : Int}
    (given : fields.seconds key = some value) : Text.fitsSigned 64 value = true := by
  obtain ⟨field, held, given⟩ := Option.bind_eq_some_iff.mp given
  rcases Option.or_eq_some_iff.mp (Option.or_eq_orElse.trans given) with typed | ⟨_, number⟩
  · obtain ⟨text, _, read⟩ := Option.bind_eq_some_iff.mp typed
    exact fits_of_signed? read
  · exact (sound key field held).number value number

theorem filter_nonempty_ne (text : Option String) :
    text.filter (fun own => !own.isEmpty) ≠ some "" := by
  intro same
  simpa using (Option.filter_eq_some_iff.mp same).2

theorem Fields.emoji_id {fields : Fields} {emoji : Emoji} (given : fields.emoji = some emoji) :
    emoji.id ≠ some "" := by
  obtain ⟨name, _, rfl⟩ := Option.map_eq_some_iff.mp given
  exact filter_nonempty_ne _

/-! ## Nodes that reading gives -/

theorem Fields.Sound.normal_of_model? {fields : Fields} (sound : fields.Sound) {kind : String}
    {content : Content} {node : Node} (modelled : fields.model? kind content = some node) :
    node.Normal := by
  unfold model? at modelled
  split at modelled <;>
    grind [Node.Normal, Option.map_eq_some_iff, filter_nonempty_ne, → Fields.emoji_id,
      Fields.Sound.seconds]

theorem Fields.modelled_of_contentKind (fields : Fields) {kind : String} (content : Content)
    (listed : kind ∈ contentKinds) : (fields.model? kind content).isSome = true := by
  simp only [contentKinds, List.mem_cons, List.not_mem_nil, or_false] at listed
  rcases listed with rfl | rfl | rfl | rfl | rfl | rfl | rfl | rfl | rfl | rfl | rfl <;> rfl

theorem Fields.modelled_of_typedKind (fields : Fields) {kind : String} (typed : String)
    (listed : kind ∈ typedKinds) : (fields.model? kind (.text typed)).isSome = true := by
  simp only [typedKinds, List.mem_cons, List.not_mem_nil, or_false] at listed
  rcases listed with rfl | rfl | rfl <;> rfl

theorem Fields.Sound.normal_node {fields : Fields} (sound : fields.Sound) :
    fields.node.Normal := by
  cases modelled : fields.model? ((fields.text .kind).getD "") (fields.contentOf .content) with
  | some node =>
      have same : fields.node = node := by simp [Fields.node, modelled]
      rw [same]
      exact sound.normal_of_model? modelled
  | none =>
      have same : fields.node =
          .unknown ((fields.text .kind).getD "") (fields.contentOf .content) := by
        simp [Fields.node, modelled]
      rw [same]
      constructor
      · intro listed
        have some := fields.modelled_of_contentKind (fields.contentOf .content) listed
        rw [modelled] at some
        cases some
      · intro listed typed text
        have some := fields.modelled_of_typedKind typed listed
        rw [← text, modelled] at some
        cases some

theorem Fields.Sound.allNormal {fields : Fields} (sound : fields.Sound) :
    Node.AllNormal [fields.node] := by
  rw [Node.allNormal_singleton]
  refine ⟨sound.normal_node, ?_⟩
  rcases fields.held_node with broken | held
  · rw [broken]
    exact Node.allNormal_nil
  · rw [held, contentOf]
    cases given : (fields .content).bind Field.content with
    | none => exact Node.allNormal_nil
    | some content =>
        obtain ⟨field, own, inner⟩ := Option.bind_eq_some_iff.mp given
        exact (sound .content field own).content content inner

theorem Fields.allNormal_ofEntries {entries : List (Key × Field)}
    (sound : ∀ entry ∈ entries, entry.2.Sound) : Node.AllNormal [(ofEntries entries).node] := by
  apply Fields.Sound.allNormal
  intro key field given
  exact sound _ (mem_of_ofEntries given)

theorem allNormal_of_allNodes {fields : List Field} {nodes : List Node}
    (sound : ∀ field ∈ fields, field.Sound) (all : allNodes fields = some nodes) :
    Node.AllNormal nodes := by
  rw [Node.allNormal_iff]
  intro node member
  obtain ⟨field, within, own⟩ := exists_field_of_allNodes all member
  exact Node.allNormal_singleton.mp ((sound field within).node node own)

theorem Field.allNormal_array {items : List Value} (sound : ∀ item ∈ items, (ofValue item).Sound)
    {node : Node} (own : (ofValue (.array items)).node = some node) : Node.AllNormal [node] := by
  rw [node_array] at own
  split at own
  · cases own
    apply Fields.allNormal_ofEntries
    intro entry member
    obtain ⟨item, within, same⟩ := List.mem_map.mp (List.of_mem_zip member).2
    exact same ▸ sound item within
  · cases own

theorem Field.allNormal_object {members : List (String × Value)}
    (sound : ∀ member ∈ members, (ofValue member.2).Sound) {node : Node}
    (own : (ofValue (.object members)).node = some node) : Node.AllNormal [node] := by
  rw [node_object] at own
  split at own
  · cases own
    apply Fields.allNormal_ofEntries
    intro entry member
    obtain ⟨named, listed, given⟩ := List.mem_filterMap.mp member
    obtain ⟨key, _, rfl⟩ := Option.map_eq_some_iff.mp given
    rw [ofMembers_eq] at listed
    obtain ⟨original, within, rfl⟩ := List.mem_map.mp listed
    exact sound original within
  · cases own

theorem Field.sound_ofValue (value : Value) : (ofValue value).Sound := by
  -- Content is sound since all its nodes are what some value inside serves as.
  induction value using Value.induct with
  | null => constructor <;> simp [ofValue, unfit]
  | boolean flag => constructor <;> simp [ofValue]
  | number number =>
      cases number with
      | integer value => constructor <;> simp [ofValue, Option.filter_eq_some_iff]
      | float => constructor <;> simp [ofValue, unfit]
  | string text =>
      constructor
      · simp [ofValue]
      · intro content given
        cases given
        exact Node.allNormal_nil
      · simp [ofValue]
  | array items ih =>
      refine ⟨by simp [ofValue], ?_, fun node own => allNormal_array ih own⟩
      intro content given
      rw [content_array, Option.or_eq_some_iff] at given
      rcases given with several | ⟨_, single⟩
      · obtain ⟨nodes, all, rfl⟩ := Option.map_eq_some_iff.mp several
        exact allNormal_of_allNodes (List.forall_mem_map.mpr ih) all
      · obtain ⟨node, own, rfl⟩ := Option.map_eq_some_iff.mp single
        exact allNormal_array ih own
  | object members ih =>
      refine ⟨by simp [ofValue], ?_, fun node own => allNormal_object ih own⟩
      intro content given
      rw [content_object] at given
      obtain ⟨node, own, rfl⟩ := Option.map_eq_some_iff.mp given
      exact allNormal_object ih own

/-! ## Messages that reading gives -/

theorem GivesEntries.of_value {room : Nat} {members : List (Spelling × Document)}
    {entries : List (Key × Field)} (gives : GivesEntries room members entries)
    {entry : Key × Field} (member : entry ∈ entries) : ∃ value, Field.ofValue value = entry.2 := by
  induction gives with
  | nil => cases member
  | other _ _ _ _ ih => exact ih member
  | field _ _ _ _ ih =>
      rcases List.mem_cons.mp member with rfl | later
      · exact ⟨_, rfl⟩
      · exact ih later

theorem allNormal_of_readNode {room : Nat} {document : Document} {node : Node}
    (read : readNode room document = .ok node) : Node.AllNormal [node] := by
  rcases form_of_readNode read with ⟨members, stop, rfl⟩ | ⟨items, stop, rfl⟩
  · obtain ⟨_, _, entries, gives, _, rfl⟩ := readNode_object.mp read
    apply Fields.allNormal_ofEntries
    intro entry member
    obtain ⟨value, same⟩ := gives.of_value member
    exact same ▸ Field.sound_ofValue value
  · obtain ⟨_, _, _, values, _, rfl⟩ := readNode_array.mp read
    apply Fields.allNormal_ofEntries
    intro entry member
    obtain ⟨value, _, same⟩ := List.mem_map.mp (List.of_mem_zip member).2
    exact same ▸ Field.sound_ofValue value

theorem allNormal_of_read {text : String} {nodes : List Node} (accepted : read text = .ok nodes) :
    Node.AllNormal nodes := by
  obtain ⟨items, each⟩ := exists_items_of_read accepted
  rw [Node.allNormal_iff]
  intro node member
  obtain ⟨item, readItem⟩ := exists_of_mem_right each member
  exact Node.allNormal_singleton.mp (allNormal_of_readNode readItem)

end Message

end MessageMarkup
