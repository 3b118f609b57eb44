import MessageMarkup.Proofs.Message.Degradation
import MessageMarkup.Proofs.Rendering.Levels

/-!
# How deep messages are nested

A node lies inside of another only if an array or object lies inside of another. The text of a
message may have so many of these open at once and no more, which bounds the nodes as well, however
they are spelled.
-/

set_option autoImplicit false

namespace MessageMarkup

open Json

namespace Json.Document

/-- What lies immediately in an array or object. -/
def inner : Document → List Document
  | .array items _ => items
  | .object members _ => members.map Prod.snd
  | _ => []

/-- What holds of a document whenever it holds of what lies in it holds of every document. -/
@[elab_as_elim]
theorem induct_inner {motive : Document → Prop}
    (step : ∀ document, (∀ child ∈ document.inner, motive child) → motive document)
    (document : Document) : motive document := by
  induction document using induct with
  | array items stop ih => exact step _ ih
  | object members stop ih => exact step _ (List.forall_mem_map.mpr ih)
  | null | boolean | number | cutNumber | string | missing =>
      exact step _ (List.forall_mem_nil _)

theorem depth_lt_of_inner {document child : Document} (member : child ∈ document.inner) :
    child.depth < document.depth := by
  cases document with
  | array items stop =>
      obtain ⟨deep, shallow⟩ := depth_array_le.mp (Nat.le_refl (array items stop).depth)
      have own := shallow child member
      omega
  | object members stop =>
      obtain ⟨deep, shallow⟩ := depth_object_le.mp (Nat.le_refl (object members stop).depth)
      obtain ⟨entry, within, rfl⟩ := List.mem_map.mp member
      have own := shallow entry within
      omega
  | null | boolean | number | cutNumber | string | missing => cases member

end Json.Document

namespace Message

/-! ## What lies in a record -/

theorem exists_member_of_given? {key : Key} {members : List (Spelling × Document)} {given : Document}
    (found : given? key members = some given) :
    ∃ name, (name, given) ∈ members ∧ fieldNamed? name = some key := by
  obtain ⟨⟨name, value⟩, first, rfl⟩ := Option.map_eq_some_iff.mp found
  exact ⟨name, List.mem_of_find?_eq_some first, by simpa using List.find?_some first⟩

theorem mem_of_lookup {key : Key} {items : List Document} {given : Document}
    (found : (Key.all.zip items).lookup key = some given) : given ∈ items := by
  obtain ⟨before, after, split, _⟩ := List.lookup_eq_some_iff.mp found
  have within : (key, given) ∈ Key.all.zip items := by simp [split]
  exact (List.of_mem_zip within).2

theorem mem_inner_of_suppliedFor? {key : Key} {document given : Document}
    (supplied : suppliedFor? key document = some given) : given ∈ document.inner := by
  cases document with
  | object members stop =>
      obtain ⟨name, member, _⟩ := exists_member_of_given? supplied
      exact List.mem_map_of_mem member
  | array items stop => exact mem_of_lookup supplied
  | null | boolean | number | cutNumber | string | missing => cases supplied

theorem exists_keep_of_suppliedFor? {room : Nat} {key : Key} {document given : Document} {node : Node}
    (read : readNode room document = .ok node) (supplied : suppliedFor? key document = some given) :
    ∃ value, given.keep (room - 1) = .ok value := by
  rcases form_of_readNode read with ⟨members, stop, rfl⟩ | ⟨items, stop, rfl⟩
  · obtain ⟨_, _, entries, gives, _, _⟩ := readNode_object.mp read
    obtain ⟨name, member, named⟩ := exists_member_of_given? supplied
    obtain ⟨value, keeps, _⟩ := gives.field_given member named
    exact ⟨value, keeps⟩
  · obtain ⟨_, _, _, values, kept, _⟩ := readNode_array.mp read
    exact exists_of_mem_left kept (mem_of_lookup supplied)

/-! ## Depth of nodes -/

/-- The nodes that a field can serve as, or that are in the content it can serve as, do not lie
deeper in one another than a bound. -/
structure Field.Within (field : Field) (bound : Nat) : Prop where
  content : ∀ content, field.content = some content → content.depth ≤ bound
  node : ∀ node, field.node = some node → node.depth ≤ bound

theorem Field.Within.mono {field : Field} {bound other : Nat} (within : field.Within bound)
    (below : bound ≤ other) : field.Within other where
  content content serves := Nat.le_trans (within.content content serves) below
  node node serves := Nat.le_trans (within.node node serves) below

theorem depth_contentGiven_le {document : Document} {bound : Nat}
    (each : ∀ given, suppliedFor? .content document = some given → (meaning given).Within bound) :
    (contentGiven document).depth ≤ bound := by
  rw [contentGiven]
  cases supplied : suppliedFor? .content document with
  | none => exact Nat.zero_le _
  | some given =>
      cases serves : (meaning given).content with
      | none => simp [serves, Content.empty, Content.depth, Node.depthAll]
      | some content => simpa [serves] using (each given supplied).content content serves

/-- A node lies one level above the content that it is given. -/
theorem depth_node_le {document : Document} :
    (fieldsGiven document).node.depth ≤ (contentGiven document).depth + 1 := by
  rcases (fieldsGiven document).held_node with broken | held
  · rw [broken]
    exact Nat.le_add_left _ _
  · exact Nat.le_of_eq (contentOf_fieldsGiven document ▸ held ▸ Node.depth_eq _)

theorem depth_pos_of_isRecord {document : Document} (record : IsRecord document) :
    0 < document.depth := by
  cases document with
  | array | object => exact Nat.succ_pos _
  | null | boolean | number | cutNumber | string | missing => exact record.elim

theorem depth_allNodes_le {fields : List Field} {nodes : List Node} {bound : Nat}
    (each : ∀ field ∈ fields, field.Within bound) (all : allNodes fields = some nodes) :
    Node.depthAll nodes ≤ bound := by
  rw [Node.depthAll_le]
  intro node member
  obtain ⟨field, within, own⟩ := exists_field_of_allNodes all member
  exact (each field within).node node own

/-- What a document can serve as is nested no deeper than the document is. -/
theorem within_meaning (document : Document) : (meaning document).Within document.depth := by
  induction document using Document.induct_inner with
  | step document ih =>
      -- A single node is content without any array around it, so the bound on nodes comes first.
      -- What a node has as content lies in the document, which leaves a level for the node itself.
      have node : ∀ node, (meaning document).node = some node → node.depth ≤ document.depth := by
        intro node own
        have record := isRecord_of_meaning own
        have content : (contentGiven document).depth ≤ document.depth - 1 := by
          apply depth_contentGiven_le
          intro given supplied
          have within := mem_inner_of_suppliedFor? supplied
          have lower := Document.depth_lt_of_inner within
          exact (ih given within).mono (by omega)
        have above : (fieldsGiven document).node.depth ≤ _ := depth_node_le
        have deep := depth_pos_of_isRecord record
        rw [eq_node_of_meaning own]
        omega
      refine ⟨fun content serves => ?_, node⟩
      cases document with
      | null | boolean | cutNumber | missing => cases serves
      | number numeral =>
          rw [meaning_number] at serves
          cases serves
      | string spelling =>
          rw [meaning_string] at serves
          obtain ⟨text, _, rfl⟩ := Option.map_eq_some_iff.mp serves
          exact Nat.zero_le _
      | array items stop =>
          rw [content_meaning_array, Option.or_eq_some_iff] at serves
          rcases serves with several | ⟨_, single⟩
          · obtain ⟨nodes, all, rfl⟩ := Option.map_eq_some_iff.mp several
            refine depth_allNodes_le (List.forall_mem_map.mpr fun item member => ?_) all
            exact (ih item member).mono (Nat.le_of_lt (Document.depth_lt_of_inner member))
          · obtain ⟨own, given, rfl⟩ := Option.map_eq_some_iff.mp single
            exact Content.depth_le.mpr (List.forall_mem_singleton.mpr (node own given))
      | object members stop =>
          rw [content_meaning_object] at serves
          obtain ⟨own, given, rfl⟩ := Option.map_eq_some_iff.mp serves
          exact Content.depth_le.mpr (List.forall_mem_singleton.mpr (node own given))

/-- A node that is read is nested no deeper than there is room. -/
theorem depth_le_of_readNode {room : Nat} {document : Document} {node : Node}
    (read : readNode room document = .ok node) : node.depth ≤ room := by
  have content : (contentGiven document).depth ≤ room - 1 := by
    apply depth_contentGiven_le
    intro given supplied
    obtain ⟨value, keeps⟩ := exists_keep_of_suppliedFor? read supplied
    exact (within_meaning given).mono (Document.depth_le_of_keep keeps)
  have above : (fieldsGiven document).node.depth ≤ _ := depth_node_le
  have roomy : room ≠ 0 := by
    rcases form_of_readNode read with ⟨members, stop, rfl⟩ | ⟨items, stop, rfl⟩
    · exact (readNode_object.mp read).1
    · exact (readNode_array.mp read).1
  rw [eq_node_of_readNode read]
  omega

/-! ## The deepest message -/

/-- Objects that lie in one another, each the content of the one around it. -/
def nested : Nat → Document
  | 0 => .object [] none
  | levels + 1 => .object [(.plain "content", nested levels)] none

def nestedNode : Nat → Node
  | 0 => .unknown "" .empty
  | levels + 1 => .unknown "" (.nodes [nestedNode levels])

theorem exists_spells_nested (levels : Nat) : ∃ chars, SpellsDocument (nested levels) chars := by
  induction levels with
  | zero => exact ⟨_, .emptyObject space_nil⟩
  | succ levels ih =>
      obtain ⟨chars, spelled⟩ := ih
      exact ⟨_, .object space_nil (.last (spells_member (by decide) spelled) space_nil)⟩

theorem depth_nested (levels : Nat) : (nested levels).depth = levels + 1 := by
  induction levels with
  | zero => rfl
  | succ levels ih => simp [nested, Document.depth, Document.membersDepth, ih]

theorem depth_nestedNode (levels : Nat) : (nestedNode levels).depth = levels + 1 := by
  induction levels with
  | zero => rfl
  | succ levels ih => simp [nestedNode, Node.depth, Content.depth, Node.depthAll, ih]

theorem isRecord_nested (levels : Nat) : IsRecord (nested levels) := by
  cases levels with
  | zero => exact .nil
  | succ levels =>
      have known : fieldNamed? (.plain "content") = some .content := fieldNamed?_plain "content"
      simp [nested, IsRecord, known]

theorem fieldsValued_nested (levels : Nat) : FieldsValued (nested levels) := by
  have valued (levels : Nat) : (nested levels).Valued := by
    induction levels with
    | zero => trivial
    | succ levels ih => exact Document.valued_object.mpr (by simp [Spelling.text_plain, ih])
  cases levels with
  | zero => exact List.forall_mem_nil _
  | succ levels => simp [nested, FieldsValued, Spelling.text_plain, valued levels]

theorem content_nested (levels : Nat) :
    (meaning (nested levels)).content =
      (meaning (nested levels)).node.map fun node => .nodes [node] := by
  cases levels <;> exact content_meaning_object _ _

theorem node_nested (levels : Nat) : (fieldsGiven (nested levels)).node = nestedNode levels := by
  induction levels with
  | zero => rfl
  | succ levels ih =>
      have known : fieldNamed? (.plain "content") = some .content := fieldNamed?_plain "content"
      have kind : kindGiven (nested (levels + 1)) = "" := by
        rw [kindGiven, nested, suppliedFor?, given?_cons_of_ne (by simp [known])]
        rfl
      have content : contentGiven (nested (levels + 1)) = .nodes [nestedNode levels] := by
        rw [contentGiven, nested, suppliedFor?, given?_cons_self known, Option.bind_some,
          content_nested, node_meaning (isRecord_nested levels), ih]
        rfl
      rw [Fields.node, kind_fieldsGiven, contentOf_fieldsGiven, kind, content]
      rfl

theorem readNode_nested {room levels : Nat} (shallow : levels < room) :
    readNode room (nested levels) = .ok (nestedNode levels) := by
  obtain ⟨chars, spelled⟩ := exists_spells_nested levels
  have depth : (nested levels).depth ≤ room := by
    rw [depth_nested]
    exact shallow
  obtain ⟨node, read⟩ := (exists_readNode_iff spelled.skip depth).mpr
    ⟨isRecord_nested levels, fieldsValued_nested levels⟩
  rw [read, eq_node_of_readNode read, node_nested]

theorem exists_read_nested {levels : Nat} (shallow : levels < deepest - 1) :
    ∃ text, read text = .ok [nestedNode levels] := by
  obtain ⟨chars, spelled⟩ := exists_spells_nested levels
  have array : SpellsDocument (.array [nested levels] none) _ :=
    .array space_nil (.last spelled space_nil)
  have text : (Document.array [nested levels] none).SpelledBy (String.ofList _) :=
    ⟨[], _, [], space_nil, array, space_nil, by rw [String.toList_ofList, List.append_nil]⟩
  exact ⟨_, (read_array text).mpr (.cons (readNode_nested shallow) .nil)⟩

/-- The nodes of a message lie no more than 126 levels deep in one another, so that the renderer
shows it with as many levels of calls, whatever more of them would give. Some message is as deep as
that. -/
theorem nesting_bounded :
    (∀ text nodes, read text = .ok nodes →
      (∀ node ∈ nodes, node.depth ≤ 126) ∧
        ∀ (renderer : Renderer) (beyond : Context → Node → List Html) (context : Context),
          nodes.flatMap (renderer.levels beyond 126 context) = renderer.nodes context nodes) ∧
    ∃ text nodes, read text = .ok nodes ∧ ∃ node ∈ nodes, node.depth = 126 := by
  constructor
  · intro text nodes accepted
    obtain ⟨items, each⟩ := exists_items_of_read accepted
    have shallow : ∀ node ∈ nodes, node.depth ≤ 126 := by
      intro node member
      obtain ⟨item, readItem⟩ := exists_of_mem_right each member
      exact depth_le_of_readNode readItem
    exact ⟨shallow, fun renderer beyond context =>
      Renderer.flatMap_levels_eq_nodes shallow beyond context⟩
  · have within : 125 < deepest - 1 := by decide
    obtain ⟨text, accepted⟩ := exists_read_nested within
    exact ⟨text, _, accepted, _, .head _, depth_nestedNode 125⟩

/-- An array of nodes, a node that is spelled as an array and a single node are content alike. -/
theorem nesting_mixed :
    let text := "[\x7b\x22content\x22:[[\x22strong\x22,\x7b\x22content\x22:\x22a\x22\x7d," ++
      "null,null,null,null,null,null,null]]\x7d]"
    ∃ node, read text = .ok [node] ∧ node.depth = 3 ∧ (∀ own ∈ [node], own.depth ≤ 126) ∧
      ∀ (renderer : Renderer) (beyond : Context → Node → List Html) (context : Context),
        [node].flatMap (renderer.levels beyond 126 context) = renderer.nodes context [node] := by
  intro text
  let single := Document.object [(.plain "content", .string (.plain "a"))] none
  let listed := Document.array
    [.string (.plain "strong"), single, .null, .null, .null, .null, .null, .null, .null] none
  let outer := Document.object [(.plain "content", .array [listed] none)] none
  have spelled : (Document.array [outer] none).SpelledBy text := by
    have nulls {items : List Document} {chars : List Char} (spelledItems : SpellsItems items chars) :
        SpellsItems (.null :: items) ("null,".toList ++ chars) :=
      .more .null space_nil space_nil spelledItems
    have last : SpellsItems [.null] "null".toList := .last .null space_nil
    have rest := nulls (nulls (nulls (nulls (nulls (nulls last)))))
    exact ⟨[], _, [], space_nil,
      .array space_nil (.last (.object space_nil
        (.last (spells_member (by decide) (.array space_nil (.last (.array space_nil
          (.more (spells_text (by decide)) space_nil space_nil
          (.more (.object space_nil
            (.last (spells_member (by decide) (spells_text (by decide))) space_nil))
            space_nil space_nil rest))) space_nil))) space_nil)) space_nil),
      space_nil, by decide⟩
  have known : Key.ofSpelling? "content" = some .content := by decide
  have apt : IsRecord outer ∧ FieldsValued outer := by
    simp [outer, listed, single, IsRecord, FieldsValued, Document.Valued, Document.ItemsValued,
      Document.MembersValued, fieldNamed?_plain, known, Spelling.text_plain]
  have skipped : outer.skip = .ok () := rfl
  have within : outer.depth ≤ deepest - 1 := by decide
  obtain ⟨node, item⟩ := (exists_readNode_iff skipped within).mpr apt
  have deep : (fieldsGiven outer).node.depth = 3 := rfl
  have accepted := (read_array spelled).mpr (.cons item .nil)
  obtain ⟨shallow, shown⟩ := nesting_bounded.1 _ _ accepted
  exact ⟨node, accepted, eq_node_of_readNode item ▸ deep, shallow, shown⟩

end Message

end MessageMarkup
