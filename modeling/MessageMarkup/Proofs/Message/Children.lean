import MessageMarkup.Proofs.Message.Acceptance

/-!
# The children of a node

The items of an array in the place of content are children if all of them are nodes. One
that is not makes the array unfit, unless the array as a whole is a node.
-/

set_option autoImplicit false

namespace MessageMarkup.Message

open Json

/-! ## Content that is an array -/

theorem allNodes_eq_none {room : Nat} {items : List Document} {values : List Value}
    (kept : List.Forall₂ (fun item value => item.keep room = .ok value) items values)
    (stray : ∃ item ∈ items, ∀ child, readNode room item ≠ .ok child) :
    allNodes (values.map Field.ofValue) = none := by
  rw [Option.eq_none_iff_forall_ne_some]
  intro nodes all
  obtain ⟨item, member, refused⟩ := stray
  obtain ⟨child, read⟩ := exists_of_mem_left ((allNodes_of_keep kept).mp all) member
  exact refused child read

/-- What is given under a name is the field of that name. -/
theorem GivesEntries.field_given {room : Nat} {members : List (Spelling × Document)}
    {entries : List (Key × Field)} (gives : GivesEntries room members entries)
    {name : Spelling} {value : Document} {key : Key} (given : (name, value) ∈ members)
    (named : fieldNamed? name = some key) :
    ∃ kept, value.keep room = .ok kept ∧ (key, Field.ofValue kept) ∈ entries := by
  induction gives with
  | nil => cases given
  | other isText unknown _ _ ih =>
      rcases List.mem_cons.mp given with same | later
      · cases same
        rw [fieldNamed?_of_text isText, unknown] at named
        cases named
      · exact ih later
  | field isText known keeps _ ih =>
      rcases List.mem_cons.mp given with same | later
      · cases same
        rw [fieldNamed?_of_text isText, known] at named
        cases named
        exact ⟨_, keeps, .head _⟩
      · obtain ⟨kept, keeps, member⟩ := ih later
        exact ⟨kept, keeps, .tail _ member⟩

/-- An array in the place of content gives the node that was read all of its items, or none
of them. -/
theorem children_all_or_none {room : Nat} {members : List (Spelling × Document)}
    {chars : List Char} {name : Spelling} {items : List Document}
    (spelled : SpellsDocument (.object members none) chars)
    (shallow : (Document.object members none).depth ≤ room)
    (record : IsRecord (.object members none)) (valued : FieldsValued (.object members none))
    (given : (name, .array items none) ∈ members) (named : fieldNamed? name = some .content) :
    ∃ node content, readNode room (.object members none) = .ok node ∧
      (node = .lineBreak ∨ node.held = content) ∧
      (∀ children,
        List.Forall₂ (fun item child => readNode (room - 2) item = .ok child) items children →
          content = .nodes children) ∧
      ((∃ item ∈ items, ∀ child, readNode (room - 2) item ≠ .ok child) →
        (∀ single, readNode (room - 1) (.array items none) = .ok single →
          content = .nodes [single]) ∧
        (items.length ≠ Key.all.length → content = .empty)) := by
  obtain ⟨node, read⟩ := (exists_readNode_iff spelled.skip shallow).mpr ⟨record, valued⟩
  obtain ⟨_, _, entries, gives, distinct, rfl⟩ := readNode_object.mp read
  obtain ⟨kept, keeps, member⟩ := gives.field_given given named
  obtain ⟨_, _, values, rfl, inner⟩ := Document.keep_array.mp keeps
  have content : (Fields.ofEntries entries).contentOf .content =
      (Field.ofValue (.array values)).content.getD .empty := by
    rw [Fields.contentOf, (Fields.ofEntries_eq_some_iff distinct).mpr member]
    rfl
  refine ⟨_, _, read, Fields.held_node _, ?_, ?_⟩
  · intro children each
    have all := (allNodes_of_keep inner).mpr each
    simp [content, Field.content_array, all]
  · intro stray
    have none := allNodes_eq_none inner stray
    constructor
    · intro single whole
      simp [content, Field.content_array, none, (readNode_of_keep keeps).mp whole]
    · intro length
      rw [inner.length_eq] at length
      simp [content, Field.content_array, none, Field.node_array, length]

/-- The object of the text `a`. -/
def letter : Document :=
  .object [(.plain "type", .string (.plain "text")), (.plain "content", .string (.plain "a"))] none

theorem spells_letter :
    SpellsDocument letter "\x7b\x22type\x22:\x22text\x22,\x22content\x22:\x22a\x22\x7d".toList :=
  .object space_nil
    (.more (spells_member (by decide) (spells_text (by decide))) space_nil space_nil
    (.last (spells_member (by decide) (spells_text (by decide))) space_nil))

theorem readNode_letter : readNode (deepest - 3) letter = .ok (.text "a") := by
  cbv

/-- An object of strong text whose content is an array. -/
def strongOf (items : List Document) : Document :=
  .object [(.plain "type", .string (.plain "strong")), (.plain "content", .array items none)] none

theorem spells_strongOf {items : List Document} {chars : List Char}
    (spelled : SpellsItems items chars) :
    SpellsDocument (strongOf items)
      ("\x7b\x22type\x22:\x22strong\x22,\x22content\x22:[".toList ++ (chars ++ "]\x7d".toList)) := by
  have whole : SpellsDocument (strongOf items) _ :=
    .object space_nil
      (.more (spells_member (by decide) (spells_text (by decide))) space_nil space_nil
      (.last (spells_member (by decide) (.array space_nil spelled)) space_nil))
  simpa using whole

/-- Next to an empty object the letter is kept: an object without fields is a node as well. -/
theorem children_of_nodes :
    let record := strongOf [letter, .object [] none]
    (∃ chars, SpellsDocument record chars) ∧ record.depth ≤ deepest - 1 ∧ IsRecord record ∧
      FieldsValued record ∧ ∃ node, readNode (deepest - 1) record = .ok node ∧
        (node = .lineBreak ∨ node.held = .nodes [.text "a", .unknown "" .empty]) := by
  intro record
  have spelled := spells_strongOf
    (.more spells_letter space_nil space_nil (.last (.emptyObject space_nil) space_nil))
  have shallow : record.depth ≤ deepest - 1 := by decide
  have kind : Key.ofSpelling? "type" = some .kind := by decide
  have content : Key.ofSpelling? "content" = some .content := by decide
  have proper : IsRecord record := by
    simp [record, strongOf, IsRecord, fieldNamed?_plain, kind, content]
  have valued : FieldsValued record := by
    simp [record, strongOf, letter, FieldsValued, Document.Valued, Document.ItemsValued,
      Document.MembersValued, Spelling.text_plain]
  have given : (Spelling.plain "content", Document.array [letter, .object [] none] none) ∈
      [(Spelling.plain "type", Document.string (.plain "strong")),
        (.plain "content", .array [letter, .object [] none] none)] := by simp
  obtain ⟨node, content, read, held, all, _⟩ := children_all_or_none spelled shallow proper valued given
    (fieldNamed?_plain "content" ▸ content)
  have empty : readNode (deepest - 3) (.object [] none) = .ok (.unknown "" .empty) := by cbv
  have both := all _ (.cons readNode_letter (.cons empty .nil))
  exact ⟨⟨_, spelled⟩, shallow, proper, valued, node, read, both ▸ held⟩

/-- Next to an item that is no node the letter is lost. -/
theorem child_lost :
    let record := strongOf [letter, .null]
    let text := "[\x7b\x22type\x22:\x22strong\x22,\x22content\x22:[\x7b\x22type\x22:\x22text\x22," ++
      "\x22content\x22:\x22a\x22\x7d,null]\x7d]"
    (Document.array [record] none).SpelledBy text ∧
      readNode (deepest - 3) letter = .ok (.text "a") ∧
      read text = .ok [.styled .strong .empty] := by
  intro record text
  have spelled : (Document.array [record] none).SpelledBy text :=
    ⟨[], _, [], space_nil,
      .array space_nil (.last (spells_strongOf
        (.more spells_letter space_nil space_nil (.last .null space_nil))) space_nil),
      space_nil, by decide⟩
  have empty : readNode (deepest - 1) record = .ok (.styled .strong .empty) := by cbv
  exact ⟨spelled, readNode_letter, (read_array spelled).mpr (.cons empty .nil)⟩

end MessageMarkup.Message
