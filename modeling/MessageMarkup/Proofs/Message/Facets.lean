import MessageMarkup.Proofs.Message.Meaning

/-!
# What is of use in a field

Each field of a node has to have a shape of its own. A value of another shape is of as much
use as none, and two records are the same node if what they give for each field is of the
same use.
-/

set_option autoImplicit false

namespace MessageMarkup.Message

open Json

/-! ## What a node takes from its fields -/

/-- A field without what its key has no use for. -/
def Field.facet (field : Field) : Key → Field
  | .content => { content := field.content }
  | .animated => { flag := field.flag }
  | .id => { text := field.text, number := field.number }
  | .timestamp => { text := field.text, number := field.number }
  | _ => { text := field.text }

namespace Fields

/-- What is of use in the field of a key. Nothing is, if the field is not given. -/
def facet (fields : Fields) (key : Key) : Field :=
  ((fields key).getD .unfit).facet key

variable {fields others : Fields}

theorem text_eq_facet {key : Key} (textual : key ∈ [Key.kind, .target, .language, .format, .name]) :
    fields.text key = (fields.facet key).text := by
  rw [text, facet]
  simp only [List.mem_cons, List.not_mem_nil, or_false] at textual
  rcases textual with rfl | rfl | rfl | rfl | rfl <;> cases fields _ <;> rfl

theorem identifier_eq_facet :
    fields.identifier .id =
      ((fields.facet .id).text <|> (fields.facet .id).number.map toString) := by
  rw [identifier, facet]
  cases fields .id <;> rfl

theorem seconds_eq_facet :
    fields.seconds .timestamp =
      (((fields.facet .timestamp).text.bind fun text => Text.signed? 64 (Text.trim text)) <|>
        (fields.facet .timestamp).number) := by
  rw [seconds, facet]
  cases fields .timestamp <;> rfl

theorem flag_eq_facet : fields.flag .animated = (fields.facet .animated).flag.getD false := by
  rw [flag, facet]
  cases fields .animated <;> rfl

theorem contentOf_eq_facet :
    fields.contentOf .content = (fields.facet .content).content.getD .empty := by
  rw [contentOf, facet]
  cases fields .content <;> rfl

/-- What a node takes from its fields: texts, an identifier, seconds, a flag and content. -/
theorem node_congr
    (text : ∀ key ∈ [Key.kind, .target, .language, .format, .name],
      fields.text key = others.text key)
    (identifier : fields.identifier .id = others.identifier .id)
    (seconds : fields.seconds .timestamp = others.seconds .timestamp)
    (flag : fields.flag .animated = others.flag .animated)
    (content : fields.contentOf .content = others.contentOf .content) :
    fields.node = others.node := by
  have model (kind : String) (content : Content) :
      fields.model? kind content = others.model? kind content := by
    simp only [model?, emoji, style, identifier, seconds, flag, text .target (by decide),
      text .language (by decide), text .format (by decide), text .name (by decide)]
  simp only [node, content, model, text .kind (by decide)]

/-- A node takes nothing from its fields but what is of use in each. -/
theorem node_eq_of_facet (same : ∀ key, fields.facet key = others.facet key) :
    fields.node = others.node := by
  apply node_congr
  · intro key textual
    rw [text_eq_facet textual, text_eq_facet textual, same]
  · rw [identifier_eq_facet, identifier_eq_facet, same]
  · rw [seconds_eq_facet, seconds_eq_facet, same]
  · rw [flag_eq_facet, flag_eq_facet, same]
  · rw [contentOf_eq_facet, contentOf_eq_facet, same]

end Fields

/-! ## Values of the right shape -/

/-- An array all of whose items are records. -/
def IsNodeList : Document → Prop
  | .array items _ => ∀ item ∈ items, IsRecord item
  | _ => False

/-- Whether a document has the shape that the field of a key needs: text or, for an id or a
time, a whole number of 64 bits; a truth value; or text, nodes or one node as content. -/
def Fits (key : Key) : Document → Prop
  | .boolean _ => key = .animated
  | .number numeral =>
      key ∈ [Key.id, .timestamp] ∧
        ∃ value, numeral.number? = some (.integer value) ∧ Text.fitsSigned 64 value = true
  | .string spelling => key ≠ .animated ∧ ∃ text, spelling.text = .ok text
  | document => key = .content ∧ (IsNodeList document ∨ IsRecord document)

theorem allNodes_meaning_eq_none {items : List Document} (stray : ¬ ∀ item ∈ items, IsRecord item) :
    allNodes (items.map meaning) = none := by
  rw [Option.eq_none_iff_forall_ne_some]
  intro nodes all
  apply stray
  intro item member
  have given : (meaning item).node ∈ nodes.map some := by
    rw [← allNodes_eq_some_iff.mp all, List.map_map]
    exact List.mem_map_of_mem member
  obtain ⟨node, _, same⟩ := List.mem_map.mp given
  exact isSome_node_meaning_iff.mp (by rw [← same, Option.isSome_some])

theorem content_meaning_array (items : List Document) (stop : Option Fault) :
    (meaning (.array items stop)).content =
      (((allNodes (items.map meaning)).map Content.nodes).or
        ((meaning (.array items stop)).node.map fun node => .nodes [node])) := by
  have same : (items.map Document.ideal).map Field.ofValue = items.map meaning := by
    rw [List.map_map]
    rfl
  rw [meaning, Document.ideal, Field.content_array, Document.idealItems_eq, same]

theorem content_meaning_object (members : List (Spelling × Document)) (stop : Option Fault) :
    (meaning (.object members stop)).content =
      (meaning (.object members stop)).node.map fun node => .nodes [node] := by
  rw [meaning, Document.ideal, Field.content_object]

/-- A record that is no list of nodes is content as the one node that it is. -/
theorem content_meaning_of_record {document : Document} (record : IsRecord document)
    (single : ¬ IsNodeList document) :
    (meaning document).content = (meaning document).node.map fun node => .nodes [node] := by
  cases document with
  | object members stop => exact content_meaning_object members stop
  | array items stop =>
      rw [content_meaning_array, allNodes_meaning_eq_none single]
      rfl
  | null | boolean | number | string | cutNumber | missing => exact record.elim

/-- A list of nodes is content as the nodes that its items are. -/
theorem content_meaning_of_nodeList {items : List Document} {stop : Option Fault}
    (list : IsNodeList (.array items stop)) :
    (meaning (.array items stop)).content =
      some (.nodes (items.map fun item => (fieldsGiven item).node)) := by
  have all : allNodes (items.map meaning) =
      some (items.map fun item => (fieldsGiven item).node) := by
    rw [allNodes_eq_some_iff, List.map_map, List.map_map]
    exact List.map_congr_left fun item member => node_meaning (list item member)
  rw [content_meaning_array, all]
  rfl

theorem number_meaning_eq_some_iff {numeral : Numeral} {value : Int} :
    (meaning (.number numeral)).number = some value ↔
      numeral.number? = some (.integer value) ∧ Text.fitsSigned 64 value = true := by
  rw [meaning, Document.ideal]
  cases numeral.number? with
  | none => simp [Field.ofValue, Field.unfit]
  | some number =>
      cases number with
      | float => simp [Field.ofValue, Field.unfit]
      | integer own =>
          simp only [Field.ofValue, Option.elim_some, Option.filter_eq_some_iff,
            Option.some.injEq, Number.integer.injEq]

theorem meaning_number (numeral : Numeral) :
    meaning (.number numeral) = { number := (meaning (.number numeral)).number } := by
  rw [meaning, Document.ideal]
  rcases numeral.number? with _ | ⟨_ | _⟩ <;> rfl

theorem meaning_string (spelling : Spelling) :
    meaning (.string spelling) =
      { text := spelling.text.toOption, content := spelling.text.toOption.map .text } := by
  rw [meaning, Document.ideal]
  cases spelling.text <;> rfl

/-- A value of the wrong shape is of as much use as none. -/
theorem facet_of_not_fits {key : Key} {document : Document} (unfit : ¬ Fits key document) :
    (meaning document).facet key = Field.unfit.facet key := by
  cases document with
  | null | cutNumber | missing => rfl
  | boolean value => cases key <;> first | rfl | exact absurd rfl unfit
  | number numeral =>
      have none : key ∈ [Key.id, .timestamp] → (meaning (.number numeral)).number = none := by
        intro member
        rw [Option.eq_none_iff_forall_ne_some]
        intro value given
        exact unfit ⟨member, value, number_meaning_eq_some_iff.mp given⟩
      rw [meaning_number]
      cases key with
      | id | timestamp =>
          rw [none (by decide)]
          rfl
      | _ => rfl
  | string spelling =>
      rw [meaning_string]
      cases isText : spelling.text with
      | error fault => rfl
      | ok text =>
          have flag : key = .animated := by
            by_contra other
            exact unfit ⟨other, text, isText⟩
          subst flag
          rfl
  | array items stop =>
      cases key with
      | content =>
          have list : ¬ ∀ item ∈ items, IsRecord item := fun each => unfit ⟨rfl, .inl each⟩
          have record : ¬ IsRecord (.array items stop) := fun own => unfit ⟨rfl, .inr own⟩
          rw [Field.facet, content_meaning_array, allNodes_meaning_eq_none list,
            node_meaning_of_not_record record]
          rfl
      | _ => rfl
  | object members stop =>
      cases key with
      | content =>
          have record : ¬ IsRecord (.object members stop) := fun own => unfit ⟨rfl, .inr own⟩
          rw [Field.facet, content_meaning_object, node_meaning_of_not_record record]
          rfl
      | _ => rfl

/-! ## Records that give the same -/

theorem given?_eq_none_iff {key : Key} {members : List (Spelling × Document)} :
    given? key members = none ↔ key ∉ members.filterMap fun member => fieldNamed? member.1 := by
  have absent := ofEntries_entriesMeant members key
  rw [← keys_entriesMeant, ← Fields.ofEntries_eq_none_iff, absent, Option.map_eq_none_iff]

theorem facet_cons_self {name : Spelling} {key : Key} (named : fieldNamed? name = some key)
    (value : Document) (members : List (Spelling × Document)) (stop : Option Fault) :
    (fieldsGiven (.object ((name, value) :: members) stop)).facet key = (meaning value).facet key := by
  rw [Fields.facet, fieldsGiven_object, given?_cons_self named]
  rfl

theorem facet_cons_of_ne {name : Spelling} {key other : Key} (named : fieldNamed? name = some key)
    (different : other ≠ key) (value : Document) (members : List (Spelling × Document))
    (stop : Option Fault) :
    (fieldsGiven (.object ((name, value) :: members) stop)).facet other =
      (fieldsGiven (.object members stop)).facet other := by
  have apart : fieldNamed? name ≠ some other := by simp [named, Ne.symm different]
  rw [Fields.facet, Fields.facet, fieldsGiven_object, fieldsGiven_object, given?_cons_of_ne apart]

/-- Records are the same node if they give the same of use for each field. -/
theorem node_meaning_congr {document other : Document} (records : IsRecord document ↔ IsRecord other)
    (same : IsRecord document →
      ∀ key, (fieldsGiven document).facet key = (fieldsGiven other).facet key) :
    (meaning document).node = (meaning other).node := by
  by_cases record : IsRecord document
  · rw [node_meaning record, node_meaning (records.mp record),
      Fields.node_eq_of_facet (same record)]
  · rw [node_meaning_of_not_record record, node_meaning_of_not_record (mt records.mpr record)]

end MessageMarkup.Message
