import Mathlib.Data.List.Nodup
import MessageMarkup.Message.Fields
import MessageMarkup.Proofs.Message.Subnodes

/-!
# Fields and their entries

The fields that an object or an array gives, as a list of entries. As long as no key has
two entries their order does not matter. What becomes of content does not depend on the
other fields: a node of any kind but a line break holds it.
-/

set_option autoImplicit false

namespace MessageMarkup.Message

def keys (entries : List (Key × Field)) : List Key :=
  entries.map Prod.fst

@[simp]
theorem keys_nil : keys [] = [] := rfl

@[simp]
theorem keys_cons (entry : Key × Field) (entries : List (Key × Field)) :
    keys (entry :: entries) = entry.1 :: keys entries := rfl

theorem mem_keys_of_mem {key : Key} {field : Field} {entries : List (Key × Field)}
    (member : (key, field) ∈ entries) : key ∈ keys entries :=
  List.mem_map_of_mem member

namespace Fields

def ofEntries (entries : List (Key × Field)) : Fields :=
  entries.foldr (fun entry fields => fields.set entry.1 entry.2) none

theorem set_self (fields : Fields) (key : Key) (field : Field) :
    fields.set key field key = some field := by
  simp [set]

theorem set_of_ne (fields : Fields) {key other : Key} (field : Field) (different : other ≠ key) :
    fields.set key field other = fields other := by
  simp [set, different]

theorem ofEntries_nil (key : Key) : ofEntries [] key = Option.none := rfl

theorem ofEntries_cons (key : Key) (field : Field) (entries : List (Key × Field)) :
    ofEntries ((key, field) :: entries) = (ofEntries entries).set key field := rfl

theorem ofEntries_cons_self (key : Key) (field : Field) (entries : List (Key × Field)) :
    ofEntries ((key, field) :: entries) key = some field :=
  set_self _ key field

theorem ofEntries_cons_of_ne {key other : Key} (field : Field) (entries : List (Key × Field))
    (different : other ≠ key) :
    ofEntries ((key, field) :: entries) other = ofEntries entries other :=
  set_of_ne _ field different

theorem ofEntries_eq_none_iff {entries : List (Key × Field)} {key : Key} :
    ofEntries entries key = Option.none ↔ key ∉ keys entries := by
  induction entries with
  | nil => simp [ofEntries_nil]
  | cons entry rest ih =>
      obtain ⟨own, field⟩ := entry
      by_cases same : key = own
      · subst same
        simp [ofEntries_cons_self]
      · simp [ofEntries_cons_of_ne field rest same, ih, same]

theorem mem_of_ofEntries {entries : List (Key × Field)} {key : Key} {field : Field}
    (given : ofEntries entries key = some field) : (key, field) ∈ entries := by
  induction entries with
  | nil => cases given
  | cons entry rest ih =>
      obtain ⟨own, first⟩ := entry
      by_cases same : key = own
      · subst same
        rw [ofEntries_cons_self] at given
        cases given
        exact .head _
      · rw [ofEntries_cons_of_ne first rest same] at given
        exact .tail _ (ih given)

theorem ofEntries_eq_some_iff {entries : List (Key × Field)} {key : Key} {field : Field}
    (distinct : (keys entries).Nodup) :
    ofEntries entries key = some field ↔ (key, field) ∈ entries := by
  induction entries with
  | nil => simp [ofEntries_nil]
  | cons entry rest ih =>
      obtain ⟨own, first⟩ := entry
      obtain ⟨fresh, distinct⟩ := List.nodup_cons.mp distinct
      by_cases same : key = own
      · subst same
        have absent : (key, field) ∉ rest := fun member => fresh (mem_keys_of_mem member)
        simp [ofEntries_cons_self, absent, eq_comm]
      · simp [ofEntries_cons_of_ne first rest same, ih distinct, same]

theorem ofEntries_perm {entries others : List (Key × Field)} (distinct : (keys entries).Nodup)
    (arranged : entries.Perm others) : ofEntries entries = ofEntries others := by
  have distinctOthers : (keys others).Nodup := (arranged.map Prod.fst).nodup_iff.mp distinct
  funext key
  ext field
  rw [ofEntries_eq_some_iff distinct, ofEntries_eq_some_iff distinctOthers]
  exact arranged.mem_iff

/-- Fields with entries put over them. -/
def extend (fields : Fields) (entries : List (Key × Field)) : Fields :=
  fun key => (ofEntries entries key).or (fields key)

theorem extend_nil (fields : Fields) : fields.extend [] = fields := rfl

theorem none_extend (entries : List (Key × Field)) : none.extend entries = ofEntries entries := by
  funext key
  exact Option.or_none

theorem set_extend (fields : Fields) {key : Key} (field : Field) {entries : List (Key × Field)}
    (fresh : key ∉ keys entries) :
    (fields.set key field).extend entries = fields.extend ((key, field) :: entries) := by
  funext other
  by_cases same : other = key
  · subst same
    have absent : ofEntries entries other = Option.none := ofEntries_eq_none_iff.mpr fresh
    simp [extend, ofEntries_cons_self, set_self, absent]
  · simp [extend, ofEntries_cons_of_ne field entries same, set_of_ne fields field same]

/-! ## Objects and arrays -/

/-- The entries among the members of an object: those whose name is that of a field. -/
def entriesOf (members : List (String × Field)) : List (Key × Field) :=
  members.filterMap fun member => (Key.ofSpelling? member.1).map fun key => (key, member.2)

theorem entriesOf_other {name : String} {field : Field} {members : List (String × Field)}
    (unknown : Key.ofSpelling? name = Option.none) :
    entriesOf ((name, field) :: members) = entriesOf members := by
  simp [entriesOf, unknown]

theorem entriesOf_field {name : String} {key : Key} {field : Field}
    {members : List (String × Field)} (known : Key.ofSpelling? name = some key) :
    entriesOf ((name, field) :: members) = (key, field) :: entriesOf members := by
  simp [entriesOf, known]

theorem ofMembers?_eq (members : List (String × Field)) :
    ofMembers? members =
      if (keys (entriesOf members)).Nodup then some (ofEntries (entriesOf members))
      else Option.none := by
  induction members with
  | nil => rfl
  | cons member rest ih =>
      obtain ⟨name, field⟩ := member
      rw [ofMembers?, ih]
      cases known : Key.ofSpelling? name with
      | none =>
          rw [entriesOf_other known]
          by_cases distinct : (keys (entriesOf rest)).Nodup <;> simp [distinct]
      | some key =>
          simp only [entriesOf_field known, keys_cons, List.nodup_cons]
          by_cases distinct : (keys (entriesOf rest)).Nodup
          · by_cases fresh : key ∈ keys (entriesOf rest)
            · have given : (ofEntries (entriesOf rest) key).isSome = true := by
                rw [Option.isSome_iff_ne_none, ne_eq, ofEntries_eq_none_iff, not_not]
                exact fresh
              simp [distinct, fresh, given]
            · have absent : ofEntries (entriesOf rest) key = Option.none :=
                ofEntries_eq_none_iff.mpr fresh
              simp [distinct, fresh, absent, ofEntries_cons]
          · simp [distinct]

theorem ofItems?_eq (items : List Field) :
    ofItems? items =
      if items.length = Key.all.length then some (ofEntries (Key.all.zip items))
      else Option.none :=
  rfl

end Fields

namespace Field

theorem ofItems_eq (items : List Json.Value) : ofItems items = items.map ofValue := by
  induction items with
  | nil => rfl
  | cons item rest ih => rw [ofItems, ih, List.map_cons]

theorem ofMembers_eq (members : List (String × Json.Value)) :
    ofMembers members = members.map fun member => (member.1, ofValue member.2) := by
  induction members with
  | nil => rfl
  | cons member rest ih => rw [ofMembers, ih, List.map_cons]

theorem node_array (items : List Json.Value) :
    (ofValue (.array items)).node =
      if items.length = Key.all.length then
        some (Fields.ofEntries (Key.all.zip (items.map ofValue))).node
      else none := by
  rw [ofValue, ofItems_eq, Fields.ofItems?_eq, List.length_map]
  split <;> rfl

theorem node_object (members : List (String × Json.Value)) :
    (ofValue (.object members)).node =
      if (keys (Fields.entriesOf (ofMembers members))).Nodup then
        some (Fields.ofEntries (Fields.entriesOf (ofMembers members))).node
      else none := by
  rw [ofValue, Fields.ofMembers?_eq]
  split <;> rfl

theorem content_object (members : List (String × Json.Value)) :
    (ofValue (.object members)).content =
      (ofValue (.object members)).node.map fun node => .nodes [node] := by
  rw [ofValue]

theorem content_array (items : List Json.Value) :
    (ofValue (.array items)).content =
      (((allNodes (items.map ofValue)).map Content.nodes).or
        ((ofValue (.array items)).node.map fun node => .nodes [node])) := by
  rw [ofValue, ofItems_eq, Option.or_eq_orElse]
  rfl

end Field

theorem allNodes_eq_some_iff {fields : List Field} {nodes : List Node} :
    allNodes fields = some nodes ↔ fields.map Field.node = nodes.map some := by
  induction fields generalizing nodes with
  | nil => cases nodes <;> simp [allNodes]
  | cons field rest ih =>
      cases nodes with
      | nil => simp [allNodes, Option.bind_eq_some_iff]
      | cons node nodes => simp [allNodes, Option.bind_eq_some_iff, ih]

theorem exists_field_of_allNodes {fields : List Field} {nodes : List Node} {node : Node}
    (all : allNodes fields = some nodes) (member : node ∈ nodes) :
    ∃ field ∈ fields, field.node = some node := by
  have listed : some node ∈ fields.map Field.node := by
    rw [allNodes_eq_some_iff.mp all]
    exact List.mem_map_of_mem member
  exact List.mem_map.mp listed

/-! ## What a node holds -/

theorem eq_text_of_typed {content : Content} {text : String}
    (typed : Fields.typed content = some text) : content = .text text := by
  cases content with
  | text own =>
      cases typed
      rfl
  | nodes inner => cases typed

namespace Fields

theorem held_of_model? {fields : Fields} {kind : String} {content : Content} {node : Node}
    (modelled : fields.model? kind content = some node) :
    node = .lineBreak ∨ node.held = content := by
  unfold model? at modelled
  split at modelled <;> grind [Node.held, → eq_text_of_typed, Option.map_eq_some_iff]

theorem held_node (fields : Fields) :
    fields.node = .lineBreak ∨ fields.node.held = fields.contentOf .content := by
  cases modelled : fields.model? ((fields.text .kind).getD "") (fields.contentOf .content) with
  | none =>
      right
      simp [node, modelled, Node.held]
  | some node =>
      have same : fields.node = node := by simp [Fields.node, modelled]
      rw [same]
      exact held_of_model? modelled

end Fields

end MessageMarkup.Message
