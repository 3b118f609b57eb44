import MessageMarkup.Proofs.Message.Acceptance

/-!
# What documents mean

A document means what its value can serve as. Numbers and strings without a value mean
nothing, so that every document has a meaning, also where it could not be kept. What a record
means depends on nothing but the meaning of what it gives for each field.
-/

set_option autoImplicit false

namespace MessageMarkup

namespace Json.Document

mutual

/-- The value of a document, with null in the place of numbers and strings that have none. A
name that is no text is that of no field. -/
def ideal : Document → Value
  | .null => .null
  | .boolean value => .boolean value
  | .number numeral => numeral.number?.elim .null .number
  | .cutNumber => .null
  | .string spelling => spelling.text.toOption.elim .null .string
  | .array items _ => .array (idealItems items)
  | .object members _ => .object (idealMembers members)
  | .missing _ => .null

def idealItems : List Document → List Value
  | [] => []
  | item :: rest => item.ideal :: idealItems rest

def idealMembers : List (Spelling × Document) → List (String × Value)
  | [] => []
  | (name, value) :: rest => (name.text.toOption.getD "", value.ideal) :: idealMembers rest

end

theorem idealItems_eq (items : List Document) : idealItems items = items.map ideal := by
  induction items with
  | nil => rfl
  | cons item rest ih => rw [idealItems, ih, List.map_cons]

theorem ideal_of_keep {document : Document} {room : Nat} {value : Value}
    (kept : document.keep room = .ok value) : document.ideal = value := by
  induction document using induct generalizing room value with
  | null | boolean =>
      cases kept
      rfl
  | cutNumber | missing => cases kept
  | number numeral =>
      rw [keep] at kept
      rw [ideal]
      split at kept
      · cases kept
        simp [*]
      · cases kept
  | string spelling =>
      obtain ⟨text, isText, same⟩ := bind_eq_ok.mp kept
      cases same
      simp [ideal, isText, Except.toOption]
  | array items stop ih =>
      obtain ⟨_, _, values, rfl, inner⟩ := keep_array.mp kept
      have each := forall₂_of_mem inner fun item member value kept => ih item member kept
      have same : idealItems items = values := by
        clear kept inner ih
        induction each with
        | nil => rfl
        | cons first _ ih => rw [idealItems, first, ih]
      rw [ideal, same]
  | object members stop ih =>
      obtain ⟨_, _, values, rfl, inner⟩ := keep_object.mp kept
      have each : List.Forall₂ (fun member value => member.1.text = .ok value.1 ∧
          member.2.ideal = value.2) members values :=
        forall₂_of_mem inner fun entry member value both => ⟨both.1, ih entry member both.2⟩
      have same : idealMembers members = values := by
        clear kept inner ih
        induction each with
        | nil => rfl
        | cons first _ ih => simp [idealMembers, first.1, first.2, ih, Except.toOption]
      rw [ideal, same]

end Json.Document

namespace Message

open Json

/-- What a document can serve as. -/
def meaning (document : Document) : Field :=
  .ofValue document.ideal

/-! ## What a record gives -/

/-- What the members of an object give for a field: the first that has its name. -/
def given? (key : Key) (members : List (Spelling × Document)) : Option Document :=
  (members.find? fun member => fieldNamed? member.1 == some key).map Prod.snd

theorem given?_cons_self {name : Spelling} {key : Key} (named : fieldNamed? name = some key)
    (value : Document) (members : List (Spelling × Document)) :
    given? key ((name, value) :: members) = some value := by
  simp [given?, named]

theorem given?_cons_of_ne {name : Spelling} {key : Key} (different : fieldNamed? name ≠ some key)
    (value : Document) (members : List (Spelling × Document)) :
    given? key ((name, value) :: members) = given? key members := by
  simp [given?, different]

/-- The entries that the members of an object mean. -/
def entriesMeant (members : List (Spelling × Document)) : List (Key × Field) :=
  members.filterMap fun member => (fieldNamed? member.1).map fun key => (key, meaning member.2)

theorem fieldNamed?_eq (name : Spelling) :
    fieldNamed? name = Key.ofSpelling? (name.text.toOption.getD "") := by
  have unnamed : Key.ofSpelling? "" = none := by decide
  cases isText : name.text with
  | error fault => simp [fieldNamed?, isText, Except.toOption, unnamed]
  | ok text => simp [fieldNamed?, isText, Except.toOption]

theorem entriesOf_idealMembers (members : List (Spelling × Document)) :
    Fields.entriesOf (Field.ofMembers (Document.idealMembers members)) = entriesMeant members := by
  induction members with
  | nil => rfl
  | cons member rest ih =>
      obtain ⟨name, value⟩ := member
      rw [Document.idealMembers, Field.ofMembers]
      cases named : fieldNamed? name with
      | none =>
          rw [Fields.entriesOf_other (fieldNamed?_eq name ▸ named), ih]
          simp [entriesMeant, named]
      | some key =>
          rw [Fields.entriesOf_field (fieldNamed?_eq name ▸ named), ih]
          simp [entriesMeant, named, meaning]

theorem keys_entriesMeant (members : List (Spelling × Document)) :
    keys (entriesMeant members) = members.filterMap fun member => fieldNamed? member.1 := by
  simp [keys, entriesMeant, List.map_filterMap, Function.comp_def]

theorem ofEntries_entriesMeant (members : List (Spelling × Document)) (key : Key) :
    Fields.ofEntries (entriesMeant members) key = (given? key members).map meaning := by
  induction members with
  | nil => rfl
  | cons member rest ih =>
      obtain ⟨name, value⟩ := member
      cases named : fieldNamed? name with
      | none =>
          have same : entriesMeant ((name, value) :: rest) = entriesMeant rest := by
            simp [entriesMeant, named]
          rw [same, given?_cons_of_ne (by simp [named]), ih]
      | some own =>
          have same : entriesMeant ((name, value) :: rest) =
              (own, meaning value) :: entriesMeant rest := by
            simp [entriesMeant, named]
          rw [same]
          by_cases self : key = own
          · subst self
            rw [Fields.ofEntries_cons_self, given?_cons_self named]
            rfl
          · have different : fieldNamed? name ≠ some key := by simp [named, Ne.symm self]
            rw [Fields.ofEntries_cons_of_ne _ _ self, given?_cons_of_ne different, ih]

/-- The meaning of what a record gives for each field. -/
def fieldsGiven : Document → Fields
  | .object members _ => .ofEntries (entriesMeant members)
  | .array items _ => .ofEntries (Key.all.zip (items.map meaning))
  | _ => .none

theorem fieldsGiven_object (members : List (Spelling × Document)) (stop : Option Fault)
    (key : Key) : fieldsGiven (.object members stop) key = (given? key members).map meaning :=
  ofEntries_entriesMeant members key

/-! ## The node that a record means -/

theorem node_meaning_object (members : List (Spelling × Document)) (stop : Option Fault) :
    (meaning (.object members stop)).node =
      if (keys (entriesMeant members)).Nodup then some (Fields.ofEntries (entriesMeant members)).node
      else none := by
  rw [meaning, Document.ideal, Field.node_object, entriesOf_idealMembers]

theorem node_meaning_array (items : List Document) (stop : Option Fault) :
    (meaning (.array items stop)).node =
      if items.length = Key.all.length then
        some (Fields.ofEntries (Key.all.zip (items.map meaning))).node
      else none := by
  rw [meaning, Document.ideal, Field.node_array, Document.idealItems_eq, List.length_map,
    List.map_map]
  rfl

theorem node_meaning {document : Document} (record : IsRecord document) :
    (meaning document).node = some (fieldsGiven document).node := by
  cases document with
  | object members stop =>
      have distinct : (keys (entriesMeant members)).Nodup := keys_entriesMeant members ▸ record
      rw [node_meaning_object, if_pos distinct]
      rfl
  | array items stop =>
      have length : items.length = Key.all.length := record
      rw [node_meaning_array, if_pos length]
      rfl
  | null | boolean | number | string | cutNumber | missing => exact record.elim

theorem node_meaning_of_not_record {document : Document} (stray : ¬ IsRecord document) :
    (meaning document).node = none := by
  cases document with
  | object members stop =>
      have repeated : ¬ (keys (entriesMeant members)).Nodup := by
        rw [keys_entriesMeant]
        exact stray
      rw [node_meaning_object, if_neg repeated]
  | array items stop =>
      have length : ¬ items.length = Key.all.length := stray
      rw [node_meaning_array, if_neg length]
  | number numeral =>
      rw [meaning, Document.ideal]
      rcases numeral.number? with _ | ⟨_ | _⟩ <;> rfl
  | string spelling =>
      rw [meaning, Document.ideal]
      cases spelling.text <;> rfl
  | null | boolean | cutNumber | missing => rfl

theorem isSome_node_meaning_iff {document : Document} :
    (meaning document).node.isSome = true ↔ IsRecord document := by
  constructor
  · intro given
    by_contra stray
    rw [node_meaning_of_not_record stray] at given
    cases given
  · intro record
    rw [node_meaning record]
    rfl

theorem GivesEntries.eq_entriesMeant {room : Nat} {members : List (Spelling × Document)}
    {entries : List (Key × Field)} (gives : GivesEntries room members entries) :
    entries = entriesMeant members := by
  induction gives with
  | nil => rfl
  | other isText unknown _ _ ih =>
      simp [ih, entriesMeant, fieldNamed?_of_text isText, unknown]
  | field isText known keeps _ ih =>
      simp [ih, entriesMeant, fieldNamed?_of_text isText, known, meaning,
        Document.ideal_of_keep keeps]

/-- A document is read as the node that it means. -/
theorem node_meaning_of_readNode {room : Nat} {document : Document} {node : Node}
    (read : readNode room document = .ok node) : (meaning document).node = some node := by
  rcases form_of_readNode read with ⟨members, stop, rfl⟩ | ⟨items, stop, rfl⟩
  · obtain ⟨_, _, entries, gives, distinct, rfl⟩ := readNode_object.mp read
    rw [node_meaning_object, ← gives.eq_entriesMeant, if_pos distinct]
  · obtain ⟨_, _, length, values, kept, rfl⟩ := readNode_array.mp read
    have same : items.map meaning = values.map Field.ofValue := by
      clear read length
      induction kept with
      | nil => rfl
      | cons first _ ih =>
          rw [List.map_cons, List.map_cons, ih, meaning, Document.ideal_of_keep first]
    rw [node_meaning_array, if_pos length, same]

theorem isRecord_of_meaning {document : Document} {node : Node}
    (own : (meaning document).node = some node) : IsRecord document := by
  rw [← isSome_node_meaning_iff, own, Option.isSome_some]

theorem eq_node_of_meaning {document : Document} {node : Node}
    (own : (meaning document).node = some node) : node = (fieldsGiven document).node := by
  rw [node_meaning (isRecord_of_meaning own)] at own
  exact (Option.some.inj own).symm

theorem isRecord_of_readNode {room : Nat} {document : Document} {node : Node}
    (read : readNode room document = .ok node) : IsRecord document :=
  isRecord_of_meaning (node_meaning_of_readNode read)

theorem eq_node_of_readNode {room : Nat} {document : Document} {node : Node}
    (read : readNode room document = .ok node) : node = (fieldsGiven document).node :=
  eq_node_of_meaning (node_meaning_of_readNode read)

end Message

end MessageMarkup
