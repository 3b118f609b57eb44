import MessageMarkup.Message.Reading
import MessageMarkup.Proofs.Json.Keeping
import MessageMarkup.Proofs.Message.Entries

/-!
# Reading nodes

What it takes for an object or an array to be read as a node, and what the node is then. A
document that has a value is read as the node that the value can serve as.
-/

set_option autoImplicit false

namespace MessageMarkup.Message

open Json

theorem readField_eq_ok {room : Nat} {document : Document} {field : Field} :
    readField room document = .ok field ↔
      ∃ value, document.keep room = .ok value ∧ Field.ofValue value = field := by
  simp only [readField, bind_eq_ok, ofFault_eq_ok, pure, Except.pure, Except.ok.injEq]

/-! ## Objects -/

/-- The field whose name is spelled. -/
def fieldNamed? (name : Spelling) : Option Key :=
  name.text.toOption.bind Key.ofSpelling?

/-- The entries that the members of an object give. Members with other names are passed
over. -/
inductive GivesEntries (room : Nat) : List (Spelling × Document) → List (Key × Field) → Prop where
  | nil : GivesEntries room [] []
  | other {name : Spelling} {text : String} {value : Document}
      {members : List (Spelling × Document)} {entries : List (Key × Field)} :
      name.text = .ok text → Key.ofSpelling? text = none → value.skip = .ok () →
      GivesEntries room members entries → GivesEntries room ((name, value) :: members) entries
  | field {name : Spelling} {text : String} {value : Document} {kept : Value} {key : Key}
      {members : List (Spelling × Document)} {entries : List (Key × Field)} :
      name.text = .ok text → Key.ofSpelling? text = some key → value.keep room = .ok kept →
      GivesEntries room members entries →
      GivesEntries room ((name, value) :: members) ((key, .ofValue kept) :: entries)

theorem readMembers_nil {room : Nat} {stop : Option Fault} {fields result : Fields} :
    readMembers room stop fields [] = .ok result ↔ stop = none ∧ fields = result := by
  simp only [readMembers, bind_unit_eq_ok, ofFault_eq_ok, close_eq_ok, pure, Except.pure,
    Except.ok.injEq]

theorem readMembers_other {room : Nat} {stop : Option Fault} {fields result : Fields}
    {name : Spelling} {text : String} {value : Document} {rest : List (Spelling × Document)}
    (isText : name.text = .ok text) (unknown : Key.ofSpelling? text = none) :
    readMembers room stop fields ((name, value) :: rest) = .ok result ↔
      value.skip = .ok () ∧ readMembers room stop fields rest = .ok result := by
  rw [readMembers, isText, bind_eq_ok]
  simp only [ofFault_eq_ok, Except.ok.injEq, exists_eq_left', unknown, bind_unit_eq_ok]

theorem readMembers_field {room : Nat} {stop : Option Fault} {fields result : Fields}
    {name : Spelling} {text : String} {key : Key} {value : Document}
    {rest : List (Spelling × Document)} (isText : name.text = .ok text)
    (known : Key.ofSpelling? text = some key) :
    readMembers room stop fields ((name, value) :: rest) = .ok result ↔
      fields key = none ∧ ∃ kept, value.keep room = .ok kept ∧
        readMembers room stop (fields.set key (.ofValue kept)) rest = .ok result := by
  rw [readMembers, isText, bind_eq_ok]
  simp only [ofFault_eq_ok, Except.ok.injEq, exists_eq_left', known]
  cases given : fields key with
  | none => simp [bind_eq_ok, readField_eq_ok]
  | some field => simp [throw, throwThe, MonadExceptOf.throw, bind, Except.bind]

theorem readMembers_eq_ok {room : Nat} {stop : Option Fault} {fields result : Fields}
    {members : List (Spelling × Document)} :
    readMembers room stop fields members = .ok result ↔
      stop = none ∧ ∃ entries, GivesEntries room members entries ∧ (keys entries).Nodup ∧
        (∀ key ∈ keys entries, fields key = none) ∧ result = fields.extend entries := by
  -- The fields read so far stay general: what is left of the list gives none of their keys.
  induction members generalizing fields with
  | nil =>
      rw [readMembers_nil]
      constructor
      · rintro ⟨closed, rfl⟩
        exact ⟨closed, [], .nil, .nil, by simp, fields.extend_nil.symm⟩
      · rintro ⟨closed, entries, gives, _, _, rfl⟩
        cases gives
        exact ⟨closed, fields.extend_nil.symm⟩
  | cons member rest ih =>
      obtain ⟨name, value⟩ := member
      constructor
      · intro read
        cases isText : name.text with
        | error fault => simp [readMembers, isText, Reading.ofFault, bind, Except.bind] at read
        | ok text =>
            cases known : Key.ofSpelling? text with
            | none =>
                obtain ⟨skipped, read⟩ := (readMembers_other isText known).mp read
                obtain ⟨closed, entries, gives, others⟩ := ih.mp read
                exact ⟨closed, entries, .other isText known skipped gives, others⟩
            | some key =>
                obtain ⟨absent, kept, keeps, read⟩ := (readMembers_field isText known).mp read
                obtain ⟨closed, entries, gives, distinct, apart, rfl⟩ := ih.mp read
                have fresh : key ∉ keys entries := by
                  intro given
                  have clash := apart key given
                  rw [Fields.set_self] at clash
                  cases clash
                refine ⟨closed, _, .field isText known keeps gives, .cons fresh distinct, ?_,
                  fields.set_extend _ fresh⟩
                intro other given
                rcases List.mem_cons.mp given with rfl | later
                · exact absent
                · have different : other ≠ key := fun same => fresh (same ▸ later)
                  rw [← fields.set_of_ne (.ofValue kept) different]
                  exact apart other later
      · rintro ⟨closed, entries, gives, distinct, apart, same⟩
        cases gives with
        | other isText known skipped gives =>
            rw [readMembers_other isText known]
            exact ⟨skipped, ih.mpr ⟨closed, entries, gives, distinct, apart, same⟩⟩
        | @field _ _ _ kept key _ entries isText known keeps gives =>
            obtain ⟨fresh, distinct⟩ := List.nodup_cons.mp distinct
            obtain ⟨absent, apart⟩ := List.forall_mem_cons.mp apart
            rw [readMembers_field isText known]
            refine ⟨absent, kept, keeps, ih.mpr ⟨closed, entries, gives, distinct, ?_, ?_⟩⟩
            · intro other given
              have different : other ≠ key := fun same => fresh (same ▸ given)
              rw [fields.set_of_ne _ different]
              exact apart other given
            · rw [same, fields.set_extend _ fresh]

/-! ## Arrays -/

theorem readItems_eq_ok {room : Nat} {stop : Option Fault} {fields result : Fields}
    {missing : List Key} {items : List Document} (distinct : missing.Nodup) :
    readItems room stop fields missing items = .ok result ↔
      stop = none ∧ items.length = missing.length ∧
        ∃ values, List.Forall₂ (fun item value => item.keep room = .ok value) items values ∧
          result = fields.extend (missing.zip (values.map Field.ofValue)) := by
  induction missing generalizing fields items with
  | nil =>
      cases items with
      | nil =>
          simp only [readItems, bind_unit_eq_ok, ofFault_eq_ok, close_eq_ok, pure, Except.pure]
          constructor
          · rintro ⟨closed, same⟩
            cases same
            exact ⟨closed, rfl, [], .nil, rfl⟩
          · rintro ⟨closed, _, values, _, rfl⟩
            exact ⟨closed, rfl⟩
      | cons item rest => simp [readItems]
  | cons key missing ih =>
      obtain ⟨fresh, distinct⟩ := List.nodup_cons.mp distinct
      have apart (others : List Field) : key ∉ keys (missing.zip others) := by
        intro given
        obtain ⟨entry, member, rfl⟩ := List.mem_map.mp given
        exact fresh (List.of_mem_zip member).1
      cases items with
      | nil => simp [readItems, bind_unit_eq_ok, throw, throwThe, MonadExceptOf.throw]
      | cons item rest =>
          simp only [readItems, bind_eq_ok, readField_eq_ok, ih distinct, List.length_cons,
            Nat.add_right_cancel_iff]
          constructor
          · rintro ⟨_, ⟨value, kept, rfl⟩, closed, length, values, others, rfl⟩
            exact ⟨closed, length, _, .cons kept others, fields.set_extend _ (apart _)⟩
          · rintro ⟨closed, length, _, _ | ⟨kept, others⟩, same⟩
            refine ⟨_, ⟨_, kept, rfl⟩, closed, length, _, others, ?_⟩
            rw [same, fields.set_extend _ (apart _)]
            rfl

/-! ## Nodes -/

theorem form_of_readNode {room : Nat} {document : Document} {node : Node}
    (read : readNode room document = .ok node) :
    (∃ members stop, document = .object members stop) ∨
      ∃ items stop, document = .array items stop := by
  cases document with
  | object members stop => exact .inl ⟨members, stop, rfl⟩
  | array items stop => exact .inr ⟨items, stop, rfl⟩
  | null | boolean | number | cutNumber | string | missing =>
      simp only [readNode] at read
      exact absurd read (refuse_ne_ok _ _ _)

theorem readNode_object {room : Nat} {members : List (Spelling × Document)} {stop : Option Fault}
    {node : Node} :
    readNode room (.object members stop) = .ok node ↔
      room ≠ 0 ∧ stop = none ∧ ∃ entries, GivesEntries (room - 1) members entries ∧
        (keys entries).Nodup ∧ node = (Fields.ofEntries entries).node := by
  rw [readNode]
  split
  · simp_all
  · rename_i roomy
    simp only [bind_eq_ok, readMembers_eq_ok]
    constructor
    · rintro ⟨_, ⟨closed, entries, gives, distinct, _, rfl⟩, same⟩
      cases same
      rw [Fields.none_extend]
      exact ⟨roomy, closed, entries, gives, distinct, rfl⟩
    · rintro ⟨_, closed, entries, gives, distinct, rfl⟩
      rw [← Fields.none_extend]
      exact ⟨_, ⟨closed, entries, gives, distinct, fun _ _ => rfl, rfl⟩, rfl⟩

theorem readNode_array {room : Nat} {items : List Document} {stop : Option Fault} {node : Node} :
    readNode room (.array items stop) = .ok node ↔
      room ≠ 0 ∧ stop = none ∧ items.length = Key.all.length ∧
        ∃ values, List.Forall₂ (fun item value => item.keep (room - 1) = .ok value) items values ∧
          node = (Fields.ofEntries (Key.all.zip (values.map Field.ofValue))).node := by
  have distinct : Key.all.Nodup := by decide
  rw [readNode]
  split
  · simp_all
  · rename_i roomy
    simp only [bind_eq_ok, readItems_eq_ok distinct]
    constructor
    · rintro ⟨_, ⟨closed, length, values, kept, rfl⟩, same⟩
      cases same
      rw [Fields.none_extend]
      exact ⟨roomy, closed, length, values, kept, rfl⟩
    · rintro ⟨_, closed, length, values, kept, rfl⟩
      rw [← Fields.none_extend]
      exact ⟨_, ⟨closed, length, values, kept, rfl⟩, rfl⟩

theorem readNodes_eq_ok {room : Nat} {items : List Document} {nodes : List Node} :
    readNodes room items = .ok nodes ↔
      List.Forall₂ (fun item node => readNode room item = .ok node) items nodes := by
  induction items generalizing nodes with
  | nil => cases nodes <;> simp [readNodes, pure, Except.pure]
  | cons item rest ih => cases nodes <;> simp [readNodes, bind_eq_ok, ih, pure, Except.pure]

theorem form_of_readMessage {room : Nat} {document : Document} {nodes : List Node}
    (read : readMessage room document = .ok nodes) :
    ∃ items stop, document = .array items stop := by
  cases document with
  | array items stop => exact ⟨items, stop, rfl⟩
  | null | boolean | number | cutNumber | string | object | missing =>
      simp only [readMessage] at read
      exact absurd read (refuse_ne_ok _ _ _)

theorem readMessage_array {room : Nat} {items : List Document} {stop : Option Fault}
    {nodes : List Node} :
    readMessage room (.array items stop) = .ok nodes ↔
      room ≠ 0 ∧ stop = none ∧
        List.Forall₂ (fun item node => readNode (room - 1) item = .ok node) items nodes := by
  rw [readMessage]
  split
  · simp_all
  · rename_i roomy
    simp only [bind_eq_ok, readNodes_eq_ok, ofFault_eq_ok]
    constructor
    · rintro ⟨_, each, _, closed, same⟩
      cases same
      exact ⟨roomy, close_eq_ok.mp closed, each⟩
    · rintro ⟨_, closed, each⟩
      exact ⟨_, each, (), close_eq_ok.mpr closed, rfl⟩

/-- A text is read as the nodes that the items of its array are read as. -/
theorem exists_items_of_read {text : String} {nodes : List Node} (accepted : read text = .ok nodes) :
    ∃ items, List.Forall₂ (fun item node => readNode (deepest - 1) item = .ok node) items nodes := by
  have readRoot : readMessage deepest (scanText text.toList).root = .ok nodes :=
    readRoot_eq_ok accepted
  obtain ⟨items, stop, root⟩ := form_of_readMessage readRoot
  rw [root] at readRoot
  obtain ⟨_, _, each⟩ := readMessage_array.mp readRoot
  exact ⟨items, each⟩

/-! ## Agreement with values -/

theorem GivesEntries.iff_of_keep {room : Nat} {members : List (Spelling × Document)}
    {values : List (String × Value)} {entries : List (Key × Field)}
    (kept : List.Forall₂ (fun member value => member.1.text = .ok value.1 ∧
      member.2.keep room = .ok value.2) members values) :
    GivesEntries room members entries ↔ entries = Fields.entriesOf (Field.ofMembers values) := by
  induction kept generalizing entries with
  | nil =>
      constructor
      · intro gives
        cases gives
        rfl
      · rintro rfl
        exact .nil
  | @cons member value members values own _ ih =>
      obtain ⟨name, document⟩ := member
      obtain ⟨text, value⟩ := value
      obtain ⟨isText, keeps⟩ := own
      constructor
      · intro gives
        cases gives with
        | other isText' unknown _ gives =>
            cases isText.symm.trans isText'
            rw [ih.mp gives, Field.ofMembers, Fields.entriesOf_other unknown]
        | field isText' known keeps' gives =>
            cases isText.symm.trans isText'
            cases keeps.symm.trans keeps'
            rw [ih.mp gives, Field.ofMembers, Fields.entriesOf_field known]
      · rintro rfl
        rw [Field.ofMembers]
        cases known : Key.ofSpelling? text with
        | none =>
            rw [Fields.entriesOf_other known]
            exact .other isText known (Document.skip_of_keep keeps) (ih.mpr rfl)
        | some key =>
            rw [Fields.entriesOf_field known]
            exact .field isText known keeps (ih.mpr rfl)

/-- A document that is kept as a value is read as the node that the value can serve as. -/
theorem readNode_of_keep {room : Nat} {document : Document} {value : Value} {node : Node}
    (kept : document.keep room = .ok value) :
    readNode room document = .ok node ↔ (Field.ofValue value).node = some node := by
  -- Both readers come to the same entries, so they refuse the same records.
  cases document with
  | array items stop =>
      obtain ⟨roomy, closed, values, rfl, inner⟩ := Document.keep_array.mp kept
      rw [readNode_array, Field.node_array, ← inner.length_eq]
      constructor
      · rintro ⟨_, _, length, _, others, rfl⟩
        have same := (Document.keepItems_eq_ok.mpr others).symm.trans
          (Document.keepItems_eq_ok.mpr inner)
        cases same
        rw [if_pos length]
      · intro spelled
        split at spelled
        · cases spelled
          exact ⟨roomy, closed, ‹_›, values, inner, rfl⟩
        · cases spelled
  | object members stop =>
      obtain ⟨roomy, closed, values, rfl, inner⟩ := Document.keep_object.mp kept
      rw [readNode_object, Field.node_object]
      simp only [GivesEntries.iff_of_keep inner, exists_eq_left]
      constructor
      · rintro ⟨_, _, distinct, rfl⟩
        rw [if_pos distinct]
      · intro spelled
        split at spelled
        · cases spelled
          exact ⟨roomy, closed, ‹_›, rfl⟩
        · cases spelled
  | null | boolean =>
      cases kept
      refine iff_of_false (fun read => ?_) (by simp [Field.ofValue, Field.unfit])
      simpa using form_of_readNode read
  | number numeral =>
      rw [Document.keep] at kept
      split at kept
      · cases kept
        rename_i number _
        refine iff_of_false (fun read => ?_) (by cases number <;> simp [Field.ofValue, Field.unfit])
        simpa using form_of_readNode read
      · cases kept
  | string spelling =>
      obtain ⟨text, _, same⟩ := bind_eq_ok.mp kept
      cases same
      refine iff_of_false (fun read => ?_) (by simp [Field.ofValue])
      simpa using form_of_readNode read
  | cutNumber | missing => cases kept

theorem allNodes_of_keep {room : Nat} {items : List Document} {values : List Value}
    {nodes : List Node}
    (kept : List.Forall₂ (fun item value => item.keep room = .ok value) items values) :
    allNodes (values.map Field.ofValue) = some nodes ↔
      List.Forall₂ (fun item node => readNode room item = .ok node) items nodes := by
  rw [allNodes_eq_some_iff]
  induction kept generalizing nodes with
  | nil => cases nodes <;> simp
  | cons first _ ih => cases nodes <;> simp [← readNode_of_keep first, ← ih]

end MessageMarkup.Message
