import MessageMarkup.Proofs.Json.Scanning
import MessageMarkup.Proofs.Json.Writing
import MessageMarkup.Proofs.Message.Reading

/-!
# Which messages are accepted

A text that spells an array is refused for its own sake only if it is nested too deep; other
than that each item is accepted or refused by itself. Whatever a field holds is accepted, as
long as it has a value.
-/

set_option autoImplicit false

namespace MessageMarkup.Message

open Json

/-- A document in the form of a node: an object that gives no field twice, or an array with
one item for each field. -/
def IsRecord : Document → Prop
  | .object members _ => (members.filterMap fun member => fieldNamed? member.1).Nodup
  | .array items _ => items.length = Key.all.length
  | _ => False

/-- A document whose names are text and whose fields hold values: no number is too large,
and no half of a pair of code units stands alone. What other members hold does not matter. -/
def FieldsValued : Document → Prop
  | .object members _ =>
      ∀ member ∈ members, (∃ text, member.1.text = .ok text) ∧
        ((fieldNamed? member.1).isSome → member.2.Valued)
  | .array items _ => ∀ item ∈ items, item.Valued
  | _ => True

/-! ## Objects -/

theorem fieldNamed?_of_text {name : Spelling} {text : String} (isText : name.text = .ok text) :
    fieldNamed? name = Key.ofSpelling? text := by
  simp [fieldNamed?, isText, Except.toOption]

theorem GivesEntries.keys_eq {room : Nat} {members : List (Spelling × Document)}
    {entries : List (Key × Field)} (gives : GivesEntries room members entries) :
    keys entries = members.filterMap fun member => fieldNamed? member.1 := by
  induction gives with
  | nil => rfl
  | other isText unknown _ _ ih => simp [ih, fieldNamed?_of_text isText, unknown]
  | field isText known _ _ ih => simp [ih, fieldNamed?_of_text isText, known]

theorem exists_givesEntries_iff {room : Nat} {members : List (Spelling × Document)}
    (skipped : ∀ member ∈ members, member.2.skip = .ok ())
    (shallow : ∀ member ∈ members, member.2.depth ≤ room) :
    (∃ entries, GivesEntries room members entries) ↔
      ∀ member ∈ members, (∃ text, member.1.text = .ok text) ∧
        ((fieldNamed? member.1).isSome → member.2.Valued) := by
  induction members with
  | nil => exact iff_of_true ⟨[], .nil⟩ (List.forall_mem_nil _)
  | cons member rest ih =>
      obtain ⟨name, value⟩ := member
      obtain ⟨skippedValue, skipped⟩ := List.forall_mem_cons.mp skipped
      obtain ⟨shallowValue, shallow⟩ := List.forall_mem_cons.mp shallow
      rw [List.forall_mem_cons, ← ih skipped shallow]
      constructor
      · rintro ⟨entries, gives⟩
        cases gives with
        | other isText unknown _ gives =>
            refine ⟨⟨⟨_, isText⟩, ?_⟩, _, gives⟩
            simp [fieldNamed?_of_text isText, unknown]
        | field isText known keeps gives =>
            refine ⟨⟨⟨_, isText⟩, ?_⟩, _, gives⟩
            intro _
            exact (Document.exists_keep_iff skippedValue shallowValue).mp ⟨_, keeps⟩
      · rintro ⟨⟨⟨text, isText⟩, valued⟩, entries, gives⟩
        cases known : Key.ofSpelling? text with
        | none => exact ⟨_, .other isText known skippedValue gives⟩
        | some key =>
            have named : (fieldNamed? name).isSome := by simp [fieldNamed?_of_text isText, known]
            obtain ⟨kept, keeps⟩ :=
              (Document.exists_keep_iff skippedValue shallowValue).mpr (valued named)
            exact ⟨_, .field isText known keeps gives⟩

/-! ## Nodes and messages -/

theorem exists_readNode_iff {room : Nat} {document : Document} (skipped : document.skip = .ok ())
    (shallow : document.depth ≤ room) :
    (∃ node, readNode room document = .ok node) ↔ IsRecord document ∧ FieldsValued document := by
  cases document with
  | object members stop =>
      obtain ⟨skippedMembers, rfl⟩ := Document.skip_object.mp skipped
      obtain ⟨roomy, shallowMembers⟩ := Document.depth_object_le.mp shallow
      have given := exists_givesEntries_iff (fun member within => (skippedMembers member within).2)
        shallowMembers
      rw [IsRecord, FieldsValued, ← given]
      constructor
      · rintro ⟨node, read⟩
        obtain ⟨_, _, entries, gives, distinct, _⟩ := readNode_object.mp read
        exact ⟨gives.keys_eq ▸ distinct, entries, gives⟩
      · rintro ⟨distinct, entries, gives⟩
        exact ⟨_, readNode_object.mpr
          ⟨roomy, rfl, entries, gives, gives.keys_eq.symm ▸ distinct, rfl⟩⟩
  | array items stop =>
      obtain ⟨skippedItems, rfl⟩ := Document.skip_array.mp skipped
      obtain ⟨roomy, shallowItems⟩ := Document.depth_array_le.mp shallow
      have each : (∀ item ∈ items, ∃ value, item.keep (room - 1) = .ok value) ↔
          ∀ item ∈ items, item.Valued :=
        forall₂_congr fun item within =>
          Document.exists_keep_iff (skippedItems item within) (shallowItems item within)
      rw [IsRecord, FieldsValued, ← each, ← exists_forall₂_iff]
      constructor
      · rintro ⟨node, read⟩
        obtain ⟨_, _, length, values, kept, _⟩ := readNode_array.mp read
        exact ⟨length, values, kept⟩
      · rintro ⟨length, values, kept⟩
        exact ⟨_, readNode_array.mpr ⟨roomy, rfl, length, values, kept, rfl⟩⟩
  | null | boolean | number | string | cutNumber | missing =>
      refine iff_of_false ?_ fun both => both.1
      rintro ⟨node, read⟩
      simpa using form_of_readNode read

theorem read_array {items : List Document} {text : String} {nodes : List Node}
    (spelled : (Document.array items none).SpelledBy text) :
    read text = .ok nodes ↔
      List.Forall₂ (fun item node => readNode (deepest - 1) item = .ok node) items nodes := by
  rw [read, readText_eq_ok spelled, readMessage_array]
  simp [deepest]

/-- The number `1e400`, which is too large. -/
def oversized : Numeral :=
  ⟨false, ['1'], [], some (false, ['4', '0', '0'])⟩

theorem spells_oversized : oversized.Spells ['1', 'e', '4', '0', '0'] :=
  .plain ⟨⟨by simp, List.all_eq_true.mp rfl⟩, by simp⟩ .absent
    (.present (.head _) .absent ⟨by simp, List.all_eq_true.mp rfl⟩)

theorem not_valued_oversized : ¬ (Document.number oversized).Valued := by
  have tooLarge : oversized.number? = none := by decide +kernel
  simp [Document.Valued, tooLarge]

theorem fieldNamed?_plain (name : String) :
    fieldNamed? (.plain name) = Key.ofSpelling? name :=
  fieldNamed?_of_text (Spelling.text_plain name)

end MessageMarkup.Message
