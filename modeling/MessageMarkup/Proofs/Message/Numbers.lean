import MessageMarkup.Proofs.Message.Children
import MessageMarkup.Proofs.Message.Facets
import MessageMarkup.Proofs.Text.Signed

/-!
# Whole numbers in fields

An id or a time may be spelled as a number or as text. Whole numbers of 64 bits are read exactly,
and other numbers are of no use at all: none is rounded.
-/

set_option autoImplicit false

namespace MessageMarkup

open Json

/-! ## Numerals of whole numbers -/

/-- A numeral that is spelled as a whole number: with neither a point nor an exponent, and not as
zero with a minus sign. -/
structure Json.Numeral.Whole (numeral : Numeral) (value : Int) : Prop where
  noPoint : numeral.fraction = []
  noExponent : numeral.exponent = none
  value_eq : value = if numeral.negative then -(Text.decimalValue numeral.whole : Int)
    else Text.decimalValue numeral.whole
  notMinusZero : numeral.negative = true → value ≠ 0

theorem Json.Numeral.isWhole_iff {numeral : Numeral} :
    numeral.isWhole = true ↔ numeral.fraction = [] ∧ numeral.exponent = none := by
  simp [isWhole]

theorem Json.Numeral.number?_eq_integer_iff {numeral : Numeral} {value : Int} :
    numeral.number? = some (.integer value) ∧ Text.fitsSigned 64 value = true ↔
      numeral.Whole value ∧ Text.InWord value := by
  have bound : powerOfTwo 63 = 9223372036854775808 := rfl
  have greatest : greatestWord = 18446744073709551615 := rfl
  rw [Text.fitsSigned_iff]
  -- In the range of signed words the limits of the numeral's own reading never apply, so that
  -- nothing but the spelling is left to decide.
  refine and_congr_left fun within => ?_
  obtain ⟨low, high⟩ := within
  simp only [number?, bound, greatest, Bool.and_eq_true, decide_eq_true_eq, Bool.not_eq_true',
    isWhole_iff]
  constructor
  · intro read
    split at read
    · rename_i given
      obtain ⟨⟨⟨noPoint, noExponent⟩, positive⟩, _⟩ := given
      cases read
      exact ⟨noPoint, noExponent, by simp [positive], by simp [positive]⟩
    · split at read
      · rename_i given
        obtain ⟨⟨⟨⟨noPoint, noExponent⟩, negative⟩, nonzero⟩, _⟩ := given
        cases read
        exact ⟨noPoint, noExponent, by simp [negative], fun _ => by omega⟩
      · obtain ⟨_, _, same⟩ := Option.map_eq_some_iff.mp read
        cases same
  · rintro ⟨noPoint, noExponent, same, notMinusZero⟩
    cases negative : numeral.negative with
    | false =>
        simp only [negative, Bool.false_eq_true, if_false] at same
        rw [if_pos ⟨⟨⟨noPoint, noExponent⟩, rfl⟩, by omega⟩, same]
    | true =>
        simp only [negative, if_true] at same
        have nonzero := notMinusZero negative
        rw [if_neg (by simp), if_pos ⟨⟨⟨⟨noPoint, noExponent⟩, rfl⟩, by omega⟩, by omega⟩, same,
          Int.zero_sub]

namespace Message

/-! ## A member more -/

theorem GivesEntries.insert {room : Nat} {before after : List (Spelling × Document)}
    {entries : List (Key × Field)} (gives : GivesEntries room (before ++ after) entries)
    {name : Spelling} {key : Key} {value : Document} {kept : Value}
    (named : fieldNamed? name = some key) (keeps : value.keep room = .ok kept) :
    ∃ former later, entries = former ++ later ∧
      GivesEntries room (before ++ (name, value) :: after)
        (former ++ (key, .ofValue kept) :: later) := by
  obtain ⟨text, isText, known⟩ : ∃ text, name.text = .ok text ∧ Key.ofSpelling? text = some key := by
    cases isText : name.text with
    | error fault => simp [fieldNamed?, isText, Except.toOption] at named
    | ok text => exact ⟨text, rfl, fieldNamed?_of_text isText ▸ named⟩
  induction before generalizing entries with
  | nil => exact ⟨[], entries, rfl, .field isText known keeps gives⟩
  | cons member rest ih =>
      cases gives with
      | other otherText unknown skipped gives =>
          obtain ⟨former, later, rfl, whole⟩ := ih gives
          exact ⟨former, later, rfl, .other otherText unknown skipped whole⟩
      | field ownText ownKnown ownKeeps gives =>
          obtain ⟨former, later, rfl, whole⟩ := ih gives
          exact ⟨_ :: former, later, rfl, .field ownText ownKnown ownKeeps whole⟩

/-- An object that is read as a node, and a place in it for a field that it does not give. -/
structure Vacancy (room : Nat) (key : Key) where
  before : List (Spelling × Document)
  after : List (Spelling × Document)
  name : Spelling
  named : fieldNamed? name = some key
  vacant : given? key (before ++ after) = none
  bare : Node
  read : readNode room (.object (before ++ after) none) = .ok bare

namespace Vacancy

variable {room : Nat} {key : Key} (vacancy : Vacancy room key)

/-- What the object gives otherwise. -/
def fields : Fields :=
  fieldsGiven (.object (vacancy.before ++ vacancy.after) none)

/-- The object with a value for the field. -/
def filled (value : Document) : Document :=
  .object (vacancy.before ++ (vacancy.name, value) :: vacancy.after) none

/-- What the object with a value for the field is read as. -/
def reads (value : Document) : Reading Node :=
  readNode room (vacancy.filled value)

theorem bare_eq : vacancy.bare = vacancy.fields.node :=
  eq_node_of_readNode vacancy.read

theorem fields_key : vacancy.fields key = none := by
  rw [fields, fieldsGiven_object, vacancy.vacant]
  rfl

theorem reads_filled {value : Document} {kept : Value} (keeps : value.keep (room - 1) = .ok kept) :
    vacancy.reads value =
      .ok (vacancy.fields.set key (.ofValue kept)).node := by
  obtain ⟨roomy, _, entries, gives, distinct, _⟩ := readNode_object.mp vacancy.read
  obtain ⟨former, later, rfl, whole⟩ := gives.insert vacancy.named keeps
  have fresh : key ∉ keys (former ++ later) := by
    rw [gives.keys_eq]
    exact given?_eq_none_iff.mp vacancy.vacant
  have distinctWhole : (keys ((key, .ofValue kept) :: (former ++ later))).Nodup :=
    .cons fresh distinct
  -- The place of the new entry does not matter, since no key has two entries.
  have moved : ((key, Field.ofValue kept) :: (former ++ later)).Perm
      (former ++ (key, .ofValue kept) :: later) := List.perm_middle.symm
  have same : vacancy.fields = Fields.ofEntries (former ++ later) := by
    rw [fields, fieldsGiven, gives.eq_entriesMeant]
  rw [reads, filled, readNode_object]
  refine ⟨roomy, rfl, _, whole, (moved.map Prod.fst).nodup_iff.mp distinctWhole, ?_⟩
  rw [same, ← Fields.ofEntries_cons, Fields.ofEntries_perm distinctWhole moved]

theorem exists_keep {value : Document} {node : Node}
    (read : vacancy.reads value = .ok node) :
    ∃ kept, value.keep (room - 1) = .ok kept := by
  obtain ⟨_, _, entries, gives, _, _⟩ := readNode_object.mp read
  have within : (vacancy.name, value) ∈
      vacancy.before ++ (vacancy.name, value) :: vacancy.after := by simp
  obtain ⟨kept, keeps, _⟩ := gives.field_given within vacancy.named
  exact ⟨kept, keeps⟩

theorem reads_text {spelling : Spelling} {text : String} (isText : spelling.text = .ok text) :
    vacancy.reads (.string spelling) =
      .ok (vacancy.fields.set key (.ofValue (.string text))).node := by
  apply vacancy.reads_filled
  rw [Document.keep, isText]
  rfl

theorem reads_numeral {numeral : Numeral} {number : Number}
    (isNumber : numeral.number? = some number) :
    vacancy.reads (.number numeral) =
      .ok (vacancy.fields.set key (.ofValue (.number number))).node := by
  apply vacancy.reads_filled
  rw [Document.keep, isNumber]

theorem reads_whole {numeral : Numeral} {value : Int} (whole : numeral.Whole value)
    (within : Text.InWord value) :
    vacancy.reads (.number numeral) =
      .ok (vacancy.fields.set key { number := some value }).node := by
  obtain ⟨isNumber, fits⟩ := Numeral.number?_eq_integer_iff.mpr ⟨whole, within⟩
  rw [vacancy.reads_numeral isNumber, Field.ofValue, Option.filter_some, if_pos fits]

/-- A number that is no whole number of 64 bits is of as much use as none. -/
theorem reads_unfit {numeral : Numeral} {number : Number}
    (isNumber : numeral.number? = some number)
    (other : ∀ value, ¬ (numeral.Whole value ∧ Text.InWord value)) :
    vacancy.reads (.number numeral) = .ok vacancy.bare := by
  have unfit : Field.ofValue (.number number) = .unfit := by
    cases number with
    | float => rfl
    | integer value =>
        have outside : Text.fitsSigned 64 value = false := by
          rw [Bool.eq_false_iff]
          intro fits
          exact other value (Numeral.number?_eq_integer_iff.mp ⟨isNumber, fits⟩)
        rw [Field.ofValue, Option.filter_some, if_neg (by simp [outside]), Field.unfit]
  rw [vacancy.reads_numeral isNumber, unfit, vacancy.bare_eq]
  refine congrArg Except.ok (Fields.node_eq_of_facet fun own => ?_)
  by_cases same : own = key
  · subst same
    rw [Fields.facet, Fields.facet, Fields.set_self, vacancy.fields_key]
    rfl
  · rw [Fields.facet, Fields.facet, Fields.set_of_ne _ _ same]

end Vacancy

/-! ## Times and ids -/

namespace Fields

variable {fields : Fields}

theorem node_of_timestamp (kind : fields.text .kind = some "timestamp") :
    fields.node = match fields.seconds .timestamp with
      | some seconds => .entity (.timestamp seconds fields.style) (fields.contentOf .content)
      | Option.none => .unknown "timestamp" (fields.contentOf .content) := by
  simp only [node, kind, Option.getD_some, model?]
  cases fields.seconds .timestamp <;> rfl

theorem text_set_of_ne {key other : Key} (field : Field) (different : other ≠ key) :
    (fields.set key field).text other = fields.text other := by
  rw [text, text, set_of_ne _ _ different]

theorem contentOf_set_of_ne {key other : Key} (field : Field) (different : other ≠ key) :
    (fields.set key field).contentOf other = fields.contentOf other := by
  rw [contentOf, contentOf, set_of_ne _ _ different]

theorem seconds_set_of_ne {key other : Key} (field : Field) (different : other ≠ key) :
    (fields.set key field).seconds other = fields.seconds other := by
  rw [seconds, seconds, set_of_ne _ _ different]

theorem flag_set_of_ne {key other : Key} (field : Field) (different : other ≠ key) :
    (fields.set key field).flag other = fields.flag other := by
  rw [flag, flag, set_of_ne _ _ different]

theorem node_set_timestamp (kind : fields.text .kind = some "timestamp") (field : Field) :
    (fields.set .timestamp field).node = match (fields.set .timestamp field).seconds .timestamp with
      | some seconds => .entity (.timestamp seconds fields.style) (fields.contentOf .content)
      | Option.none => .unknown "timestamp" (fields.contentOf .content) := by
  have sameKind : (fields.set .timestamp field).text .kind = some "timestamp" := by
    rw [text_set_of_ne field (by decide), kind]
  have sameStyle : (fields.set .timestamp field).style = fields.style := by
    rw [style, style, text_set_of_ne field (by decide)]
  rw [node_of_timestamp sameKind, sameStyle, contentOf_set_of_ne field (by decide)]

theorem seconds_set_text (key : Key) (text : String) :
    (fields.set key (.ofValue (.string text))).seconds key = Text.signed? 64 (Text.trim text) := by
  simp [seconds, set_self, Field.ofValue]

theorem seconds_set_number (key : Key) (value : Int) :
    (fields.set key { number := some value }).seconds key = some value := by
  simp [seconds, set_self]

theorem node_set_id (value : Int) :
    (fields.set .id { number := some value }).node =
      (fields.set .id (.ofValue (.string (toString value)))).node := by
  apply node_congr
  · intro key textual
    have different : key ≠ .id := by
      rintro rfl
      exact absurd textual (by decide)
    rw [text_set_of_ne _ different, text_set_of_ne _ different]
  · simp [identifier, set_self, Field.ofValue]
  · rw [seconds_set_of_ne _ (by decide), seconds_set_of_ne _ (by decide)]
  · rw [flag_set_of_ne _ (by decide), flag_set_of_ne _ (by decide)]
  · rw [contentOf_set_of_ne _ (by decide), contentOf_set_of_ne _ (by decide)]

end Fields

/-- The object is of a kind, whatever its other fields are. -/
def Vacancy.IsOfKind {room : Nat} {key : Key} (vacancy : Vacancy room key) (kind : String) : Prop :=
  ∃ spelling, given? .kind (vacancy.before ++ vacancy.after) = some (.string spelling) ∧
    spelling.text = .ok kind

theorem Vacancy.IsOfKind.text_kind {room : Nat} {key : Key} {vacancy : Vacancy room key}
    {kind : String} (own : vacancy.IsOfKind kind) : vacancy.fields.text .kind = some kind := by
  obtain ⟨spelling, given, isText⟩ := own
  rw [Fields.text, fields, fieldsGiven_object, given, Option.map_some, meaning_string, isText]
  rfl

namespace Vacancy

variable {room : Nat} (vacancy : Vacancy room .timestamp)

theorem reads_time {document : Document} {field : Field} {value : Int}
    (own : vacancy.IsOfKind "timestamp")
    (read : vacancy.reads document = .ok (vacancy.fields.set .timestamp field).node)
    (seconds : (vacancy.fields.set .timestamp field).seconds .timestamp = some value) :
    vacancy.reads document =
      .ok (.entity (.timestamp value vacancy.fields.style) (vacancy.fields.contentOf .content)) := by
  rw [read, Fields.node_set_timestamp own.text_kind, seconds]

theorem bare_of_timestamp (own : vacancy.IsOfKind "timestamp") :
    vacancy.bare = .unknown "timestamp" (vacancy.fields.contentOf .content) := by
  have absent : vacancy.fields.seconds .timestamp = none := by
    rw [Fields.seconds, vacancy.fields_key]
    rfl
  rw [vacancy.bare_eq, Fields.node_of_timestamp own.text_kind, absent]

theorem reads_time_iff {spelling : Spelling} {text : String} (own : vacancy.IsOfKind "timestamp")
    (isText : spelling.text = .ok text) (value : Int) :
    vacancy.reads (.string spelling) =
        .ok (.entity (.timestamp value vacancy.fields.style) (vacancy.fields.contentOf .content)) ↔
      Text.InWord value ∧ Text.Holds text value := by
  have read := vacancy.reads_text isText
  have seconds : (vacancy.fields.set .timestamp (.ofValue (.string text))).seconds .timestamp =
      Text.signed? 64 (Text.trim text) := Fields.seconds_set_text _ _
  rw [← Text.signed?_trim_eq_some_iff]
  constructor
  · intro same
    rw [read, Fields.node_set_timestamp own.text_kind, seconds] at same
    cases given : Text.signed? 64 (Text.trim text) with
    | none => simp [given] at same
    | some own =>
        simp only [given, Except.ok.injEq, Node.entity.injEq, Entity.timestamp.injEq] at same
        rw [same.1.1]
  · intro given
    exact vacancy.reads_time own read (seconds.trans given)

theorem reads_no_time {spelling : Spelling} {text : String} (own : vacancy.IsOfKind "timestamp")
    (isText : spelling.text = .ok text)
    (other : ∀ value, ¬ (Text.InWord value ∧ Text.Holds text value)) :
    vacancy.reads (.string spelling) = .ok vacancy.bare := by
  have none : Text.signed? 64 (Text.trim text) = none := by
    rw [Option.eq_none_iff_forall_ne_some]
    intro value given
    exact other value (Text.signed?_trim_eq_some_iff.mp given)
  rw [vacancy.reads_text isText, Fields.node_set_timestamp own.text_kind, Fields.seconds_set_text,
    none, vacancy.bare_of_timestamp own]

end Vacancy

/-- The object of a timestamp labelled `x`, with place for the time at its end. -/
def untimed : Vacancy (deepest - 1) .timestamp where
  before := [(.plain "type", .string (.plain "timestamp")), (.plain "content", .string (.plain "x"))]
  after := []
  name := .plain "timestamp"
  named := rfl
  vacant := rfl
  bare := .unknown "timestamp" (.text "x")
  read := by cbv

/-- The object of a user, with place for the id before its type. -/
def unidentified : Vacancy (deepest - 1) .id where
  before := []
  after := [(.plain "type", .string (.plain "user"))]
  name := .plain "id"
  named := rfl
  vacant := rfl
  bare := .unknown "user" .empty
  read := by cbv

theorem untimed_isOfKind : untimed.IsOfKind "timestamp" :=
  ⟨.plain "timestamp", rfl, Spelling.text_plain _⟩

theorem signed_least :
    Text.InWord (-9223372036854775808) ∧
      Text.Holds " -009223372036854775808\u3000" (-9223372036854775808) := by
  rw [← Text.signed?_trim_eq_some_iff]
  decide +kernel

theorem not_signed_above (value : Int) :
    ¬ (Text.InWord value ∧ Text.Holds "9223372036854775808" value) := by
  have none : Text.signed? 64 (Text.trim "9223372036854775808") = none := by decide +kernel
  rw [← Text.signed?_trim_eq_some_iff, none]
  simp

theorem whole_fortyTwo : Numeral.Whole ⟨false, ['4', '2'], [], none⟩ 42 :=
  ⟨rfl, rfl, rfl, by simp⟩

end Message

end MessageMarkup
