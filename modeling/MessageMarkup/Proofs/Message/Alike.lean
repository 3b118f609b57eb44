import MessageMarkup.Proofs.Message.Children
import MessageMarkup.Proofs.Message.Facets

/-!
# Records that are read alike

A record may be arranged in other ways without being read as another node: its members may
stand in any order or be written as an array, and members that do not matter may come or go.
The same holds of the records inside of its content.
-/

set_option autoImplicit false

namespace MessageMarkup.Message

open Json

/-! ## Other ways to arrange a record -/

/-- What an object gives for the fields, in the order in which a node lists them, with null for
what is not given. -/
def listed (members : List (Spelling × Document)) : List Document :=
  Key.all.map fun key => (given? key members).getD .null

/-- Documents that are the same node wherever they stand among nodes. -/
inductive Alike : Document → Document → Prop where
  | refl (document : Document) : Alike document document
  | symm {document other : Document} : Alike document other → Alike other document
  | trans {document between other : Document} :
      Alike document between → Alike between other → Alike document other
  /-- Members may stand in any order. -/
  | arranged {members others : List (Spelling × Document)} :
      members.Perm others → Alike (.object members none) (.object others none)
  /-- A member may come or go that has the name of no field, -/
  | passedOver {name : Spelling} {value : Document} {members : List (Spelling × Document)} :
      fieldNamed? name = none → Alike (.object ((name, value) :: members) none) (.object members none)
  /-- or a value of the wrong shape for a field that is not given otherwise. -/
  | unfit {name : Spelling} {key : Key} {value : Document}
      {members : List (Spelling × Document)} :
      fieldNamed? name = some key → given? key members = none → ¬ Fits key value →
      Alike (.object ((name, value) :: members) none) (.object members none)
  /-- The values of the fields may be listed instead. -/
  | listed {members : List (Spelling × Document)} :
      IsRecord (.object members none) →
      Alike (.object members none) (.array (listed members) none)
  /-- All of this may happen to an item in content that is a list of nodes, -/
  | item {name : Spelling} {before after : List Document} {child other : Document}
      {members : List (Spelling × Document)} :
      fieldNamed? name = some .content → IsNodeList (.array (before ++ child :: after) none) →
      Alike child other →
      Alike (.object ((name, .array (before ++ child :: after) none) :: members) none)
        (.object ((name, .array (before ++ other :: after) none) :: members) none)
  /-- and to content that is one node, as long as it is not taken for a list of nodes. -/
  | single {name : Spelling} {child other : Document} {members : List (Spelling × Document)} :
      fieldNamed? name = some .content → IsRecord child → ¬ IsNodeList child →
      ¬ IsNodeList other → Alike child other →
      Alike (.object ((name, child) :: members) none) (.object ((name, other) :: members) none)

theorem node_arranged {members others : List (Spelling × Document)}
    (arranged : members.Perm others) :
    (meaning (.object members none)).node = (meaning (.object others none)).node := by
  apply node_meaning_congr
  · exact (arranged.filterMap fun member => fieldNamed? member.1).nodup_iff
  · intro record key
    have distinct : (keys (entriesMeant members)).Nodup := keys_entriesMeant members ▸ record
    have same : (entriesMeant members).Perm (entriesMeant others) := arranged.filterMap _
    exact congrArg (fun fields => Fields.facet fields key) (Fields.ofEntries_perm distinct same)

theorem node_passedOver {name : Spelling} (unnamed : fieldNamed? name = none) (value : Document)
    (members : List (Spelling × Document)) :
    (meaning (.object ((name, value) :: members) none)).node =
      (meaning (.object members none)).node := by
  apply node_meaning_congr
  · simp only [IsRecord, List.filterMap_cons, unnamed]
  · intro _ key
    have different : fieldNamed? name ≠ some key := by simp [unnamed]
    rw [Fields.facet, Fields.facet, fieldsGiven_object, fieldsGiven_object,
      given?_cons_of_ne different]

theorem node_unfit {name : Spelling} {key : Key} {value : Document}
    {members : List (Spelling × Document)} (named : fieldNamed? name = some key)
    (absent : given? key members = none) (unfit : ¬ Fits key value) :
    (meaning (.object ((name, value) :: members) none)).node =
      (meaning (.object members none)).node := by
  apply node_meaning_congr
  · simp only [IsRecord, List.filterMap_cons, named, List.nodup_cons]
    exact and_iff_right (given?_eq_none_iff.mp absent)
  · intro _ other
    by_cases same : other = key
    · subst same
      rw [facet_cons_self named, facet_of_not_fits unfit, Fields.facet, fieldsGiven_object, absent]
      rfl
    · exact facet_cons_of_ne named same value members none

theorem fieldsGiven_listed (members : List (Spelling × Document)) (key : Key) :
    fieldsGiven (.array (listed members) none) key =
      some (meaning ((given? key members).getD .null)) := by
  have distinct : (keys (Key.all.zip ((listed members).map meaning))).Nodup := by
    rw [keys, List.map_fst_zip (by simp [listed])]
    decide
  have member : (key, meaning ((given? key members).getD .null)) ∈
      Key.all.zip ((listed members).map meaning) := by
    cases key <;> simp [listed, Key.all]
  exact (Fields.ofEntries_eq_some_iff distinct).mpr member

theorem node_listed {members : List (Spelling × Document)}
    (record : IsRecord (.object members none)) :
    (meaning (.object members none)).node = (meaning (.array (listed members) none)).node := by
  apply node_meaning_congr
  · exact iff_of_true record (List.length_map _)
  · intro _ key
    rw [Fields.facet, Fields.facet, fieldsGiven_listed, fieldsGiven_object]
    cases given? key members <;> rfl

/-- Every array that is a record is alike to an object, so that whatever may happen to the content
of an object may happen to that of an array. -/
theorem exists_alike_object {items : List Document} (record : IsRecord (.array items none)) :
    ∃ members, IsRecord (.object members none) ∧ Alike (.object members none) (.array items none) := by
  have length : items.length = 9 := record
  obtain ⟨kind, content, target, id, language, timestamp, format, name, animated, rfl⟩ :
      ∃ a b c d e f g h i, items = [a, b, c, d, e, f, g, h, i] := by
    match items, length with
    | [a, b, c, d, e, f, g, h, i], _ => exact ⟨a, b, c, d, e, f, g, h, i, rfl⟩
  let members : List (Spelling × Document) :=
    Key.all.zipWith (fun key item => (.plain key.spelling, item))
      [kind, content, target, id, language, timestamp, format, name, animated]
  have named (key : Key) : fieldNamed? (.plain key.spelling) = some key := by
    rw [fieldNamed?_plain, Key.ofSpelling?_spelling]
  have object : IsRecord (.object members none) := by
    simp only [IsRecord, members, Key.all, List.zipWith_cons_cons, List.zipWith_nil_left,
      List.filterMap_cons, named, List.filterMap_nil]
    decide
  have same : listed members = [kind, content, target, id, language, timestamp, format, name, animated] := by
    simp [listed, members, Key.all, given?, named]
  exact ⟨members, object, same ▸ .listed object⟩

theorem node_content {name : Spelling} {value other : Document}
    (named : fieldNamed? name = some .content)
    (same : (meaning value).content = (meaning other).content)
    (members : List (Spelling × Document)) :
    (meaning (.object ((name, value) :: members) none)).node =
      (meaning (.object ((name, other) :: members) none)).node := by
  apply node_meaning_congr
  · exact Iff.rfl
  · intro _ key
    by_cases content : key = .content
    · subst content
      rw [facet_cons_self named, facet_cons_self named, Field.facet, Field.facet, same]
    · rw [facet_cons_of_ne named content, facet_cons_of_ne named content]

theorem isRecord_iff_of_node {document other : Document}
    (same : (meaning document).node = (meaning other).node) :
    IsRecord document ↔ IsRecord other := by
  rw [← isSome_node_meaning_iff, same, isSome_node_meaning_iff]

theorem content_item {before after : List Document} {child other : Document}
    (list : IsNodeList (.array (before ++ child :: after) none))
    (same : (meaning child).node = (meaning other).node) :
    (meaning (.array (before ++ child :: after) none)).content =
      (meaning (.array (before ++ other :: after) none)).content := by
  have record : IsRecord child := list child (by simp)
  have recordOther : IsRecord other := (isRecord_iff_of_node same).mp record
  have listOther : IsNodeList (.array (before ++ other :: after) none) := by
    intro item member
    rcases List.mem_append.mp member with former | later
    · exact list item (List.mem_append_left _ former)
    · rcases List.mem_cons.mp later with rfl | last
      · exact recordOther
      · exact list item (List.mem_append_right _ (List.mem_cons_of_mem _ last))
  have node : (fieldsGiven child).node = (fieldsGiven other).node := by
    rw [node_meaning record, node_meaning recordOther] at same
    exact Option.some.inj same
  rw [content_meaning_of_nodeList list, content_meaning_of_nodeList listOther, List.map_append,
    List.map_append, List.map_cons, List.map_cons, node]

/-- Documents that are alike are the same node, or none of them is one. -/
theorem Alike.node_eq {document other : Document} (alike : Alike document other) :
    (meaning document).node = (meaning other).node := by
  induction alike with
  | refl => rfl
  | symm _ ih => exact ih.symm
  | trans _ _ first second => exact first.trans second
  | arranged arranged => exact node_arranged arranged
  | passedOver unnamed => exact node_passedOver unnamed _ _
  | unfit named absent unfit => exact node_unfit named absent unfit
  | listed record => exact node_listed record
  | item named list _ ih => exact node_content named (content_item list ih) _
  | @single name child other members named record list listOther _ ih =>
      have recordOther : IsRecord other := (isRecord_iff_of_node ih).mp record
      apply node_content named
      rw [content_meaning_of_record record list, content_meaning_of_record recordOther listOther, ih]

/-! ## Messages -/

theorem skip_of_spelledBy {document : Document} {text : String} (spelled : document.SpelledBy text) :
    document.skip = .ok () := by
  obtain ⟨_, _, _, _, own, _⟩ := spelled
  exact own.skip

theorem nodes_unique {room : Nat} {items others : List Document} {nodes given : List Node}
    (alike : List.Forall₂ Alike items others)
    (each : List.Forall₂ (fun item node => readNode room item = .ok node) items nodes)
    (eachOther : List.Forall₂ (fun item node => readNode room item = .ok node) others given) :
    given = nodes := by
  induction alike generalizing nodes given with
  | nil =>
      cases each
      cases eachOther
      rfl
  | cons first _ ih =>
      cases each with
      | cons own rest =>
          cases eachOther with
          | cons ownOther restOther =>
              have same := first.node_eq
              rw [node_meaning_of_readNode own, node_meaning_of_readNode ownOther] at same
              rw [Option.some.inj same, ih rest restOther]

theorem records_of_alike {room : Nat} {items others : List Document} {nodes : List Node}
    (alike : List.Forall₂ Alike items others)
    (each : List.Forall₂ (fun item node => readNode room item = .ok node) items nodes) :
    ∀ item ∈ others, IsRecord item := by
  have paired : List.Forall₂ (fun _ other => IsRecord other) items others := by
    refine forall₂_of_mem alike ?_
    intro item member other same
    obtain ⟨node, own⟩ := exists_of_mem_left each member
    exact (isRecord_iff_of_node same.node_eq).mp (isRecord_of_readNode own)
  intro item member
  obtain ⟨_, record⟩ := exists_of_mem_right paired member
  exact record

/-- An object with the letter as its text. Its members come in another order, and one has a value
of the wrong shape. -/
def rearrangedLetter : Document :=
  .object [(.plain "content", .string (.plain "a")), (.plain "id", .boolean true),
    (.plain "type", .string (.plain "text"))] none

/-- The same values in an array. -/
def listedLetter : Document :=
  .array [.string (.plain "text"), .string (.plain "a"), .null, .null, .null, .null, .null, .null,
    .null] none

theorem alike_letter : Alike rearrangedLetter listedLetter := by
  have id : fieldNamed? (.plain "id") = some .id := rfl
  have content : fieldNamed? (.plain "content") = some .content := rfl
  have kind : fieldNamed? (.plain "type") = some .kind := rfl
  have record : IsRecord (.object [(.plain "content", .string (.plain "a")),
      (.plain "type", .string (.plain "text"))] none) := by
    simp [IsRecord, content, kind]
  refine .trans (.arranged (.swap _ _ _)) (.trans (.unfit id ?_ ?_) (.listed record))
  · simp [given?, content, kind]
  · simp [Fits]

/-- Strong text around the letter, with a number that is too large under a name of no field. -/
def rearrangedStrong : Document :=
  .object [(.plain "x", .number oversized), (.plain "content", .array [rearrangedLetter] none),
    (.plain "type", .string (.plain "strong"))] none

def listedStrong : Document :=
  .array [.string (.plain "strong"), .array [listedLetter] none, .null, .null, .null, .null, .null,
    .null, .null] none

theorem alike_strong : Alike rearrangedStrong listedStrong := by
  have content : fieldNamed? (.plain "content") = some .content := rfl
  have kind : fieldNamed? (.plain "type") = some .kind := rfl
  have list : IsNodeList (.array ([] ++ rearrangedLetter :: []) none) := by
    have id : fieldNamed? (.plain "id") = some .id := rfl
    simp [IsNodeList, IsRecord, rearrangedLetter, content, kind, id]
  have record : IsRecord (.object [(.plain "content", .array [listedLetter] none),
      (.plain "type", .string (.plain "strong"))] none) := by
    simp [IsRecord, content, kind]
  exact .trans (.passedOver rfl) (.trans (.item content list alike_letter) (.listed record))

/-- The letter with a number that is too large under a name of no field. -/
def spoiltLetter : Document :=
  .object [(.plain "x", .number oversized), (.plain "type", .string (.plain "text")),
    (.plain "content", .string (.plain "a"))] none

theorem alike_spoilt : Alike (strongOf [letter]) (strongOf [spoiltLetter]) := by
  have content : fieldNamed? (.plain "content") = some .content := rfl
  have kind : fieldNamed? (.plain "type") = some .kind := rfl
  have list : IsNodeList (.array ([] ++ letter :: []) none) := by
    simp [IsNodeList, IsRecord, letter, content, kind]
  have spoilt : Alike letter spoiltLetter := .symm (.passedOver rfl)
  exact .trans (.arranged (.swap _ _ _))
    (.trans (.item content list spoilt) (.arranged (.swap _ _ _)))

end MessageMarkup.Message
