import Mathlib.Data.List.Forall2
import MessageMarkup.Json.Refusal
import MessageMarkup.Proofs.Json.Grammar

/-!
# Documents and their values

A document that a text spells can be passed over. To have a value its strings must be
text and its numbers must not be too large; to be kept it must not be nested deeper than
there is room.
-/

set_option autoImplicit false

namespace MessageMarkup.Json

/-! ## Computations that may fail -/

theorem bind_eq_ok {Error Value Result : Type} {source : Except Error Value}
    {next : Value → Except Error Result} {result : Result} :
    source >>= next = .ok result ↔ ∃ value, source = .ok value ∧ next value = .ok result := by
  cases source with
  | error error => simp [bind, Except.bind]
  | ok value => simp [bind, Except.bind]

theorem bind_unit_eq_ok {Error Result : Type} {source : Except Error Unit}
    {next : Unit → Except Error Result} {result : Result} :
    source >>= next = .ok result ↔ source = .ok () ∧ next () = .ok result := by
  cases source with
  | error error => simp [bind, Except.bind]
  | ok value => simp [bind, Except.bind]

theorem map_eq_ok {Error Value Result : Type} {source : Except Error Value}
    {apply : Value → Result} {result : Result} :
    apply <$> source = .ok result ↔ ∃ value, source = .ok value ∧ apply value = result := by
  cases source with
  | error error => simp [Functor.map, Except.map]
  | ok value => simp [Functor.map, Except.map]

theorem bind_eq_error {Error Value Result : Type} {source : Except Error Value}
    {next : Value → Except Error Result} {error : Error} :
    source >>= next = .error error ↔
      source = .error error ∨ ∃ value, source = .ok value ∧ next value = .error error := by
  cases source with
  | error own => simp [bind, Except.bind]
  | ok value => simp [bind, Except.bind]

theorem mapError_eq_ok {Error Other Value : Type} {source : Except Error Value}
    {convert : Error → Other} {value : Value} :
    source.mapError convert = .ok value ↔ source = .ok value := by
  cases source <;> simp [Except.mapError]

theorem mapError_eq_error {Error Other Value : Type} {source : Except Error Value}
    {convert : Error → Other} {error : Other} :
    source.mapError convert = .error error ↔ ∃ own, source = .error own ∧ convert own = error := by
  cases source <;> simp [Except.mapError]

theorem mapM_eq_ok_iff {Error Value Result : Type} {each : Value → Except Error Result}
    {given : Option Value} {results : Option Result} :
    given.mapM each = .ok results ↔
      Option.Rel (fun value result => each value = .ok result) given results := by
  cases given with
  | none =>
      constructor
      · intro same
        cases same
        exact .none
      · intro related
        cases related
        rfl
  | some value =>
      have mapped : (some value).mapM each = some <$> each value := rfl
      rw [mapped, map_eq_ok]
      constructor
      · intro found
        obtain ⟨result, own, rfl⟩ := found
        exact .some own
      · intro related
        cases related with
        | some own => exact ⟨_, own, rfl⟩

theorem mapM_eq_error_iff {Error Value Result : Type} {each : Value → Except Error Result}
    {given : Option Value} {error : Error} :
    given.mapM each = .error error ↔ ∃ value, given = some value ∧ each value = .error error := by
  cases given with
  | none =>
      constructor
      · intro same
        cases same
      · intro found
        obtain ⟨_, same, _⟩ := found
        cases same
  | some value =>
      have mapped : (some value).mapM each = some <$> each value := rfl
      rw [mapped]
      cases own : each value with
      | ok result => simp [Functor.map, Except.map, own]
      | error fault => simp [Functor.map, Except.map, own]

/-- Every item has a counterpart if all of them together have. -/
theorem exists_forall₂_iff {Item Other : Type} {related : Item → Other → Prop}
    {items : List Item} :
    (∃ others, List.Forall₂ related items others) ↔ ∀ item ∈ items, ∃ other, related item other := by
  induction items with
  | nil => simp
  | cons item rest ih =>
      rw [List.forall_mem_cons, ← ih]
      constructor
      · rintro ⟨_, _ | ⟨first, later⟩⟩
        exact ⟨⟨_, first⟩, _, later⟩
      · rintro ⟨⟨_, first⟩, _, later⟩
        exact ⟨_, .cons first later⟩

theorem exists_of_mem_left {Item Other : Type} {related : Item → Other → Prop}
    {items : List Item} {others : List Other} (paired : List.Forall₂ related items others)
    {item : Item} (member : item ∈ items) : ∃ other, related item other :=
  exists_forall₂_iff.mp ⟨others, paired⟩ item member

theorem exists_of_mem_right {Item Other : Type} {related : Item → Other → Prop}
    {items : List Item} {others : List Other} (paired : List.Forall₂ related items others)
    {other : Other} (member : other ∈ others) : ∃ item, related item other :=
  exists_of_mem_left paired.flip member

theorem forall₂_of_mem {Item Other : Type} {related further : Item → Other → Prop}
    {items : List Item} {others : List Other} (paired : List.Forall₂ related items others)
    (implied : ∀ item ∈ items, ∀ other, related item other → further item other) :
    List.Forall₂ further items others := by
  induction paired with
  | nil => exact .nil
  | cons first _ ih =>
      obtain ⟨here, later⟩ := List.forall_mem_cons.mp implied
      exact .cons (here _ first) (ih later)

theorem close_eq_ok {stop : Option Fault} {closed : Unit} :
    close stop = .ok closed ↔ stop = none := by
  cases stop <;> simp [close]

theorem ofFault_eq_ok {Value : Type} {source : Except Fault Value} {value : Value} :
    Reading.ofFault source = .ok value ↔ source = .ok value := by
  cases source <;> simp [Reading.ofFault]

theorem toOption_of_ofFault {Value : Type} {source : Except Fault Value} {value : Value}
    (given : Reading.ofFault source = .ok value) : source.toOption = some value := by
  rw [ofFault_eq_ok.mp given, Except.toOption]

theorem refuse_ne_ok {Value : Type} (document : Document) (wanted : String) (value : Value) :
    document.refuse wanted ≠ .ok value := by
  rw [Document.refuse]
  split <;> simp

theorem readRoot_eq_ok {Result : Type} {reader : Nat → Document → Reading Result} {text : String}
    {result : Result} (accepted : readText reader text = .ok result) :
    reader deepest (scanText text.toList).root = .ok result := by
  obtain ⟨_, readRoot, closed⟩ := bind_eq_ok.mp accepted
  obtain ⟨_, same⟩ := bind_unit_eq_ok.mp closed
  cases same
  exact readRoot

/-! ## Strings -/

theorem stop_of_pieceChars {stop : Option Fault} {pieces : List Piece} {chars : List Char}
    (kept : pieceChars stop pieces = .ok chars) : stop = none := by
  fun_induction pieceChars stop pieces generalizing chars with
  | case1 | case4 | case6 | case8 | case9 | case11 => cases kept
  | case2 unstopped => exact unstopped
  | case3 _ _ ih | case5 _ _ _ _ _ _ ih | case7 _ _ _ _ _ ih | case10 _ _ _ ih
  | case12 _ _ _ _ ih =>
      obtain ⟨others, rest, _⟩ := bind_eq_ok.mp kept
      exact ih rest

theorem Spelling.stop_of_text {spelling : Spelling} {text : String}
    (isText : spelling.text = .ok text) : spelling.stop = none := by
  obtain ⟨chars, kept, _⟩ := bind_eq_ok.mp isText
  exact stop_of_pieceChars kept

namespace Document

/-! ## Induction -/

/-- What holds of a document whenever it holds of the documents inside of it holds of every
document. -/
@[elab_as_elim]
theorem induct {motive : Document → Prop} (null : motive .null)
    (boolean : ∀ value, motive (.boolean value)) (number : ∀ numeral, motive (.number numeral))
    (cutNumber : motive .cutNumber) (string : ∀ spelling, motive (.string spelling))
    (array : ∀ items stop, (∀ item ∈ items, motive item) → motive (.array items stop))
    (object : ∀ members stop, (∀ member ∈ members, motive member.2) →
      motive (.object members stop))
    (missing : ∀ fault, motive (.missing fault)) (document : Document) : motive document :=
  @Document.rec motive (fun items => ∀ item ∈ items, motive item)
    (fun members => ∀ member ∈ members, motive member.2) (fun member => motive member.2)
    null boolean number cutNumber string (fun items stop inner => array items stop inner)
    (fun members stop inner => object members stop inner) missing
    (fun _ member => nomatch member)
    (fun _ _ first rest => List.forall_mem_cons.mpr ⟨first, rest⟩)
    (fun _ member => nomatch member)
    (fun _ _ first rest => List.forall_mem_cons.mpr ⟨first, rest⟩)
    (fun _ _ own => own) document

/-! ## Depth and values -/

mutual

/-- The greatest number of arrays and objects that lie in one another. -/
def depth : Document → Nat
  | .array items _ => itemsDepth items + 1
  | .object members _ => membersDepth members + 1
  | _ => 0

def itemsDepth : List Document → Nat
  | [] => 0
  | item :: rest => max item.depth (itemsDepth rest)

def membersDepth : List (Spelling × Document) → Nat
  | [] => 0
  | (_, value) :: rest => max value.depth (membersDepth rest)

end

theorem depth_array_le {items : List Document} {stop : Option Fault} {room : Nat} :
    (array items stop).depth ≤ room ↔ room ≠ 0 ∧ ∀ item ∈ items, item.depth ≤ room - 1 := by
  have inner (bound : Nat) : itemsDepth items ≤ bound ↔ ∀ item ∈ items, item.depth ≤ bound := by
    induction items with
    | nil => simp [itemsDepth]
    | cons item rest ih => simp only [itemsDepth, Nat.max_le, ih, List.forall_mem_cons]
  rw [← inner, depth]
  omega

theorem depth_object_le {members : List (Spelling × Document)} {stop : Option Fault} {room : Nat} :
    (object members stop).depth ≤ room ↔
      room ≠ 0 ∧ ∀ member ∈ members, member.2.depth ≤ room - 1 := by
  have inner (bound : Nat) :
      membersDepth members ≤ bound ↔ ∀ member ∈ members, member.2.depth ≤ bound := by
    induction members with
    | nil => simp [membersDepth]
    | cons member rest ih => simp only [membersDepth, Nat.max_le, ih, List.forall_mem_cons]
  rw [← inner, depth]
  omega

mutual

/-- A document whose strings are text and whose numbers are not too large. -/
def Valued : Document → Prop
  | .number numeral => ∃ value, numeral.number? = some value
  | .string spelling => ∃ text, spelling.text = .ok text
  | .array items _ => ItemsValued items
  | .object members _ => MembersValued members
  | _ => True

def ItemsValued : List Document → Prop
  | [] => True
  | item :: rest => item.Valued ∧ ItemsValued rest

def MembersValued : List (Spelling × Document) → Prop
  | [] => True
  | (name, value) :: rest =>
      ((∃ text, name.text = .ok text) ∧ value.Valued) ∧ MembersValued rest

end

theorem valued_array {items : List Document} {stop : Option Fault} :
    (array items stop).Valued ↔ ∀ item ∈ items, item.Valued := by
  rw [Valued]
  induction items with
  | nil => simp [ItemsValued]
  | cons item rest ih => simp only [ItemsValued, ih, List.forall_mem_cons]

theorem valued_object {members : List (Spelling × Document)} {stop : Option Fault} :
    (object members stop).Valued ↔
      ∀ member ∈ members, (∃ text, member.1.text = .ok text) ∧ member.2.Valued := by
  rw [Valued]
  induction members with
  | nil => simp [MembersValued]
  | cons member rest ih => simp only [MembersValued, ih, List.forall_mem_cons]

/-! ## Passing over and keeping -/

theorem skip_array {items : List Document} {stop : Option Fault} :
    (array items stop).skip = .ok () ↔ (∀ item ∈ items, item.skip = .ok ()) ∧ stop = none := by
  have inner : skipItems items = .ok () ↔ ∀ item ∈ items, item.skip = .ok () := by
    induction items with
    | nil => simp [skipItems]
    | cons item rest ih =>
        simp only [skipItems, bind_unit_eq_ok, ih, List.forall_mem_cons]
  simp only [skip, bind_unit_eq_ok, close_eq_ok, inner]

theorem skip_object {members : List (Spelling × Document)} {stop : Option Fault} :
    (object members stop).skip = .ok () ↔
      (∀ member ∈ members, member.1.stop = none ∧ member.2.skip = .ok ()) ∧ stop = none := by
  have inner : skipMembers members = .ok () ↔
      ∀ member ∈ members, member.1.stop = none ∧ member.2.skip = .ok () := by
    induction members with
    | nil => simp [skipMembers]
    | cons member rest ih =>
        simp only [skipMembers, bind_unit_eq_ok, close_eq_ok, ih, List.forall_mem_cons, and_assoc]
  simp only [skip, bind_unit_eq_ok, close_eq_ok, inner]

theorem keepItems_eq_ok {room : Nat} {items : List Document} {values : List Value} :
    keepItems room items = .ok values ↔
      List.Forall₂ (fun item value => item.keep room = .ok value) items values := by
  induction items generalizing values with
  | nil => cases values <;> simp [keepItems]
  | cons item rest ih => cases values <;> simp [keepItems, bind_eq_ok, map_eq_ok, ih]

theorem keepMembers_eq_ok {room : Nat} {members : List (Spelling × Document)}
    {values : List (String × Value)} :
    keepMembers room members = .ok values ↔
      List.Forall₂ (fun member value => member.1.text = .ok value.1 ∧
        member.2.keep room = .ok value.2) members values := by
  induction members generalizing values with
  | nil => cases values <;> simp [keepMembers]
  | cons member rest ih =>
      obtain ⟨name, document⟩ := member
      cases values with
      | nil => simp [keepMembers, bind_eq_ok, map_eq_ok]
      | cons value values =>
          obtain ⟨text, value⟩ := value
          simp only [keepMembers, bind_eq_ok, ih, List.forall₂_cons]
          constructor
          · rintro ⟨_, named, _, kept, _, others, same⟩
            cases same
            exact ⟨⟨named, kept⟩, others⟩
          · rintro ⟨⟨named, kept⟩, others⟩
            exact ⟨_, named, _, kept, _, others, rfl⟩

theorem keep_array {room : Nat} {items : List Document} {stop : Option Fault} {value : Value} :
    (array items stop).keep room = .ok value ↔
      room ≠ 0 ∧ stop = none ∧ ∃ values, value = .array values ∧
        List.Forall₂ (fun item value => item.keep (room - 1) = .ok value) items values := by
  rw [keep]
  split
  · simp_all
  · simp only [bind_eq_ok, keepItems_eq_ok]
    constructor
    · rintro ⟨values, kept, _, closed, same⟩
      cases same
      exact ⟨‹_›, close_eq_ok.mp closed, values, rfl, kept⟩
    · rintro ⟨_, rfl, values, rfl, kept⟩
      exact ⟨values, kept, (), rfl, rfl⟩

theorem keep_object {room : Nat} {members : List (Spelling × Document)} {stop : Option Fault}
    {value : Value} :
    (object members stop).keep room = .ok value ↔
      room ≠ 0 ∧ stop = none ∧ ∃ values, value = .object values ∧
        List.Forall₂ (fun member value => member.1.text = .ok value.1 ∧
          member.2.keep (room - 1) = .ok value.2) members values := by
  rw [keep]
  split
  · simp_all
  · simp only [bind_eq_ok, keepMembers_eq_ok]
    constructor
    · rintro ⟨values, kept, _, closed, same⟩
      cases same
      exact ⟨‹_›, close_eq_ok.mp closed, values, rfl, kept⟩
    · rintro ⟨_, rfl, values, rfl, kept⟩
      exact ⟨values, kept, (), rfl, rfl⟩

theorem form_of_keep_array {room : Nat} {document : Document} {values : List Value}
    (kept : document.keep room = .ok (.array values)) : ∃ items, document = .array items none := by
  cases document with
  | null | boolean | cutNumber | missing => cases kept
  | number numeral =>
      rw [keep] at kept
      split at kept <;> cases kept
  | string spelling =>
      obtain ⟨text, _, same⟩ := bind_eq_ok.mp kept
      cases same
  | array items stop =>
      obtain ⟨_, rfl, _⟩ := keep_array.mp kept
      exact ⟨items, rfl⟩
  | object members stop =>
      obtain ⟨_, _, values, same, _⟩ := keep_object.mp kept
      cases same

/-- What is kept can be passed over as well. -/
theorem skip_of_keep {document : Document} {room : Nat} {value : Value}
    (kept : document.keep room = .ok value) : document.skip = .ok () := by
  induction document using induct generalizing room value with
  | null | boolean | number => rfl
  | cutNumber | missing => cases kept
  | string spelling =>
      obtain ⟨text, isText, _⟩ := bind_eq_ok.mp kept
      exact close_eq_ok.mpr (Spelling.stop_of_text isText)
  | array items stop ih =>
      obtain ⟨_, closed, values, _, inner⟩ := keep_array.mp kept
      refine skip_array.mpr ⟨?_, closed⟩
      intro item member
      obtain ⟨value, kept⟩ := exists_of_mem_left inner member
      exact ih item member kept
  | object members stop ih =>
      obtain ⟨_, closed, values, _, inner⟩ := keep_object.mp kept
      refine skip_object.mpr ⟨?_, closed⟩
      intro entry member
      obtain ⟨value, isText, kept⟩ := exists_of_mem_left inner member
      exact ⟨Spelling.stop_of_text isText, ih entry member kept⟩

/-- A document without faults is kept wherever there is room for it, if its strings and
numbers have values. -/
theorem exists_keep_iff {document : Document} {room : Nat} (skipped : document.skip = .ok ())
    (shallow : document.depth ≤ room) :
    (∃ value, document.keep room = .ok value) ↔ document.Valued := by
  induction document using induct generalizing room with
  | null | boolean => simp [keep, Valued]
  | cutNumber | missing => cases skipped
  | number numeral =>
      rw [keep, Valued]
      cases numeral.number? <;> simp
  | string spelling => simp [keep, Valued, map_eq_ok]
  | array items stop ih =>
      obtain ⟨skippedItems, rfl⟩ := skip_array.mp skipped
      obtain ⟨roomy, shallowItems⟩ := depth_array_le.mp shallow
      have inner : (∃ values, List.Forall₂
          (fun item value => keep (room - 1) item = .ok value) items values) ↔
            ∀ item ∈ items, item.Valued := by
        rw [exists_forall₂_iff]
        exact forall₂_congr fun item member =>
          ih item member (skippedItems item member) (shallowItems item member)
      rw [valued_array, ← inner]
      simp [keep_array, roomy]
  | object members stop ih =>
      obtain ⟨skippedMembers, rfl⟩ := skip_object.mp skipped
      obtain ⟨roomy, shallowMembers⟩ := depth_object_le.mp shallow
      have inner : (∃ values : List (String × Value), List.Forall₂
          (fun member value => member.1.text = .ok value.1 ∧
            member.2.keep (room - 1) = .ok value.2) members values) ↔
            ∀ member ∈ members, (∃ text, member.1.text = .ok text) ∧ member.2.Valued := by
        rw [exists_forall₂_iff]
        refine forall₂_congr fun entry member => ?_
        rw [← ih entry member (skippedMembers entry member).2 (shallowMembers entry member)]
        simp only [Prod.exists, exists_and_left, exists_and_right]
      rw [valued_object, ← inner]
      simp [keep_object, roomy]

/-- The value of a document does not depend on how much room there is, as long as there is
enough. -/
theorem keep_of_depth_le {document : Document} {room other : Nat} {value : Value}
    (kept : document.keep room = .ok value) (shallow : document.depth ≤ other) :
    document.keep other = .ok value := by
  induction document using induct generalizing room other value with
  | null | boolean | number | string => exact kept
  | cutNumber | missing => cases kept
  | array items stop ih =>
      obtain ⟨_, closed, values, rfl, inner⟩ := keep_array.mp kept
      obtain ⟨roomy, shallowItems⟩ := depth_array_le.mp shallow
      refine keep_array.mpr ⟨roomy, closed, values, rfl, forall₂_of_mem inner ?_⟩
      intro item member value kept
      exact ih item member kept (shallowItems item member)
  | object members stop ih =>
      obtain ⟨_, closed, values, rfl, inner⟩ := keep_object.mp kept
      obtain ⟨roomy, shallowMembers⟩ := depth_object_le.mp shallow
      refine keep_object.mpr ⟨roomy, closed, values, rfl, forall₂_of_mem inner ?_⟩
      intro entry member value ⟨named, kept⟩
      exact ⟨named, ih entry member kept (shallowMembers entry member)⟩

/-- What is kept lies no deeper than there is room. -/
theorem depth_le_of_keep {document : Document} {room : Nat} {value : Value}
    (kept : document.keep room = .ok value) : document.depth ≤ room := by
  induction document using induct generalizing room value with
  | null | boolean | number | string => exact Nat.zero_le _
  | cutNumber | missing => cases kept
  | array items stop ih =>
      obtain ⟨roomy, _, values, _, inner⟩ := keep_array.mp kept
      refine depth_array_le.mpr ⟨roomy, fun item member => ?_⟩
      obtain ⟨value, kept⟩ := exists_of_mem_left inner member
      exact ih item member kept
  | object members stop ih =>
      obtain ⟨roomy, _, values, _, inner⟩ := keep_object.mp kept
      refine depth_object_le.mpr ⟨roomy, fun entry member => ?_⟩
      obtain ⟨value, _, kept⟩ := exists_of_mem_left inner member
      exact ih entry member kept

end Document

/-! ## Documents that texts spell -/

theorem Spelling.Spells.stop {spelling : Spelling} {chars : List Char}
    (spelled : spelling.Spells chars) : spelling.stop = none := by
  cases spelled
  rfl

theorem SpellsItems.exists_spells {item : Document} : ∀ {items : List Document} {chars : List Char},
    SpellsItems items chars → item ∈ items → ∃ own, SpellsDocument item own
  | [], _, _, member => nomatch member
  | first :: rest, _, spelled, member => by
      cases spelled with
      | last own _ =>
          obtain rfl := List.mem_singleton.mp member
          exact ⟨_, own⟩
      | more own _ _ others =>
          rcases List.mem_cons.mp member with rfl | later
          · exact ⟨_, own⟩
          · exact others.exists_spells later

theorem SpellsMembers.exists_spells {entry : Spelling × Document} :
    ∀ {members : List (Spelling × Document)} {chars : List Char},
      SpellsMembers members chars → entry ∈ members → ∃ own, SpellsMember entry own
  | [], _, _, member => nomatch member
  | first :: rest, _, spelled, member => by
      cases spelled with
      | last own _ =>
          obtain rfl := List.mem_singleton.mp member
          exact ⟨_, own⟩
      | more own _ _ others =>
          rcases List.mem_cons.mp member with rfl | later
          · exact ⟨_, own⟩
          · exact others.exists_spells later

/-- A document that a text spells has no fault. -/
theorem SpellsDocument.skip {document : Document} {chars : List Char}
    (spelled : SpellsDocument document chars) : document.skip = .ok () := by
  induction document using Document.induct generalizing chars with
  | null | boolean | number => rfl
  | cutNumber | missing => cases spelled
  | string spelling =>
      cases spelled with
      | string quoted => exact close_eq_ok.mpr quoted.stop
  | array items stop ih =>
      cases spelled with
      | emptyArray => rfl
      | array _ spelledItems =>
          refine Document.skip_array.mpr ⟨?_, rfl⟩
          intro item member
          obtain ⟨own, spelledItem⟩ := spelledItems.exists_spells member
          exact ih item member spelledItem
  | object members stop ih =>
      cases spelled with
      | emptyObject => rfl
      | object _ spelledMembers =>
          refine Document.skip_object.mpr ⟨?_, rfl⟩
          intro entry member
          obtain ⟨own, spelledMember⟩ := spelledMembers.exists_spells member
          cases spelledMember with
          | named name _ _ value => exact ⟨name.stop, ih _ member value⟩

end MessageMarkup.Json
