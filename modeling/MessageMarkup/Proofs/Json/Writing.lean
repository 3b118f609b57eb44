import MessageMarkup.Proofs.Json.Keeping
import MessageMarkup.Proofs.Json.Scanning

/-!
# Texts for values

Every value whose numbers are whole has a text that spells it, and the text is nested as
deep as the value. A text that spells a document is read as the document is.
-/

set_option autoImplicit false

namespace MessageMarkup.Json

/-! ## Whole texts -/

theorem readText_eq_ok {Result : Type} {reader : Nat → Document → Reading Result}
    {document : Document} {text : String} {result : Result} (spelled : document.SpelledBy text) :
    readText reader text = .ok result ↔ reader deepest document = .ok result := by
  simp only [readText, scanText_spelled spelled, bind_eq_ok, ofFault_eq_ok, close_eq_ok]
  constructor
  · rintro ⟨_, read, _, _, same⟩
    cases same
    exact read
  · intro read
    exact ⟨_, read, (), trivial, rfl⟩

theorem space_nil : Space [] :=
  List.forall_mem_nil _

theorem exists_spelledBy {document : Document} (spelled : ∃ chars, SpellsDocument document chars) :
    ∃ text, document.SpelledBy text := by
  obtain ⟨own, spelled⟩ := spelled
  refine ⟨String.ofList own, [], own, [], space_nil, spelled, space_nil, ?_⟩
  simp

/-! ## Strings -/

/-- A string that spells every character as it is. -/
def Spelling.plain (text : String) : Spelling :=
  ⟨text.toList.map .char, none⟩

theorem pieceChars_map_char (chars : List Char) :
    pieceChars none (chars.map .char) = .ok chars := by
  induction chars with
  | nil => rfl
  | cons char rest ih =>
      rw [List.map_cons, pieceChars, ih]
      rfl

theorem Spelling.text_plain (text : String) : (plain text).text = .ok text := by
  rw [Spelling.text, plain, pieceChars_map_char]
  exact congrArg Except.ok String.ofList_toList

/-- Whether a character may stand in a string as it is. -/
def isPlain (char : Char) : Bool :=
  0x20 ≤ char.toNat && char != '\x22' && char != '\\'

theorem spellsPieces_plain {chars : List Char} (plain : chars.all isPlain = true) :
    SpellsPieces (chars.map .char) chars := by
  induction chars with
  | nil => exact .nil
  | cons char rest ih =>
      simp only [List.all_cons, isPlain, Bool.and_eq_true, decide_eq_true_eq, bne_iff_ne] at plain
      obtain ⟨⟨⟨above, notQuote⟩, notBackslash⟩, plain⟩ := plain
      exact .cons (.plain above notQuote notBackslash) (ih plain)

theorem Spelling.spells_plain {text : String} (plain : text.toList.all isPlain = true) :
    (Spelling.plain text).Spells ('\x22' :: text.toList ++ ['\x22']) :=
  .quoted (spellsPieces_plain plain)

theorem spells_text {text : String} (plain : text.toList.all isPlain = true) :
    SpellsDocument (.string (.plain text)) ('\x22' :: text.toList ++ ['\x22']) :=
  .string (Spelling.spells_plain plain)

theorem spells_member {name : String} {value : Document} {own : List Char}
    (plain : name.toList.all isPlain = true) (spelled : SpellsDocument value own) :
    SpellsMember (.plain name, value)
      ('\x22' :: name.toList ++ ['\x22'] ++ [] ++ ':' :: [] ++ own) :=
  .named (Spelling.spells_plain plain) space_nil space_nil spelled

theorem exists_hexUnit {code : Nat} (control : code < 0x20) :
    ∃ first second third fourth, hexUnit? first second third fourth = some code := by
  have low : ∀ code : Fin 0x20, hexUnit? '0' '0' (if code.val < 16 then '0' else '1')
      (Nat.digitChar (code.val % 16)) = some code.val := by decide
  exact ⟨_, _, _, _, low ⟨code, control⟩⟩

theorem pieceChars_unit {code : Nat} {pieces : List Piece} {chars : List Char}
    (control : code < 0x20) (kept : pieceChars none pieces = .ok chars) :
    pieceChars none (.unit code :: pieces) = .ok (Char.ofNat code :: chars) := by
  have notTrailing : isTrailing code = false := by simp [isTrailing]; omega
  have notLeading : isLeading code = false := by simp [isLeading]; omega
  cases pieces with
  | nil =>
      cases kept
      simp [pieceChars, notTrailing, notLeading, bind, Except.bind, pure, Except.pure]
  | cons piece rest =>
      cases piece with
      | char char =>
          rw [pieceChars, kept]
          · simp [notTrailing, notLeading, bind, Except.bind, pure, Except.pure]
      | unit other =>
          simp [pieceChars, notTrailing, notLeading, kept, bind, Except.bind, pure, Except.pure]

/-- Quotes and backslashes are escaped, control characters are given by their number. -/
theorem exists_spellsPieces (chars : List Char) :
    ∃ pieces own, SpellsPieces pieces own ∧ pieceChars none pieces = .ok chars := by
  induction chars with
  | nil => exact ⟨[], [], .nil, rfl⟩
  | cons char rest ih =>
      obtain ⟨pieces, own, spelled, kept⟩ := ih
      have keptChar : pieceChars none (.char char :: pieces) = .ok (char :: rest) := by
        rw [pieceChars, kept]
        rfl
      by_cases control : char.toNat < 0x20
      · obtain ⟨first, second, third, fourth, coded⟩ := exists_hexUnit control
        refine ⟨_, _, .cons (.unit coded) spelled, ?_⟩
        rw [pieceChars_unit control kept, Char.ofNat_toNat]
      · by_cases quote : char = '\x22'
        · subst quote
          exact ⟨_, _, .cons (.escaped (show escaped? '\x22' = _ from rfl)) spelled, keptChar⟩
        · by_cases backslash : char = '\\'
          · subst backslash
            exact ⟨_, _, .cons (.escaped (show escaped? '\\' = _ from rfl)) spelled, keptChar⟩
          · exact ⟨_, _, .cons (.plain (Nat.not_lt.mp control) quote backslash) spelled, keptChar⟩

theorem exists_spelling (text : String) :
    ∃ spelling : Spelling, ∃ chars, spelling.Spells chars ∧ spelling.text = .ok text := by
  obtain ⟨pieces, chars, spelled, kept⟩ := exists_spellsPieces text.toList
  refine ⟨_, _, .quoted spelled, ?_⟩
  rw [Spelling.text, kept]
  exact congrArg Except.ok String.ofList_toList

/-! ## Numbers -/

theorem decimalValue_append (digits : List Char) (last : Char) :
    Text.decimalValue (digits ++ [last]) = Text.decimalValue digits * 10 + Text.digitValue last := by
  simp [Text.decimalValue]

theorem exists_digit {value : Nat} (small : value < 10) :
    ∃ digit, Text.isDigit digit = true ∧ Text.digitValue digit = value := by
  have digits : ∀ value : Fin 10, Text.isDigit (Nat.digitChar value.val) = true ∧
      Text.digitValue (Nat.digitChar value.val) = value.val := by decide
  exact ⟨_, digits ⟨value, small⟩⟩

theorem exists_wholeDigits (value : Nat) :
    ∃ digits, WholeDigits digits ∧ Text.decimalValue digits = value := by
  induction value using Nat.strongRecOn with
  | _ value ih =>
      by_cases small : value < 10
      · obtain ⟨digit, isDigit, same⟩ := exists_digit small
        refine ⟨[digit], ⟨⟨List.cons_ne_nil _ _, by simpa using isDigit⟩, ?_⟩, ?_⟩
        · intro rest leading
          cases leading
          rfl
        · simpa [Text.decimalValue] using same
      · obtain ⟨digits, whole, same⟩ := ih (value / 10) (by omega)
        obtain ⟨last, isDigit, lastSame⟩ := exists_digit (Nat.mod_lt value (show 0 < 10 by omega))
        refine ⟨digits ++ [last], ⟨⟨by simp, ?_⟩, ?_⟩, ?_⟩
        · intro char member
          rcases List.mem_append.mp member with before | own
          · exact whole.digit char before
          · rw [List.mem_singleton.mp own]
            exact isDigit
        · -- A zero in front would have to be all of the quotient, which is not zero.
          intro rest leading
          obtain ⟨first, others, rfl⟩ := List.exists_cons_of_ne_nil whole.nonempty
          cases leading
          obtain rfl := whole.leading others rfl
          have zero : Text.decimalValue ['0'] = 0 := rfl
          omega
        · rw [decimalValue_append, same, lastSame]
          omega

theorem exists_numeral {value : Int} (fits : Text.fitsSigned 64 value = true) :
    ∃ numeral : Numeral, ∃ chars, numeral.Spells chars ∧
      numeral.number? = some (.integer value) := by
  have bound : powerOfTwo 63 = 9223372036854775808 := rfl
  have greatest : greatestWord = 18446744073709551615 := rfl
  simp only [Text.fitsSigned, Nat.add_one_sub_one, bound, Bool.and_eq_true, decide_eq_true_eq]
    at fits
  by_cases negative : value < 0
  · obtain ⟨size, rfl⟩ : ∃ size : Nat, value = -(size : Int) := ⟨value.natAbs, by omega⟩
    obtain ⟨digits, whole, same⟩ := exists_wholeDigits size
    have positive : 0 < size := by omega
    have small : size ≤ powerOfTwo 63 := by omega
    refine ⟨_, _, .negative whole .absent .absent, ?_⟩
    simp [Numeral.number?, Numeral.isWhole, same, positive, small]
  · obtain ⟨size, rfl⟩ : ∃ size : Nat, value = (size : Int) := ⟨value.natAbs, by omega⟩
    obtain ⟨digits, whole, same⟩ := exists_wholeDigits size
    have small : size ≤ greatestWord := by omega
    refine ⟨_, _, .plain whole .absent .absent, ?_⟩
    simp [Numeral.number?, Numeral.isWhole, same, small]

/-! ## Values -/

namespace Value

/-- What holds of a value whenever it holds of the values inside of it holds of every value. -/
@[elab_as_elim]
theorem induct {motive : Value → Prop} (null : motive .null)
    (boolean : ∀ value, motive (.boolean value)) (number : ∀ number, motive (.number number))
    (string : ∀ text, motive (.string text))
    (array : ∀ items, (∀ item ∈ items, motive item) → motive (.array items))
    (object : ∀ members, (∀ member ∈ members, motive member.2) → motive (.object members))
    (value : Value) : motive value :=
  @Value.rec motive (fun items => ∀ item ∈ items, motive item)
    (fun members => ∀ member ∈ members, motive member.2) (fun member => motive member.2)
    null boolean number string array object
    (fun _ member => nomatch member)
    (fun _ _ first rest => List.forall_mem_cons.mpr ⟨first, rest⟩)
    (fun _ member => nomatch member)
    (fun _ _ first rest => List.forall_mem_cons.mpr ⟨first, rest⟩)
    (fun _ _ own => own) value

mutual

def depth : Value → Nat
  | .array items => itemsDepth items + 1
  | .object members => membersDepth members + 1
  | _ => 0

def itemsDepth : List Value → Nat
  | [] => 0
  | item :: rest => max item.depth (itemsDepth rest)

def membersDepth : List (String × Value) → Nat
  | [] => 0
  | (_, value) :: rest => max value.depth (membersDepth rest)

end

end Value

/-- A document is nested as deep as its value. -/
theorem Document.depth_of_keep {document : Document} {room : Nat} {value : Value}
    (kept : document.keep room = .ok value) : document.depth = value.depth := by
  induction document using induct generalizing room value with
  | null | boolean =>
      cases kept
      simp [depth, Value.depth]
  | number numeral =>
      rw [keep] at kept
      split at kept <;> cases kept
      simp [depth, Value.depth]
  | string spelling =>
      obtain ⟨text, _, same⟩ := bind_eq_ok.mp kept
      cases same
      simp [depth, Value.depth]
  | cutNumber | missing => cases kept
  | array items stop ih =>
      obtain ⟨_, _, values, rfl, inner⟩ := keep_array.mp kept
      have each := forall₂_of_mem inner fun item member value => ih item member
      have same : itemsDepth items = Value.itemsDepth values := by
        clear kept inner ih
        induction each with
        | nil => rfl
        | cons first _ ih => simp only [itemsDepth, Value.itemsDepth, first, ih]
      rw [depth, Value.depth, same]
  | object members stop ih =>
      obtain ⟨_, _, values, rfl, inner⟩ := keep_object.mp kept
      have each := forall₂_of_mem inner fun entry member value both => ih entry member both.2
      have same : membersDepth members = Value.membersDepth values := by
        clear kept inner ih
        induction each with
        | nil => rfl
        | cons first _ ih => simp only [membersDepth, Value.membersDepth, first, ih]
      rw [depth, Value.depth, same]

/-- A value whose numbers are whole and fit a word of 64 bits. -/
inductive Value.Plain : Value → Prop where
  | null : Plain .null
  | boolean (value : Bool) : Plain (.boolean value)
  | number {value : Int} : Text.fitsSigned 64 value = true → Plain (.number (.integer value))
  | string (text : String) : Plain (.string text)
  | array {items : List Value} : (∀ item ∈ items, Plain item) → Plain (.array items)
  | object {members : List (String × Value)} :
      (∀ member ∈ members, Plain member.2) → Plain (.object members)

/-- A text that spells a value. -/
def Value.SpelledBy (value : Value) (text : String) : Prop :=
  ∃ document : Document, document.SpelledBy text ∧ document.keep document.depth = .ok value

theorem exists_spellsItems {items : List Document} (nonempty : items ≠ [])
    (each : ∀ item ∈ items, ∃ chars, SpellsDocument item chars) :
    ∃ chars, SpellsItems items chars := by
  induction items with
  | nil => exact absurd rfl nonempty
  | cons item rest ih =>
      obtain ⟨⟨own, spelled⟩, later⟩ := List.forall_mem_cons.mp each
      cases rest with
      | nil => exact ⟨_, .last spelled space_nil⟩
      | cons next others =>
          obtain ⟨chars, following⟩ := ih (List.cons_ne_nil _ _) later
          exact ⟨_, .more spelled space_nil space_nil following⟩

theorem exists_spellsMembers {members : List (Spelling × Document)} (nonempty : members ≠ [])
    (each : ∀ member ∈ members, ∃ chars, SpellsMember member chars) :
    ∃ chars, SpellsMembers members chars := by
  induction members with
  | nil => exact absurd rfl nonempty
  | cons member rest ih =>
      obtain ⟨⟨own, spelled⟩, later⟩ := List.forall_mem_cons.mp each
      cases rest with
      | nil => exact ⟨_, .last spelled space_nil⟩
      | cons next others =>
          obtain ⟨chars, following⟩ := ih (List.cons_ne_nil _ _) later
          exact ⟨_, .more spelled space_nil space_nil following⟩

theorem exists_spellsArray {items : List Document}
    (each : ∀ item ∈ items, ∃ chars, SpellsDocument item chars) :
    ∃ chars, SpellsDocument (.array items none) chars := by
  by_cases empty : items = []
  · subst empty
    exact ⟨_, .emptyArray space_nil⟩
  · obtain ⟨chars, spelled⟩ := exists_spellsItems empty each
    exact ⟨_, .array space_nil spelled⟩

theorem exists_spellsObject {members : List (Spelling × Document)}
    (each : ∀ member ∈ members, ∃ chars, SpellsMember member chars) :
    ∃ chars, SpellsDocument (.object members none) chars := by
  by_cases empty : members = []
  · subst empty
    exact ⟨_, .emptyObject space_nil⟩
  · obtain ⟨chars, spelled⟩ := exists_spellsMembers empty each
    exact ⟨_, .object space_nil spelled⟩

theorem exists_document {value : Value} (plain : value.Plain) :
    ∃ document : Document, (∃ chars, SpellsDocument document chars) ∧
      document.keep document.depth = .ok value := by
  induction plain with
  | null => exact ⟨.null, ⟨_, .null⟩, rfl⟩
  | boolean value => exact ⟨.boolean value, ⟨_, .boolean value⟩, rfl⟩
  | number fits =>
      obtain ⟨numeral, chars, spelled, same⟩ := exists_numeral fits
      refine ⟨.number numeral, ⟨_, .number spelled⟩, ?_⟩
      rw [Document.keep, same]
  | string text =>
      obtain ⟨spelling, chars, spelled, isText⟩ := exists_spelling text
      refine ⟨.string spelling, ⟨_, .string spelled⟩, ?_⟩
      rw [Document.keep, isText]
      rfl
  | @array items _ ih =>
      obtain ⟨documents, paired⟩ := exists_forall₂_iff.mpr ih
      obtain ⟨roomy, shallow⟩ :=
        Document.depth_array_le.mp (Nat.le_refl (Document.array documents none).depth)
      refine ⟨.array documents none, ?_, Document.keep_array.mpr ⟨roomy, rfl, items, rfl, ?_⟩⟩
      · apply exists_spellsArray
        intro document member
        obtain ⟨_, spelled, _⟩ := exists_of_mem_right paired member
        exact spelled
      · refine forall₂_of_mem paired.flip ?_
        rintro document member value ⟨_, kept⟩
        exact Document.keep_of_depth_le kept (shallow document member)
  | @object members _ ih =>
      have named : ∀ member ∈ members, ∃ entry : Spelling × Document,
          (∃ chars, SpellsMember entry chars) ∧ entry.1.text = .ok member.1 ∧
            entry.2.keep entry.2.depth = .ok member.2 := by
        intro member within
        obtain ⟨document, ⟨own, spelled⟩, kept⟩ := ih member within
        obtain ⟨name, chars, spelledName, isText⟩ := exists_spelling member.1
        exact ⟨(name, document), ⟨_, .named spelledName space_nil space_nil spelled⟩, isText, kept⟩
      obtain ⟨entries, paired⟩ := exists_forall₂_iff.mpr named
      obtain ⟨roomy, shallow⟩ :=
        Document.depth_object_le.mp (Nat.le_refl (Document.object entries none).depth)
      refine ⟨.object entries none, ?_, Document.keep_object.mpr ⟨roomy, rfl, members, rfl, ?_⟩⟩
      · apply exists_spellsObject
        intro entry within
        obtain ⟨_, spelled, _⟩ := exists_of_mem_right paired within
        exact spelled
      · refine forall₂_of_mem paired.flip ?_
        rintro entry within member ⟨_, isText, kept⟩
        exact ⟨isText, Document.keep_of_depth_le kept (shallow entry within)⟩

theorem Value.Plain.exists_text {value : Value} (plain : value.Plain) :
    ∃ text, value.SpelledBy text := by
  obtain ⟨document, spelled, kept⟩ := exists_document plain
  obtain ⟨text, written⟩ := exists_spelledBy spelled
  exact ⟨text, document, written, kept⟩

end MessageMarkup.Json
