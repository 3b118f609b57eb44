import MessageMarkup.Proofs.Json.Grammar

/-!
# Scanning what the grammar spells

The scanner finds the document that a text spells, and finds no fault in it. Numbers are
the only tokens that what follows them could prolong.
-/

set_option autoImplicit false

namespace MessageMarkup.Json

/-! ## Space -/

theorem skipSpace_append {before : List Char} (space : Space before) (chars : List Char) :
    skipSpace (before ++ chars) = skipSpace chars :=
  List.dropWhile_append_of_pos space

theorem scanValue_space {before : List Char} (space : Space before) (fuel : Nat)
    (chars : List Char) : scanValue fuel (before ++ chars) = scanValue fuel chars := by
  cases fuel with
  | zero => rfl
  | succ fuel => rw [scanValue, scanValue, skipSpace_append space]

theorem scanItems_space {before : List Char} (space : Space before) (fuel : Nat)
    (chars : List Char) : scanItems fuel (before ++ chars) = scanItems fuel chars := by
  cases fuel with
  | zero => rfl
  | succ fuel => rw [scanItems, scanItems, scanValue_space space]

/-! ## Strings -/

theorem scanString_piece {piece : Piece} {own : List Char} (spelled : piece.Spells own)
    (chars : List Char) : scanString (own ++ chars) = consPiece piece (scanString chars) := by
  cases spelled with
  | plain visible notQuote notBackslash =>
      have shown : ¬ _ < 0x20 := Nat.not_lt.mpr visible
      simp [scanString, notBackslash, shown]
  | escaped named =>
      rename_i letter char
      have notUnit : letter ≠ 'u' := by
        rintro rfl
        cases named
      simp [scanString, notUnit, named]
  | unit coded => simp [scanString, coded]

theorem scanString_pieces {pieces : List Piece} {chars : List Char}
    (spelled : SpellsPieces pieces chars) (rest : List Char) :
    scanString (chars ++ '\x22' :: rest) = (⟨pieces, none⟩, .ok rest) := by
  induction spelled with
  | nil => rfl
  | cons piece _ ih =>
      rw [List.append_assoc, scanString_piece piece, ih]
      rfl

/-! ## Numbers -/

/-- Characters that do not go on with a digit. -/
def PastDigits (chars : List Char) : Prop :=
  ∀ char ∈ chars.head?, Text.isDigit char = false

/-- Characters that do not go on with any part of a number. -/
def PastNumber (chars : List Char) : Prop :=
  ∀ char ∈ chars.head?, Text.isDigit char = false ∧ char ≠ '.' ∧ char ≠ 'e' ∧ char ≠ 'E'

theorem PastNumber.pastDigits {chars : List Char} (past : PastNumber chars) : PastDigits chars :=
  fun char member => (past char member).1

theorem PastNumber.append {before chars : List Char} (space : Space before)
    (past : PastNumber chars) : PastNumber (before ++ chars) := by
  cases before with
  | nil => exact past
  | cons first before =>
      intro char member
      obtain rfl : first = char := by simpa using member
      have isFirst := space first (.head _)
      simp only [isSpace, Bool.or_eq_true, beq_iff_eq] at isFirst
      rcases isFirst with ((rfl | rfl) | rfl) | rfl <;> decide

theorem Digits.takeWhile {digits : List Char} (all : Digits digits) {rest : List Char}
    (past : PastDigits rest) : (digits ++ rest).takeWhile Text.isDigit = digits := by
  rw [List.takeWhile_append_of_pos all.digit]
  cases rest with
  | nil => simp
  | cons char rest => simp [past char rfl]

theorem Digits.dropWhile {digits : List Char} (all : Digits digits) {rest : List Char}
    (past : PastDigits rest) : (digits ++ rest).dropWhile Text.isDigit = rest := by
  rw [List.dropWhile_append_of_pos all.digit]
  cases rest with
  | nil => rfl
  | cons char rest => simp [past char rfl]

theorem Digits.isEmpty {digits : List Char} (all : Digits digits) : digits.isEmpty = false := by
  rw [List.isEmpty_eq_false_iff]
  exact all.nonempty

theorem scanExponent_spelled {negative : Bool} {sign digits : List Char}
    (signed : SpellsSign negative sign) (all : Digits digits) (numeral : Numeral)
    {rest : List Char} (past : PastDigits rest) :
    scanExponent numeral (sign ++ digits ++ rest) =
      (.number { numeral with exponent := some (negative, digits) }, .ok rest) := by
  have taken := all.takeWhile past
  have dropped := all.dropWhile past
  cases signed with
  | plus | minus => simp [scanExponent, taken, dropped, all.isEmpty]
  | absent =>
      obtain ⟨first, others, rfl⟩ := List.exists_cons_of_ne_nil all.nonempty
      have isDigit := all.digit first (.head _)
      have notPlus : first ≠ '+' := by
        rintro rfl
        cases isDigit
      have notMinus : first ≠ '-' := by
        rintro rfl
        cases isDigit
      rw [List.cons_append] at taken dropped
      simp only [List.nil_append, List.cons_append, scanExponent]
      split
      · simp_all
      · simp_all
      · simp [taken, dropped]

theorem scanExponentMark_spelled {exponent : Option (Bool × List Char)} {chars : List Char}
    (spelled : SpellsExponent exponent chars) (numeral : Numeral)
    (unset : numeral.exponent = none) {rest : List Char} (past : PastNumber rest) :
    scanExponentMark numeral (chars ++ rest) =
      (.number { numeral with exponent := exponent }, .ok rest) := by
  cases spelled with
  | absent =>
      have same : ({ numeral with exponent := none } : Numeral) = numeral := by
        rw [← unset]
      rw [List.nil_append, same]
      cases rest with
      | nil => rfl
      | cons char rest =>
          obtain ⟨_, _, notSmall, notCapital⟩ := past char rfl
          simp [scanExponentMark, notSmall, notCapital]
  | present marked signed all =>
      have scanned := scanExponent_spelled signed all numeral past.pastDigits
      simp only [List.mem_cons, List.not_mem_nil, or_false] at marked
      rcases marked with rfl | rfl <;> exact scanned

theorem SpellsExponent.pastFraction {exponent : Option (Bool × List Char)} {chars : List Char}
    (spelled : SpellsExponent exponent chars) {rest : List Char} (past : PastNumber rest) :
    ∀ char ∈ (chars ++ rest).head?, Text.isDigit char = false ∧ char ≠ '.' := by
  cases spelled with
  | absent =>
      intro char member
      obtain ⟨notDigit, notPoint, _, _⟩ := past char member
      exact ⟨notDigit, notPoint⟩
  | @present mark _ _ _ marked _ _ =>
      intro char member
      obtain rfl : mark = char := by simpa using member
      simp only [List.mem_cons, List.not_mem_nil, or_false] at marked
      rcases marked with rfl | rfl <;> decide

theorem scanFraction_spelled {fraction chars exponentChars : List Char}
    {exponent : Option (Bool × List Char)} (spelled : SpellsFraction fraction chars)
    (exponentSpelled : SpellsExponent exponent exponentChars) (negative : Bool)
    (whole : List Char) {rest : List Char} (past : PastNumber rest) :
    scanFraction ⟨negative, whole, [], none⟩ (chars ++ (exponentChars ++ rest)) =
      (.number ⟨negative, whole, fraction, exponent⟩, .ok rest) := by
  have follows := exponentSpelled.pastFraction past
  cases spelled with
  | absent =>
      have scanned := scanExponentMark_spelled exponentSpelled ⟨negative, whole, [], none⟩ rfl past
      rw [List.nil_append]
      unfold scanFraction
      split
      · rename_i others same
        rw [same] at follows
        exact absurd rfl (follows '.' rfl).2
      · exact scanned
  | present all =>
      have pastDigits : PastDigits (exponentChars ++ rest) :=
        fun char member => (follows char member).1
      simp only [List.cons_append, scanFraction, all.takeWhile pastDigits,
        all.dropWhile pastDigits, all.isEmpty, Bool.false_eq_true, ↓reduceIte]
      exact scanExponentMark_spelled exponentSpelled ⟨negative, whole, fraction, none⟩ rfl past

theorem scanNumber_spelled {whole fraction fractionChars exponentChars : List Char}
    {exponent : Option (Bool × List Char)} (digits : WholeDigits whole)
    (fractionSpelled : SpellsFraction fraction fractionChars)
    (exponentSpelled : SpellsExponent exponent exponentChars) (negative : Bool)
    {rest : List Char} (past : PastNumber rest) :
    scanNumber negative (whole ++ fractionChars ++ exponentChars ++ rest) =
      (.number ⟨negative, whole, fraction, exponent⟩, .ok rest) := by
  have pastDigits : PastDigits (fractionChars ++ (exponentChars ++ rest)) := by
    cases fractionSpelled with
    | absent => exact fun char member => (exponentSpelled.pastFraction past char member).1
    | present _ =>
        intro char member
        obtain rfl : '.' = char := by simpa using member
        rfl
  have scanned := scanFraction_spelled fractionSpelled exponentSpelled negative whole past
  simp only [List.append_assoc, scanNumber, digits.toDigits.takeWhile pastDigits,
    digits.toDigits.dropWhile pastDigits]
  split
  · exact absurd rfl digits.nonempty
  · exact absurd (digits.leading _ rfl) (by simp)
  · exact scanned

/-! ## Words -/

theorem scanWord_append (word : List Char) (document : Document) (rest : List Char) :
    scanWord word document (word ++ rest) = (document, .ok rest) := by
  induction word with
  | nil => rfl
  | cons letter word ih => simp [scanWord, ih]

/-! ## Documents -/

theorem pastNumber_cons {char : Char} (other : char ∈ [',', ']', '\x7d']) (rest : List Char) :
    PastNumber (char :: rest) := by
  intro first member
  obtain rfl : char = first := by simpa using member
  simp only [List.mem_cons, List.not_mem_nil, or_false] at other
  rcases other with rfl | rfl | rfl <;> decide

/-- The characters with which a document may begin. -/
def startsDocument (char : Char) : Bool :=
  char == 'n' || char == 't' || char == 'f' || char == '\x22' || char == '-' || char == '[' ||
    char == '\x7b' || Text.isDigit char

theorem Numeral.Spells.starts {numeral : Numeral} {chars : List Char}
    (spelled : numeral.Spells chars) :
    ∃ first rest, chars = first :: rest ∧ startsDocument first = true := by
  cases spelled with
  | negative => exact ⟨'-', _, rfl, rfl⟩
  | plain digits =>
      obtain ⟨first, others, rfl⟩ := List.exists_cons_of_ne_nil digits.nonempty
      have isDigit := digits.digit first (.head _)
      exact ⟨first, _, rfl, by simp [startsDocument, isDigit]⟩

theorem SpellsDocument.starts {document : Document} {chars : List Char}
    (spelled : SpellsDocument document chars) :
    ∃ first rest, chars = first :: rest ∧ startsDocument first = true := by
  cases spelled with
  | null | emptyArray | array | emptyObject | object => exact ⟨_, _, rfl, rfl⟩
  | boolean value => cases value <;> exact ⟨_, _, rfl, rfl⟩
  | number numeral => exact numeral.starts
  | string quoted =>
      cases quoted
      exact ⟨_, _, rfl, rfl⟩

theorem SpellsDocument.length_pos {document : Document} {chars : List Char}
    (spelled : SpellsDocument document chars) : 0 < chars.length := by
  obtain ⟨first, rest, rfl, _⟩ := spelled.starts
  simp

theorem skipSpace_of_starts {first : Char} (starts : startsDocument first = true)
    (rest : List Char) : skipSpace (first :: rest) = first :: rest := by
  have visible : isSpace first = false := by
    rw [Bool.eq_false_iff]
    intro space
    simp only [isSpace, Bool.or_eq_true, beq_iff_eq] at space
    rcases space with ((rfl | rfl) | rfl) | rfl <;> cases starts
  simp [skipSpace, visible]

theorem scanValue_number {numeral : Numeral} {chars : List Char}
    (spelled : numeral.Spells chars) (fuel : Nat) {rest : List Char} (past : PastNumber rest) :
    scanValue (fuel + 1) (chars ++ rest) = (.number numeral, .ok rest) := by
  cases spelled with
  | negative digits fraction exponent =>
      exact scanNumber_spelled digits fraction exponent true past
  | plain digits fraction exponent =>
      have scanned := scanNumber_spelled digits fraction exponent false past
      obtain ⟨first, others, rfl⟩ := List.exists_cons_of_ne_nil digits.nonempty
      have isDigit := digits.digit first (.head _)
      have starts : startsDocument first = true := by simp [startsDocument, isDigit]
      simp only [List.cons_append] at scanned ⊢
      rw [scanValue, skipSpace_of_starts starts]
      split <;> simp_all [Text.isDigit]

theorem SpellsItems.starts {items : List Document} {chars : List Char}
    (spelled : SpellsItems items chars) :
    ∃ first rest, chars = first :: rest ∧ startsDocument first = true := by
  cases spelled with
  | last item _ =>
      obtain ⟨first, rest, rfl, starts⟩ := item.starts
      exact ⟨first, _, rfl, starts⟩
  | more item _ _ _ =>
      obtain ⟨first, rest, rfl, starts⟩ := item.starts
      exact ⟨first, _, rfl, starts⟩

theorem SpellsMembers.starts {members : List (Spelling × Document)} {chars : List Char}
    (spelled : SpellsMembers members chars) : ∃ rest, chars = '\x22' :: rest := by
  cases spelled with
  | last member _ =>
      obtain ⟨⟨_⟩, _, _, _⟩ := member
      exact ⟨_, rfl⟩
  | more member _ _ _ =>
      obtain ⟨⟨_⟩, _, _, _⟩ := member
      exact ⟨_, rfl⟩

/-! ## Arrays -/

theorem skipSpace_cons {char : Char} (visible : isSpace char = false) {before : List Char}
    (space : Space before) (rest : List Char) :
    skipSpace (before ++ char :: rest) = char :: rest := by
  rw [skipSpace_append space]
  simp [skipSpace, visible]

theorem scanValue_emptyArray {between : List Char} (space : Space between) (fuel : Nat)
    (rest : List Char) :
    scanValue (fuel + 1) ('[' :: between ++ [']'] ++ rest) = (.array [] none, .ok rest) := by
  have skipped : skipSpace (between ++ ']' :: rest) = ']' :: rest := skipSpace_cons rfl space rest
  simp only [List.cons_append, List.append_assoc, List.nil_append]
  rw [scanValue, skipSpace_of_starts rfl]
  simp only [skipped]
  rfl

theorem scanValue_array {items : List Document} {before chars : List Char} {fuel : Nat}
    {rest : List Char} (space : Space before) (spelled : SpellsItems items chars)
    (scanned : scanItems fuel (chars ++ ']' :: rest) = (items, .ok rest)) :
    scanValue (fuel + 1) ('[' :: before ++ chars ++ [']'] ++ rest) =
      (.array items none, .ok rest) := by
  obtain ⟨first, others, rfl, starts⟩ := spelled.starts
  have skipped : skipSpace (before ++ (first :: others ++ ']' :: rest)) =
      first :: (others ++ ']' :: rest) := by
    rw [skipSpace_append space]
    exact skipSpace_of_starts starts _
  have notEnd : first ≠ ']' := by
    rintro rfl
    cases starts
  simp only [List.cons_append, List.append_assoc, List.nil_append] at skipped scanned ⊢
  rw [scanValue, skipSpace_of_starts rfl]
  simp only [skipped]
  split
  · simp_all
  · simp_all
  · rw [scanned]
    rfl

theorem scanItems_last {item : Document} {own after : List Char} {fuel : Nat} {rest : List Char}
    (space : Space after)
    (scanned : scanValue fuel (own ++ (after ++ ']' :: rest)) =
      (item, .ok (after ++ ']' :: rest))) :
    scanItems (fuel + 1) (own ++ after ++ ']' :: rest) = ([item], .ok rest) := by
  have skipped : skipSpace (after ++ ']' :: rest) = ']' :: rest := skipSpace_cons rfl space rest
  rw [List.append_assoc, scanItems, scanned]
  simp only [skipped]

theorem scanItems_more {item : Document} {items : List Document}
    {own after before others : List Char} {fuel : Nat} {rest : List Char}
    (space : Space after) (spaceBefore : Space before)
    (scanned : scanValue fuel (own ++ (after ++ ',' :: (before ++ (others ++ ']' :: rest)))) =
      (item, .ok (after ++ ',' :: (before ++ (others ++ ']' :: rest)))))
    (further : scanItems fuel (others ++ ']' :: rest) = (items, .ok rest)) :
    scanItems (fuel + 1) (own ++ after ++ ',' :: before ++ others ++ ']' :: rest) =
      (item :: items, .ok rest) := by
  have skipped := skipSpace_cons (rfl : isSpace ',' = false) space
    (before ++ (others ++ ']' :: rest))
  simp only [List.append_assoc, List.cons_append]
  rw [scanItems, scanned]
  simp only [skipped, scanItems_space spaceBefore, further]

/-! ## Objects -/

theorem scanValue_emptyObject {between : List Char} (space : Space between) (fuel : Nat)
    (rest : List Char) :
    scanValue (fuel + 1) ('\x7b' :: between ++ ['\x7d'] ++ rest) =
      (.object [] none, .ok rest) := by
  have skipped : skipSpace (between ++ '\x7d' :: rest) = '\x7d' :: rest :=
    skipSpace_cons rfl space rest
  simp only [List.cons_append, List.append_assoc, List.nil_append]
  rw [scanValue, skipSpace_of_starts rfl]
  simp only [skipped]
  rfl

theorem scanValue_object {members : List (Spelling × Document)} {before chars : List Char}
    {fuel : Nat} {rest : List Char} (space : Space before)
    (scanned : scanMembers fuel (chars ++ '\x7d' :: rest) = (members, .ok rest)) :
    scanValue (fuel + 1) ('\x7b' :: before ++ '\x22' :: chars ++ ['\x7d'] ++ rest) =
      (.object members none, .ok rest) := by
  have skipped : skipSpace (before ++ '\x22' :: (chars ++ '\x7d' :: rest)) =
      '\x22' :: (chars ++ '\x7d' :: rest) := skipSpace_cons rfl space _
  simp only [List.cons_append, List.append_assoc, List.nil_append]
  rw [scanValue, skipSpace_of_starts rfl]
  simp only [skipped, scanned]
  rfl

theorem scanMembers_last {pieces : List Piece} {name after before own ending : List Char}
    {value : Document} {fuel : Nat} {rest : List Char} (named : SpellsPieces pieces name)
    (space : Space after) (spaceBefore : Space before) (spaceEnding : Space ending)
    (scanned : scanValue fuel (own ++ (ending ++ '\x7d' :: rest)) =
      (value, .ok (ending ++ '\x7d' :: rest))) :
    scanMembers (fuel + 1)
        (name ++ '\x22' :: (after ++ ':' :: (before ++ (own ++ (ending ++ '\x7d' :: rest))))) =
      ([(⟨pieces, none⟩, value)], .ok rest) := by
  have colon := skipSpace_cons (rfl : isSpace ':' = false) space
    (before ++ (own ++ (ending ++ '\x7d' :: rest)))
  have closed := skipSpace_cons (rfl : isSpace '\x7d' = false) spaceEnding rest
  rw [scanMembers, scanString_pieces named]
  simp only [colon, scanValue_space spaceBefore, scanned, closed]

theorem scanMembers_more {pieces : List Piece}
    {name after before own ending next others : List Char} {value : Document}
    {members : List (Spelling × Document)} {fuel : Nat} {rest : List Char}
    (named : SpellsPieces pieces name) (space : Space after) (spaceBefore : Space before)
    (spaceEnding : Space ending) (spaceNext : Space next)
    (scanned : scanValue fuel
        (own ++ (ending ++ ',' :: (next ++ '\x22' :: (others ++ '\x7d' :: rest)))) =
      (value, .ok (ending ++ ',' :: (next ++ '\x22' :: (others ++ '\x7d' :: rest)))))
    (further : scanMembers fuel (others ++ '\x7d' :: rest) = (members, .ok rest)) :
    scanMembers (fuel + 1)
        (name ++ '\x22' :: (after ++ ':' :: (before ++ (own ++ (ending ++ ',' ::
          (next ++ '\x22' :: (others ++ '\x7d' :: rest))))))) =
      ((⟨pieces, none⟩, value) :: members, .ok rest) := by
  have colon := skipSpace_cons (rfl : isSpace ':' = false) space
    (before ++ (own ++ (ending ++ ',' :: (next ++ '\x22' :: (others ++ '\x7d' :: rest)))))
  have comma := skipSpace_cons (rfl : isSpace ',' = false) spaceEnding
    (next ++ '\x22' :: (others ++ '\x7d' :: rest))
  have quote := skipSpace_cons (rfl : isSpace '\x22' = false) spaceNext (others ++ '\x7d' :: rest)
  rw [scanMembers, scanString_pieces named]
  simp only [colon, scanValue_space spaceBefore, scanned, comma, quote, further]

mutual

/-- What spells a document is scanned as that document, given as much fuel as there are
characters. -/
theorem scanValue_spelled {chars : List Char} {fuel : Nat} {rest : List Char}
    (enough : chars.length ≤ fuel + 1) (past : PastNumber rest) : ∀ document,
    SpellsDocument document chars →
      scanValue (fuel + 1) (chars ++ rest) = (document, .ok rest)
  | .null, spelled => by
      cases spelled
      exact scanWord_append "ull".toList .null rest
  | .boolean value, spelled => by
      cases spelled
      cases value with
      | true => exact scanWord_append "rue".toList (.boolean true) rest
      | false => exact scanWord_append "alse".toList (.boolean false) rest
  | .number numeral, spelled => by
      cases spelled with
      | number spelled => exact scanValue_number spelled fuel past
  | .cutNumber, spelled => nomatch spelled
  | .missing _, spelled => nomatch spelled
  | .string spelling, spelled => by
      cases spelled with
      | string quoted =>
          cases quoted with
          | quoted pieces =>
              have scanned := scanString_pieces pieces rest
              simp [scanValue, skipSpace, isSpace, scanned]
  | .array items stop, spelled => by
      cases spelled with
      | emptyArray space => exact scanValue_emptyArray space fuel rest
      | @array _ before own space spelledItems =>
          -- The brackets pay for the step of the array and for that of its items.
          simp only [List.length_append, List.length_cons, List.length_nil] at enough
          obtain ⟨fuel, rfl⟩ : ∃ less, fuel = less + 1 :=
            Nat.exists_eq_succ_of_ne_zero (by omega)
          exact scanValue_array space spelledItems
            (scanItems_spelled (by omega) items spelledItems)
  | .object members stop, spelled => by
      cases spelled with
      | emptyObject space => exact scanValue_emptyObject space fuel rest
      | @object _ before own space spelledMembers =>
          obtain ⟨inner, rfl⟩ := spelledMembers.starts
          simp only [List.length_append, List.length_cons, List.length_nil] at enough
          obtain ⟨fuel, rfl⟩ : ∃ less, fuel = less + 1 :=
            Nat.exists_eq_succ_of_ne_zero (by omega)
          exact scanValue_object space
            (scanMembers_spelled (by omega) members spelledMembers rfl)

/-- The items of an array take one step more than they have characters. -/
theorem scanItems_spelled {chars : List Char} {fuel : Nat} {rest : List Char}
    (enough : chars.length ≤ fuel) : ∀ items, SpellsItems items chars →
      scanItems (fuel + 1) (chars ++ ']' :: rest) = (items, .ok rest)
  | [], spelled => nomatch spelled
  | item :: items, spelled => by
      cases spelled with
      | @last _ own after spelledItem space =>
          have some := spelledItem.length_pos
          simp only [List.length_append] at enough
          obtain ⟨fuel, rfl⟩ : ∃ less, fuel = less + 1 :=
            Nat.exists_eq_succ_of_ne_zero (by omega)
          have past : PastNumber (after ++ ']' :: rest) :=
            (pastNumber_cons (by decide) rest).append space
          exact scanItems_last space (scanValue_spelled (by omega) past item spelledItem)
      | @more _ own after before _ others spelledItem space spaceBefore spelledItems =>
          have some := spelledItem.length_pos
          simp only [List.length_append, List.length_cons] at enough
          obtain ⟨fuel, rfl⟩ : ∃ less, fuel = less + 1 :=
            Nat.exists_eq_succ_of_ne_zero (by omega)
          have past : PastNumber (after ++ ',' :: (before ++ (others ++ ']' :: rest))) :=
            (pastNumber_cons (by decide) _).append space
          exact scanItems_more space spaceBefore
            (scanValue_spelled (by omega) past item spelledItem)
            (scanItems_spelled (by omega) items spelledItems)

theorem scanMembers_spelled {chars : List Char} {fuel : Nat} {rest : List Char}
    (enough : chars.length ≤ fuel) : ∀ members {whole : List Char},
    SpellsMembers members whole → whole = '\x22' :: chars →
      scanMembers (fuel + 1) (chars ++ '\x7d' :: rest) = (members, .ok rest)
  | [], _, spelled, _ => nomatch spelled
  | (name, value) :: members, _, spelled, opened => by
      cases spelled with
      | @last _ _ ending member spaceEnding =>
          obtain @⟨_, _, after, before, _, own, ⟨pieces⟩, space, spaceBefore, spelledValue⟩ := member
          have some := spelledValue.length_pos
          simp only [List.cons_append, List.append_assoc, List.nil_append, List.cons.injEq,
            true_and] at opened
          subst opened
          simp only [List.length_append, List.length_cons] at enough
          obtain ⟨fuel, rfl⟩ : ∃ less, fuel = less + 1 :=
            Nat.exists_eq_succ_of_ne_zero (by omega)
          have valueEnough : own.length ≤ fuel + 1 := by omega
          have past : PastNumber (ending ++ '\x7d' :: rest) :=
            (pastNumber_cons (by decide) rest).append spaceEnding
          have scanned := scanValue_spelled valueEnough past value spelledValue
          have last := scanMembers_last pieces space spaceBefore spaceEnding scanned
          simpa only [List.append_assoc, List.cons_append] using last
      | @more _ _ ending next _ others member spaceEnding spaceNext spelledMembers =>
          obtain @⟨_, _, after, before, _, own, ⟨pieces⟩, space, spaceBefore, spelledValue⟩ := member
          obtain ⟨inner, rfl⟩ := spelledMembers.starts
          have some := spelledValue.length_pos
          simp only [List.cons_append, List.append_assoc, List.nil_append, List.cons.injEq,
            true_and] at opened
          subst opened
          simp only [List.length_append, List.length_cons] at enough
          obtain ⟨fuel, rfl⟩ : ∃ less, fuel = less + 1 :=
            Nat.exists_eq_succ_of_ne_zero (by omega)
          have valueEnough : own.length ≤ fuel + 1 := by omega
          have innerEnough : inner.length ≤ fuel := by omega
          have past : PastNumber
              (ending ++ ',' :: (next ++ '\x22' :: (inner ++ '\x7d' :: rest))) :=
            (pastNumber_cons (by decide) _).append spaceEnding
          have scanned := scanValue_spelled valueEnough past value spelledValue
          have further : scanMembers (fuel + 1) (inner ++ '\x7d' :: rest) = (members, .ok rest) :=
            scanMembers_spelled innerEnough members spelledMembers rfl
          have more := scanMembers_more pieces space spaceBefore spaceEnding spaceNext scanned further
          simpa only [List.append_assoc, List.cons_append] using more

end

/-- A text that the grammar derives is scanned without a fault. -/
theorem scanText_spelled {document : Document} {text : String}
    (spelled : document.SpelledBy text) : scanText text.toList = ⟨document, none⟩ := by
  obtain ⟨before, own, after, space, ownSpelled, spaceAfter, same⟩ := spelled
  have nothing : PastNumber [] := by simp [PastNumber]
  have past : PastNumber after := by simpa using nothing.append spaceAfter
  have rest : skipSpace after = [] := by simpa [skipSpace] using skipSpace_append spaceAfter []
  have enough : own.length ≤ 2 * text.toList.length + 1 + 1 := by
    simp only [same, List.length_append]
    omega
  have scanned := scanValue_spelled enough past document ownSpelled
  have whole : scanValue (scanFuel text.toList) text.toList = (document, .ok after) := by
    conv => lhs; arg 2; rw [same, List.append_assoc]
    rw [scanValue_space space]
    exact scanned
  rw [scanText, whole]
  simp [rest]

end MessageMarkup.Json
