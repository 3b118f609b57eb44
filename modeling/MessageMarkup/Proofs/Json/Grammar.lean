import MessageMarkup.Json.Scan

/-!
# The grammar of JSON texts

Which characters spell a document. The grammar is stated apart from the scanner: space may
stand around every token, characters of strings may be escaped, and numbers keep the way
in which they are spelled.
-/

set_option autoImplicit false

namespace MessageMarkup.Json

def Space (chars : List Char) : Prop :=
  ∀ char ∈ chars, isSpace char = true

/-! ## Strings -/

inductive Piece.Spells : Piece → List Char → Prop where
  | plain {char : Char} :
      0x20 ≤ char.toNat → char ≠ '\x22' → char ≠ '\\' → Spells (.char char) [char]
  | escaped {letter char : Char} :
      escaped? letter = some char → Spells (.char char) ['\\', letter]
  | unit {first second third fourth : Char} {code : Nat} :
      hexUnit? first second third fourth = some code →
      Spells (.unit code) ['\\', 'u', first, second, third, fourth]

/-- The characters between the quotes of a string. -/
inductive SpellsPieces : List Piece → List Char → Prop where
  | nil : SpellsPieces [] []
  | cons {piece : Piece} {pieces : List Piece} {own others : List Char} :
      piece.Spells own → SpellsPieces pieces others → SpellsPieces (piece :: pieces) (own ++ others)

/-- A string with its quotes. It is closed. -/
inductive Spelling.Spells : Spelling → List Char → Prop where
  | quoted {pieces : List Piece} {chars : List Char} :
      SpellsPieces pieces chars → Spells ⟨pieces, none⟩ ('\x22' :: chars ++ ['\x22'])

/-! ## Numbers -/

structure Digits (chars : List Char) : Prop where
  nonempty : chars ≠ []
  digit : ∀ char ∈ chars, Text.isDigit char = true

/-- The digits before a point. A zero leads only if it stands alone. -/
structure WholeDigits (chars : List Char) : Prop extends Digits chars where
  leading : ∀ rest, chars = '0' :: rest → rest = []

inductive SpellsFraction : List Char → List Char → Prop where
  | absent : SpellsFraction [] []
  | present {digits : List Char} : Digits digits → SpellsFraction digits ('.' :: digits)

inductive SpellsSign : Bool → List Char → Prop where
  | absent : SpellsSign false []
  | plus : SpellsSign false ['+']
  | minus : SpellsSign true ['-']

inductive SpellsExponent : Option (Bool × List Char) → List Char → Prop where
  | absent : SpellsExponent none []
  | present {mark : Char} {negative : Bool} {sign digits : List Char} :
      mark ∈ ['e', 'E'] → SpellsSign negative sign → Digits digits →
      SpellsExponent (some (negative, digits)) (mark :: sign ++ digits)

inductive Numeral.Spells : Numeral → List Char → Prop where
  | plain {whole fraction fractionChars : List Char} {exponent : Option (Bool × List Char)}
      {exponentChars : List Char} :
      WholeDigits whole → SpellsFraction fraction fractionChars →
      SpellsExponent exponent exponentChars →
      Spells ⟨false, whole, fraction, exponent⟩ (whole ++ fractionChars ++ exponentChars)
  | negative {whole fraction fractionChars : List Char} {exponent : Option (Bool × List Char)}
      {exponentChars : List Char} :
      WholeDigits whole → SpellsFraction fraction fractionChars →
      SpellsExponent exponent exponentChars →
      Spells ⟨true, whole, fraction, exponent⟩ ('-' :: (whole ++ fractionChars ++ exponentChars))

/-! ## Documents -/

mutual

/-- The characters of a document from its first to its last token. -/
inductive SpellsDocument : Document → List Char → Prop where
  | null : SpellsDocument .null "null".toList
  | boolean (value : Bool) :
      SpellsDocument (.boolean value) (if value then "true" else "false").toList
  | number {numeral : Numeral} {chars : List Char} :
      numeral.Spells chars → SpellsDocument (.number numeral) chars
  | string {spelling : Spelling} {chars : List Char} :
      spelling.Spells chars → SpellsDocument (.string spelling) chars
  | emptyArray {between : List Char} :
      Space between → SpellsDocument (.array [] none) ('[' :: between ++ [']'])
  | array {items : List Document} {before chars : List Char} :
      Space before → SpellsItems items chars →
      SpellsDocument (.array items none) ('[' :: before ++ chars ++ [']'])
  | emptyObject {between : List Char} :
      Space between → SpellsDocument (.object [] none) ('\x7b' :: between ++ ['\x7d'])
  | object {members : List (Spelling × Document)} {before chars : List Char} :
      Space before → SpellsMembers members chars →
      SpellsDocument (.object members none) ('\x7b' :: before ++ chars ++ ['\x7d'])

/-- The items of an array from the first of them up to the end of the array. -/
inductive SpellsItems : List Document → List Char → Prop where
  | last {item : Document} {own after : List Char} :
      SpellsDocument item own → Space after → SpellsItems [item] (own ++ after)
  | more {item : Document} {own after before : List Char} {items : List Document}
      {others : List Char} :
      SpellsDocument item own → Space after → Space before → SpellsItems items others →
      SpellsItems (item :: items) (own ++ after ++ ',' :: before ++ others)

inductive SpellsMember : Spelling × Document → List Char → Prop where
  | named {name : Spelling} {nameChars after before : List Char} {value : Document}
      {own : List Char} :
      name.Spells nameChars → Space after → Space before → SpellsDocument value own →
      SpellsMember (name, value) (nameChars ++ after ++ ':' :: before ++ own)

/-- The members of an object from the first of them up to the end of the object. -/
inductive SpellsMembers : List (Spelling × Document) → List Char → Prop where
  | last {member : Spelling × Document} {own after : List Char} :
      SpellsMember member own → Space after → SpellsMembers [member] (own ++ after)
  | more {member : Spelling × Document} {own after before : List Char}
      {members : List (Spelling × Document)} {others : List Char} :
      SpellsMember member own → Space after → Space before → SpellsMembers members others →
      SpellsMembers (member :: members) (own ++ after ++ ',' :: before ++ others)

end

/-- A text that spells a document, with space around it. -/
def Document.SpelledBy (document : Document) (text : String) : Prop :=
  ∃ before own after, Space before ∧ SpellsDocument document own ∧ Space after ∧
    text.toList = before ++ own ++ after

end MessageMarkup.Json
