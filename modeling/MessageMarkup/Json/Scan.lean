import MessageMarkup.Json.Document
import MessageMarkup.Text.Digits

/-!
# Scanning

From text to documents. Every scanner takes the characters at hand and gives what
they spell together with the characters that are left, or with the fault at which
scanning ends for good.
-/

set_option autoImplicit false

namespace MessageMarkup.Json

/-- The characters that are left, or the fault that ended the scan. -/
abbrev Rest := Except Fault (List Char)

/-- What a rest keeps from being closed. -/
def Rest.stop : Rest → Option Fault
  | .ok _ => none
  | .error fault => some fault

/-- Space, tab, line feed and carriage return may stand between tokens. -/
def isSpace (char : Char) : Bool :=
  char == ' ' || char == '\t' || char == '\n' || char == '\r'

def skipSpace (chars : List Char) : List Char :=
  chars.dropWhile isSpace

def encodedLength (chars : List Char) : Nat :=
  chars.foldl (fun length char => length + char.utf8Size) 0

/-- The fault of four hexadecimal digits that are not there: the text may be too
short for four digits, whatever they are. -/
def hexFault (chars : List Char) : Fault :=
  if encodedLength (chars.take 4) < 4 then .unfinished else .malformed

def hexUnit? (first second third fourth : Char) : Option Nat := do
  let first ← Text.hexDigit? first
  let second ← Text.hexDigit? second
  let third ← Text.hexDigit? third
  let fourth ← Text.hexDigit? fourth
  return ((first * 16 + second) * 16 + third) * 16 + fourth

def escaped? : Char → Option Char
  | '\x22' => some '\x22'
  | '\\' => some '\\'
  | '/' => some '/'
  | 'b' => some '\x08'
  | 'f' => some '\x0c'
  | 'n' => some '\n'
  | 'r' => some '\r'
  | 't' => some '\t'
  | _ => none

def brokenString (fault : Fault) : Spelling × Rest :=
  (⟨[], some fault⟩, .error fault)

def consPiece (piece : Piece) (following : Spelling × Rest) : Spelling × Rest :=
  ({ following.1 with pieces := piece :: following.1.pieces }, following.2)

def scanString : List Char → Spelling × Rest
  | [] => brokenString .unfinished
  | '\x22' :: rest => (⟨[], none⟩, .ok rest)
  | '\\' :: [] => brokenString .unfinished
  | '\\' :: 'u' :: first :: second :: third :: fourth :: rest =>
      match hexUnit? first second third fourth with
      | some code => consPiece (.unit code) (scanString rest)
      | none => brokenString (hexFault [first, second, third, fourth])
  | '\\' :: 'u' :: rest => brokenString (hexFault rest)
  | '\\' :: letter :: rest =>
      match escaped? letter with
      | some char => consPiece (.char char) (scanString rest)
      | none => brokenString .malformed
  | char :: rest =>
      if char.toNat < 0x20 then brokenString .malformed
      else consPiece (.char char) (scanString rest)

/-- A document without a fault of its own, or one that stands for a fault. -/
def broken (fault : Fault) : Document × Rest :=
  (.missing fault, .error fault)

/-- A number that ends where a digit has to follow. -/
def cutAt : List Char → Document × Rest
  | [] => (.cutNumber, .error .malformed)
  | _ => broken .malformed

def scanExponent (numeral : Numeral) (chars : List Char) : Document × Rest :=
  let (negative, chars) :=
    match chars with
    | '+' :: rest => (false, rest)
    | '-' :: rest => (true, rest)
    | rest => (false, rest)
  let digits := chars.takeWhile Text.isDigit
  let rest := chars.dropWhile Text.isDigit
  if digits.isEmpty then cutAt rest
  else (.number { numeral with exponent := some (negative, digits) }, .ok rest)

def scanExponentMark (numeral : Numeral) : List Char → Document × Rest
  | 'e' :: rest => scanExponent numeral rest
  | 'E' :: rest => scanExponent numeral rest
  | rest => (.number numeral, .ok rest)

def scanFraction (numeral : Numeral) : List Char → Document × Rest
  | '.' :: chars =>
      let digits := chars.takeWhile Text.isDigit
      let rest := chars.dropWhile Text.isDigit
      if digits.isEmpty then cutAt rest
      else scanExponentMark { numeral with fraction := digits } rest
  | rest => scanExponentMark numeral rest

/-- A number after its sign. A leading zero stands alone. -/
def scanNumber (negative : Bool) (chars : List Char) : Document × Rest :=
  let digits := chars.takeWhile Text.isDigit
  let rest := chars.dropWhile Text.isDigit
  match digits with
  | [] => cutAt rest
  | '0' :: _ :: _ => broken .malformed
  | _ => scanFraction ⟨negative, digits, [], none⟩ rest

/-- The rest of a word whose first letter was seen. -/
def scanWord (word : List Char) (document : Document) (chars : List Char) : Document × Rest :=
  match word, chars with
  | [], rest => (document, .ok rest)
  | _ :: _, [] => broken .unfinished
  | letter :: word, char :: rest =>
      if letter == char then scanWord word document rest else broken .malformed

mutual

/-- A value. The fuel bounds the number of steps. -/
def scanValue : Nat → List Char → Document × Rest
  | 0, _ => broken .unfinished
  | fuel + 1, chars =>
      match skipSpace chars with
      | [] => broken .unfinished
      | 'n' :: rest => scanWord "ull".toList .null rest
      | 't' :: rest => scanWord "rue".toList (.boolean true) rest
      | 'f' :: rest => scanWord "alse".toList (.boolean false) rest
      | '\x22' :: rest =>
          let (spelling, rest) := scanString rest
          (.string spelling, rest)
      | '-' :: rest => scanNumber true rest
      | '[' :: rest =>
          let (items, rest) :=
            match skipSpace rest with
            | ']' :: rest => ([], .ok rest)
            | [] => ([], .error .unfinished)
            | rest => scanItems fuel rest
          (.array items (Rest.stop rest), rest)
      | '\x7b' :: rest =>
          let (members, rest) :=
            match skipSpace rest with
            | '\x7d' :: rest => ([], .ok rest)
            | [] => ([], .error .unfinished)
            | '\x22' :: rest => scanMembers fuel rest
            | _ => ([], .error .malformed)
          (.object members (Rest.stop rest), rest)
      | char :: rest =>
          if Text.isDigit char then scanNumber false (char :: rest)
          else broken .malformed

/-- The items of an array from the next one on, and the characters after its end. -/
def scanItems : Nat → List Char → List Document × Rest
  | 0, _ => ([], .error .unfinished)
  | fuel + 1, chars =>
      let (item, rest) := scanValue fuel chars
      match rest with
      | .error fault => ([item], .error fault)
      | .ok rest =>
          match skipSpace rest with
          | [] => ([item], .error .unfinished)
          | ']' :: rest => ([item], .ok rest)
          | ',' :: rest =>
              let (items, rest) := scanItems fuel rest
              (item :: items, rest)
          | _ => ([item], .error .malformed)

/-- The members of an object from the next one on, whose opening quote was seen, and
the characters after its end. -/
def scanMembers : Nat → List Char → List (Spelling × Document) × Rest
  | 0, _ => ([], .error .unfinished)
  | fuel + 1, chars =>
      let (name, rest) := scanString chars
      let (value, rest) :=
        match rest with
        | .error fault => broken fault
        | .ok rest =>
            match skipSpace rest with
            | [] => broken .unfinished
            | ':' :: rest => scanValue fuel rest
            | _ => broken .malformed
      match rest with
      | .error fault => ([(name, value)], .error fault)
      | .ok rest =>
          match skipSpace rest with
          | [] => ([(name, value)], .error .unfinished)
          | '\x7d' :: rest => ([(name, value)], .ok rest)
          | ',' :: rest =>
              match skipSpace rest with
              | [] => ([(name, value)], .error .unfinished)
              | '\x22' :: rest =>
                  let (members, rest) := scanMembers fuel rest
                  ((name, value) :: members, rest)
              | _ => ([(name, value)], .error .malformed)
          | _ => ([(name, value)], .error .malformed)

end

def scanFuel (chars : List Char) : Nat :=
  2 * chars.length + 2

/-- A whole text. Nothing but space may follow the value. -/
def scanText (chars : List Char) : Scanned :=
  let (root, rest) := scanValue (scanFuel chars) chars
  match rest with
  | .error fault => ⟨root, some fault⟩
  | .ok rest => ⟨root, if (skipSpace rest).isEmpty then none else some .malformed⟩

end MessageMarkup.Json
