import MessageMarkup.Toml.Quote
import MessageMarkup.Toml.Scalar
import MessageMarkup.Toml.Table

/-!
# Reading TOML

From text to the table of a document, line by line: `Toml.read` gives the entries of
the table, or nothing if the text is not TOML.
-/

set_option autoImplicit false

namespace MessageMarkup.Toml

/-! ## Between values -/

def skipBlanks (chars : List Char) : List Char :=
  chars.dropWhile isBlank

/-- The characters from the end of a comment on, which its line ends. None if a
character may not stand in it. -/
def comment? : List Char → Option (List Char)
  | [] => some []
  | '\n' :: rest => some ('\n' :: rest)
  | '\r' :: '\n' :: rest => some ('\r' :: '\n' :: rest)
  | char :: rest => if isPlain char then comment? rest else none

/-- What follows the end of a line: blanks, a comment, and a line break or the end of
the text. -/
def lineBreak? (chars : List Char) : Option (List Char) := do
  let rest ←
    match skipBlanks chars with
    | '#' :: rest => comment? rest
    | rest => some rest
  match rest with
  | [] => some []
  | rest => afterBreak? rest

/-- What follows blanks, line breaks and comments, inside of brackets. -/
def filler? : (inComment : Bool) → List Char → Option (List Char)
  | _, [] => some []
  | _, '\n' :: rest => filler? false rest
  | _, '\r' :: '\n' :: rest => filler? false rest
  | true, char :: rest => if isPlain char then filler? true rest else none
  | false, '#' :: rest => filler? true rest
  | false, char :: rest => if isBlank char then filler? false rest else some (char :: rest)

/-! ## Keys -/

def isBare (char : Char) : Bool :=
  char.isAlphanum || char == '_' || char == '-'

/-- The first key, and what follows it. A quoted key is on one line. -/
def key? : List Char → Option (String × List Char)
  | '\x22' :: '\x22' :: '\x22' :: _ => none
  | '\x27' :: '\x27' :: '\x27' :: _ => none
  | '\x22' :: rest => string? ('\x22' :: rest)
  | '\x27' :: rest => string? ('\x27' :: rest)
  | chars =>
      match chars.takeWhile isBare with
      | [] => none
      | bare => some (String.ofList bare, chars.dropWhile isBare)

/-- The most keys that may stand before the last of a dotted key. -/
def longestPath : Nat := 80

/-- Keys with dots between them, and what follows them. Blanks may stand around each
key. At most `more` keys stand before the last. -/
def path? : (more : Nat) → List Char → Option (List String × List Char)
  | more, chars => do
      let (key, rest) ← key? (skipBlanks chars)
      match more, skipBlanks rest with
      | more + 1, '.' :: rest => do
          let (keys, rest) ← path? more rest
          return (key :: keys, rest)
      | 0, '.' :: _ => none
      | _, rest => return ([key], rest)

/-! ## Values -/

def endsScalar (char : Char) : Bool :=
  isBlank char || char == '\n' || char == '\r' || char == ',' || char == '=' || char == '#'
    || char == '[' || char == ']' || char == '\x7b' || char == '\x7d'
    || char == '\x22' || char == '\x27'

def isDate (chars : List Char) : Bool :=
  date? chars == some []

/-- The characters of a bare scalar, and what follows them. A date and a time may have
one space between them. -/
def bareScalar (chars : List Char) : List Char × List Char :=
  let first := chars.takeWhile fun char => !endsScalar char
  match chars.dropWhile fun char => !endsScalar char with
  | ' ' :: digit :: rest =>
      if isDate first && Text.isDigit digit then
        (first ++ ' ' :: (digit :: rest).takeWhile fun char => !endsScalar char,
          (digit :: rest).dropWhile fun char => !endsScalar char)
      else (first, ' ' :: digit :: rest)
  | rest => (first, rest)

/-- A key with its value. Both stand on the line of the sign between them. -/
def pair? (value? : List Char → Option (Value × List Char)) (chars : List Char) :
    Option (Pair × List Char) := do
  let (path, rest) ← path? longestPath chars
  match rest with
  | '=' :: rest => do
      let (value, rest) ← value? (skipBlanks rest)
      return (⟨path, value⟩, rest)
  | _ => none

/-- Items with commas between them up to a closing bracket, and what follows it. After
the last item may stand one more comma. -/
def sequence? {α : Type} (item? : List Char → Option (α × List Char)) (bracket : Char) :
    (fuel : Nat) → List Char → Option (List α × List Char)
  | 0, _ => none
  | fuel + 1, chars => do
      let chars ← filler? false chars
      if chars.head? = some bracket then return ([], chars.tail)
      let (item, rest) ← item? chars
      match ← filler? false rest with
      | ',' :: rest => do
          let (items, rest) ← sequence? item? bracket fuel rest
          return (item :: items, rest)
      | char :: rest => if char = bracket then some ([item], rest) else none
      | [] => none

/-- The most brackets that a value may stand inside of. -/
def deepest : Nat := 80

/-- A value, and what follows it. Its brackets may be nested `depth` deep. -/
def value? : (depth : Nat) → List Char → Option (Value × List Char)
  | depth + 1, '[' :: rest => do
      let (items, rest) ← sequence? (value? depth) ']' (rest.length + 1) rest
      return (.array items false, rest)
  | depth + 1, '\x7b' :: rest => do
      let (pairs, rest) ← sequence? (pair? (value? depth)) '\x7d' (rest.length + 1) rest
      let entries ← Entries.setAll? .inline [] pairs
      return (.table .inline entries, rest)
  | _, '\x22' :: rest => do
      let (text, rest) ← string? ('\x22' :: rest)
      return (.string text, rest)
  | _, '\x27' :: rest => do
      let (text, rest) ← string? ('\x27' :: rest)
      return (.string text, rest)
  | _, chars => do
      let (bare, rest) := bareScalar chars
      let value ← scalar? bare
      return (value, rest)

/-! ## Lines -/

inductive Statement where
  | pair (pair : Pair)
  | header (element : Bool) (path : List String)

/-- A header, and what follows it. The brackets of an element touch each other. -/
def header? : List Char → Option (Statement × List Char)
  | '[' :: '[' :: rest => do
      match ← path? longestPath rest with
      | (path, ']' :: ']' :: rest) => some (.header true path, rest)
      | _ => none
  | '[' :: rest => do
      match ← path? longestPath rest with
      | (path, ']' :: rest) => some (.header false path, rest)
      | _ => none
  | _ => none

/-- The statement of a line, and what follows it. A line may state nothing; what
starts no line is refused. -/
def statement? (chars : List Char) : Option (Option Statement × List Char) :=
  match skipBlanks chars with
  | [] => some (none, [])
  | '[' :: rest => do
      let (header, rest) ← header? ('[' :: rest)
      return (some header, rest)
  | char :: rest =>
      if char == '#' || char == '\n' || char == '\r' then some (none, char :: rest)
      else do
        let (pair, rest) ← pair? (value? deepest) (char :: rest)
        return (some (.pair pair), rest)

def statements? : (fuel : Nat) → List Char → Option (List Statement)
  | _, [] => some []
  | 0, _ => none
  | fuel + 1, chars => do
      let (statement, rest) ← statement? chars
      let statements ← statements? fuel (← lineBreak? rest)
      return statement.toList ++ statements

/-- The pairs before the first header, and the sections from it on. -/
def gather : List Statement → List Pair × List Section
  | [] => ([], [])
  | .pair pair :: rest => (pair :: (gather rest).1, (gather rest).2)
  | .header element path :: rest => ([], ⟨element, path, (gather rest).1⟩ :: (gather rest).2)

def skipMark : List Char → List Char
  | '\ufeff' :: rest => rest
  | rest => rest

def read (text : String) : Option Entries := do
  let chars := skipMark text.toList
  let statements ← statements? (chars.length + 1) chars
  let (pairs, sections) := gather statements
  Entries.ofSections? pairs sections

end MessageMarkup.Toml
