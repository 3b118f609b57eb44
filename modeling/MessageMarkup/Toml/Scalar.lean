import MessageMarkup.Toml.Moment
import MessageMarkup.Toml.Value

/-!
# Bare scalars

Values that are spelled without quotes and brackets: numbers, truth values, dates
and times. Digits may be grouped by single underscores.
-/

set_option autoImplicit false

namespace MessageMarkup.Toml

/-- Digits of a kind, in groups that are separated by single underscores. Gives the
digits alone. -/
def grouped? (isDigit : Char → Bool) : List Char → Option (List Char)
  | [] => none
  | [digit] => if isDigit digit then some [digit] else none
  | digit :: '_' :: rest =>
      if isDigit digit then (grouped? isDigit rest).map (digit :: ·) else none
  | digit :: rest =>
      if isDigit digit then (grouped? isDigit rest).map (digit :: ·) else none

def plainDigits? (chars : List Char) : Option (List Char) := do
  let digits ← grouped? Text.isDigit chars
  match digits with
  | '0' :: _ :: _ => none
  | _ => return digits

/-- A sign, if there is one: whether it is a minus, whether it is there, and what
follows it. -/
def sign : List Char → Bool × Bool × List Char
  | '-' :: rest => (true, true, rest)
  | '+' :: rest => (false, true, rest)
  | rest => (false, false, rest)

def valueInBase (base : Nat) (digits : List Char) : Nat :=
  digits.foldl (fun value digit => value * base + (Text.hexDigit? digit).getD 0) 0

def isDigitOf (base : Nat) (char : Char) : Bool :=
  match Text.hexDigit? char with
  | some value => value < base
  | none => false

/-- A whole number in a base that is not ten. -/
def based? (base : Nat) (chars : List Char) : Option Value :=
  (grouped? (isDigitOf base) chars).map fun digits => .integer (valueInBase base digits)

def exponent? (chars : List Char) : Option Int :=
  let (negative, _, rest) := sign chars
  (grouped? Text.isDigit rest).map fun digits =>
    let value : Int := Text.decimalValue digits
    if negative then 0 - value else value

def marksExponent (char : Char) : Bool :=
  char == 'e' || char == 'E'

/-- A number in base ten, after its sign. It is real if it has a point or an
exponent. -/
def decimal? (negative : Bool) (chars : List Char) : Option Value := do
  let mantissa := chars.takeWhile fun char => !marksExponent char
  let power := chars.dropWhile fun char => !marksExponent char
  let whole := mantissa.takeWhile (· != '.')
  let point := mantissa.dropWhile (· != '.')
  let wholeDigits ← plainDigits? whole
  let exponent ←
    match power with
    | [] => some none
    | _ :: rest => (exponent? rest).map some
  let fraction ←
    match point with
    | [] => some none
    | _ :: rest => (grouped? Text.isDigit rest).map some
  match fraction, exponent with
  | none, none =>
      let value : Int := Text.decimalValue wholeDigits
      return .integer (if negative then 0 - value else value)
  | _, _ =>
      let places := fraction.getD []
      return .real (.decimal (wholeDigits ++ places) (exponent.getD 0 - (places.length : Int)))

/-- A number that is spelled by digits or a word. Only numbers in base ten may have
a sign. -/
def number? (chars : List Char) : Option Value :=
  let (negative, signed, rest) := sign chars
  match rest with
  | ['i', 'n', 'f'] => some (.real .infinite)
  | ['n', 'a', 'n'] => some (.real .undefined)
  | '0' :: 'x' :: digits => if signed then none else based? 16 digits
  | '0' :: 'o' :: digits => if signed then none else based? 8 digits
  | '0' :: 'b' :: digits => if signed then none else based? 2 digits
  | _ => decimal? negative rest

def scalar? (chars : List Char) : Option Value :=
  if chars = "true".toList then some (.boolean true)
  else if chars = "false".toList then some (.boolean false)
  else if isMoment chars then some (.moment (String.ofList chars))
  else number? chars

end MessageMarkup.Toml
