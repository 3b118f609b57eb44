import MessageMarkup.Text.Digits
import MessageMarkup.Timestamp.Calendar

/-!
# Dates and times

The spelling of dates and times: a date `1979-05-27`, a time `07:32` with seconds
and a fraction if wanted, both with a `T` or a space between them, and then with
an offset if wanted. Every part has to be in its range.
-/

set_option autoImplicit false

namespace MessageMarkup.Toml

/-- Exactly so many digits, and what follows them. -/
def figures? (count : Nat) (chars : List Char) : Option (Nat × List Char) :=
  let digits := chars.take count
  if digits.length = count && digits.all Text.isDigit then
    some (Text.decimalValue digits, chars.drop count)
  else none

def char? (expected : Char) : List Char → Option (List Char)
  | char :: rest => if char == expected then some rest else none
  | [] => none

def date? (chars : List Char) : Option (List Char) := do
  let (year, rest) ← figures? 4 chars
  let (month, rest) ← figures? 2 (← char? '-' rest)
  let (day, rest) ← figures? 2 (← char? '-' rest)
  guard (1 ≤ month && month ≤ 12)
  guard (1 ≤ day && day ≤ Calendar.monthLength year month)
  return rest

def fraction? : List Char → Option (List Char)
  | '.' :: rest => if (rest.takeWhile Text.isDigit).isEmpty then none else some (rest.dropWhile Text.isDigit)
  | rest => some rest

/-- Seconds if there are any, and what follows them. A leap second may be the
sixtieth. -/
def seconds? : List Char → Option (List Char)
  | ':' :: rest => do
      let (second, rest) ← figures? 2 rest
      guard (second ≤ 60)
      fraction? rest
  | rest => some rest

def time? (chars : List Char) : Option (List Char) := do
  let (hour, rest) ← figures? 2 chars
  let (minute, rest) ← figures? 2 (← char? ':' rest)
  guard (hour ≤ 23 && minute ≤ 59)
  seconds? rest

/-- The offset of a clock, at the end of a moment. -/
def isOffset : List Char → Bool
  | [] => true
  | ['Z'] => true
  | ['z'] => true
  | sign :: rest =>
      (sign == '+' || sign == '-') &&
        match figures? 2 rest with
        | some (hour, ':' :: rest) =>
            match figures? 2 rest with
            | some (minute, []) => hour ≤ 23 && minute ≤ 59
            | _ => false
        | _ => false

def separatesTime (char : Char) : Bool :=
  char == 'T' || char == 't' || char == ' '

/-- Whether characters spell a moment: a date, a time, or a date with a time. -/
def isMoment (chars : List Char) : Bool :=
  match date? chars with
  | some [] => true
  | some (separator :: rest) =>
      separatesTime separator &&
        match time? rest with
        | some offset => isOffset offset
        | none => false
  | none => time? chars == some []

end MessageMarkup.Toml
