import MessageMarkup.Number.Power

/-!
# Decimal and hexadecimal digits

Whole numbers as runs of ASCII digits. A signed number is an optional sign and
at least one digit; leading zeros are allowed and the sign may be a plus.
-/

set_option autoImplicit false

namespace MessageMarkup.Text

def isDigit (char : Char) : Bool :=
  '0' ≤ char && char ≤ '9'

def digitValue (char : Char) : Nat :=
  char.toNat - '0'.toNat

/-- The value of a run of decimal digits, most significant first. -/
def decimalValue (digits : List Char) : Nat :=
  digits.foldl (fun value digit => value * 10 + digitValue digit) 0

def hexDigit? (char : Char) : Option Nat :=
  if '0' ≤ char && char ≤ '9' then some (char.toNat - '0'.toNat)
  else if 'a' ≤ char && char ≤ 'f' then some (char.toNat - 'a'.toNat + 10)
  else if 'A' ≤ char && char ≤ 'F' then some (char.toNat - 'A'.toNat + 10)
  else none

def isHexDigit (char : Char) : Bool :=
  (hexDigit? char).isSome

def natural? (chars : List Char) : Option Nat :=
  if chars.isEmpty then none
  else if chars.all isDigit then some (decimalValue chars)
  else none

def integer? : List Char → Option Int
  | '-' :: digits => (natural? digits).map fun value => -(value : Int)
  | '+' :: digits => (natural? digits).map fun value => (value : Int)
  | digits => (natural? digits).map fun value => (value : Int)

/-- The numbers that fit a signed word of the given number of bits. -/
def fitsSigned (bits : Nat) (value : Int) : Bool :=
  -(powerOfTwo (bits - 1) : Int) ≤ value && value < (powerOfTwo (bits - 1) : Int)

def signed? (bits : Nat) (text : String) : Option Int :=
  (integer? text.toList).filter (fitsSigned bits)

/-- The lowercase hexadecimal digits of a number, without leading zeros. -/
def hexadecimal (value : Nat) : String :=
  String.ofList (Nat.toDigits 16 value)

/-- A number in decimal, with zeros in front up to the given width. -/
def padded (width value : Nat) : String :=
  let digits := Nat.toDigits 10 value
  String.ofList (List.replicate (width - digits.length) '0' ++ digits)

end MessageMarkup.Text
