import MessageMarkup.Number.Binary64

/-!
# The shortest decimal

The decimal with the fewest digits that reads back as a given number, and among
those the nearest one.
-/

set_option autoImplicit false

namespace MessageMarkup.Binary64

/-- Decimal digits, the first of which has the weight `10 ^ exponent`. -/
structure Decimal where
  digits : List Char
  exponent : Int
  deriving DecidableEq, Repr

/-- The exponent of the leading decimal digit of a quotient that is not zero. -/
def leadingExponent (numerator denominator : Nat) : Int :=
  if denominator ≤ numerator then
    ((Nat.toDigits 10 (numerator / denominator)).length : Int) - 1
  else
    let ceiling := (denominator + numerator - 1) / numerator
    0 - ((Nat.toDigits 10 (ceiling - 1)).length : Int)

/-- Of the two multiples of `10 ^ unit` around a number, the one that reads back as
the number; of two, the nearer, and of two as near, the even one. -/
def candidate? (number : Binary64) (unit : Int) : Option Nat :=
  let (numerator, denominator) := number.quotient
  let (numerator, denominator) :=
    if unit < 0 then (numerator * powerOfTen unit.natAbs, denominator)
    else (numerator, denominator * powerOfTen unit.natAbs)
  let below := numerator / denominator
  let rest := 2 * (numerator % denominator)
  let belowFits := nearest? below unit == some number
  let aboveFits := nearest? (below + 1) unit == some number
  if belowFits && aboveFits then
    if rest < denominator then some below
    else if denominator < rest then some (below + 1)
    else some (below + below % 2)
  else if belowFits then some below
  else if aboveFits then some (below + 1)
  else none

/-- The first hit among grids of ever more digits, of which seventeen always do. -/
def shortestFrom (number : Binary64) (leading : Int) (count : Nat) : Nat → Nat × Int
  | 0 => (0, 0)
  | fuel + 1 =>
      let unit := leading - ((count : Int) - 1)
      match number.candidate? unit with
      | some whole => (whole, unit)
      | none => number.shortestFrom leading (count + 1) fuel

def shortest (number : Binary64) : Decimal :=
  let (numerator, denominator) := number.quotient
  let (whole, unit) := number.shortestFrom (leadingExponent numerator denominator) 1 17
  let digits := Nat.toDigits 10 whole
  let kept := (digits.reverse.dropWhile (· == '0')).reverse
  { digits := kept, exponent := unit + (digits.length : Int) - 1 }

end MessageMarkup.Binary64
