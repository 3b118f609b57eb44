import MessageMarkup.Number.Power

/-!
# Double-precision numbers

The finite binary64 numbers that are not negative, as a significand times a power
of two, and the arithmetic on them that reading a decimal needs. Every operation
is exact arithmetic followed by one rounding to nearest, ties to even.
-/

set_option autoImplicit false

namespace MessageMarkup

/-- The number `significand * 2 ^ exponent`. Values made by `Binary64.round` have a
significand below `2 ^ 53` and the least exponent that allows, so equal numbers
are equal values. -/
structure Binary64 where
  significand : Nat
  exponent : Int
  deriving DecidableEq, Repr

namespace Binary64

/-- The exponent of the smallest numbers. -/
def leastExponent : Int := -1074

/-- The exponent of the largest numbers. -/
def greatestExponent : Int := 971

def zero : Binary64 := ⟨0, leastExponent⟩

def isZero (number : Binary64) : Bool :=
  number.significand == 0

/-- A quotient rounded to the nearest whole number, a half to the even one. -/
def roundQuotient (numerator denominator : Nat) : Nat :=
  let quotient := numerator / denominator
  let rest := 2 * (numerator % denominator)
  if rest < denominator then quotient
  else if denominator < rest then quotient + 1
  else quotient + quotient % 2

def shifted (numerator denominator : Nat) (exponent : Int) : Nat × Nat :=
  if exponent < 0 then (numerator * powerOfTwo exponent.natAbs, denominator)
  else (numerator, denominator * powerOfTwo exponent.natAbs)

/-- The number nearest to a quotient, or none if that is beyond the largest one. -/
def round (numerator denominator : Nat) : Option Binary64 :=
  if numerator == 0 then some zero
  else
    let guess : Int := (numerator.log2 : Int) - (denominator.log2 : Int) - 52
    let wide := shifted numerator denominator guess
    let exact := if wide.1 / wide.2 < powerOfTwo 52 then guess - 1 else guess
    let exponent := max exact leastExponent
    let scaled := shifted numerator denominator exponent
    let significand := roundQuotient scaled.1 scaled.2
    let result : Binary64 :=
      if significand == powerOfTwo 53 then ⟨powerOfTwo 52, exponent + 1⟩
      else ⟨significand, exponent⟩
    if result.exponent ≤ greatestExponent then some result else none

def quotient (number : Binary64) : Nat × Nat :=
  if number.exponent < 0 then (number.significand, powerOfTwo number.exponent.natAbs)
  else (number.significand * powerOfTwo number.exponent.natAbs, 1)

def mul? (left right : Binary64) : Option Binary64 :=
  let leftQuotient := left.quotient
  let rightQuotient := right.quotient
  round (leftQuotient.1 * rightQuotient.1) (leftQuotient.2 * rightQuotient.2)

def div? (left right : Binary64) : Option Binary64 :=
  let leftQuotient := left.quotient
  let rightQuotient := right.quotient
  round (leftQuotient.1 * rightQuotient.2) (leftQuotient.2 * rightQuotient.1)

def powerOfTen? (exponent : Nat) : Option Binary64 :=
  round (powerOfTen exponent) 1

/-- A number divided by a power of ten, in steps of at most `10 ^ 308` with a
rounding at each. -/
def lower? (number : Binary64) (places : Nat) : Option Binary64 :=
  if places ≤ 308 then do number.div? (← powerOfTen? places)
  else if number.isZero then some number
  else do
    let next ← number.div? (← powerOfTen? 308)
    next.lower? (places - 308)
termination_by places

def raise? (number : Binary64) (places : Nat) : Option Binary64 :=
  if places ≤ 308 then do number.mul? (← powerOfTen? places)
  else if number.isZero then some number
  else none

/-- A whole number times a power of ten. The whole number is rounded first, then
scaled, so the result may be a neighbour of the nearest number. -/
def scaled? (whole : Nat) (exponent : Int) : Option Binary64 := do
  let number ← round whole 1
  if exponent < 0 then number.lower? exponent.natAbs else number.raise? exponent.natAbs

def nearest? (whole : Nat) (exponent : Int) : Option Binary64 :=
  if exponent < 0 then round whole (powerOfTen exponent.natAbs)
  else round (whole * powerOfTen exponent.natAbs) 1

end Binary64

end MessageMarkup
