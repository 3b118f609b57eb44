import MessageMarkup.Number.Binary64
import MessageMarkup.Text.Digits
import MessageMarkup.Toml.Value

/-!
# Bounds of numbers

TOML spells numbers of any size. A value is read only if its whole numbers fit 128
bits and its reals are no larger than the largest double-precision number.
-/

set_option autoImplicit false

namespace MessageMarkup.Toml

def fitsWord (value : Int) : Bool :=
  -(powerOfTwo 127 : Int) ≤ value && value < (powerOfTwo 128 : Int)

/-- Whether a real is infinite only if it says so. The places before the point tell,
unless there are 309 of them. -/
def Real.isBounded : Real → Bool
  | .infinite => true
  | .undefined => true
  | .decimal digits exponent =>
      let significant := digits.dropWhile (· == '0')
      let places := (significant.length : Int) + exponent
      significant.isEmpty || places ≤ 308 ||
        (places == 309 &&
          (Binary64.nearest? (Text.decimalValue significant) exponent).isSome)

mutual

/-- Whether all numbers in a value are within their bounds. -/
def Value.isBounded : Value → Bool
  | .string _ => true
  | .integer value => fitsWord value
  | .real value => value.isBounded
  | .boolean _ => true
  | .moment _ => true
  | .array items _ => Value.areBounded items
  | .table _ entries => Value.entriesAreBounded entries

def Value.areBounded : List Value → Bool
  | [] => true
  | item :: rest => item.isBounded && Value.areBounded rest

def Value.entriesAreBounded : List (String × Value) → Bool
  | [] => true
  | (_, value) :: rest => value.isBounded && Value.entriesAreBounded rest

end

end MessageMarkup.Toml
