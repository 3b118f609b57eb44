import MessageMarkup.Json.Scan
import MessageMarkup.Json.Value
import MessageMarkup.Number.Shortest
import MessageMarkup.Text.Quoted

/-!
# Refusals

Why a text is not read: it has a fault, or what it spells has the wrong shape. A
shape error says what was found and what was wanted.
-/

set_option autoImplicit false

namespace MessageMarkup.Json

/-- What was found where something else was wanted. -/
inductive Found where
  | null
  | boolean (value : Bool)
  | number (number : Number)
  | string (text : String)
  | sequence
  | map
  deriving DecidableEq, Repr

/-- A shape that a document does not have. `record` names the kind of record. -/
inductive ShapeError where
  | wrongType (found : Found) (wanted : String)
  | duplicateField (name : String)
  | missingField (name : String)
  | wrongLength (length : Nat) (record : String) (elements : Nat)
  deriving DecidableEq, Repr

inductive Refusal where
  | fault (fault : Fault)
  | shape (error : ShapeError)
  deriving DecidableEq, Repr

abbrev Reading := Except Refusal

def Reading.ofFault {α : Type} : Except Fault α → Reading α
  | .ok value => .ok value
  | .error fault => .error (.fault fault)

/-- What a document turns out to be. Strings and numbers are read to the end to tell,
arrays and objects are known by their first character. -/
def Document.found : Document → Except Fault Found
  | .null => .ok .null
  | .boolean value => .ok (.boolean value)
  | .number numeral =>
      match numeral.number? with
      | some value => .ok (.number value)
      | none => .error .malformed
  | .cutNumber => .error .unfinished
  | .string spelling => do return .string (← spelling.text)
  | .array _ _ => .ok .sequence
  | .object _ _ => .ok .map
  | .missing fault => .error fault

def Document.refuse {α : Type} (document : Document) (wanted : String) : Reading α :=
  match document.found with
  | .ok found => .error (.shape (.wrongType found wanted))
  | .error fault => .error (.fault fault)

/-- The exponent of a number in scientific notation: a sign and two digits at least. -/
def exponentText (exponent : Int) : String :=
  (if exponent < 0 then "e-" else "e+") ++ Text.padded 2 exponent.natAbs

/-- The text of a double-precision number that is not negative: the shortest digits,
with a point if the leading one stands for 10^-5 to 10^15. -/
def magnitudeText (magnitude : Binary64) : String :=
  if magnitude.isZero then "0.0"
  else
    let decimal := magnitude.shortest
    let digits := decimal.digits
    let count : Int := digits.length
    if decimal.exponent < -5 || 15 < decimal.exponent then
      String.ofList (digits.take 1) ++
        (if count == 1 then "" else "." ++ String.ofList (digits.drop 1)) ++
        exponentText decimal.exponent
    else if decimal.exponent < 0 then
      "0." ++ String.ofList (List.replicate (decimal.exponent.natAbs - 1) '0' ++ digits)
    else if count ≤ decimal.exponent + 1 then
      String.ofList (digits ++ List.replicate (decimal.exponent + 1 - count).toNat '0') ++ ".0"
    else
      let places := (decimal.exponent + 1).toNat
      String.ofList (digits.take places) ++ "." ++ String.ofList (digits.drop places)

def Found.text : Found → String
  | .null => "null"
  | .boolean value => "boolean \x60" ++ (if value then "true" else "false") ++ "\x60"
  | .number (.integer value) => "integer \x60" ++ toString value ++ "\x60"
  | .number (.float negative magnitude) =>
      "floating point \x60" ++ (if negative then "-" else "") ++ magnitudeText magnitude ++ "\x60"
  | .string text => "string " ++ Text.quote text
  | .sequence => "sequence"
  | .map => "map"

def ShapeError.message : ShapeError → String
  | .wrongType found wanted => "invalid type: " ++ found.text ++ ", expected " ++ wanted
  | .duplicateField name => "duplicate field \x60" ++ name ++ "\x60"
  | .missingField name => "missing field \x60" ++ name ++ "\x60"
  | .wrongLength length record elements =>
      "invalid length " ++ toString length ++ ", expected " ++ record ++ " with " ++
        toString elements ++ if elements == 1 then " element" else " elements"

/-- The arrays and objects that may be open at once while a text is read. -/
def deepest : Nat := 127

/-- Reads a whole text: the root by the given reader, then what follows it. -/
def readText {α : Type} (read : Nat → Document → Reading α) (text : String) : Reading α := do
  let scanned := scanText text.toList
  let value ← read deepest scanned.root
  Reading.ofFault (close scanned.trailing)
  return value

end MessageMarkup.Json
