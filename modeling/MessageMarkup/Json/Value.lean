import MessageMarkup.Json.Document
import MessageMarkup.Number.Binary64
import MessageMarkup.Text.Digits

/-!
# Values

A document is either passed over, which asks only that it can be told where it
ends, or kept as a value. To be kept its strings must be text, its numbers must
not be too large, and its arrays and objects must not lie too deep.
-/

set_option autoImplicit false

namespace MessageMarkup.Json

/-- A number: a whole number of 64 bits, or else a double-precision number. -/
inductive Number where
  | integer (value : Int)
  | float (negative : Bool) (magnitude : Binary64)
  deriving DecidableEq, Repr

/-- A value. Objects keep their members in order, repeated names included. -/
inductive Value where
  | null
  | boolean (value : Bool)
  | number (number : Number)
  | string (text : String)
  | array (items : List Value)
  | object (members : List (String × Value))

instance : Inhabited Value := ⟨.null⟩

def greatestWord : Nat := powerOfTwo 64 - 1

/-- Digits are taken into a whole number as long as it stays within 64 bits. Gives
the number and how many digits it took. -/
def absorb (value : Nat) : List Char → Nat × Nat
  | [] => (value, 0)
  | digit :: rest =>
      let next := value * 10 + Text.digitValue digit
      if greatestWord < next then (value, 0)
      else
        let (value, taken) := absorb next rest
        (value, taken + 1)

namespace Numeral

/-- Whether the number is spelled without point and exponent. -/
def isWhole (numeral : Numeral) : Bool :=
  numeral.fraction.isEmpty && numeral.exponent.isNone

def exponentValue (numeral : Numeral) : Int :=
  match numeral.exponent with
  | none => 0
  | some (true, digits) => 0 - (Text.decimalValue digits : Int)
  | some (false, digits) => Text.decimalValue digits

/-- The magnitude as a double-precision number. The leading digits that fit 64 bits
count, the others only for the size. None if it is too large. -/
def magnitude? (numeral : Numeral) : Option Binary64 :=
  let (whole, taken) := absorb 0 numeral.whole
  let (whole, places) := absorb whole numeral.fraction
  let exponent :=
    ((numeral.whole.length - taken : Nat) : Int) - (places : Int) + numeral.exponentValue
  Binary64.scaled? whole exponent

/-- The number that is spelled, or none if it is too large. A minus sign before zero
makes a double-precision number. -/
def number? (numeral : Numeral) : Option Number :=
  let whole := Text.decimalValue numeral.whole
  if numeral.isWhole && !numeral.negative && whole ≤ greatestWord then
    some (.integer whole)
  else if numeral.isWhole && numeral.negative && 0 < whole && whole ≤ powerOfTwo 63 then
    some (.integer (0 - (whole : Int)))
  else numeral.magnitude?.map (.float numeral.negative)

end Numeral

/-- The first halves of the pairs that stand for characters beyond 16 bits. -/
def isLeading (code : Nat) : Bool :=
  0xd800 ≤ code && code ≤ 0xdbff

/-- The second halves of such pairs. -/
def isTrailing (code : Nat) : Bool :=
  0xdc00 ≤ code && code ≤ 0xdfff

def pairChar (leading trailing : Nat) : Char :=
  Char.ofNat (0x10000 + (leading - 0xd800) * 0x400 + (trailing - 0xdc00))

/-- The characters of a string. Halves of pairs must not stand alone; the fault that
keeps the string from being closed comes after them. -/
def pieceChars (stop : Option Fault) : List Piece → Except Fault (List Char)
  | [] =>
      match stop with
      | some fault => .error fault
      | none => .ok []
  | .char char :: rest => do return char :: (← pieceChars stop rest)
  | .unit leading :: .unit trailing :: rest =>
      if isTrailing leading then .error .malformed
      else if isLeading leading then
        if isTrailing trailing then do return pairChar leading trailing :: (← pieceChars stop rest)
        else .error .malformed
      else do return Char.ofNat leading :: (← pieceChars stop (.unit trailing :: rest))
  | [.unit code] =>
      if isTrailing code then .error .malformed
      else if isLeading code then .error (stop.getD .malformed)
      else do return Char.ofNat code :: (← pieceChars stop [])
  | .unit code :: .char char :: rest =>
      if isTrailing code || isLeading code then .error .malformed
      else do return Char.ofNat code :: (← pieceChars stop (.char char :: rest))

def Spelling.text (spelling : Spelling) : Except Fault String := do
  return String.ofList (← pieceChars spelling.stop spelling.pieces)

/-- The end of something that is read without a value of its own. -/
def close (stop : Option Fault) : Except Fault Unit :=
  match stop with
  | some fault => .error fault
  | none => .ok ()

namespace Document

mutual

/-- Passing over a document: only faults that hide where it ends count. -/
def skip : Document → Except Fault Unit
  | .null => .ok ()
  | .boolean _ => .ok ()
  | .number _ => .ok ()
  | .cutNumber => .error .malformed
  | .string spelling => close spelling.stop
  | .array items stop => do
      skipItems items
      close stop
  | .object members stop => do
      skipMembers members
      close stop
  | .missing fault => .error fault

def skipItems : List Document → Except Fault Unit
  | [] => .ok ()
  | item :: rest => do
      skip item
      skipItems rest

def skipMembers : List (Spelling × Document) → Except Fault Unit
  | [] => .ok ()
  | (name, value) :: rest => do
      close name.stop
      skip value
      skipMembers rest

end

mutual

/-- The value of a document that lies so deep that `room` further levels of arrays
and objects are allowed. -/
def keep (room : Nat) : Document → Except Fault Value
  | .null => .ok .null
  | .boolean value => .ok (.boolean value)
  | .number numeral =>
      match numeral.number? with
      | some value => .ok (.number value)
      | none => .error .malformed
  | .cutNumber => .error .unfinished
  | .string spelling => do return .string (← spelling.text)
  | .array items stop =>
      if room = 0 then .error .malformed
      else do
        let kept ← keepItems (room - 1) items
        close stop
        return .array kept
  | .object members stop =>
      if room = 0 then .error .malformed
      else do
        let kept ← keepMembers (room - 1) members
        close stop
        return .object kept
  | .missing fault => .error fault

def keepItems (room : Nat) : List Document → Except Fault (List Value)
  | [] => .ok []
  | item :: rest => do
      let kept ← keep room item
      return kept :: (← keepItems room rest)

def keepMembers (room : Nat) : List (Spelling × Document) → Except Fault (List (String × Value))
  | [] => .ok []
  | (name, value) :: rest => do
      let name ← name.text
      let kept ← keep room value
      return (name, kept) :: (← keepMembers room rest)

end

end Document

end MessageMarkup.Json
