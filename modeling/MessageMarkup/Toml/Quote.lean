import MessageMarkup.Text.Digits

/-!
# Quoted strings

Basic strings know escapes, literal strings do not. Both come on one line or,
between three quotes, on several. Control characters other than the tab stand in
neither.
-/

set_option autoImplicit false

namespace MessageMarkup.Toml

/-- Whether a character may stand for itself in strings and comments. -/
def isPlain (char : Char) : Bool :=
  char == '\t' || (0x20 ≤ char.toNat && char.toNat != 0x7f)

/-- A blank between tokens of a line. -/
def isBlank (char : Char) : Bool :=
  char == ' ' || char == '\t'

def hexValue? (digits : List Char) : Option Nat :=
  digits.foldlM (fun value digit => (Text.hexDigit? digit).map (value * 16 + ·)) 0

/-- The character of a code point, which must not be half of a pair. -/
def scalarChar? (code : Nat) : Option Char :=
  if code.isValidChar then some (Char.ofNat code) else none

def escapeLetter? : Char → Option Char
  | 'b' => some '\x08'
  | 't' => some '\t'
  | 'n' => some '\n'
  | 'f' => some '\x0c'
  | 'r' => some '\r'
  | 'e' => some '\x1b'
  | '\x22' => some '\x22'
  | '\\' => some '\\'
  | _ => none

def escapeWidth? : Char → Option Nat
  | 'x' => some 2
  | 'u' => some 4
  | 'U' => some 8
  | _ => none

/-- The character of an escape after its backslash, and the number of characters
that spell it. -/
def escape? : List Char → Option (Char × Nat)
  | [] => none
  | letter :: rest =>
      match escapeWidth? letter with
      | some width => do
          let digits := rest.take width
          guard (digits.length = width)
          let char ← scalarChar? (← hexValue? digits)
          return (char, width + 1)
      | none => (escapeLetter? letter).map fun char => (char, 1)

def afterBreak? : List Char → Option (List Char)
  | '\n' :: rest => some rest
  | '\r' :: '\n' :: rest => some rest
  | _ => none

/-- The characters after a line break, if one is at hand, or else all of them. -/
def skipBreak (chars : List Char) : List Char :=
  (afterBreak? chars).getD chars

/-- A basic string after its quote. `skip` counts the characters that an escape
takes. -/
def basicString : (skip : Nat) → List Char → Option (List Char × List Char)
  | _, [] => none
  | skip + 1, _ :: rest => basicString skip rest
  | 0, '\x22' :: rest => some ([], rest)
  | 0, '\\' :: rest => do
      let (char, width) ← escape? rest
      let (text, rest) ← basicString width rest
      return (char :: text, rest)
  | 0, char :: rest =>
      if isPlain char then do
        let (text, rest) ← basicString 0 rest
        return (char :: text, rest)
      else none

def literalString : List Char → Option (List Char × List Char)
  | [] => none
  | '\x27' :: rest => some ([], rest)
  | char :: rest =>
      if isPlain char then do
        let (text, rest) ← literalString rest
        return (char :: text, rest)
      else none

/-- The end of a string of several lines: three quotes, before which up to two more
belong to the text. -/
def closing? (quote : Char) (chars : List Char) : Option (List Char × List Char) :=
  let count := (chars.takeWhile (· == quote)).length
  if 3 ≤ count then
    let extra := min (count - 3) 2
    some (List.replicate extra quote, chars.drop (extra + 3))
  else none

/-- How many characters a backslash at the end of a line takes away: blanks and line
breaks up to the next other character. None if it is not at the end of a line. -/
def lineEnd? (chars : List Char) : Option Nat :=
  let blanks := chars.takeWhile isBlank
  match afterBreak? (chars.drop blanks.length) with
  | some _ =>
      some (chars.takeWhile fun char => isBlank char || char == '\n' || char == '\r').length
  | none => none

def basicLines : (skip : Nat) → List Char → Option (List Char × List Char)
  | _, [] => none
  | skip + 1, _ :: rest => basicLines skip rest
  | 0, '\\' :: rest =>
      match lineEnd? rest with
      | some width => basicLines width rest
      | none => do
          let (char, width) ← escape? rest
          let (text, rest) ← basicLines width rest
          return (char :: text, rest)
  | 0, '\r' :: '\n' :: rest => do
      let (text, rest) ← basicLines 0 rest
      return ('\r' :: '\n' :: text, rest)
  | 0, char :: rest =>
      match closing? '\x22' (char :: rest) with
      | some ended => some ended
      | none =>
          if isPlain char || char == '\n' then do
            let (text, rest) ← basicLines 0 rest
            return (char :: text, rest)
          else none

def literalLines : List Char → Option (List Char × List Char)
  | [] => none
  | '\r' :: '\n' :: rest => do
      let (text, rest) ← literalLines rest
      return ('\r' :: '\n' :: text, rest)
  | char :: rest =>
      match closing? '\x27' (char :: rest) with
      | some ended => some ended
      | none =>
          if isPlain char || char == '\n' then do
            let (text, rest) ← literalLines rest
            return (char :: text, rest)
          else none

def string? : List Char → Option (String × List Char)
  | '\x22' :: '\x22' :: '\x22' :: rest => do
      let (text, rest) ← basicLines 0 (skipBreak rest)
      return (String.ofList text, rest)
  | '\x27' :: '\x27' :: '\x27' :: rest => do
      let (text, rest) ← literalLines (skipBreak rest)
      return (String.ofList text, rest)
  | '\x22' :: rest => do
      let (text, rest) ← basicString 0 rest
      return (String.ofList text, rest)
  | '\x27' :: rest => do
      let (text, rest) ← literalString rest
      return (String.ofList text, rest)
  | _ => none

end MessageMarkup.Toml
