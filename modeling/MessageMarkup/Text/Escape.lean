/-!
# Escaped text

Five characters are reserved in markup and are written as entities. Escaping
works character by character, so it distributes over concatenation, and text
that already holds entities is escaped once more rather than passed through.
-/

set_option autoImplicit false

namespace MessageMarkup.Text

def entity? : Char → Option String
  | '&' => some "&amp;"
  | '<' => some "&lt;"
  | '>' => some "&gt;"
  | '\x22' => some "&quot;"
  | '\x27' => some "&#039;"
  | _ => none

def escapeChar (char : Char) : List Char :=
  match entity? char with
  | some entity => entity.toList
  | none => [char]

def escapeChars (chars : List Char) : List Char :=
  chars.flatMap escapeChar

/-- Text with its reserved characters written as entities. -/
def escape (text : String) : String :=
  String.ofList (escapeChars text.toList)

theorem escapeChars_append (left right : List Char) :
    escapeChars (left ++ right) = escapeChars left ++ escapeChars right := by
  simp [escapeChars]

theorem toList_escape (text : String) : (escape text).toList = escapeChars text.toList := by
  simp [escape]

theorem escape_append (left right : String) :
    escape (left ++ right) = escape left ++ escape right := by
  apply String.toList_injective
  simp [toList_escape, escapeChars_append]

end MessageMarkup.Text
