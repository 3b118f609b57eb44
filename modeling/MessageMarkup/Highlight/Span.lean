import MessageMarkup.Text.Escape

/-!
# Classed spans

Highlighted code is characters with spans around them. A span has a scope, whose
parts are its classes, from the general to the particular.
-/

set_option autoImplicit false

namespace MessageMarkup.Highlight

/-- The characters of a character in a classed span. Only the apostrophe is spelled
otherwise than in text. -/
def spanChar (char : Char) : List Char :=
  if char == '\x27' then "&#39;".toList else Text.escapeChar char

def classes (scope : List String) : String :=
  " ".intercalate (scope.map ("hljs-" ++ ·))

def openSpan (scope : List String) : List Char :=
  ("<span class=\"" ++ classes scope ++ "\">").toList

def closeSpan : List Char := "</span>".toList

def spanned (scope : List String) (markup : List Char) : List Char :=
  openSpan scope ++ markup ++ closeSpan

/-- The markup of text without structure: one classed span, or nothing for no text. -/
def plainSpan (code : String) : String :=
  if code.isEmpty then ""
  else String.ofList (spanned ["text", "plain"] (code.toList.flatMap spanChar))

end MessageMarkup.Highlight
