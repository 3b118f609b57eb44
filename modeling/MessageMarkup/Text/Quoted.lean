import MessageMarkup.Text.Digits
import MessageMarkup.Text.Visible

/-!
# Quoted text

Text between quotes, for messages. Quotes and backslashes are escaped, a few
controls have letters, and every other character that is not visible is written
as its code point in braces.
-/

set_option autoImplicit false

namespace MessageMarkup.Text

def quoteChar (char : Char) : String :=
  match char with
  | '\x00' => "\\0"
  | '\t' => "\\t"
  | '\r' => "\\r"
  | '\n' => "\\n"
  | '\x22' => "\\\""
  | '\\' => "\\\\"
  | _ =>
      if isVisible char then String.singleton char
      else "\\u\x7b" ++ hexadecimal char.toNat ++ "\x7d"

def quote (text : String) : String :=
  "\"" ++ String.join (text.toList.map quoteChar) ++ "\""

end MessageMarkup.Text
