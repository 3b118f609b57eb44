import MessageMarkup.Text.Escape

/-!
# Markup trees

Rendering produces a tree of elements; one writer turns trees into text. Only
the writer deals with angle brackets and quotes, so no string that reaches a
tree as text or as a quoted attribute can open, close or alter a tag.
-/

set_option autoImplicit false

namespace MessageMarkup

inductive Html.Tag where
  | emphasis
  | strong
  | underline
  | strikethrough
  | anchor
  | blockquote
  | span
  | division
  | lineBreak
  | preformatted
  | code
  | image
  deriving DecidableEq, Repr

def Html.Tag.name : Html.Tag → String
  | .emphasis => "em"
  | .strong => "strong"
  | .underline => "u"
  | .strikethrough => "s"
  | .anchor => "a"
  | .blockquote => "blockquote"
  | .span => "span"
  | .division => "div"
  | .lineBreak => "br"
  | .preformatted => "pre"
  | .code => "code"
  | .image => "img"

/-- An attribute of a tag. A `fixed` value belongs to the vocabulary of rendered
messages and is written as it stands; a `quoted` value comes from a message and
is escaped. -/
inductive Html.Attribute where
  | flag (name : String)
  | fixed (name value : String)
  | quoted (name value : String)
  deriving DecidableEq, Repr

/-- A piece of markup. `source` is markup that is complete already. A `void`
element has no end tag; `slashed` ones say so with a slash. -/
inductive Html where
  | text (text : String)
  | source (markup : String)
  | void (tag : Html.Tag) (attributes : List Html.Attribute) (slashed : Bool)
  | element (tag : Html.Tag) (attributes : List Html.Attribute) (children : List Html)

namespace Html

def Attribute.write : Attribute → String
  | .flag name => " " ++ name
  | .fixed name value => " " ++ name ++ "=\"" ++ value ++ "\""
  | .quoted name value => " " ++ name ++ "=\"" ++ Text.escape value ++ "\""

def writeAttributes : List Attribute → String
  | [] => ""
  | first :: rest => first.write ++ writeAttributes rest

/-- A start tag without its closing bracket. -/
def openTag (tag : Tag) (attributes : List Attribute) : String :=
  "<" ++ tag.name ++ writeAttributes attributes

def endTag (tag : Tag) : String :=
  "</" ++ tag.name ++ ">"

mutual

def write : Html → String
  | .text shown => Text.escape shown
  | .source markup => markup
  | .void tag attributes slashed => openTag tag attributes ++ if slashed then "/>" else ">"
  | .element tag attributes children =>
      openTag tag attributes ++ ">" ++ writeAll children ++ endTag tag

def writeAll : List Html → String
  | [] => ""
  | piece :: rest => write piece ++ writeAll rest

end

theorem writeAll_append (left right : List Html) :
    writeAll (left ++ right) = writeAll left ++ writeAll right := by
  induction left with
  | nil => simp [writeAll]
  | cons piece rest ih => simp [writeAll, ih, String.append_assoc]

end Html

end MessageMarkup
