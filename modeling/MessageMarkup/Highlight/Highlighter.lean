import MessageMarkup.Highlight.Generics
import MessageMarkup.Highlight.Grammar

/-!
# Highlighters

A highlighter turns source code into markup. It says which languages it knows;
a code block that asks for another one is shown as plain text. The markup of a
highlighter is taken as it is, so it has to be escaped already.
-/

set_option autoImplicit false

namespace MessageMarkup

structure Highlighter where
  /-- Whether a language, given by name, alias or file extension, is known. -/
  supports : String → Bool
  /-- The markup of source code in a language. -/
  highlight : (code language : String) → String

namespace Highlighter

/-- The language of code without a hint that helps. -/
def plaintext : String := "plaintext"

/-- The language to ask a highlighter for: the hint if it is known, else plain text. -/
def languageFor (highlighter : Highlighter) (hint : Option String) : String :=
  match hint with
  | some language =>
      if !language.isEmpty && highlighter.supports language then language else plaintext
  | none => plaintext

/-- Knows no language and escapes the code. -/
def plain : Highlighter where
  supports _ := false
  highlight code _ := Text.escape code

/-- Knows the given languages, by exactly these names, and labels the code with the
language it is asked for. -/
def labelling (languages : List String) : Highlighter where
  supports language := languages.contains language
  highlight code language := "[" ++ Text.escape language ++ "|" ++ Text.escape code ++ "]"

end Highlighter

namespace Highlight

def lowercase (text : String) : String :=
  text.map Char.toLower

def Grammar.answersTo (grammar : Grammar) (language : String) : Bool :=
  (grammar.name :: grammar.extensions).any fun name => lowercase name == lowercase language

def isPlaintext (language : String) : Bool :=
  lowercase language == Highlighter.plaintext

/-- Languages to write code in: which of them goes by a name, an alias or a file extension,
and the markup of code in one of them, which may fail. -/
structure Library (Language : Type) where
  find? : String → Option Language
  spans? : Language → (code : String) → Option String

/-- The language of a library that is asked for. Neither an empty name nor that of plain
text asks for one. -/
def Library.ask {Language : Type} (library : Library Language) (name : String) :
    Option Language :=
  if name.isEmpty || isPlaintext name then none else library.find? name

/-- The grammars of the table. Text without structure and generic arguments are broken into
spans; the spans of the other grammars are not modelled here. -/
def Library.grammars : Library Grammar where
  find? name := (Grammar.plainText :: Grammar.structured).find? (·.answersTo name)
  spans? grammar code :=
    if grammar = .plainText then some (plainSpan code)
    else if grammar = .rust then some (genericSpan "rust" code)
    else none

end Highlight

namespace Highlighter

/-- Knows the languages of a library. Code in no known language is escaped, and so is code
whose markup fails. -/
def ofLibrary {Language : Type} (library : Highlight.Library Language) : Highlighter where
  supports name := Highlight.isPlaintext name || (library.ask name).isSome
  highlight code name :=
    ((library.ask name).bind fun language => library.spans? language code).getD
      (Text.escape code)

/-- Knows the grammars of the table. -/
def grammars : Highlighter := .ofLibrary .grammars

end Highlighter

end MessageMarkup
