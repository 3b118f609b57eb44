import MessageMarkup.Highlight.Span

/-!
# Generic arguments

In some languages a name takes arguments between angle brackets. A name with its
arguments is a span of its own, and so is each of the brackets; arguments that are not
closed go on to the end. Nothing else of such a language gets a span here.
-/

set_option autoImplicit false

namespace MessageMarkup.Highlight

def startsName (char : Char) : Bool :=
  char.isAlpha || char == '_'

def inName (char : Char) : Bool :=
  char.isAlphanum || char == '_'

/-- Whether characters start with a name that has arguments. -/
def namesGeneric (chars : List Char) : Bool :=
  chars.head?.any startsName && (chars.dropWhile inName).head? == some '<'

/-- The scope of a name with its arguments. -/
def genericScope (language : String) : List String :=
  ["meta", "generic", language]

/-- The scope of a bracket. `edge` is its end of the arguments. -/
def bracketScope (language edge : String) : List String :=
  ["punctuation", "definition", "generic", edge, language]

/-- The markup of code inside of `depth` lists of arguments. `named` is whether the
character before belongs to a name. -/
def genericChars (language : String) : (depth : Nat) → (named : Bool) → List Char → List Char
  | depth, _, [] => (List.replicate depth closeSpan).flatten
  | depth, named, char :: rest =>
      if !named && namesGeneric (char :: rest) then
        openSpan (genericScope language) ++ spanChar char ++
          genericChars language (depth + 1) true rest
      else
        match depth, char with
        | depth + 1, '<' =>
            spanned (bracketScope language "begin") (spanChar '<') ++
              genericChars language (depth + 1) false rest
        | depth + 1, '>' =>
            spanned (bracketScope language "end") (spanChar '>') ++ closeSpan ++
              genericChars language depth false rest
        | depth, char => spanChar char ++ genericChars language depth (inName char) rest

/-- The markup of code in a language with generic arguments, or nothing for no code. -/
def genericSpan (language code : String) : String :=
  if code.isEmpty then ""
  else String.ofList (spanned ["source", language] (genericChars language 0 false code.toList))

end MessageMarkup.Highlight
