import MessageMarkup.Surroundings
import MessageMarkup.Text.Alphanumeric

/-!
# Environment in settings

A text may refer to variables: by a dollar sign and a name, or by a dollar sign and a
name between braces, after which a default may stand. Two dollar signs are one. What
is filled in is not looked at again.
-/

set_option autoImplicit false

namespace MessageMarkup.Settings

/-- What a dollar sign and the characters after it stand for. -/
inductive Reference where
  | verbatim (text : List Char)
  | named (name : List Char) (fallback : Option (List Char))
  deriving DecidableEq, Repr

def isNameChar (char : Char) : Bool :=
  Text.isAlphanumeric char || char == '_'

/-- The characters before a colon with a hyphen, and those after them if there are
such. -/
def splitFallback : List Char → List Char × Option (List Char)
  | [] => ([], none)
  | ':' :: '-' :: rest => ([], some rest)
  | char :: rest => (char :: (splitFallback rest).1, (splitFallback rest).2)

/-- The variable that is named between braces. A default needs a name in front. -/
def braced (body : List Char) : Reference :=
  match splitFallback body with
  | ([], some _) => .named body none
  | (name, fallback) => .named name fallback

/-- What stands for a dollar sign and the given characters after it, and how many of
them belong to it. -/
def reference : List Char → Reference × Nat
  | '$' :: _ => (.verbatim ['$'], 1)
  | '\x7b' :: rest =>
      if rest.contains '\x7d' then
        let body := rest.takeWhile (· != '\x7d')
        (braced body, body.length + 2)
      else (.verbatim ['$', '\x7b'], 1)
  | rest =>
      match rest.takeWhile isNameChar with
      | [] => (.verbatim ['$'], 0)
      | name => (.named name none, name.length)

/-- A variable that has neither a value nor a default. -/
structure Unset where
  name : String
  deriving DecidableEq, Repr

def Unset.message (unset : Unset) : String :=
  "error looking key '" ++ unset.name ++ "' up: environment variable not found"

def Reference.value (environment : Environment) : Reference → Except Unset (List Char)
  | .verbatim text => .ok text
  | .named name fallback =>
      match environment (String.ofList name), fallback with
      | some value, _ => .ok value.toList
      | none, some fallback => .ok fallback
      | none, none => .error ⟨String.ofList name⟩

/-- Characters with the values of variables in place of the references to them.
`skip` counts the characters that a reference takes. -/
def expandChars (environment : Environment) :
    (skip : Nat) → List Char → Except Unset (List Char)
  | _, [] => .ok []
  | skip + 1, _ :: rest => expandChars environment skip rest
  | 0, '$' :: rest => do
      let value ← (reference rest).1.value environment
      return value ++ (← expandChars environment (reference rest).2 rest)
  | 0, char :: rest => do
      return char :: (← expandChars environment 0 rest)

theorem expandChars_of_not_mem (environment : Environment) {chars : List Char}
    (absent : '$' ∉ chars) : expandChars environment 0 chars = .ok chars := by
  induction chars with
  | nil => rfl
  | cons char rest ih =>
      have other : char ≠ '$' := fun same => absent (same ▸ List.mem_cons_self)
      have kept := ih fun member => absent (List.mem_cons_of_mem _ member)
      rw [expandChars]
      · rw [kept]
        rfl
      · exact other

def expand (environment : Environment) (text : String) : Except Unset String :=
  (expandChars environment 0 text.toList).map String.ofList

def referencedChars : (skip : Nat) → List Char → List String
  | _, [] => []
  | skip + 1, _ :: rest => referencedChars skip rest
  | 0, '$' :: rest =>
      match (reference rest).1 with
      | .named name _ => String.ofList name :: referencedChars (reference rest).2 rest
      | .verbatim _ => referencedChars (reference rest).2 rest
  | 0, _ :: rest => referencedChars 0 rest

def referenced (text : String) : List String :=
  referencedChars 0 text.toList

end MessageMarkup.Settings
