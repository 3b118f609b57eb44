import MessageMarkup.Html
import MessageMarkup.Proofs.Markup.Language

/-!
# Lexemes of markup trees

A tree whose elements belong to the vocabulary is written as a fragment of the
language, and its lexemes can be computed from the tree alone.
-/

set_option autoImplicit false

namespace MessageMarkup.Html

/-! ## The lexemes of a tree -/

/-- An attribute as it is read back. -/
def Attribute.read : Attribute → Markup.Attribute
  | .flag name => ⟨name, none⟩
  | .fixed name value => ⟨name, some value⟩
  | .quoted name value => ⟨name, some (Text.escape value)⟩

def opening (tag : Tag) (attributes : List Attribute) (slashed : Bool) : Markup.Tag :=
  .opening tag.name (attributes.map Attribute.read) slashed

def closing (tag : Tag) : Markup.Tag :=
  .closing tag.name

mutual

/-- The lexemes of a piece of markup. Markup that is complete already has those that it
is read as. -/
def lexemes : Html → List Markup.Lexeme
  | .text shown => shown.toList.map .ofChar
  | .source markup => (Markup.lex markup).getD []
  | .void tag attributes slashed => [.tag (opening tag attributes slashed)]
  | .element tag attributes children =>
      .tag (opening tag attributes false) :: lexemesAll children ++ [.tag (closing tag)]

def lexemesAll : List Html → List Markup.Lexeme
  | [] => []
  | piece :: rest => lexemes piece ++ lexemesAll rest

end

theorem lexemesAll_append (left right : List Html) :
    lexemesAll (left ++ right) = lexemesAll left ++ lexemesAll right := by
  induction left with
  | nil => simp [lexemesAll]
  | cons piece rest ih => simp [lexemesAll, ih]

/-! ## Writing -/

theorem Attribute.toList_write (item : Attribute) :
    item.write.toList = item.read.spell := by
  cases item <;> simp [Attribute.write, Attribute.read, Markup.Attribute.spell]

theorem toList_writeAttributes (attributes : List Attribute) :
    (writeAttributes attributes).toList =
      (attributes.map Attribute.read).flatMap Markup.Attribute.spell := by
  induction attributes with
  | nil => rfl
  | cons first rest ih => simp [writeAttributes, Attribute.toList_write, ih]

theorem toList_openTag (tag : Tag) (attributes : List Attribute) (slashed : Bool) :
    (openTag tag attributes).toList ++ Markup.ending slashed =
      '<' :: (opening tag attributes slashed).spell := by
  simp [openTag, opening, Markup.Tag.spell, toList_writeAttributes]

theorem toList_endTag (tag : Tag) : (endTag tag).toList = '<' :: (closing tag).spell := by
  simp [endTag, closing, Markup.Tag.spell]

/-! ## Trees of the vocabulary -/

mutual

/-- A piece of markup whose elements belong to the vocabulary, and in which all that is
complete already is allowed. -/
def Proper (allowed : String → Prop) : Html → Prop
  | .text _ => True
  | .source markup => allowed markup
  | .void tag attributes slashed =>
      tag.name ∈ Markup.voidNames ∧ (opening tag attributes slashed).Known
  | .element tag attributes children =>
      tag.name ∈ Markup.closedNames ∧ (opening tag attributes false).Known ∧
        AllProper allowed children

def AllProper (allowed : String → Prop) : List Html → Prop
  | [] => True
  | piece :: rest => Proper allowed piece ∧ AllProper allowed rest

end

theorem allProper_append {allowed : String → Prop} {left right : List Html}
    (first : AllProper allowed left) (second : AllProper allowed right) :
    AllProper allowed (left ++ right) := by
  induction left with
  | nil => exact second
  | cons piece rest ih => exact ⟨first.1, ih first.2⟩

theorem toList_write_void (tag : Tag) (attributes : List Attribute) (slashed : Bool) :
    (write (.void tag attributes slashed)).toList =
      '<' :: (opening tag attributes slashed).spell := by
  rw [← toList_openTag, write]
  cases slashed <;> simp [Markup.ending]

theorem toList_write_element (tag : Tag) (attributes : List Attribute) (children : List Html) :
    (write (.element tag attributes children)).toList =
      '<' :: (opening tag attributes false).spell ++ (writeAll children).toList ++
        '<' :: (closing tag).spell := by
  rw [← toList_openTag, ← toList_endTag, write]
  simp [Markup.ending]

mutual

/-- What is written for a proper piece is read back as its lexemes. -/
theorem fragment_write {allowed : String → Prop}
    (safe : ∀ markup, allowed markup → Markup.WellFormed markup) :
    ∀ piece : Html, piece.Proper allowed → Markup.Fragment piece.write.toList piece.lexemes
  | .text shown, _ => by
      rw [write, lexemes]
      exact Markup.fragment_escape shown
  | .source markup, isAllowed => by
      obtain ⟨found, read, fragment⟩ := (safe markup isAllowed).fragment
      rw [write, lexemes, read]
      exact fragment
  | .void tag attributes slashed, ⟨isVoid, known⟩ => by
      rw [toList_write_void, lexemes]
      exact .void known isVoid
  | .element tag attributes children, ⟨isClosed, known, proper⟩ => by
      rw [toList_write_element, lexemes]
      exact .element known isClosed (fragment_writeAll safe children proper)

theorem fragment_writeAll {allowed : String → Prop}
    (safe : ∀ markup, allowed markup → Markup.WellFormed markup) :
    ∀ pieces : List Html, AllProper allowed pieces →
      Markup.Fragment (writeAll pieces).toList (lexemesAll pieces)
  | [], _ => by
      rw [writeAll, lexemesAll]
      exact .nil
  | piece :: rest, ⟨first, later⟩ => by
      rw [writeAll, String.toList_append, lexemesAll]
      exact (fragment_write safe piece first).append (fragment_writeAll safe rest later)

end

end MessageMarkup.Html
