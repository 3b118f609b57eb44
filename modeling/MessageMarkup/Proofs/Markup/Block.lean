import MessageMarkup.Proofs.Markup.Tree

/-!
# Block-level elements in markup

Quotations, divisions, code on lines of its own and line breaks are block-level. Their
tags stand in the markup of a tree exactly if the elements are in the tree: text and
quoted values hold no bracket with which a tag could begin.
-/

set_option autoImplicit false

namespace MessageMarkup

namespace Markup

/-- How the tags of block-level elements begin. -/
def blockStarts : List String := ["<blockquote>", "<div>", "<pre", "<br/>"]

/-- Whether the tag of a block-level element stands anywhere in markup. -/
def HasBlock (markup : String) : Prop :=
  ∃ start ∈ blockStarts, start.toList <:+: markup.toList

theorem HasBlock.mono {part whole : String} (block : HasBlock part)
    (within : part.toList <:+: whole.toList) : HasBlock whole := by
  obtain ⟨start, member, occurs⟩ := block
  exact ⟨start, member, occurs.trans within⟩

/-! ## Where brackets stand -/

theorem LegibleName.bracket_not_mem {name : String} (legible : LegibleName name) :
    '<' ∉ name.toList := by
  intro member
  exact absurd (legible.2 '<' member) (by decide)

theorem Tag.Known.bracket_not_mem {tag : Tag} (known : tag.Known) : '<' ∉ tag.spell := by
  have legible := known.legible
  cases tag with
  | opening name attributes slashed =>
      have inAttributes : '<' ∉ attributes.flatMap Attribute.spell := by
        intro occurs
        obtain ⟨item, member, inside⟩ := List.mem_flatMap.mp occurs
        obtain ⟨form, formMember, slot, slotMember, admits⟩ := known.admits member
        obtain ⟨_, free, _⟩ := (legible_of_mem_vocabulary form formMember).2 slot slotMember
        have named := (legible.2 item member).1.bracket_not_mem
        obtain ⟨itemName, value⟩ := item
        cases value with
        | none =>
            have : '<' ∈ itemName.toList := by simpa [Attribute.spell] using inside
            exact named this
        | some value =>
            have : '<' ∈ itemName.toList ∨ '<' ∈ value.toList := by
              simpa [Attribute.spell] using inside
            rcases this with inName | inValue
            · exact named inName
            · exact free (admits.mem_own rfl inValue (by decide) (by decide))
      have inEnding : '<' ∉ ending slashed := by cases slashed <;> decide
      simp only [Tag.spell, List.mem_append, not_or]
      exact ⟨⟨legible.1.bracket_not_mem, inAttributes⟩, inEnding⟩
  | closing name =>
      have named : '<' ∉ name.toList := LegibleName.bracket_not_mem legible
      simp [Tag.spell, named]

theorem infix_of_infix_append {body rest start : List Char} (free : '<' ∉ body)
    (occurs : '<' :: start <:+: body ++ rest) : '<' :: start <:+: rest := by
  induction body with
  | nil => exact occurs
  | cons first body ih =>
      obtain ⟨different, later⟩ := not_or.mp (mt List.mem_cons.mpr free)
      rcases List.infix_cons_iff.mp occurs with here | further
      · exact absurd (List.cons_prefix_cons.mp here).1 different
      · exact ih later further

/-- A bracket among the lexemes begins a tag. What stands after the bracket is how that
tag begins, and what follows it. -/
theorem exists_tag_of_infix {lexemes : List Lexeme} (known : ∀ lexeme ∈ lexemes, lexeme.Known)
    {start : List Char} (occurs : '<' :: start <:+: lexemes.flatMap Lexeme.spell) :
    ∃ tag after, .tag tag ∈ lexemes ∧ start <+: tag.spell ++ after := by
  induction lexemes with
  | nil => simp at occurs
  | cons lexeme rest ih =>
      have later : '<' :: start <:+: rest.flatMap Lexeme.spell →
          ∃ tag after, .tag tag ∈ lexeme :: rest ∧ start <+: tag.spell ++ after := by
        intro further
        obtain ⟨tag, after, member, starts⟩ :=
          ih (fun other member => known other (.tail _ member)) further
        exact ⟨tag, after, .tail _ member, starts⟩
      rw [List.flatMap_cons] at occurs
      cases lexeme with
      | plain char =>
          have free : char ∉ Text.reserved := known _ (.head _)
          apply later
          apply infix_of_infix_append _ occurs
          rintro (_ | ⟨_, ⟨⟩⟩)
          exact free (by decide)
      | entity char =>
          have member : char ∈ Text.reserved := known _ (.head _)
          apply later
          apply infix_of_infix_append _ occurs
          intro occurs
          exact absurd (Text.eq_of_mem_escapeChar member occurs (by decide)) (by decide)
      | tag written =>
          have isKnown : written.Known := known _ (.head _)
          simp only [Lexeme.spell, List.cons_append] at occurs
          rcases List.infix_cons_iff.mp occurs with here | further
          · exact ⟨written, _, .head _, (List.cons_prefix_cons.mp here).2⟩
          · exact later (infix_of_infix_append isKnown.bracket_not_mem further)

theorem Tag.spell_ne_nil (tag : Tag) : tag.spell ≠ [] := by
  cases tag with
  | opening name attributes slashed => cases slashed <;> simp [spell, ending]
  | closing name => simp [spell]

end Markup

namespace Html

/-! ## The elements of a tree -/

mutual

/-- The elements in a piece of markup, in the order in which they are opened. -/
def elements : Html → List Tag
  | .text _ => []
  | .source _ => []
  | .void tag _ _ => [tag]
  | .element tag _ children => tag :: elementsAll children

def elementsAll : List Html → List Tag
  | [] => []
  | piece :: rest => elements piece ++ elementsAll rest

end

@[simp] theorem elementsAll_append (left right : List Html) :
    elementsAll (left ++ right) = elementsAll left ++ elementsAll right := by
  induction left with
  | nil => simp [elementsAll]
  | cons piece rest ih => simp [elementsAll, ih]

def blockTags : List Tag := [.blockquote, .division, .preformatted, .lineBreak]

/-- Markup that is nothing but escaped text. -/
def EscapedSource (markup : String) : Prop :=
  ∃ text, markup = Text.escape text

mutual

/-- A tag among the lexemes of a piece closes an element, or opens one of its elements. -/
theorem head?_of_tag_mem {written : Markup.Tag} : ∀ piece : Html, piece.Proper EscapedSource →
    .tag written ∈ piece.lexemes →
    written.spell.head? = some '/' ∨
      ∃ tag ∈ piece.elements, written.spell.head? = tag.name.toList.head?
  | .text shown, _, member => by
      simp only [lexemes, List.mem_map] at member
      obtain ⟨char, _, same⟩ := member
      unfold Markup.Lexeme.ofChar at same
      split at same <;> cases same
  | .source _, ⟨typed, rfl⟩, member => by
      simp only [lexemes, Markup.lex_escape, Option.getD_some, List.mem_map] at member
      obtain ⟨char, _, same⟩ := member
      unfold Markup.Lexeme.ofChar at same
      split at same <;> cases same
  | .void tag attributes slashed, _, member => by
      simp only [lexemes, List.mem_singleton, Markup.Lexeme.tag.injEq] at member
      subst member
      refine .inr ⟨tag, by simp [elements], ?_⟩
      cases tag <;> rfl
  | .element tag attributes children, ⟨_, _, proper⟩, member => by
      simp only [lexemes, List.cons_append, List.mem_cons, List.mem_append, List.not_mem_nil,
        or_false, Markup.Lexeme.tag.injEq] at member
      rcases member with rfl | inside | rfl
      · refine .inr ⟨tag, by simp [elements], ?_⟩
        cases tag <;> rfl
      · rcases head?_of_tag_mem_all children proper inside with closes | ⟨inner, found, starts⟩
        · exact .inl closes
        · exact .inr ⟨inner, by simp [elements, found], starts⟩
      · exact .inl rfl

theorem head?_of_tag_mem_all {written : Markup.Tag} : ∀ pieces : List Html,
    AllProper EscapedSource pieces → .tag written ∈ lexemesAll pieces →
    written.spell.head? = some '/' ∨
      ∃ tag ∈ elementsAll pieces, written.spell.head? = tag.name.toList.head?
  | [], _, member => by simp [lexemesAll] at member
  | piece :: rest, ⟨first, later⟩, member => by
      rcases List.mem_append.mp (by simpa only [lexemesAll] using member) with inFirst | inRest
      · rcases head?_of_tag_mem piece first inFirst with closes | ⟨tag, found, starts⟩
        · exact .inl closes
        · exact .inr ⟨tag, by simp [elementsAll, found], starts⟩
      · rcases head?_of_tag_mem_all rest later inRest with closes | ⟨tag, found, starts⟩
        · exact .inl closes
        · exact .inr ⟨tag, by simp [elementsAll, found], starts⟩

end

theorem EscapedSource.wellFormed {markup : String} (escaped : EscapedSource markup) :
    Markup.WellFormed markup := by
  obtain ⟨typed, rfl⟩ := escaped
  exact Markup.wellFormed_escape typed

/-- Without block-level elements in a tree there is none in its markup. -/
theorem not_hasBlock_writeAll {pieces : List Html} (proper : AllProper EscapedSource pieces)
    (inline : ∀ tag ∈ elementsAll pieces, tag ∉ blockTags) :
    ¬ Markup.HasBlock (writeAll pieces) := by
  rintro ⟨start, member, occurs⟩
  obtain ⟨next, initial, begins⟩ : ∃ next, next ∈ ['b', 'd', 'p'] ∧
      ['<', next] <+: start.toList := by
    simp only [Markup.blockStarts, List.mem_cons, List.not_mem_nil, or_false] at member
    rcases member with rfl | rfl | rfl | rfl
    · exact ⟨'b', by decide, by decide⟩
    · exact ⟨'d', by decide, by decide⟩
    · exact ⟨'p', by decide, by decide⟩
    · exact ⟨'b', by decide, by decide⟩
  have fragment := fragment_writeAll (fun _ => EscapedSource.wellFormed) pieces proper
  rw [fragment.spelled] at occurs
  obtain ⟨written, after, found, prefixed⟩ :=
    Markup.exists_tag_of_infix fragment.known (begins.isInfix.trans occurs)
  have starts : written.spell.head? = some next := by
    obtain ⟨first, tail, spelled⟩ := List.exists_cons_of_ne_nil written.spell_ne_nil
    rw [spelled, List.cons_append] at prefixed
    rw [spelled, (List.cons_prefix_cons.mp prefixed).1]
    rfl
  rcases head?_of_tag_mem_all pieces proper found with closes | ⟨tag, among, opens⟩
  · obtain rfl : '/' = next := Option.some.inj (closes.symm.trans starts)
    exact absurd initial (by decide)
  · rw [starts] at opens
    have notBlock := inline tag among
    have isInitial : tag.name.toList.head? ∈ ['b', 'd', 'p'].map some :=
      opens ▸ List.mem_map_of_mem initial
    revert notBlock isInitial
    cases tag <;> decide

theorem opening_eq_of_known {tag : Tag} {attributes : List Attribute} {slashed : Bool}
    (known : (opening tag attributes slashed).Known) (form : Markup.Form)
    (only : ∀ other ∈ Markup.vocabulary, other.name = tag.name → other = form)
    (bare : form.slots = []) :
    opening tag attributes slashed = .opening tag.name [] form.slashed := by
  obtain ⟨other, member, named, slash, admitted⟩ := known
  obtain rfl := only other member named
  rw [bare] at admitted
  have none : attributes.map Attribute.read = [] := List.forall₂_nil_left_iff.mp admitted
  rw [opening, none, slash]

theorem blockStart_of_known {tag : Tag} {attributes : List Attribute} {slashed : Bool}
    (known : (opening tag attributes slashed).Known) (isBlock : tag ∈ blockTags) :
    ∃ start ∈ Markup.blockStarts,
      start.toList <+: '<' :: (opening tag attributes slashed).spell := by
  simp only [blockTags, List.mem_cons, List.not_mem_nil, or_false] at isBlock
  rcases isBlock with rfl | rfl | rfl | rfl
  · rw [opening_eq_of_known known { name := "blockquote" } (by decide) rfl]
    exact ⟨"<blockquote>", by decide, by decide⟩
  · rw [opening_eq_of_known known { name := "div" } (by decide) rfl]
    exact ⟨"<div>", by decide, by decide⟩
  · exact ⟨"<pre", by decide, by simp [opening, Markup.Tag.spell, Tag.name]⟩
  · rw [opening_eq_of_known known { name := "br", slashed := true } (by decide) rfl]
    exact ⟨"<br/>", by decide, by decide⟩

mutual

/-- A block-level element of a piece stands in its markup. -/
theorem hasBlock_write {allowed : String → Prop} {tag : Tag} (isBlock : tag ∈ blockTags) :
    ∀ piece : Html, piece.Proper allowed → tag ∈ piece.elements → Markup.HasBlock piece.write
  | .text _, _, member => by simp [elements] at member
  | .source _, _, member => by simp [elements] at member
  | .void outer attributes slashed, ⟨_, known⟩, member => by
      obtain rfl : tag = outer := by simpa [elements] using member
      obtain ⟨start, listed, begins⟩ := blockStart_of_known known isBlock
      refine ⟨start, listed, ?_⟩
      rw [toList_write_void]
      exact begins.isInfix
  | .element outer attributes children, ⟨_, known, proper⟩, member => by
      have spelled := toList_write_element outer attributes children
      rcases List.mem_cons.mp (by simpa only [elements] using member) with rfl | inside
      · obtain ⟨start, listed, begins⟩ := blockStart_of_known known isBlock
        refine ⟨start, listed, ?_⟩
        rw [spelled, List.append_assoc]
        exact begins.isInfix.trans (List.prefix_append _ _).isInfix
      · apply (hasBlock_writeAll isBlock children proper inside).mono
        rw [spelled]
        exact List.infix_append _ _ _

theorem hasBlock_writeAll {allowed : String → Prop} {tag : Tag} (isBlock : tag ∈ blockTags) :
    ∀ pieces : List Html, AllProper allowed pieces → tag ∈ elementsAll pieces →
      Markup.HasBlock (writeAll pieces)
  | [], _, member => by simp [elementsAll] at member
  | piece :: rest, ⟨first, later⟩, member => by
      rcases List.mem_append.mp (by simpa only [elementsAll] using member) with inFirst | inRest
      · apply (hasBlock_write isBlock piece first inFirst).mono
        rw [writeAll, String.toList_append]
        exact (List.prefix_append _ _).isInfix
      · apply (hasBlock_writeAll isBlock rest later inRest).mono
        rw [writeAll, String.toList_append]
        exact (List.suffix_append _ _).isInfix

end

end Html

end MessageMarkup
