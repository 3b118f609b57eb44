import Mathlib.Data.List.Forall2
import MessageMarkup.Proofs.Markup.Lexeme

/-!
# The language of rendered messages

Rendered markup is made of a fixed vocabulary of tags. Outside of them reserved
characters are written as entities, and so are those of every value that a message
or a service put between quotes. Elements are closed in the reverse of the order in
which they were opened.
-/

set_option autoImplicit false

namespace MessageMarkup.Markup

/-! ## Vocabulary -/

/-- What a tag of the vocabulary has in the place of an attribute. Only an
interpolated value varies; it stands after a lead that does not. -/
inductive Slot where
  | flag (name : String)
  | fixed (name value : String)
  | interpolated (name lead : String)
  deriving DecidableEq, Repr

def Slot.Admits : Slot → Attribute → Prop
  | .flag name, item => item = ⟨name, none⟩
  | .fixed name value, item => item = ⟨name, some value⟩
  | .interpolated name lead, item =>
      ∃ inner, Text.Escaped inner ∧ item = ⟨name, some (lead ++ String.ofList inner)⟩

/-- A tag of the vocabulary that opens an element. -/
structure Form where
  name : String
  slots : List Slot := []
  slashed : Bool := false
  deriving DecidableEq, Repr

def vocabulary : List Form := [
  { name := "em" },
  { name := "strong" },
  { name := "u" },
  { name := "s" },
  { name := "a", slots := [.interpolated "href" ""] },
  { name := "a", slots := [.interpolated "href" "", .fixed "target" "_blank",
      .fixed "rel" "noreferrer"] },
  { name := "blockquote" },
  { name := "span" },
  { name := "div" },
  { name := "br", slashed := true },
  { name := "span", slots := [.flag "mention"] },
  { name := "pre", slots := [.flag "code"] },
  { name := "code", slots := [.interpolated "class" "hljs language-"] },
  { name := "code", slots := [.flag "inline"] },
  { name := "span", slots := [.flag "spoiler",
      .fixed "onclick" "this.classList.add('revealed')"] },
  { name := "img", slots := [.flag "emoji", .interpolated "src" "", .interpolated "alt" "",
      .fixed "draggable" "false"] },
  { name := "span", slots := [.flag "spoiler", .fixed "class" "revealed"] }]

/-- The elements that are never closed. -/
def voidNames : List String := ["br", "img"]

def closedNames : List String :=
  ["em", "strong", "u", "s", "a", "blockquote", "span", "div", "pre", "code"]

def Tag.Known : Tag → Prop
  | .opening name attributes slashed =>
      ∃ form ∈ vocabulary, form.name = name ∧ form.slashed = slashed ∧
        List.Forall₂ Slot.Admits form.slots attributes
  | .closing name => name ∈ closedNames

/-- Whether a lexeme may occur. Plain characters are not reserved. -/
def Lexeme.Known : Lexeme → Prop
  | .plain char => char ∉ Text.reserved
  | .entity char => char ∈ Text.reserved
  | .tag written => written.Known

/-! ## Nesting -/

/-- The elements that are open after a lexeme, the innermost first. Only the innermost
one may be closed. -/
def step? (opened : List String) : Lexeme → Option (List String)
  | .tag (.opening name _ _) => some (if name ∈ voidNames then opened else name :: opened)
  | .tag (.closing name) =>
      match opened with
      | innermost :: others => if innermost = name then some others else none
      | [] => none
  | .plain _ => some opened
  | .entity _ => some opened

def run (opened : List String) (lexemes : List Lexeme) : Option (List String) :=
  lexemes.foldlM step? opened

/-- Markup that can be read to its end as lexemes of the vocabulary, with nothing left
open. -/
def WellFormed (markup : String) : Prop :=
  ∃ lexemes, lex markup = some lexemes ∧ (∀ lexeme ∈ lexemes, lexeme.Known) ∧
    run [] lexemes = some []

/-! ## Known lexemes can be told apart -/

def Slot.name : Slot → String
  | .flag name => name
  | .fixed name _ => name
  | .interpolated name _ => name

/-- The characters of a slot's value that do not vary. -/
def Slot.own : Slot → List Char
  | .flag _ => []
  | .fixed _ value => value.toList
  | .interpolated _ lead => lead.toList

instance (name : String) : Decidable (LegibleName name) :=
  decidable_of_iff (name.toList ≠ [] ∧ name.toList.all inName = true)
    (by simp only [LegibleName, List.all_eq_true])

theorem legible_of_mem_vocabulary :
    ∀ form ∈ vocabulary, LegibleName form.name ∧
      ∀ slot ∈ form.slots, LegibleName slot.name ∧ '<' ∉ slot.own ∧ '\x22' ∉ slot.own := by
  decide

theorem legible_of_mem_closedNames : ∀ name ∈ closedNames, LegibleName name := by
  decide

/-- No bracket and no quote in a value but those of its slot. -/
theorem Slot.Admits.mem_own {slot : Slot} {item : Attribute} (admits : slot.Admits item)
    {value : String} (has : item.value = some value) {char : Char} (occurs : char ∈ value.toList)
    (member : char ∈ Text.reserved) (other : char ≠ '&') : char ∈ slot.own := by
  cases slot with
  | flag name =>
      cases admits
      cases has
  | fixed name fixed =>
      cases admits
      cases has
      exact occurs
  | interpolated name lead =>
      obtain ⟨inner, escaped, rfl⟩ := admits
      cases has
      rcases List.mem_append.mp (by simpa using occurs) with led | varying
      · exact led
      · exact absurd (escaped.eq_of_mem_reserved varying member) other

theorem Slot.Admits.name_eq {slot : Slot} {item : Attribute} (admits : slot.Admits item) :
    item.name = slot.name := by
  cases slot with
  | flag | fixed =>
      cases admits
      rfl
  | interpolated =>
      obtain ⟨inner, _, rfl⟩ := admits
      rfl

theorem Tag.Known.admits {name : String} {attributes : List Attribute} {slashed : Bool}
    (known : (Tag.opening name attributes slashed).Known) {item : Attribute}
    (member : item ∈ attributes) :
    ∃ form ∈ vocabulary, ∃ slot ∈ form.slots, slot.Admits item := by
  obtain ⟨form, formMember, _, _, admitted⟩ := known
  obtain ⟨index, bound, rfl⟩ := List.mem_iff_getElem.mp member
  have slotBound : index < form.slots.length := admitted.length_eq ▸ bound
  exact ⟨form, formMember, _, List.getElem_mem slotBound, admitted.get slotBound bound⟩

theorem Tag.Known.legible {tag : Tag} (known : tag.Known) : tag.Legible := by
  cases tag with
  | opening name attributes slashed =>
      have named : LegibleName name := by
        obtain ⟨form, member, rfl, _⟩ := known
        exact (legible_of_mem_vocabulary form member).1
      refine ⟨named, ?_⟩
      intro item member
      obtain ⟨form, formMember, slot, slotMember, admits⟩ := known.admits member
      obtain ⟨slotNamed, _, unquoted⟩ := (legible_of_mem_vocabulary form formMember).2 slot slotMember
      refine ⟨admits.name_eq ▸ slotNamed, ?_⟩
      intro value has char occurs
      have different : char ≠ '\x22' := by
        rintro rfl
        exact unquoted (admits.mem_own has occurs (by decide) (by decide))
      simp [inValue, different]
  | closing name => exact legible_of_mem_closedNames name known

theorem Lexeme.Known.legible {lexeme : Lexeme} (known : lexeme.Known) : lexeme.Legible := by
  cases lexeme with
  | plain char => exact known
  | entity char => exact known
  | tag written => exact Tag.Known.legible known

/-! ## Fragments -/

theorem run_append (opened : List String) (left right : List Lexeme) :
    run opened (left ++ right) = (run opened left).bind fun between => run between right :=
  List.foldlM_append

theorem step?_below {opened after : List String} {lexeme : Lexeme}
    (taken : step? opened lexeme = some after) (below : List String) :
    step? (opened ++ below) lexeme = some (after ++ below) := by
  unfold step? at taken ⊢
  split at taken
  · rename_i name _ _
    cases taken
    by_cases isVoid : name ∈ voidNames <;> simp [isVoid]
  · split at taken
    · split at taken
      · rename_i same
        cases taken
        simp [same]
      · cases taken
    · cases taken
  · cases taken
    rfl
  · cases taken
    rfl

theorem run_below {opened after : List String} {lexemes : List Lexeme}
    (taken : run opened lexemes = some after) (below : List String) :
    run (opened ++ below) lexemes = some (after ++ below) := by
  induction lexemes generalizing opened with
  | nil =>
      cases taken
      rfl
  | cons lexeme rest ih =>
      simp only [run, List.foldlM_cons, Option.bind_eq_bind, Option.bind_eq_some_iff] at taken ih ⊢
      obtain ⟨between, first, later⟩ := taken
      exact ⟨_, step?_below first below, ih later⟩

/-- Characters that are a row of known lexemes, among which every element that is
opened is closed. -/
structure Fragment (chars : List Char) (lexemes : List Lexeme) : Prop where
  spelled : chars = lexemes.flatMap Lexeme.spell
  known : ∀ lexeme ∈ lexemes, lexeme.Known
  balanced : ∀ opened, run opened lexemes = some opened

namespace Fragment

theorem nil : Fragment [] [] where
  spelled := rfl
  known := by simp
  balanced _ := rfl

theorem append {left right : List Char} {leftLexemes rightLexemes : List Lexeme}
    (first : Fragment left leftLexemes) (second : Fragment right rightLexemes) :
    Fragment (left ++ right) (leftLexemes ++ rightLexemes) where
  spelled := by rw [first.spelled, second.spelled, List.flatMap_append]
  known := by
    intro lexeme member
    exact (List.mem_append.mp member).elim (first.known lexeme) (second.known lexeme)
  balanced opened := by simp [run_append, first.balanced, second.balanced]

theorem void {name : String} {attributes : List Attribute} {slashed : Bool}
    (known : (Tag.opening name attributes slashed).Known) (isVoid : name ∈ voidNames) :
    Fragment ('<' :: (Tag.opening name attributes slashed).spell)
      [.tag (.opening name attributes slashed)] where
  spelled := by simp [Lexeme.spell]
  known := by simpa [Lexeme.Known] using known
  balanced opened := by simp [run, step?, isVoid]

theorem element {name : String} {attributes : List Attribute} {slashed : Bool}
    {inner : List Char} {lexemes : List Lexeme}
    (known : (Tag.opening name attributes slashed).Known) (isClosed : name ∈ closedNames)
    (body : Fragment inner lexemes) :
    Fragment
      ('<' :: (Tag.opening name attributes slashed).spell ++ inner ++
        '<' :: (Tag.closing name).spell)
      (.tag (.opening name attributes slashed) :: lexemes ++ [.tag (.closing name)]) where
  spelled := by simp [Lexeme.spell, body.spelled]
  known := by
    intro lexeme member
    simp only [List.cons_append, List.mem_cons, List.mem_append, List.not_mem_nil,
      or_false] at member
    rcases member with rfl | member | rfl
    · exact known
    · exact body.known lexeme member
    · exact isClosed
  balanced opened := by
    have notVoid : name ∉ voidNames := by
      intro isVoid
      exact absurd isVoid ((by decide : ∀ name ∈ closedNames, name ∉ voidNames) name isClosed)
    have begun : step? opened (.tag (.opening name attributes slashed)) = some (name :: opened) := by
      simp [step?, notVoid]
    have inside : run (name :: opened) lexemes = some (name :: opened) := body.balanced _
    have ended : run (name :: opened) [.tag (.closing name)] = some opened := by
      simp [run, step?]
    calc
      run opened (.tag (.opening name attributes slashed) :: lexemes ++ [.tag (.closing name)])
          = run (name :: opened) (lexemes ++ [.tag (.closing name)]) := by
            simp [run, List.foldlM_cons, begun]
      _ = some opened := by simp [run_append, inside, ended]

/-- A fragment has exactly one reading. -/
theorem lex_eq {markup : String} {lexemes : List Lexeme}
    (fragment : Fragment markup.toList lexemes) : lex markup = some lexemes :=
  lex_of_spell (fun lexeme member => (fragment.known lexeme member).legible) fragment.spelled

theorem wellFormed {markup : String} {lexemes : List Lexeme}
    (fragment : Fragment markup.toList lexemes) : WellFormed markup :=
  ⟨lexemes, fragment.lex_eq, fragment.known, fragment.balanced []⟩

end Fragment

/-- Well-formed markup may stand inside of other markup. -/
theorem WellFormed.fragment {markup : String} (wellFormed : WellFormed markup) :
    ∃ lexemes, lex markup = some lexemes ∧ Fragment markup.toList lexemes := by
  obtain ⟨lexemes, read, known, closed⟩ := wellFormed
  exact ⟨lexemes, read, (spell_of_lex read).symm, known, run_below closed⟩

/-! ## Escaped text -/

/-- How a character of text is written. -/
def Lexeme.ofChar (char : Char) : Lexeme :=
  if char ∈ Text.reserved then .entity char else .plain char

theorem Lexeme.spell_ofChar (char : Char) : (ofChar char).spell = Text.escapeChar char := by
  unfold ofChar
  split
  · rfl
  · rename_i plain
    rw [Text.escapeChar_of_not_mem plain]
    rfl

theorem Lexeme.known_ofChar (char : Char) : (ofChar char).Known := by
  unfold ofChar
  split <;> assumption

theorem step?_ofChar (opened : List String) (char : Char) :
    step? opened (.ofChar char) = some opened := by
  unfold Lexeme.ofChar
  split <;> rfl

theorem fragment_escapeChars (chars : List Char) :
    Fragment (Text.escapeChars chars) (chars.map Lexeme.ofChar) where
  spelled := by
    rw [Text.escapeChars, List.flatMap_map]
    simp only [Lexeme.spell_ofChar]
  known := by
    intro lexeme member
    obtain ⟨char, _, rfl⟩ := List.mem_map.mp member
    exact Lexeme.known_ofChar char
  balanced opened := by
    induction chars with
    | nil => rfl
    | cons char rest ih =>
        simp only [run, List.map_cons, List.foldlM_cons, step?_ofChar] at ih ⊢
        exact ih

theorem fragment_escape (text : String) :
    Fragment (Text.escape text).toList (text.toList.map Lexeme.ofChar) := by
  rw [Text.toList_escape]
  exact fragment_escapeChars text.toList

theorem lex_escape (text : String) : lex (Text.escape text) = some (text.toList.map .ofChar) :=
  (fragment_escape text).lex_eq

theorem wellFormed_escape (text : String) : WellFormed (Text.escape text) :=
  (fragment_escape text).wellFormed

end MessageMarkup.Markup
