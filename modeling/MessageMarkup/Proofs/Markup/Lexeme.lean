import MessageMarkup.Proofs.Text.Escaping

/-!
# Lexemes of markup

Markup is read from left to right as plain characters, entities and tags. A tag runs
to its closing bracket; brackets between the quotes of an attribute do not end it.
Reading loses nothing, and lexemes that can be told apart are read back as written.
-/

set_option autoImplicit false

namespace MessageMarkup.Markup

/-- An attribute as it stands in a tag. The value, if there is one, is what stands
between its quotes. -/
structure Attribute where
  name : String
  value : Option String
  deriving DecidableEq, Repr

inductive Tag where
  | opening (name : String) (attributes : List Attribute) (slashed : Bool)
  | closing (name : String)
  deriving DecidableEq, Repr

/-- A piece of markup that is read at once. An entity is given by the character that
it stands for. -/
inductive Lexeme where
  | plain (char : Char)
  | entity (char : Char)
  | tag (tag : Tag)
  deriving DecidableEq, Repr

/-- Characters of the names of elements and attributes. -/
def inName (char : Char) : Bool :=
  char.isAlphanum || char == '-'

/-- Characters that may stand between quotes. -/
def inValue (char : Char) : Bool :=
  char != '\x22'

/-! ## Spelling -/

def Attribute.spell : Attribute → List Char
  | ⟨name, none⟩ => ' ' :: name.toList
  | ⟨name, some value⟩ => ' ' :: name.toList ++ ['=', '\x22'] ++ value.toList ++ ['\x22']

def ending (slashed : Bool) : List Char :=
  if slashed then ['/', '>'] else ['>']

/-- The characters of a tag after its first bracket. -/
def Tag.spell : Tag → List Char
  | .opening name attributes slashed =>
      name.toList ++ attributes.flatMap Attribute.spell ++ ending slashed
  | .closing name => '/' :: name.toList ++ ['>']

def Lexeme.spell : Lexeme → List Char
  | .plain char => [char]
  | .entity char => Text.escapeChar char
  | .tag written => '<' :: written.spell

/-! ## Reading -/

/-- What a reader finds time after time, and what is left where it stops. The first
argument bounds the number of finds. -/
def repeatedly {Item : Type} (next? : List Char → Option (Item × List Char)) :
    Nat → List Char → List Item × List Char
  | 0, chars => ([], chars)
  | bound + 1, chars =>
      match next? chars with
      | some (item, after) =>
          (item :: (repeatedly next? bound after).1, (repeatedly next? bound after).2)
      | none => ([], chars)

def attribute? : List Char → Option (Attribute × List Char)
  | ' ' :: chars =>
      match chars.dropWhile inName with
      | '=' :: '\x22' :: quoted =>
          match quoted.dropWhile inValue with
          | '\x22' :: after =>
              some (⟨.ofList (chars.takeWhile inName),
                some (.ofList (quoted.takeWhile inValue))⟩, after)
          | _ => none
      | after => some (⟨.ofList (chars.takeWhile inName), none⟩, after)
  | _ => none

/-- The rest of a tag that opens an element, from its name on, and what follows it. -/
def opening? (chars : List Char) : Option (Tag × List Char) :=
  let (attributes, left) := repeatedly attribute? chars.length (chars.dropWhile inName)
  match left with
  | '>' :: after => some (.opening (.ofList (chars.takeWhile inName)) attributes false, after)
  | '/' :: '>' :: after =>
      some (.opening (.ofList (chars.takeWhile inName)) attributes true, after)
  | _ => none

def tag? : List Char → Option (Tag × List Char)
  | '/' :: chars =>
      match chars.dropWhile inName with
      | '>' :: after => some (.closing (.ofList (chars.takeWhile inName)), after)
      | _ => none
  | chars => opening? chars

def lexeme? : List Char → Option (Lexeme × List Char)
  | [] => none
  | '<' :: chars => (tag? chars).map fun (tag, after) => (.tag tag, after)
  | char :: chars =>
      match Text.reference? (char :: chars) with
      | some (meant, after) => some (.entity meant, after)
      | none => some (.plain char, chars)

/-- The lexemes of markup. Markup with a tag that cannot be read has none. -/
def lex (markup : String) : Option (List Lexeme) :=
  match repeatedly lexeme? markup.toList.length markup.toList with
  | (lexemes, []) => some lexemes
  | _ => none

/-! ## Reading loses nothing -/

/-- A reader that leaves out nothing between what it finds and what it says follows. -/
def Exact {Item : Type} (next? : List Char → Option (Item × List Char))
    (spell : Item → List Char) : Prop :=
  ∀ chars item after, next? chars = some (item, after) → chars = spell item ++ after

theorem repeatedly_exact {Item : Type} {next? : List Char → Option (Item × List Char)}
    {spell : Item → List Char} (exact : Exact next? spell) (bound : Nat) (chars : List Char) :
    chars = (repeatedly next? bound chars).1.flatMap spell ++ (repeatedly next? bound chars).2 := by
  induction bound generalizing chars with
  | zero => simp [repeatedly]
  | succ bound ih =>
      rw [repeatedly]
      cases found : next? chars with
      | none => simp
      | some result =>
          obtain ⟨item, after⟩ := result
          simp only [List.flatMap_cons, List.append_assoc, ← ih after]
          exact exact chars item after found

theorem attribute?_exact : Exact attribute? Attribute.spell := by
  intro chars item after found
  unfold attribute? at found
  split at found
  · rename_i chars
    have named := List.takeWhile_append_dropWhile (p := inName) (l := chars)
    split at found
    · rename_i quoted rest
      have valued := List.takeWhile_append_dropWhile (p := inValue) (l := quoted)
      split at found
      · rename_i closed
        cases found
        rw [rest] at named
        rw [closed] at valued
        simp only [Attribute.spell, String.toList_ofList]
        conv => lhs; rw [← named, ← valued]
        simp
      · cases found
    · cases found
      simp [Attribute.spell]
  · cases found

theorem opening?_exact : Exact opening? Tag.spell := by
  intro chars tag after found
  have named := List.takeWhile_append_dropWhile (p := inName) (l := chars)
  have listed := repeatedly_exact attribute?_exact chars.length (chars.dropWhile inName)
  simp only [opening?] at found
  split at found
  · rename_i rest
    cases found
    rw [rest] at listed
    simp only [Tag.spell, String.toList_ofList]
    conv => lhs; rw [← named, listed]
    simp [ending]
  · rename_i rest
    cases found
    rw [rest] at listed
    simp only [Tag.spell, String.toList_ofList]
    conv => lhs; rw [← named, listed]
    simp [ending]
  · cases found

theorem tag?_exact : Exact tag? Tag.spell := by
  intro chars tag after found
  unfold tag? at found
  split at found
  · rename_i chars
    have named := List.takeWhile_append_dropWhile (p := inName) (l := chars)
    split at found
    · rename_i rest
      cases found
      rw [rest] at named
      simp only [Tag.spell, String.toList_ofList]
      conv => lhs; rw [← named]
      simp
    · cases found
  · exact opening?_exact chars tag after found

theorem lexeme?_exact : Exact lexeme? Lexeme.spell := by
  intro chars lexeme after found
  unfold lexeme? at found
  split at found
  · cases found
  · obtain ⟨⟨tag, rest⟩, read, same⟩ := Option.map_eq_some_iff.mp found
    cases same
    exact congrArg ('<' :: ·) (tag?_exact _ _ _ read)
  · split at found
    · rename_i read
      cases found
      exact (Text.eq_of_reference? read).2
    · cases found
      rfl

/-- The lexemes of markup, spelled one after the other, are the markup. -/
theorem spell_of_lex {markup : String} {lexemes : List Lexeme}
    (read : lex markup = some lexemes) : lexemes.flatMap Lexeme.spell = markup.toList := by
  have exact := repeatedly_exact lexeme?_exact markup.toList.length markup.toList
  unfold lex at read
  split at read
  · rename_i rest
    cases read
    rw [rest] at exact
    simpa using exact.symm
  · cases read

/-! ## What can be told apart is read back -/

/-- A name that is not empty and consists of name characters. -/
def LegibleName (name : String) : Prop :=
  name.toList ≠ [] ∧ ∀ char ∈ name.toList, inName char = true

def Attribute.Legible (item : Attribute) : Prop :=
  LegibleName item.name ∧ ∀ value ∈ item.value, ∀ char ∈ value.toList, inValue char = true

/-- A tag that ends where it seems to end. -/
def Tag.Legible : Tag → Prop
  | .opening name attributes _ => LegibleName name ∧ ∀ item ∈ attributes, item.Legible
  | .closing name => LegibleName name

/-- A lexeme that is taken for itself, whatever stands beside it. -/
def Lexeme.Legible : Lexeme → Prop
  | .plain char => char ∉ Text.reserved
  | .entity char => char ∈ Text.reserved
  | .tag written => written.Legible

/-- Characters at which a name has ended: those of another attribute or of the end of
the tag. -/
def PastName (chars : List Char) : Prop :=
  ∃ first rest, chars = first :: rest ∧ first ∈ [' ', '/', '>']

theorem LegibleName.takeWhile {name : String} (legible : LegibleName name) {chars : List Char}
    (past : chars.takeWhile inName = []) :
    (name.toList ++ chars).takeWhile inName = name.toList := by
  rw [List.takeWhile_append_of_pos legible.2, past, List.append_nil]

theorem LegibleName.dropWhile {name : String} (legible : LegibleName name) {chars : List Char}
    (past : chars.takeWhile inName = []) :
    (name.toList ++ chars).dropWhile inName = chars := by
  have whole := List.takeWhile_append_dropWhile (p := inName) (l := chars)
  rw [past, List.nil_append] at whole
  rw [List.dropWhile_append_of_pos legible.2, whole]

theorem PastName.takeWhile {chars : List Char} (past : PastName chars) :
    chars.takeWhile inName = [] := by
  obtain ⟨first, rest, rfl, member⟩ := past
  simp only [List.mem_cons, List.not_mem_nil, or_false] at member
  rcases member with rfl | rfl | rfl <;> rfl

theorem attribute?_spell {item : Attribute} (legible : item.Legible) {after : List Char}
    (past : PastName after) : attribute? (item.spell ++ after) = some (item, after) := by
  obtain ⟨name, value⟩ := item
  obtain ⟨named, valued⟩ := legible
  cases value with
  | none =>
      have taken := named.takeWhile past.takeWhile
      have dropped := named.dropWhile past.takeWhile
      obtain ⟨first, rest, rfl, member⟩ := past
      simp only [Attribute.spell, List.cons_append, attribute?, taken, dropped]
      split
      · rename_i same
        cases same
        exact absurd member (by decide)
      · simp
  | some value =>
      have quoted : ∀ char ∈ value.toList, inValue char = true := valued value rfl
      have past : (['=', '\x22'] ++ value.toList ++ ['\x22'] ++ after).takeWhile inName = [] := rfl
      have taken := named.takeWhile past
      have dropped := named.dropWhile past
      simp only [List.append_assoc, List.cons_append, List.nil_append] at taken dropped
      simp only [Attribute.spell, List.append_assoc, List.cons_append, List.nil_append, attribute?,
        taken, dropped, List.takeWhile_append_of_pos quoted, List.dropWhile_append_of_pos quoted]
      simp [inValue]

theorem repeatedly_spell {Item : Type} {next? : List Char → Option (Item × List Char)}
    {spell : Item → List Char} {follows : List Char → Prop} {after : List Char}
    (stops : next? after = none) (follow : follows after) {items : List Item}
    (read : ∀ item ∈ items, ∀ chars, follows chars →
      next? (spell item ++ chars) = some (item, chars) ∧ follows (spell item ++ chars))
    {bound : Nat} (enough : items.length ≤ bound) :
    repeatedly next? bound (items.flatMap spell ++ after) = (items, after) := by
  have row : follows (items.flatMap spell ++ after) ∧
      repeatedly next? bound (items.flatMap spell ++ after) = (items, after) := by
    induction items generalizing bound with
    | nil => cases bound <;> simp [repeatedly, stops, follow]
    | cons item rest ih =>
        cases bound with
        | zero => simp at enough
        | succ bound =>
            obtain ⟨goesOn, readRest⟩ :=
              ih (fun item member => read item (.tail _ member)) (Nat.le_of_succ_le_succ enough)
            obtain ⟨found, starts⟩ := read item (.head _) _ goesOn
            rw [List.flatMap_cons, List.append_assoc]
            exact ⟨starts, by simp only [repeatedly, found, readRest]⟩
  exact row.2

theorem length_le_flatMap {Item : Type} {spell : Item → List Char} {items : List Item}
    (spelled : ∀ item ∈ items, spell item ≠ []) :
    items.length ≤ (items.flatMap spell).length := by
  induction items with
  | nil => simp
  | cons item rest ih =>
      have later := ih fun item member => spelled item (.tail _ member)
      have first := List.length_pos_iff.mpr (spelled item (.head _))
      simp only [List.flatMap_cons, List.length_append, List.length_cons]
      omega

theorem Attribute.pastName_spell (item : Attribute) (after : List Char) :
    PastName (item.spell ++ after) := by
  obtain ⟨name, value⟩ := item
  cases value <;> exact ⟨' ', _, rfl, by decide⟩

theorem Attribute.spell_ne_nil (item : Attribute) : item.spell ≠ [] := by
  intro empty
  have past := item.pastName_spell []
  simp [empty, PastName] at past

theorem pastName_ending (slashed : Bool) (after : List Char) :
    PastName (ending slashed ++ after) := by
  cases slashed <;> exact ⟨_, _, rfl, by decide⟩

theorem attribute?_ending (slashed : Bool) (after : List Char) :
    attribute? (ending slashed ++ after) = none := by
  cases slashed <;> rfl

theorem attributes_spell {attributes : List Attribute}
    (legible : ∀ item ∈ attributes, item.Legible) (slashed : Bool) (after : List Char)
    {bound : Nat} (enough : attributes.length ≤ bound) :
    repeatedly attribute? bound
      (attributes.flatMap Attribute.spell ++ (ending slashed ++ after)) =
        (attributes, ending slashed ++ after) := by
  apply repeatedly_spell (attribute?_ending slashed after) (pastName_ending slashed after) _ enough
  intro item member chars past
  exact ⟨attribute?_spell (legible item member) past, item.pastName_spell chars⟩

theorem opening?_spell {name : String} {attributes : List Attribute} (named : LegibleName name)
    (legible : ∀ item ∈ attributes, item.Legible) (slashed : Bool) (after : List Char) :
    opening? ((Tag.opening name attributes slashed).spell ++ after) =
      some (.opening name attributes slashed, after) := by
  have past : PastName (attributes.flatMap Attribute.spell ++ (ending slashed ++ after)) := by
    cases attributes with
    | nil => exact pastName_ending slashed after
    | cons item rest =>
        rw [List.flatMap_cons, List.append_assoc]
        exact item.pastName_spell _
  have enough := length_le_flatMap fun item (_ : item ∈ attributes) => item.spell_ne_nil
  simp only [opening?, Tag.spell, List.append_assoc, named.takeWhile past.takeWhile,
    named.dropWhile past.takeWhile, String.ofList_toList]
  rw [attributes_spell legible slashed after (by simp only [List.length_append]; omega)]
  cases slashed <;> rfl

theorem tag?_spell {tag : Tag} (legible : tag.Legible) (after : List Char) :
    tag? (tag.spell ++ after) = some (tag, after) := by
  cases tag with
  | opening name attributes slashed =>
      obtain ⟨named, listed⟩ := legible
      have read := opening?_spell named listed slashed after
      unfold tag?
      split
      · rename_i chars same
        obtain ⟨nonempty, allowed⟩ := named
        obtain ⟨first, rest, spelled⟩ := List.exists_cons_of_ne_nil nonempty
        have isSlash : first = '/' := by
          simp only [Tag.spell, spelled, List.cons_append] at same
          exact (List.cons.inj same).1
        have := allowed first (by simp [spelled])
        simp [isSlash, inName] at this
      · exact read
  | closing name =>
      have named : LegibleName name := legible
      have past : PastName ('>' :: after) := ⟨_, _, rfl, by decide⟩
      simp only [Tag.spell, List.append_assoc, List.cons_append, List.nil_append, tag?,
        named.dropWhile past.takeWhile, named.takeWhile past.takeWhile, String.ofList_toList]

theorem lexeme?_spell {lexeme : Lexeme} (legible : lexeme.Legible) (after : List Char) :
    lexeme? (lexeme.spell ++ after) = some (lexeme, after) := by
  cases lexeme with
  | plain char =>
      have free : char ∉ Text.reserved := legible
      have unreferenced : Text.reference? (char :: after) = none := by
        apply Text.reference?_of_ne
        rintro rfl
        exact free (by decide)
      simp only [Lexeme.spell, List.singleton_append]
      unfold lexeme?
      split
      · rename_i same
        cases same
      · rename_i same
        cases same
        exact absurd (by decide) free
      · rename_i same
        cases same
        rw [unreferenced]
  | entity char =>
      have member : char ∈ Text.reserved := legible
      have referenced := Text.reference?_escapeChar member after
      obtain ⟨spelling, spelled, _⟩ := Text.escapeChar_of_mem member
      simp only [Lexeme.spell, spelled, List.cons_append] at referenced ⊢
      rw [lexeme?, referenced]
      simp
  | tag written =>
      have read : tag? (written.spell ++ after) = some (written, after) := tag?_spell legible after
      simp only [Lexeme.spell, List.cons_append, lexeme?, read, Option.map_some]

theorem Lexeme.spell_ne_nil (lexeme : Lexeme) : lexeme.spell ≠ [] := by
  cases lexeme with
  | plain char => simp [spell]
  | entity char =>
      by_cases member : char ∈ Text.reserved
      · obtain ⟨spelling, spelled, _⟩ := Text.escapeChar_of_mem member
        simp [spell, spelled]
      · simp [spell, Text.escapeChar_of_not_mem member]
  | tag written => simp [spell]

/-- Lexemes that can be told apart are read back from their spelling. -/
theorem lex_of_spell {lexemes : List Lexeme} (legible : ∀ lexeme ∈ lexemes, lexeme.Legible)
    {markup : String} (spelled : markup.toList = lexemes.flatMap Lexeme.spell) :
    lex markup = some lexemes := by
  have enough := length_le_flatMap fun lexeme (_ : lexeme ∈ lexemes) => lexeme.spell_ne_nil
  have each : ∀ lexeme ∈ lexemes, ∀ chars, True →
      lexeme? (lexeme.spell ++ chars) = some (lexeme, chars) ∧ True := by
    intro lexeme member chars _
    exact ⟨lexeme?_spell (legible lexeme member) chars, trivial⟩
  have read : repeatedly lexeme? (lexemes.flatMap Lexeme.spell).length
      (lexemes.flatMap Lexeme.spell ++ []) = (lexemes, []) :=
    repeatedly_spell rfl trivial each enough
  rw [List.append_nil] at read
  rw [lex, spelled, read]

end MessageMarkup.Markup
