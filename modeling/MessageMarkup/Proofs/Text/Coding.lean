import Mathlib.Data.List.Basic
import MessageMarkup.Proofs.Text.Escaping

/-!
# Escaping as a code

Which texts escaping makes: those in which every reserved character belongs to an entity. Each of
them is made of one text only, the one that is read back from it. An entity that is escaped again is
spelled out, for the sign that it begins with is reserved like any other.
-/

set_option autoImplicit false

namespace MessageMarkup.Text

/-- The entities as they are written. -/
def entities : List String := ["&amp;", "&lt;", "&gt;", "&quot;", "&#039;"]

/-- Characters without brackets and quotes, among which every sign begins an entity. -/
structure Coded (chars : List Char) : Prop where
  free : ∀ char ∈ chars, char ∉ ['<', '>', '\x22', '\x27']
  begins : ∀ after, '&' :: after <:+ chars → ∃ entity ∈ entities, entity.toList <+: '&' :: after

/-- The text that an escaped text stands for. -/
def decode (text : String) : String :=
  String.ofList (unescape text.toList)

/-! ## Reserved characters -/

theorem mem_reserved_iff {char : Char} :
    char ∈ reserved ↔ char = '&' ∨ char ∈ ['<', '>', '\x22', '\x27'] :=
  List.mem_cons

theorem exists_reference?_of_prefix {entity : String} {chars : List Char}
    (member : entity ∈ entities) (begins : entity.toList <+: chars) :
    ∃ meant after, reference? chars = some (meant, after) := by
  obtain ⟨after, rfl⟩ := begins
  simp only [entities, List.mem_cons, List.not_mem_nil, or_false] at member
  rcases member with rfl | rfl | rfl | rfl | rfl <;> exact ⟨_, after, rfl⟩

theorem exists_entity_of_mem {char : Char} (member : char ∈ reserved) :
    ∃ entity ∈ entities, entity.toList = escapeChar char := by
  simp only [reserved, List.mem_cons, List.not_mem_nil, or_false] at member
  rcases member with rfl | rfl | rfl | rfl | rfl
  · exact ⟨"&amp;", by decide, by decide⟩
  · exact ⟨"&lt;", by decide, by decide⟩
  · exact ⟨"&gt;", by decide, by decide⟩
  · exact ⟨"&quot;", by decide, by decide⟩
  · exact ⟨"&#039;", by decide, by decide⟩

/-- What follows the sign in an entity is some characters, none of which is a sign. -/
theorem exists_spelling {char : Char} (member : char ∈ reserved) :
    ∃ spelling, escapeChar char = '&' :: spelling ∧ spelling ≠ [] ∧ '&' ∉ spelling := by
  simp only [reserved, List.mem_cons, List.not_mem_nil, or_false] at member
  rcases member with rfl | rfl | rfl | rfl | rfl <;> exact ⟨_, rfl, by decide, by decide⟩

theorem escapeChars_cons (char : Char) (rest : List Char) :
    escapeChars (char :: rest) = escapeChar char ++ escapeChars rest :=
  List.flatMap_cons

/-! ## Escaped text is coded, and no other -/

theorem suffix_of_suffix_append {before chars after : List Char} (absent : '&' ∉ before)
    (ends : '&' :: after <:+ before ++ chars) : '&' :: after <:+ chars := by
  induction before with
  | nil => exact ends
  | cons char rest ih =>
      rw [List.mem_cons, not_or] at absent
      rcases List.suffix_cons_iff.mp ends with whole | later
      · exact absurd (List.cons.inj whole).1 absent.1
      · exact ih absent.2 later

theorem Escaped.coded {chars : List Char} (escaped : Escaped chars) : Coded chars := by
  constructor
  · intro char occurs bracket
    obtain rfl := escaped.eq_of_mem_reserved occurs (mem_reserved_iff.mpr (.inr bracket))
    exact absurd bracket (by decide)
  · intro after ends
    induction escaped with
    | nil => simp at ends
    | plain free _ ih =>
        rcases List.suffix_cons_iff.mp ends with whole | later
        · obtain ⟨rfl, _⟩ := List.cons.inj whole
          exact absurd (by decide) free
        · exact ih later
    | entity found _ ih =>
        obtain ⟨member, rfl⟩ := eq_of_reference? found
        obtain ⟨spelling, spelled, _, absent⟩ := exists_spelling member
        rw [spelled] at ends
        -- The sign is the one of this entity, or it stands after the entity.
        rcases List.suffix_cons_iff.mp ends with whole | later
        · obtain ⟨entity, among, written⟩ := exists_entity_of_mem member
          refine ⟨entity, among, ?_⟩
          rw [whole, written, spelled]
          exact List.prefix_append _ _
        · exact ih (suffix_of_suffix_append absent later)

theorem Coded.of_suffix {chars rest : List Char} (coded : Coded chars) (ends : rest <:+ chars) :
    Coded rest := by
  constructor
  · intro char occurs
    exact coded.free char (ends.subset occurs)
  · intro after later
    exact coded.begins after (later.trans ends)

/-- Coded text is read entity by entity. After an entity reading goes on with what follows it. -/
theorem Coded.escaped : ∀ {chars : List Char}, Coded chars → Escaped chars
  | [], _ => .nil
  | char :: rest, coded => by
      by_cases sign : char = '&'
      · subst sign
        obtain ⟨entity, among, starts⟩ := coded.begins rest List.suffix_rfl
        obtain ⟨meant, after, found⟩ := exists_reference?_of_prefix among starts
        have ends : after <:+ '&' :: rest :=
          ⟨escapeChar meant, (eq_of_reference? found).2.symm⟩
        have shorter := length_lt_of_reference? found
        exact .entity found (coded.of_suffix ends).escaped
      · have free : char ∉ reserved := by
          rw [mem_reserved_iff, not_or]
          exact ⟨sign, coded.free char List.mem_cons_self⟩
        exact .plain free (coded.of_suffix (List.suffix_cons char rest)).escaped
termination_by chars => chars.length
decreasing_by
  · exact shorter
  · exact Nat.lt_succ_self rest.length

theorem escaped_iff_coded {chars : List Char} : Escaped chars ↔ Coded chars :=
  ⟨Escaped.coded, Coded.escaped⟩

theorem Escaped.escapeChars_unescape {chars : List Char} (escaped : Escaped chars) :
    escapeChars (unescape chars) = chars := by
  induction escaped with
  | nil => simp [escapeChars]
  | @plain char rest free _ ih =>
      have other : char ≠ '&' := by
        rintro rfl
        exact free (by decide)
      rw [unescape_plain (reference?_of_ne other rest), escapeChars_cons,
        escapeChar_of_not_mem free, ih]
      rfl
  | entity found _ ih =>
      rw [unescape_reference found, escapeChars_cons, ih]
      exact (eq_of_reference? found).2.symm

theorem escapeChars_unescape_iff {chars : List Char} :
    escapeChars (unescape chars) = chars ↔ Coded chars := by
  rw [← escaped_iff_coded]
  constructor
  · intro same
    rw [← same]
    exact escaped_escapeChars _
  · exact Escaped.escapeChars_unescape

theorem exists_escapeChars_iff {chars : List Char} :
    (∃ source, escapeChars source = chars) ↔ Coded chars := by
  rw [← escapeChars_unescape_iff]
  constructor
  · rintro ⟨source, rfl⟩
    rw [unescape_escapeChars]
  · intro same
    exact ⟨_, same⟩

/-! ## Escaping twice -/

/-- In escaped text only signs are left to be escaped. -/
theorem Coded.escapeChars_eq {chars : List Char} (coded : Coded chars) :
    escapeChars chars = chars.flatMap fun char => if char = '&' then "&amp;".toList else [char] := by
  refine List.flatMap_congr fun char occurs => ?_
  split
  · subst char
    decide
  · rename_i other
    apply escapeChar_of_not_mem
    rw [mem_reserved_iff, not_or]
    exact ⟨other, coded.free char occurs⟩

theorem length_le_escapeChars (chars : List Char) : chars.length ≤ (escapeChars chars).length := by
  induction chars with
  | nil => exact Nat.zero_le _
  | cons char rest ih =>
      have own : 0 < (escapeChar char).length := by
        by_cases member : char ∈ reserved
        · obtain ⟨spelling, spelled, _⟩ := exists_spelling member
          simp [spelled]
        · simp [escapeChar_of_not_mem member]
      rw [escapeChars_cons, List.length_cons, List.length_append]
      omega

theorem escapeChars_eq_self_iff {chars : List Char} :
    escapeChars chars = chars ↔ ∀ char ∈ chars, char ∉ reserved := by
  induction chars with
  | nil => simp [escapeChars]
  | cons char rest ih =>
      rw [List.forall_mem_cons, escapeChars_cons]
      by_cases member : char ∈ reserved
      · -- An entity is longer than what it stands for, and nothing becomes shorter.
        obtain ⟨spelling, spelled, nonempty, _⟩ := exists_spelling member
        have longer := List.length_pos_iff.mpr nonempty
        have others := length_le_escapeChars rest
        refine iff_of_false (fun same => ?_) (fun free => free.1 member)
        have lengths := congrArg List.length same
        simp only [spelled, List.length_append, List.length_cons] at lengths
        omega
      · rw [escapeChar_of_not_mem member, List.singleton_append, List.cons.injEq, ih]
        simp [member]

/-! ## Texts -/

theorem decode_escape (text : String) : decode (escape text) = text := by
  rw [decode, toList_escape, unescape_escapeChars, String.ofList_toList]

/-- Escaping is a code. What it makes of texts can be read back, so that no two texts are made into
one, and it makes all texts in which brackets and quotes are missing and every sign begins an
entity. It has no fixed texts but those that hold nothing to escape: a text that was escaped gets
its signs escaped once more. -/
theorem escape_isCode :
    (∀ text, decode (escape text) = text) ∧
      Function.Injective escape ∧
      (∀ left right, escape (left ++ right) = escape left ++ escape right) ∧
      (∀ text, (∃ source, escape source = text) ↔ Coded text.toList) ∧
      (∀ text, escape (decode text) = text ↔ Coded text.toList) ∧
      (∀ text, (escape (escape text)).toList = (escape text).toList.flatMap fun char =>
        if char = '&' then "&amp;".toList else [char]) ∧
      ∀ text, escape text = text ↔ ∀ char ∈ text.toList, char ∉ reserved := by
  refine ⟨decode_escape, Function.LeftInverse.injective decode_escape, escape_append, ?_, ?_, ?_, ?_⟩
  · intro text
    rw [← exists_escapeChars_iff]
    constructor
    · rintro ⟨source, rfl⟩
      exact ⟨source.toList, (toList_escape source).symm⟩
    · rintro ⟨source, written⟩
      refine ⟨String.ofList source, ?_⟩
      rw [escape, String.toList_ofList, written, String.ofList_toList]
  · intro text
    rw [← escapeChars_unescape_iff, ← String.toList_inj, toList_escape, decode,
      String.toList_ofList]
  · intro text
    rw [toList_escape]
    apply Coded.escapeChars_eq
    rw [toList_escape]
    exact (escaped_escapeChars _).coded
  · intro text
    rw [← String.toList_inj, toList_escape, escapeChars_eq_self_iff]

end MessageMarkup.Text
