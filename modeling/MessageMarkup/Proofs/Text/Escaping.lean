import MessageMarkup.Text.Escape

/-!
# Reading escaped text

Escaped text consists of characters that are not reserved and of entities. Reading
it back replaces every entity by the character it stands for; what was escaped is
read back as it was.
-/

set_option autoImplicit false

namespace MessageMarkup.Text

/-- The characters that escaped text does not hold as they are. -/
def reserved : List Char := ['&', '<', '>', '\x22', '\x27']

/-- The entity that characters start with: what it stands for, and what follows it. -/
def reference? : List Char → Option (Char × List Char)
  | '&' :: 'a' :: 'm' :: 'p' :: ';' :: after => some ('&', after)
  | '&' :: 'l' :: 't' :: ';' :: after => some ('<', after)
  | '&' :: 'g' :: 't' :: ';' :: after => some ('>', after)
  | '&' :: 'q' :: 'u' :: 'o' :: 't' :: ';' :: after => some ('\x22', after)
  | '&' :: '#' :: '0' :: '3' :: '9' :: ';' :: after => some ('\x27', after)
  | _ => none

theorem escapeChar_of_mem {char : Char} (member : char ∈ reserved) :
    ∃ spelling, escapeChar char = '&' :: spelling ∧
      ∀ after, reference? ('&' :: spelling ++ after) = some (char, after) := by
  simp only [reserved, List.mem_cons, List.not_mem_nil, or_false] at member
  rcases member with rfl | rfl | rfl | rfl | rfl <;> exact ⟨_, rfl, fun _ => rfl⟩

theorem escapeChar_of_not_mem {char : Char} (plain : char ∉ reserved) :
    escapeChar char = [char] := by
  have unnamed : entity? char = none := by
    unfold entity?
    split <;> first | rfl | exact absurd (by decide) plain
  rw [escapeChar, unnamed]

/-- The sign that an entity begins with is its only reserved character. -/
theorem eq_of_mem_escapeChar {char written : Char} (member : char ∈ reserved)
    (occurs : written ∈ escapeChar char) (isReserved : written ∈ reserved) : written = '&' := by
  have only_sign : (reserved.all fun char => (escapeChar char).all fun written =>
      written == '&' || !reserved.contains written) = true := by
    decide
  have sign := List.all_eq_true.mp (List.all_eq_true.mp only_sign char member) written occurs
  simpa [isReserved] using sign

theorem reference?_escapeChar {char : Char} (member : char ∈ reserved) (after : List Char) :
    reference? (escapeChar char ++ after) = some (char, after) := by
  obtain ⟨spelling, spelled, read⟩ := escapeChar_of_mem member
  rw [spelled]
  exact read after

theorem reference?_of_ne {char : Char} (different : char ≠ '&') (after : List Char) :
    reference? (char :: after) = none := by
  unfold reference?
  split <;> simp_all

/-- An entity is nothing but the way in which a reserved character is written. -/
theorem eq_of_reference? {chars after : List Char} {char : Char}
    (found : reference? chars = some (char, after)) :
    char ∈ reserved ∧ chars = escapeChar char ++ after := by
  unfold reference? at found
  split at found <;> cases found <;> exact ⟨by decide, rfl⟩

theorem length_lt_of_reference? {chars after : List Char} {char : Char}
    (found : reference? chars = some (char, after)) : after.length < chars.length := by
  obtain ⟨member, rfl⟩ := eq_of_reference? found
  obtain ⟨spelling, spelled, _⟩ := escapeChar_of_mem member
  simp only [spelled, List.length_append, List.length_cons]
  omega

/-- Text with its entities replaced by the characters they stand for. Everything
else stays as it is. -/
def unescape (chars : List Char) : List Char :=
  match chars with
  | [] => []
  | char :: rest =>
      match _found : reference? (char :: rest) with
      | some (meant, after) => meant :: unescape after
      | none => char :: unescape rest
termination_by chars.length
decreasing_by
  · exact length_lt_of_reference? _found
  · simp

@[simp] theorem unescape_nil : unescape [] = [] := by
  rw [unescape]

theorem unescape_reference {chars after : List Char} {char : Char}
    (found : reference? chars = some (char, after)) :
    unescape chars = char :: unescape after := by
  cases chars with
  | nil => simp [reference?] at found
  | cons first rest =>
      rw [unescape]
      split
      · rename_i meant remaining same
        rw [same] at found
        cases found
        rfl
      · simp_all

theorem unescape_plain {char : Char} {rest : List Char}
    (plain : reference? (char :: rest) = none) :
    unescape (char :: rest) = char :: unescape rest := by
  rw [unescape]
  split
  · simp_all
  · rfl

theorem unescape_escapeChar (char : Char) (rest : List Char) :
    unescape (escapeChar char ++ rest) = char :: unescape rest := by
  by_cases member : char ∈ reserved
  · exact unescape_reference (reference?_escapeChar member rest)
  · rw [escapeChar_of_not_mem member]
    apply unescape_plain
    apply reference?_of_ne
    rintro rfl
    exact member (by decide)

/-- Escaping loses nothing. -/
theorem unescape_escapeChars (chars : List Char) : unescape (escapeChars chars) = chars := by
  induction chars with
  | nil => simp [escapeChars]
  | cons char rest ih =>
      rw [escapeChars, List.flatMap_cons, unescape_escapeChar]
      exact congrArg (char :: ·) ih

/-- Characters of which the reserved ones occur in entities only. -/
inductive Escaped : List Char → Prop where
  | nil : Escaped []
  | plain {char : Char} {rest : List Char} :
      char ∉ reserved → Escaped rest → Escaped (char :: rest)
  | entity {char : Char} {chars rest : List Char} :
      reference? chars = some (char, rest) → Escaped rest → Escaped chars

theorem escaped_escapeChars (chars : List Char) : Escaped (escapeChars chars) := by
  induction chars with
  | nil => exact .nil
  | cons char rest ih =>
      rw [escapeChars, List.flatMap_cons]
      by_cases member : char ∈ reserved
      · exact .entity (reference?_escapeChar member _) ih
      · rw [escapeChar_of_not_mem member]
        exact .plain member ih

theorem Escaped.eq_of_mem_reserved {chars : List Char} (escaped : Escaped chars) {char : Char}
    (occurs : char ∈ chars) (member : char ∈ reserved) : char = '&' := by
  induction escaped with
  | nil => simp at occurs
  | plain free _ ih =>
      rcases List.mem_cons.mp occurs with rfl | later
      · exact absurd member free
      · exact ih later
  | entity found _ ih =>
      obtain ⟨kept, rfl⟩ := eq_of_reference? found
      rcases List.mem_append.mp occurs with spelled | later
      · exact eq_of_mem_escapeChar kept spelled member
      · exact ih later

end MessageMarkup.Text
