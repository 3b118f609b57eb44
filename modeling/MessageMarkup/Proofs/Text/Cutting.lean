/-!
# Cutting text

What stands before the first character of a kind, and what from it on.
-/

set_option autoImplicit false

namespace MessageMarkup.Text

theorem cut_append {keep : Char → Bool} {own : List Char} {stop : Char}
    (kept : own.all keep = true) (stops : keep stop = false) (rest : List Char) :
    (own ++ stop :: rest).takeWhile keep = own ∧
      (own ++ stop :: rest).dropWhile keep = stop :: rest := by
  rw [List.all_eq_true] at kept
  rw [List.takeWhile_append_of_pos kept, List.dropWhile_append_of_pos kept]
  simp [stops]

theorem cut_at {own : List Char} {stop : Char} (absent : stop ∉ own) (rest : List Char) :
    (own ++ stop :: rest).takeWhile (· != stop) = own ∧
      (own ++ stop :: rest).dropWhile (· != stop) = stop :: rest := by
  have kept : own.all (· != stop) = true := by
    rw [List.all_eq_true]
    intro char member
    exact bne_iff_ne.mpr (ne_of_mem_of_not_mem member absent)
  exact cut_append kept (bne_self_eq_false stop) rest

/-- Text without a mark can be told from what follows the mark after it. -/
theorem append_mark_inj {own other : List Char} {mark : Char} (absent : mark ∉ own)
    (otherAbsent : mark ∉ other) {rest otherRest : List Char} :
    own ++ mark :: rest = other ++ mark :: otherRest ↔ own = other ∧ rest = otherRest := by
  constructor
  · intro same
    obtain ⟨taken, left⟩ := cut_at absent rest
    obtain ⟨otherTaken, otherLeft⟩ := cut_at otherAbsent otherRest
    rw [same] at taken left
    have after : mark :: otherRest = mark :: rest := otherLeft.symm.trans left
    exact ⟨taken.symm.trans otherTaken, (List.tail_eq_of_cons_eq after).symm⟩
  · rintro ⟨rfl, rfl⟩
    rfl

end MessageMarkup.Text
