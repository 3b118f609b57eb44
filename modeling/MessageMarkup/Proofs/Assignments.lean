import Mathlib.Data.List.Basic

/-!
# Assignments

What several assignments to keys come to that are made one after the other: for each key the last
one counts. This holds of everything that an assignment to a key sets and that assignments to other
keys leave as it is.
-/

set_option autoImplicit false

namespace MessageMarkup

variable {Key Value : Type} [DecidableEq Key]

/-- The value of the last assignment to a key. -/
def latest? (assignments : List (Key × Value)) (key : Key) : Option Value :=
  assignments.reverse.lookup key

theorem latest?_append (earlier later : List (Key × Value)) (key : Key) :
    latest? (earlier ++ later) key = (latest? later key).or (latest? earlier key) := by
  rw [latest?, List.reverse_append, List.lookup_append]
  rfl

theorem latest?_cons (first : Key × Value) (rest : List (Key × Value)) (key : Key) :
    latest? (first :: rest) key =
      (latest? rest key).or (if first.1 = key then some first.2 else none) := by
  have one : latest? [first] key = if first.1 = key then some first.2 else none := by
    obtain ⟨own, value⟩ := first
    by_cases same : own = key
    · simp [latest?, same]
    · have apart : (key == own) = false := beq_false_of_ne (Ne.symm same)
      simp [latest?, List.lookup_cons, apart, same]
  rw [← one, ← latest?_append]
  rfl

theorem latest?_eq_none_iff {assignments : List (Key × Value)} {key : Key} :
    latest? assignments key = none ↔ key ∉ assignments.map Prod.fst := by
  simp only [latest?, List.lookup_eq_none_iff, List.mem_reverse, bne_iff_ne, List.mem_map, not_exists,
    not_and]
  exact forall₂_congr fun entry _ => ne_comm

/-- The last assignment is one after which no other one is to the same key. -/
theorem latest?_eq_some_iff {assignments : List (Key × Value)} {key : Key} {value : Value} :
    latest? assignments key = some value ↔
      ∃ before after, assignments = before ++ (key, value) :: after ∧
        key ∉ after.map Prod.fst := by
  constructor
  · intro found
    obtain ⟨after, before, split, apart⟩ := List.lookup_eq_some_iff.mp found
    refine ⟨before.reverse, after.reverse, ?_, ?_⟩
    · rw [← List.reverse_reverse assignments, split]
      simp
    · intro member
      obtain ⟨entry, member, same⟩ := List.mem_map.mp member
      exact bne_iff_ne.mp (apart entry (List.mem_reverse.mp member)) same.symm
  · rintro ⟨before, after, rfl, apart⟩
    rw [latest?_append, latest?_cons, latest?_eq_none_iff.mpr apart]
    simp

/-- Two assignments to different keys may be made in either order. -/
theorem latest?_swap (before : List (Key × Value)) {first second : Key × Value}
    (after : List (Key × Value)) (different : first.1 ≠ second.1) (key : Key) :
    latest? (before ++ first :: second :: after) key =
      latest? (before ++ second :: first :: after) key := by
  simp only [latest?_append, latest?_cons]
  by_cases own : first.1 = key
  · have other : second.1 ≠ key := fun same => different (own.trans same.symm)
    simp [own, other]
  · simp [own]

/-- What an assignment to a key sets, and assignments to other keys leave as it is, is what the last
assignment to the key has set. -/
theorem foldl_eq_latest? {State : Type} {assign : State → Key × Value → State}
    (read : State → Option Value) {key : Key}
    (self : ∀ state value, read (assign state (key, value)) = some value)
    (other : ∀ state entry, entry.1 ≠ key → read (assign state entry) = read state)
    (assignments : List (Key × Value)) (state : State) :
    read (assignments.foldl assign state) = (latest? assignments key).or (read state) := by
  induction assignments generalizing state with
  | nil => rfl
  | cons first rest ih =>
      rw [List.foldl_cons, ih, latest?_cons, Option.or_assoc]
      congr 1
      obtain ⟨own, value⟩ := first
      by_cases same : own = key
      · subst same
        rw [self, if_pos rfl, Option.some_or]
      · rw [other _ _ same, if_neg same, Option.none_or]

end MessageMarkup
