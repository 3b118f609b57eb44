import MessageMarkup.Text.Digits

/-!
# Reading hexadecimal digits back

The digits that are written for a number are lowercase and have the number as their value.
-/

set_option autoImplicit false

namespace MessageMarkup.Text

/-- The number that a run of hexadecimal digits spells. -/
def hexadecimal? (digits : List Char) : Option Nat :=
  if digits.isEmpty then none
  else digits.foldlM (fun value digit => (hexDigit? digit).map (value * 16 + ·)) 0

def lowercaseHexDigits : List Char :=
  "0123456789abcdef".toList

theorem hexDigit?_digitChar {digit : Nat} (small : digit < 16) :
    hexDigit? digit.digitChar = some digit := by
  have each : ∀ digit : Fin 16, hexDigit? (Nat.digitChar digit) = some digit.val := by decide
  exact each ⟨digit, small⟩

theorem digitChar_mem {digit : Nat} (small : digit < 16) :
    digit.digitChar ∈ lowercaseHexDigits := by
  have each : ∀ digit : Fin 16, Nat.digitChar digit ∈ lowercaseHexDigits := by decide
  exact each ⟨digit, small⟩

/-- Hexadecimal digits, by the number without its last digit. -/
theorem hexDigits_induct {motive : Nat → List Char → Prop}
    (digit : ∀ value < 16, motive value [value.digitChar])
    (more : ∀ value digit, digit < 16 → motive value (Nat.toDigits 16 value) →
      motive (value * 16 + digit) (Nat.toDigits 16 value ++ [digit.digitChar]))
    (value : Nat) : motive value (Nat.toDigits 16 value) := by
  induction value using Nat.strongRecOn with
  | ind value ih =>
      rw [Nat.toDigits_eq_if (by decide)]
      split
      · rename_i small
        exact digit value small
      · rename_i large
        have sum : value / 16 * 16 + value % 16 = value := by omega
        have written := more (value / 16) (value % 16) (by omega) (ih (value / 16) (by omega))
        rwa [sum] at written

theorem mem_of_mem_toDigits {value : Nat} :
    ∀ char ∈ Nat.toDigits 16 value, char ∈ lowercaseHexDigits := by
  induction value using hexDigits_induct with
  | digit value small => simpa using digitChar_mem small
  | more value digit small ih =>
      rw [List.forall_mem_append]
      exact ⟨ih, by simpa using digitChar_mem small⟩

theorem hexadecimal?_toDigits (value : Nat) : hexadecimal? (Nat.toDigits 16 value) = some value := by
  rw [hexadecimal?, if_neg (by simp [Nat.toDigits_ne_nil])]
  induction value using hexDigits_induct with
  | digit value small => simp [hexDigit?_digitChar small]
  | more value digit small ih =>
      rw [List.foldlM_append, ih]
      simp [hexDigit?_digitChar small]

end MessageMarkup.Text
