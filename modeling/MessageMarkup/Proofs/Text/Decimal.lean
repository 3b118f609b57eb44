import MessageMarkup.Text.Digits

/-!
# Reading decimal digits back

The digits that are written for a number have the number as their value, also with zeros in
front.
-/

set_option autoImplicit false

namespace MessageMarkup.Text

theorem decimalValue_eq (digits : List Char) :
    decimalValue digits = Nat.ofDigitChars 10 digits 0 := by
  rw [decimalValue, Nat.ofDigitChars_eq_foldl]
  congr 1
  funext value digit
  rw [Nat.mul_comm value 10]
  rfl

theorem decimalValue_toDigits (value : Nat) : decimalValue (Nat.toDigits 10 value) = value := by
  rw [decimalValue_eq]
  exact Nat.ofDigitChars_toDigits (by omega) (by omega)

theorem toString_inj {value other : Nat} : toString value = toString other ↔ value = other := by
  constructor
  · intro same
    have digits := congrArg String.toList same
    rw [Nat.toString_eq_repr, Nat.toString_eq_repr, Nat.toList_repr, Nat.toList_repr] at digits
    rw [← decimalValue_toDigits value, digits, decimalValue_toDigits]
  · intro same
    rw [same]

theorem decimalValue_zeros_append (count : Nat) (digits : List Char) :
    decimalValue (List.replicate count '0' ++ digits) = decimalValue digits := by
  induction count with
  | zero => rfl
  | succ count ih => exact ih

theorem all_isDigit_toDigits (value : Nat) : (Nat.toDigits 10 value).all isDigit = true := by
  rw [List.all_eq_true]
  intro char member
  exact Nat.isDigit_of_mem_toDigits (by omega) (by omega) member

theorem not_mem_of_all_isDigit {digits : List Char} (all : digits.all isDigit = true) {mark : Char}
    (other : isDigit mark = false) : mark ∉ digits := by
  intro member
  have digit := List.all_eq_true.mp all mark member
  rw [other] at digit
  cases digit

theorem natural?_of_all {digits : List Char} (given : digits ≠ []) (all : digits.all isDigit = true) :
    natural? digits = some (decimalValue digits) := by
  rw [natural?, if_neg (by simpa using given), if_pos all]

theorem natural?_toDigits (value : Nat) : natural? (Nat.toDigits 10 value) = some value := by
  rw [natural?_of_all Nat.toDigits_ne_nil (all_isDigit_toDigits value), decimalValue_toDigits]

theorem toList_padded (width value : Nat) :
    (padded width value).toList =
      List.replicate (width - (Nat.toDigits 10 value).length) '0' ++ Nat.toDigits 10 value :=
  String.toList_ofList

theorem all_isDigit_padded (width value : Nat) : (padded width value).toList.all isDigit = true := by
  rw [toList_padded, List.all_append, all_isDigit_toDigits, List.all_replicate]
  simp [isDigit]

theorem natural?_padded (width value : Nat) : natural? (padded width value).toList = some value := by
  rw [natural?_of_all _ (all_isDigit_padded width value), toList_padded, decimalValue_zeros_append,
    decimalValue_toDigits]
  rw [toList_padded]
  exact List.append_ne_nil_of_right_ne_nil _ Nat.toDigits_ne_nil

theorem not_mem_toString {mark : Char} (other : isDigit mark = false) (value : Nat) :
    mark ∉ (toString value).toList := by
  rw [Nat.toString_eq_repr, Nat.toList_repr]
  exact not_mem_of_all_isDigit (all_isDigit_toDigits value) other

theorem not_mem_padded {mark : Char} (other : isDigit mark = false) (width value : Nat) :
    mark ∉ (padded width value).toList :=
  not_mem_of_all_isDigit (all_isDigit_padded width value) other

theorem padded_inj {width value other : Nat} :
    padded width value = padded width other ↔ value = other := by
  constructor
  · intro same
    have read := natural?_padded width value
    rw [same, natural?_padded] at read
    exact (Option.some.inj read).symm
  · intro same
    rw [same]

theorem integer?_of_all {digits : List Char} (all : digits.all isDigit = true) :
    integer? digits = (natural? digits).map Int.ofNat := by
  unfold integer?
  split
  · simp [isDigit] at all
  · simp [isDigit] at all
  · cases natural? digits <;> rfl

end MessageMarkup.Text
