import MessageMarkup.Proofs.Text.Decimal
import MessageMarkup.Text.Blank

/-!
# Whole numbers in text

Which characters spell a whole number, apart from what reads them: a sign, which may be absent,
and at least one digit. Text is read as a number of 64 bits exactly if it spells one within the
range, with white space around it.
-/

set_option autoImplicit false

namespace MessageMarkup.Text

/-- The characters of a whole number. -/
inductive SpellsInteger : Int → List Char → Prop where
  | unsigned {digits : List Char} :
      digits ≠ [] → digits.all isDigit = true → SpellsInteger (decimalValue digits) digits
  | plus {digits : List Char} :
      digits ≠ [] → digits.all isDigit = true → SpellsInteger (decimalValue digits) ('+' :: digits)
  | minus {digits : List Char} :
      digits ≠ [] → digits.all isDigit = true →
      SpellsInteger (-(decimalValue digits : Int)) ('-' :: digits)

/-- The whole numbers that a signed word of 64 bits holds. -/
def InWord (value : Int) : Prop :=
  -9223372036854775808 ≤ value ∧ value ≤ 9223372036854775807

theorem fitsSigned_iff {value : Int} : fitsSigned 64 value = true ↔ InWord value := by
  have bound : powerOfTwo 63 = 9223372036854775808 := rfl
  simp only [fitsSigned, Nat.add_one_sub_one, bound, Bool.and_eq_true, decide_eq_true_eq, InWord]
  omega

theorem natural?_eq_some_iff {chars : List Char} {value : Nat} :
    natural? chars = some value ↔
      chars ≠ [] ∧ chars.all isDigit = true ∧ decimalValue chars = value := by
  constructor
  · intro read
    rw [natural?] at read
    split at read
    · cases read
    · split at read
      · cases read
        exact ⟨by simp_all, ‹_›, rfl⟩
      · cases read
  · rintro ⟨given, digits, rfl⟩
    exact natural?_of_all given digits

theorem integer?_minus (digits : List Char) :
    integer? ('-' :: digits) = (natural? digits).map fun size : Nat => -(size : Int) := by
  cases read : natural? digits <;> simp [integer?, read]

theorem integer?_plus (digits : List Char) :
    integer? ('+' :: digits) = (natural? digits).map Int.ofNat := by
  cases read : natural? digits <;> simp [integer?, read]

theorem integer?_unsigned {chars : List Char} (notMinus : ∀ digits, chars ≠ '-' :: digits)
    (notPlus : ∀ digits, chars ≠ '+' :: digits) :
    integer? chars = (natural? chars).map Int.ofNat := by
  rw [integer?.eq_3 chars notMinus notPlus]
  cases natural? chars <;> rfl

theorem integer?_eq_some_iff {chars : List Char} {value : Int} :
    integer? chars = some value ↔ SpellsInteger value chars := by
  constructor
  · intro read
    by_cases minus : ∃ digits, chars = '-' :: digits
    · obtain ⟨digits, rfl⟩ := minus
      rw [integer?_minus] at read
      obtain ⟨size, isNatural, rfl⟩ := Option.map_eq_some_iff.mp read
      obtain ⟨given, all, rfl⟩ := natural?_eq_some_iff.mp isNatural
      exact .minus given all
    · by_cases plus : ∃ digits, chars = '+' :: digits
      · obtain ⟨digits, rfl⟩ := plus
        rw [integer?_plus] at read
        obtain ⟨size, isNatural, rfl⟩ := Option.map_eq_some_iff.mp read
        obtain ⟨given, all, rfl⟩ := natural?_eq_some_iff.mp isNatural
        exact .plus given all
      · rw [integer?_unsigned (not_exists.mp minus) (not_exists.mp plus)] at read
        obtain ⟨size, isNatural, rfl⟩ := Option.map_eq_some_iff.mp read
        obtain ⟨given, all, rfl⟩ := natural?_eq_some_iff.mp isNatural
        exact .unsigned given all
  · intro spelled
    cases spelled with
    | unsigned given digits =>
        rw [integer?_of_all digits, natural?_of_all given digits]
        rfl
    | plus given digits =>
        rw [integer?_plus, natural?_of_all given digits]
        rfl
    | minus given digits =>
        rw [integer?_minus, natural?_of_all given digits]
        rfl

/-! ## White space around numbers -/

theorem isBlank_of_isDigit {char : Char} (digit : isDigit char = true) : isBlank char = false := by
  simp only [isDigit, Bool.and_eq_true, decide_eq_true_eq, Char.le_def] at digit
  have low : 48 ≤ char.toNat := digit.1
  have high : char.toNat ≤ 57 := digit.2
  simp [isBlank]
  omega

theorem SpellsInteger.not_blank {value : Int} {chars : List Char}
    (spelled : SpellsInteger value chars) : ∀ char ∈ chars, isBlank char = false := by
  have plain {digits : List Char} (all : digits.all isDigit = true) :
      ∀ char ∈ digits, isBlank char = false :=
    fun char member => isBlank_of_isDigit (List.all_eq_true.mp all char member)
  cases spelled with
  | unsigned _ digits => exact plain digits
  | plus _ digits | minus _ digits => exact List.forall_mem_cons.mpr ⟨by decide, plain digits⟩

theorem SpellsInteger.ne_nil {value : Int} {chars : List Char}
    (spelled : SpellsInteger value chars) : chars ≠ [] := by
  cases spelled with
  | unsigned given _ => exact given
  | plus | minus => exact List.cons_ne_nil _ _

theorem dropWhile_isBlank {before own after : List Char} (blank : ∀ char ∈ before, isBlank char = true)
    (given : own ≠ []) (visible : ∀ char ∈ own, isBlank char = false) :
    (before ++ (own ++ after)).dropWhile isBlank = own ++ after := by
  obtain ⟨first, rest, rfl⟩ := List.exists_cons_of_ne_nil given
  rw [List.dropWhile_append_of_pos blank]
  simp [visible first (.head _)]

theorem trimChars_surrounded {before own after : List Char}
    (blank : ∀ char ∈ before, isBlank char = true) (blankAfter : ∀ char ∈ after, isBlank char = true)
    (given : own ≠ []) (visible : ∀ char ∈ own, isBlank char = false) :
    trimChars (before ++ (own ++ after)) = own := by
  have back : (after.reverse ++ (own.reverse ++ [])).dropWhile isBlank = own.reverse ++ [] := by
    apply dropWhile_isBlank
    · simpa using blankAfter
    · simpa using given
    · simpa using visible
  rw [trimChars, dropWhile_isBlank blank given visible, List.reverse_append]
  simpa using congrArg List.reverse back

theorem exists_surrounded (chars : List Char) :
    ∃ before after, chars = before ++ (trimChars chars ++ after) ∧
      (∀ char ∈ before, isBlank char = true) ∧ ∀ char ∈ after, isBlank char = true := by
  let rest := chars.dropWhile isBlank
  refine ⟨chars.takeWhile isBlank, (rest.reverse.takeWhile isBlank).reverse, ?_, ?_, ?_⟩
  · have back := congrArg List.reverse (rest.reverse.takeWhile_append_dropWhile (p := isBlank))
    rw [List.reverse_append, List.reverse_reverse] at back
    rw [trimChars, back, List.takeWhile_append_dropWhile]
  · intro char member
    exact List.all_eq_true.mp List.all_takeWhile char member
  · intro char member
    exact List.all_eq_true.mp List.all_takeWhile char (List.mem_reverse.mp member)

/-- Text that spells a whole number with white space around it. -/
def Holds (text : String) (value : Int) : Prop :=
  ∃ before own after, text.toList = before ++ (own ++ after) ∧
    (∀ char ∈ before, isBlank char = true) ∧ (∀ char ∈ after, isBlank char = true) ∧
    SpellsInteger value own

theorem signed?_trim_eq_some_iff {text : String} {value : Int} :
    signed? 64 (trim text) = some value ↔ InWord value ∧ Holds text value := by
  rw [signed?, trim, String.toList_ofList, Option.filter_eq_some_iff, fitsSigned_iff,
    integer?_eq_some_iff, and_comm]
  refine and_congr_right fun _ => ?_
  constructor
  · intro spelled
    obtain ⟨before, after, same, blank, blankAfter⟩ := exists_surrounded text.toList
    exact ⟨before, _, after, same, blank, blankAfter, spelled⟩
  · rintro ⟨before, own, after, same, blank, blankAfter, spelled⟩
    rw [same, trimChars_surrounded blank blankAfter spelled.ne_nil spelled.not_blank]
    exact spelled

/-! ## Numbers as they are written -/

/-- A number in decimal, with zeros in front of its digits. One that is not negative may have a
plus sign. -/
def written (plus : Bool) (zeros : Nat) (value : Int) : String :=
  String.ofList ((if value < 0 then ['-'] else if plus then ['+'] else []) ++
    (List.replicate zeros '0' ++ Nat.toDigits 10 value.natAbs))

theorem written_plain (value : Int) : written false 0 value = toString value := by
  apply String.toList_inj.mp
  rw [written, String.toList_ofList, Int.toString_eq_repr, Int.repr_eq_if]
  by_cases negative : value < 0
  · have natAbs : (-value).toNat = value.natAbs := by omega
    rw [if_pos negative, if_neg (by omega), String.toList_append, Nat.toList_repr, natAbs]
    rfl
  · have natAbs : value.toNat = value.natAbs := by omega
    rw [if_neg negative, if_neg Bool.false_ne_true, if_pos (by omega), Nat.toList_repr, natAbs]
    rfl

theorem holds_written (plus : Bool) (zeros : Nat) (value : Int) :
    Holds (written plus zeros value) value := by
  refine ⟨[], (written plus zeros value).toList, [], by simp, List.forall_mem_nil _,
    List.forall_mem_nil _, ?_⟩
  have given : List.replicate zeros '0' ++ Nat.toDigits 10 value.natAbs ≠ [] :=
    List.append_ne_nil_of_right_ne_nil _ Nat.toDigits_ne_nil
  have digits : (List.replicate zeros '0' ++ Nat.toDigits 10 value.natAbs).all isDigit = true := by
    rw [List.all_append, all_isDigit_toDigits, List.all_replicate]
    simp [isDigit]
  have size : decimalValue (List.replicate zeros '0' ++ Nat.toDigits 10 value.natAbs) =
      value.natAbs := by
    rw [decimalValue_zeros_append, decimalValue_toDigits]
  rw [written, String.toList_ofList]
  by_cases negative : value < 0
  · have spelled := SpellsInteger.minus given digits
    rw [size, Int.ofNat_natAbs_of_nonpos (by omega), Int.neg_neg] at spelled
    rwa [if_pos negative]
  · have whole : (value.natAbs : Int) = value := by omega
    rw [if_neg negative]
    cases plus with
    | true =>
        have spelled := SpellsInteger.plus given digits
        rw [size, whole] at spelled
        exact spelled
    | false =>
        have spelled := SpellsInteger.unsigned given digits
        rw [size, whole] at spelled
        exact spelled

end MessageMarkup.Text
