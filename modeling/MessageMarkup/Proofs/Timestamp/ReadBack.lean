import Mathlib.Data.List.Basic
import MessageMarkup.Proofs.Text.Cutting
import MessageMarkup.Proofs.Text.Decimal
import MessageMarkup.Proofs.Timestamp.Calendar
import MessageMarkup.Timestamp.Format

/-!
# Timestamps are read back

The default form of a timestamp is read as a date and a time of day on a dial of twelve hours.
Both exist, and on the clock that showed them they are the very second that was formatted.
-/

set_option autoImplicit false

namespace MessageMarkup.Timestamp

/-! ## Stated times -/

/-- A date and a time of day on a dial of twelve hours. -/
structure Stated where
  date : Calendar.Date
  hour : Nat
  minute : Nat
  second : Nat
  afternoon : Bool
  deriving DecidableEq, Repr

namespace Stated

structure Exists (stated : Stated) : Prop where
  date : stated.date.Exists
  hour : 1 ≤ stated.hour ∧ stated.hour ≤ 12
  minute : stated.minute < 60
  second : stated.second < 60

/-- On the dial twelve stands for midnight and noon. -/
def secondOfDay (stated : Stated) : Nat :=
  (stated.hour % 12 + if stated.afternoon then 12 else 0) * 3600 + stated.minute * 60 + stated.second

/-- Seconds from the start of 1970 in universal time, on a clock with an offset. -/
def seconds (stated : Stated) (offset : UtcOffset) : Int :=
  stated.date.toDays * 86400 + stated.secondOfDay - offset.seconds

end Stated

/-! ## Reading -/

/-- A number of at most two digits, and what follows the mark after it. -/
def numberBefore? (least : Nat) (mark : String) (chars : List Char) : Option (Nat × List Char) := do
  let digits := chars.takeWhile Text.isDigit
  guard (least ≤ digits.length ∧ digits.length ≤ 2)
  let value ← Text.natural? digits
  let rest ← mark.toList.isPrefixOf? (chars.dropWhile Text.isDigit)
  return (value, rest)

/-- A year, which may have a sign, and what follows the comma and the blank after it. -/
def yearBefore? (chars : List Char) : Option (Int × List Char) := do
  let year ← Text.integer? (chars.takeWhile (· != ','))
  let rest ← ", ".toList.isPrefixOf? (chars.dropWhile (· != ','))
  return (year, rest)

def afternoon? (half : String) : Option Bool :=
  if half = "AM" then some false else if half = "PM" then some true else none

/-- What a text of the form `M/D/YYYY, h:mm:ss AM` states. -/
def Stated.read (text : String) : Option Stated := do
  let (month, chars) ← numberBefore? 1 "/" text.toList
  let (day, chars) ← numberBefore? 1 "/" chars
  let (year, chars) ← yearBefore? chars
  let (hour, chars) ← numberBefore? 1 ":" chars
  let (minute, chars) ← numberBefore? 2 ":" chars
  let (second, chars) ← numberBefore? 2 " " chars
  let afternoon ← afternoon? (String.ofList chars)
  return { date := { year, month, day }, hour, minute, second, afternoon }

theorem numberBefore?_append {least value : Nat} (mark : String) {stop : Char}
    {digits marks rest : List Char} (isMark : mark.toList = stop :: marks)
    (stops : Text.isDigit stop = false) (all : digits.all Text.isDigit = true)
    (length : least ≤ digits.length ∧ digits.length ≤ 2)
    (spelled : Text.natural? digits = some value) :
    numberBefore? least mark (digits ++ (mark.toList ++ rest)) = some (value, rest) := by
  obtain ⟨taken, left⟩ := Text.cut_append all stops (marks ++ rest)
  rw [numberBefore?, isMark, List.cons_append, taken, left, guard, if_pos length, spelled]
  have after : (stop :: marks).isPrefixOf? (stop :: (marks ++ rest)) = some rest :=
    List.isPrefixOf?_eq_some_iff_append_eq.mpr rfl
  simp [after]

theorem number_append {value : Nat} (small : value < 100) (mark : String) {stop : Char}
    {marks rest : List Char} (isMark : mark.toList = stop :: marks)
    (stops : Text.isDigit stop = false) :
    numberBefore? 1 mark ((toString value).toList ++ (mark.toList ++ rest)) = some (value, rest) := by
  have short : (Nat.toDigits 10 value).length ≤ 2 :=
    (Nat.length_toDigits_le_iff (by omega) (by omega)).mpr small
  rw [Nat.toString_eq_repr, Nat.toList_repr]
  exact numberBefore?_append mark isMark stops (Text.all_isDigit_toDigits value)
    ⟨Nat.length_toDigits_pos, short⟩ (Text.natural?_toDigits value)

theorem padded_append {value : Nat} (small : value < 100) (mark : String) {stop : Char}
    {marks rest : List Char} (isMark : mark.toList = stop :: marks)
    (stops : Text.isDigit stop = false) :
    numberBefore? 2 mark ((Text.padded 2 value).toList ++ (mark.toList ++ rest)) =
      some (value, rest) := by
  have short : (Nat.toDigits 10 value).length ≤ 2 :=
    (Nat.length_toDigits_le_iff (by omega) (by omega)).mpr small
  have length : (Text.padded 2 value).toList.length = 2 := by
    rw [Text.toList_padded, List.length_append, List.length_replicate]
    omega
  exact numberBefore?_append mark isMark stops (Text.all_isDigit_padded 2 value)
    ⟨Nat.le_of_eq length.symm, Nat.le_of_eq length⟩ (Text.natural?_padded 2 value)

theorem integer?_yearText (year : Int) : Text.integer? (yearText year).toList = some year := by
  unfold yearText
  split
  · rename_i negative
    have spelled : Text.integer? ('-' :: (Text.padded 4 year.natAbs).toList) =
        some (-(year.natAbs : Int)) := by
      rw [Text.integer?, Text.natural?_padded]
      rfl
    rw [String.toList_append]
    exact spelled.trans (congrArg some (by omega))
  · rename_i notNegative
    have same : (year.natAbs : Int) = year := Int.natAbs_of_nonneg (Int.not_lt.mp notNegative)
    split
    · rw [Text.integer?_of_all (Text.all_isDigit_padded 4 _), Text.natural?_padded]
      exact congrArg some same
    · have spelled : Text.integer? ('+' :: (Text.padded 4 year.natAbs).toList) =
          some (year.natAbs : Int) := by
        rw [Text.integer?, Text.natural?_padded]
        rfl
      rw [String.toList_append]
      exact spelled.trans (congrArg some same)

theorem not_mem_yearText {mark : Char} (other : Text.isDigit mark = false) (notMinus : mark ≠ '-')
    (notPlus : mark ≠ '+') (year : Int) : mark ∉ (yearText year).toList := by
  have digits : mark ∉ (Text.padded 4 year.natAbs).toList :=
    Text.not_mem_padded other 4 year.natAbs
  unfold yearText
  split
  · rw [String.toList_append]
    exact List.not_mem_cons_of_ne_of_not_mem notMinus digits
  · split
    · exact digits
    · rw [String.toList_append]
      exact List.not_mem_cons_of_ne_of_not_mem notPlus digits

theorem yearBefore?_append (year : Int) (rest : List Char) :
    yearBefore? ((yearText year).toList ++ (", ".toList ++ rest)) = some (year, rest) := by
  have absent : ',' ∉ (yearText year).toList := not_mem_yearText rfl (by decide) (by decide) year
  obtain ⟨taken, left⟩ := Text.cut_at absent (' ' :: rest)
  have after : ", ".toList.isPrefixOf? (',' :: ' ' :: rest) = some rest :=
    List.isPrefixOf?_eq_some_iff_append_eq.mpr rfl
  have marks : ", ".toList ++ rest = ',' :: ' ' :: rest := rfl
  rw [yearBefore?, marks, taken, left, integer?_yearText, after]
  rfl

/-! ## What a clock shows -/

namespace Reading

def stated (reading : Reading) : Stated where
  date := reading.date
  hour := reading.hour
  minute := reading.second / 60 % 60
  second := reading.second % 60
  afternoon := decide (43200 ≤ reading.second)

theorem hour_eq (reading : Reading) :
    1 ≤ reading.hour ∧ reading.hour ≤ 12 ∧ reading.hour % 12 = reading.second / 3600 % 12 := by
  unfold hour
  dsimp only
  split
  · rename_i twelve
    have zero : reading.second / 3600 % 12 = 0 := by simpa using twelve
    omega
  · rename_i other
    have positive : reading.second / 3600 % 12 ≠ 0 := by simpa using other
    omega

theorem afternoon?_half (reading : Reading) :
    afternoon? reading.half = some reading.stated.afternoon := by
  unfold half stated
  split
  · rename_i before
    rw [decide_eq_false (Nat.not_le.mpr before)]
    rfl
  · rename_i after
    rw [decide_eq_true (Nat.not_lt.mp after)]
    rfl

theorem exists_stated (reading : Reading) : reading.stated.Exists := by
  obtain ⟨least, most, _⟩ := reading.hour_eq
  constructor
  · exact Calendar.exists_ofDays reading.day
  · exact ⟨least, most⟩
  · exact Nat.mod_lt _ (by omega)
  · exact Nat.mod_lt _ (by omega)

theorem secondOfDay_stated {reading : Reading} (within : reading.second < 86400) :
    reading.stated.secondOfDay = reading.second := by
  obtain ⟨_, _, dial⟩ := reading.hour_eq
  unfold stated Stated.secondOfDay
  simp only [dial, decide_eq_true_eq]
  split <;> omega

theorem toList_standard (reading : Reading) :
    reading.standard.toList =
      (toString reading.date.month).toList ++ ("/".toList ++
        ((toString reading.date.day).toList ++ ("/".toList ++
          ((yearText reading.date.year).toList ++ (", ".toList ++
            ((toString reading.hour).toList ++ (":".toList ++
              ((Text.padded 2 (reading.second / 60 % 60)).toList ++ (":".toList ++
                ((Text.padded 2 (reading.second % 60)).toList ++ (" ".toList ++
                  reading.half.toList))))))))))) := by
  simp only [standard, plainDate, longTime, minute, String.toList_append, List.append_assoc]

theorem read_standard (reading : Reading) : Stated.read reading.standard = some reading.stated := by
  obtain ⟨date, hour, minute, second⟩ := reading.exists_stated
  have monthBound : reading.date.month ≤ 12 := date.month.2
  have dayBound : reading.date.day ≤ 31 := date.day.2.trans (Calendar.monthLength_le _ _)
  have hourBound : reading.hour ≤ 12 := hour.2
  rw [Stated.read, toList_standard, number_append (by omega) "/" rfl rfl]
  simp only [Option.bind_eq_bind, Option.bind_some]
  rw [number_append (by omega) "/" rfl rfl]
  simp only [Option.bind_some]
  rw [yearBefore?_append]
  simp only [Option.bind_some]
  rw [number_append (by omega) ":" rfl rfl]
  simp only [Option.bind_some]
  rw [padded_append (by omega) ":" rfl rfl]
  simp only [Option.bind_some]
  rw [padded_append (by omega) " " rfl rfl]
  simp only [Option.bind_some, String.ofList_toList]
  rw [afternoon?_half]
  rfl

theorem second_at_lt (offset : UtcOffset) (seconds : Int) :
    (Reading.at offset seconds).second < 86400 := by
  unfold Reading.at
  dsimp only
  omega

theorem seconds_stated (offset : UtcOffset) (seconds : Int) :
    (Reading.at offset seconds).stated.seconds offset = seconds := by
  have days : (Reading.at offset seconds).stated.date.toDays = (Reading.at offset seconds).day :=
    Calendar.toDays_ofDays _
  rw [Stated.seconds, days, secondOfDay_stated (second_at_lt offset seconds)]
  unfold Reading.at
  dsimp only
  omega

end Reading

/-- A timestamp has a text exactly if it is in range, whatever the clock and the style. In the
default form the text states a date and a time that exist, and on the same clock these are the
timestamp again. -/
theorem format_reads_back (offset : UtcOffset) (seconds : Int) (style : Option Style) :
    ((format offset seconds style).isSome = true ↔
        -8334601228800 ≤ seconds ∧ seconds ≤ 8210266876799) ∧
      (style = none ∨ style = some .relative →
        ∀ text, format offset seconds style = some text →
          ∃ stated, Stated.read text = some stated ∧ stated.Exists ∧
            stated.seconds offset = seconds) := by
  refine ⟨format_isSome offset seconds style, ?_⟩
  intro standard text formatted
  have shown : text = (Reading.at offset seconds).standard := by
    unfold format at formatted
    split at formatted
    · cases formatted
      cases standard with
      | inl plain =>
          subst plain
          rfl
      | inr relative =>
          subst relative
          rfl
    · cases formatted
  subst shown
  exact ⟨_, Reading.read_standard _, Reading.exists_stated _, Reading.seconds_stated offset seconds⟩

/-- The last second in range, on the clock that is furthest ahead: one year past the range. -/
theorem format_reads_back_ahead :
    ∃ stated, Stated.read "1/1/+262143, 11:59:58 PM" = some stated ∧ stated.Exists ∧
      stated.seconds ⟨86399, by decide, by decide⟩ = 8210266876799 := by
  have shown : format ⟨86399, by decide, by decide⟩ 8210266876799 none =
      some "1/1/+262143, 11:59:58 PM" := by
    decide +kernel
  exact (format_reads_back _ _ _).2 (.inl rfl) _ shown

end MessageMarkup.Timestamp
