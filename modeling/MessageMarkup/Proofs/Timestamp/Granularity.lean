import MessageMarkup.Proofs.Timestamp.ReadBack

/-!
# What a style tells apart

Two times that are shown on one clock in one style have the same text exactly if they agree in
what the style shows: the day, the minute or the second of the day. Days and times of day are
those of the local time, which is the time in universal time with the offset of the clock added.
-/

set_option autoImplicit false

namespace MessageMarkup.Timestamp

/-! ## Local times -/

/-- The day of a local time, counted from the first of January 1970. -/
def localDay (time : Int) : Int :=
  time / 86400

def secondOfDay (time : Int) : Int :=
  time % 86400

def minuteOfDay (time : Int) : Int :=
  time % 86400 / 60

/-- Whether two local times agree in what a style shows of them. -/
def Style.Agree (style : Style) (one other : Int) : Prop :=
  match style with
  | .shortTime => minuteOfDay one = minuteOfDay other
  | .longTime => secondOfDay one = secondOfDay other
  | .shortDate | .longDate => localDay one = localDay other
  | .shortDateTime | .longDateTime =>
      localDay one = localDay other ∧ minuteOfDay one = minuteOfDay other
  | .relative => one = other

/-- The days of the week, beginning with that of the first of January 1970. -/
def weekFromEpoch : List String :=
  ["Thursday", "Friday", "Saturday", "Sunday", "Monday", "Tuesday", "Wednesday"]

/-- What stands before the first comma of a text. -/
def beforeComma (text : String) : String :=
  String.ofList (text.toList.takeWhile (· != ','))

/-! ## Dates -/

theorem monthName_inj {month other : Nat} (within : 1 ≤ month ∧ month ≤ 12)
    (otherWithin : 1 ≤ other ∧ other ≤ 12) :
    Calendar.monthName month = Calendar.monthName other ↔ month = other := by
  have each : ∀ one another : Fin 12,
      Calendar.monthName (one + 1) = Calendar.monthName (another + 1) → one = another := by
    decide
  constructor
  · intro same
    obtain ⟨one, rfl⟩ := Nat.exists_eq_add_of_le' within.1
    obtain ⟨another, rfl⟩ := Nat.exists_eq_add_of_le' otherWithin.1
    have found := each ⟨one, by omega⟩ ⟨another, by omega⟩ same
    exact congrArg (· + 1) (Fin.mk.inj found)
  · intro same
    rw [same]

theorem blank_not_mem_monthName (month : Nat) : ' ' ∉ (Calendar.monthName month).toList := by
  unfold Calendar.monthName
  split <;> decide

theorem weekFromEpoch_getElem? (day : Int) :
    weekFromEpoch[(day % 7).toNat]? = some (Calendar.weekdayName (Calendar.weekday day)) := by
  have weekday : Calendar.weekday day = ((day % 7).toNat + 4) % 7 := by
    unfold Calendar.weekday
    omega
  have within : (day % 7).toNat < 7 := by omega
  rw [weekday]
  generalize (day % 7).toNat = passed at within
  interval_cases passed <;> rfl

theorem comma_not_mem_weekdayName (weekday : Nat) :
    ',' ∉ (Calendar.weekdayName weekday).toList := by
  unfold Calendar.weekdayName
  split <;> decide

theorem yearText_inj {year other : Int} : yearText year = yearText other ↔ year = other := by
  constructor
  · intro same
    have read := integer?_yearText year
    rw [same, integer?_yearText] at read
    exact (Option.some.inj read).symm
  · intro same
    rw [same]

theorem shortDate_inj {date other : Calendar.Date} :
    shortDate date = shortDate other ↔ date = other := by
  have spelled (date : Calendar.Date) : (shortDate date).toList =
      (Text.padded 2 date.month).toList ++ '/' ::
        ((Text.padded 2 date.day).toList ++ '/' :: (yearText date.year).toList) := by
    simp [shortDate]
  have absent : ∀ value, '/' ∉ (Text.padded 2 value).toList := Text.not_mem_padded rfl 2
  rw [← String.toList_inj, spelled, spelled, Text.append_mark_inj (absent _) (absent _),
    Text.append_mark_inj (absent _) (absent _), String.toList_inj, String.toList_inj,
    String.toList_inj, Text.padded_inj, Text.padded_inj, yearText_inj, Calendar.Date.mk.injEq]
  tauto

/-- A date with the name of its month can be told from what follows the blank after it. -/
theorem longDate_append_inj {date other : Calendar.Date} (real : date.Exists)
    (otherReal : other.Exists) {rest otherRest : List Char} :
    (longDate date).toList ++ ' ' :: rest = (longDate other).toList ++ ' ' :: otherRest ↔
      date = other ∧ rest = otherRest := by
  have spelled (date : Calendar.Date) (rest : List Char) : (longDate date).toList ++ ' ' :: rest =
      (Calendar.monthName date.month).toList ++ ' ' ::
        ((toString date.day).toList ++ ',' :: ' ' ::
          ((yearText date.year).toList ++ ' ' :: rest)) := by
    simp [longDate]
  have day : ∀ value, ',' ∉ (toString value).toList := Text.not_mem_toString rfl
  have year : ∀ value, ' ' ∉ (yearText value).toList :=
    not_mem_yearText rfl (by decide) (by decide)
  rw [spelled, spelled,
    Text.append_mark_inj (blank_not_mem_monthName _) (blank_not_mem_monthName _),
    Text.append_mark_inj (day _) (day _), List.cons_inj_right, Text.append_mark_inj (year _) (year _),
    String.toList_inj, String.toList_inj, String.toList_inj,
    monthName_inj real.month otherReal.month, Text.toString_inj, yearText_inj, Calendar.Date.mk.injEq]
  tauto

theorem longDate_inj {date other : Calendar.Date} (real : date.Exists) (otherReal : other.Exists) :
    longDate date = longDate other ↔ date = other := by
  have told : (longDate date).toList ++ [' '] = (longDate other).toList ++ [' '] ↔ _ :=
    longDate_append_inj real otherReal
  rw [List.append_left_inj, String.toList_inj, and_iff_left rfl] at told
  exact told

/-! ## Times of day -/

namespace Reading

theorem exists_date (reading : Reading) : reading.date.Exists :=
  Calendar.exists_ofDays reading.day

theorem date_inj {one other : Reading} : one.date = other.date ↔ one.day = other.day := by
  constructor
  · intro same
    rw [← Calendar.toDays_ofDays one.day, ← Calendar.toDays_ofDays other.day]
    exact congrArg Calendar.Date.toDays same
  · intro same
    rw [date, date, same]

theorem half_inj {one other : Reading} :
    one.half = other.half ↔ (one.second < 43200 ↔ other.second < 43200) := by
  unfold half
  by_cases morning : one.second < 43200 <;> by_cases otherMorning : other.second < 43200 <;>
    simp [morning, otherMorning]

theorem shortTime_eq_iff {one other : Reading} :
    one.shortTime = other.shortTime ↔
      (one.hour = other.hour ∧ one.half = other.half) ∧
        one.second / 60 % 60 = other.second / 60 % 60 := by
  have spelled (reading : Reading) : reading.shortTime.toList =
      (toString reading.hour).toList ++ ':' ::
        ((Text.padded 2 (reading.second / 60 % 60)).toList ++ ' ' :: reading.half.toList) := by
    simp [shortTime, minute]
  have hour : ∀ value, ':' ∉ (toString value).toList := Text.not_mem_toString rfl
  have minute : ∀ value, ' ' ∉ (Text.padded 2 value).toList := Text.not_mem_padded rfl 2
  rw [← String.toList_inj, spelled, spelled, Text.append_mark_inj (hour _) (hour _),
    Text.append_mark_inj (minute _) (minute _), String.toList_inj, String.toList_inj,
    String.toList_inj, Text.toString_inj, Text.padded_inj]
  tauto

theorem longTime_eq_iff {one other : Reading} :
    one.longTime = other.longTime ↔
      (one.hour = other.hour ∧ one.half = other.half) ∧
        one.second / 60 % 60 = other.second / 60 % 60 ∧ one.second % 60 = other.second % 60 := by
  have spelled (reading : Reading) : reading.longTime.toList =
      (toString reading.hour).toList ++ ':' ::
        ((Text.padded 2 (reading.second / 60 % 60)).toList ++ ':' ::
          ((Text.padded 2 (reading.second % 60)).toList ++ ' ' :: reading.half.toList)) := by
    simp [longTime, minute]
  have hour : ∀ value, ':' ∉ (toString value).toList := Text.not_mem_toString rfl
  have minute : ∀ value, ':' ∉ (Text.padded 2 value).toList := Text.not_mem_padded rfl 2
  have second : ∀ value, ' ' ∉ (Text.padded 2 value).toList := Text.not_mem_padded rfl 2
  rw [← String.toList_inj, spelled, spelled, Text.append_mark_inj (hour _) (hour _),
    Text.append_mark_inj (minute _) (minute _), Text.append_mark_inj (second _) (second _),
    String.toList_inj, String.toList_inj, String.toList_inj, String.toList_inj, Text.toString_inj,
    Text.padded_inj, Text.padded_inj]
  tauto

/-- The dial and the half of the day together tell the hour. -/
theorem hour_half_inj {one other : Reading} (within : one.second < 86400)
    (otherWithin : other.second < 86400) :
    one.hour = other.hour ∧ one.half = other.half ↔ one.second / 3600 = other.second / 3600 := by
  have dial := one.hour_eq
  have otherDial := other.hour_eq
  rw [half_inj]
  omega

theorem shortTime_inj {one other : Reading} (within : one.second < 86400)
    (otherWithin : other.second < 86400) :
    one.shortTime = other.shortTime ↔ one.second / 60 = other.second / 60 := by
  rw [shortTime_eq_iff, hour_half_inj within otherWithin]
  omega

theorem longTime_inj {one other : Reading} (within : one.second < 86400)
    (otherWithin : other.second < 86400) :
    one.longTime = other.longTime ↔ one.second = other.second := by
  rw [longTime_eq_iff, hour_half_inj within otherWithin]
  omega

theorem shortDateTime_inj {one other : Reading} (within : one.second < 86400)
    (otherWithin : other.second < 86400) :
    one.show (some .shortDateTime) = other.show (some .shortDateTime) ↔
      one.day = other.day ∧ one.second / 60 = other.second / 60 := by
  have spelled (reading : Reading) : (reading.show (some .shortDateTime)).toList =
      (longDate reading.date).toList ++ ' ' :: reading.shortTime.toList := by
    simp [Reading.show]
  rw [← String.toList_inj, spelled, spelled,
    longDate_append_inj one.exists_date other.exists_date, String.toList_inj, date_inj,
    shortTime_inj within otherWithin]

theorem toList_longDateTime (reading : Reading) :
    (reading.show (some .longDateTime)).toList =
      (Calendar.weekdayName (Calendar.weekday reading.day)).toList ++ ',' :: ' ' ::
        (reading.show (some .shortDateTime)).toList := by
  simp [Reading.show]

/-- The weekday is told by the day, so naming it tells nothing more apart. -/
theorem longDateTime_inj {one other : Reading} (within : one.second < 86400)
    (otherWithin : other.second < 86400) :
    one.show (some .longDateTime) = other.show (some .longDateTime) ↔
      one.day = other.day ∧ one.second / 60 = other.second / 60 := by
  rw [← String.toList_inj, toList_longDateTime, toList_longDateTime,
    Text.append_mark_inj (comma_not_mem_weekdayName _) (comma_not_mem_weekdayName _),
    List.cons_inj_right, String.toList_inj, String.toList_inj, shortDateTime_inj within otherWithin,
    and_iff_right_iff_imp]
  rintro ⟨sameDay, _⟩
  rw [sameDay]

theorem beforeComma_longDateTime (reading : Reading) :
    beforeComma (reading.show (some .longDateTime)) =
      Calendar.weekdayName (Calendar.weekday reading.day) := by
  obtain ⟨taken, _⟩ := Text.cut_at (comma_not_mem_weekdayName (Calendar.weekday reading.day))
    (' ' :: (reading.show (some .shortDateTime)).toList)
  rw [beforeComma, toList_longDateTime, taken, String.ofList_toList]

/-! ## Times on a clock -/

theorem second_at (offset : UtcOffset) (seconds : Int) :
    ((Reading.at offset seconds).second : Int) = secondOfDay (seconds + offset.seconds) := by
  unfold Reading.at secondOfDay
  dsimp only
  omega

theorem second_at_inj {offset : UtcOffset} {one other : Int} :
    (Reading.at offset one).second = (Reading.at offset other).second ↔
      secondOfDay (one + offset.seconds) = secondOfDay (other + offset.seconds) := by
  rw [← second_at, ← second_at, Int.natCast_inj]

theorem minute_at_inj {offset : UtcOffset} {one other : Int} :
    (Reading.at offset one).second / 60 = (Reading.at offset other).second / 60 ↔
      minuteOfDay (one + offset.seconds) = minuteOfDay (other + offset.seconds) := by
  have minute (seconds : Int) : ((Reading.at offset seconds).second : Int) / 60 =
      minuteOfDay (seconds + offset.seconds) := by
    rw [second_at]
    rfl
  rw [← minute, ← minute]
  omega

theorem standard_at_inj {offset : UtcOffset} {one other : Int} :
    (Reading.at offset one).standard = (Reading.at offset other).standard ↔ one = other := by
  constructor
  · intro same
    have stated := read_standard (Reading.at offset one)
    rw [same, read_standard] at stated
    rw [← seconds_stated offset one, ← seconds_stated offset other, Option.some.inj stated]
  · intro same
    rw [same]

theorem show_at_inj {offset : UtcOffset} {one other : Int} (style : Style) :
    (Reading.at offset one).show (some style) = (Reading.at offset other).show (some style) ↔
      style.Agree (one + offset.seconds) (other + offset.seconds) := by
  have within := second_at_lt offset one
  have otherWithin := second_at_lt offset other
  have real := (Reading.at offset one).exists_date
  have otherReal := (Reading.at offset other).exists_date
  cases style with
  | shortTime => exact (shortTime_inj within otherWithin).trans minute_at_inj
  | longTime => exact (longTime_inj within otherWithin).trans second_at_inj
  | shortDate => exact shortDate_inj.trans date_inj
  | longDate => exact (longDate_inj real otherReal).trans date_inj
  | shortDateTime =>
      exact (shortDateTime_inj within otherWithin).trans (and_congr Iff.rfl minute_at_inj)
  | longDateTime =>
      exact (longDateTime_inj within otherWithin).trans (and_congr Iff.rfl minute_at_inj)
  | relative => exact standard_at_inj.trans (add_left_inj offset.seconds).symm

end Reading

/-- Each style shows just so much of the local time: the minute of the day, the second of the day,
the day, or the day and its minute. Where the weekday is named, it is counted from the Thursday
that 1970 began with. -/
theorem format_eq_iff_agree (offset : UtcOffset) (one other : Int)
    (inRange : earliest ≤ one ∧ one ≤ latest) (otherInRange : earliest ≤ other ∧ other ≤ latest) :
    (∀ style : Style,
        format offset one (some style) = format offset other (some style) ↔
          style.Agree (one + offset.seconds) (other + offset.seconds)) ∧
      ∃ text, format offset one (some .longDateTime) = some text ∧
        weekFromEpoch[(localDay (one + offset.seconds) % 7).toNat]? = some (beforeComma text) := by
  have shown (style : Style) : format offset one (some style) =
      some ((Reading.at offset one).show (some style)) := if_pos inRange
  have otherShown (style : Style) : format offset other (some style) =
      some ((Reading.at offset other).show (some style)) := if_pos otherInRange
  constructor
  · intro style
    rw [shown, otherShown, Option.some_inj]
    exact Reading.show_at_inj style
  · refine ⟨_, shown .longDateTime, ?_⟩
    rw [Reading.beforeComma_longDateTime]
    exact weekFromEpoch_getElem? _

/-- The first and the last second of a minute in a year before zero, on a clock an hour behind. -/
theorem format_eq_iff_agree_negative :
    format ⟨-3600, by decide, by decide⟩ (-62198755200) (some .longDateTime) =
        format ⟨-3600, by decide, by decide⟩ (-62198755141) (some .longDateTime) ∧
      ∃ text, format ⟨-3600, by decide, by decide⟩ (-62198755200) (some .longDateTime) = some text ∧
        some "Thursday" = some (beforeComma text) := by
  obtain ⟨told, weekday⟩ := format_eq_iff_agree ⟨-3600, by decide, by decide⟩ (-62198755200)
    (-62198755141) (by decide) (by decide)
  exact ⟨(told .longDateTime).mpr ⟨by decide, by decide⟩, weekday⟩

end MessageMarkup.Timestamp
