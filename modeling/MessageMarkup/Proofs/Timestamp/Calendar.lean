import Mathlib.Tactic.IntervalCases
import MessageMarkup.Timestamp.Calendar

/-!
# Dates and counts of days

A date counts the days from the first of January 1970 to it: those of the years before its own,
those of the months before its own, and those of its month. The date of a count of days exists
in the calendar and counts just as many.
-/

set_option autoImplicit false

namespace MessageMarkup.Calendar

theorem isLeap_iff {year : Int} :
    isLeap year = true ↔ year % 4 = 0 ∧ (year % 100 ≠ 0 ∨ year % 400 = 0) := by
  simp [isLeap]

/-- Days from the first of January of year zero to that of another year. -/
def daysBeforeYear (year : Int) : Int :=
  365 * year + (year + 3) / 4 - (year + 99) / 100 + (year + 399) / 400

/-- Days from the start of a year to that of a month. -/
def daysBeforeMonth (year : Int) (month : Nat) : Nat :=
  ((List.range (month - 1)).map fun earlier => monthLength year (earlier + 1)).sum

namespace Date

structure Exists (date : Date) : Prop where
  month : 1 ≤ date.month ∧ date.month ≤ 12
  day : 1 ≤ date.day ∧ date.day ≤ monthLength date.year date.month

/-- Days from the first of January 1970. -/
def toDays (date : Date) : Int :=
  daysBeforeYear date.year - daysBeforeYear 1970 + daysBeforeMonth date.year date.month + date.day - 1

end Date

/-! ## Months -/

theorem monthLength_february (year : Int) :
    monthLength year 2 = if isLeap year then 29 else 28 := rfl

theorem monthLength_le (year : Int) (month : Nat) : monthLength year month ≤ 31 := by
  unfold monthLength
  split
  · split <;> omega
  · split <;> omega

/-- From March on, five months have 153 days. -/
theorem monthLength_march (year : Int) {marchMonth : Nat} (early : marchMonth < 10) :
    (153 * marchMonth + 2) / 5 + monthLength year (marchMonth + 3) =
      (153 * (marchMonth + 1) + 2) / 5 := by
  interval_cases marchMonth <;> rfl

theorem daysBeforeMonth_succ (year : Int) {month : Nat} (counted : 1 ≤ month) :
    daysBeforeMonth year (month + 1) = daysBeforeMonth year month + monthLength year month := by
  obtain ⟨earlier, rfl⟩ := Nat.exists_eq_add_of_le' counted
  simp [daysBeforeMonth, List.range_succ]

theorem daysBeforeMonth_march (year : Int) {marchMonth : Nat} (early : marchMonth ≤ 10) :
    daysBeforeMonth year (marchMonth + 3) =
      31 + monthLength year 2 + (153 * marchMonth + 2) / 5 := by
  induction marchMonth with
  | zero => rfl
  | succ marchMonth ih =>
      have length := monthLength_march year (show marchMonth < 10 by omega)
      have next := daysBeforeMonth_succ year (show 1 ≤ marchMonth + 3 by omega)
      rw [Nat.add_right_comm, next, ih (by omega)]
      omega

/-- A year is as long as its twelve months. -/
theorem daysBeforeYear_succ (year : Int) :
    daysBeforeYear (year + 1) = daysBeforeYear year + daysBeforeMonth year 13 := by
  have leap : isLeap year = true ↔ _ := isLeap_iff
  rw [daysBeforeMonth_march year (show 10 ≤ 10 by omega), monthLength_february]
  unfold daysBeforeYear
  split
  · rename_i isLeap
    have divides := leap.mp isLeap
    omega
  · rename_i notLeap
    have divides := mt leap.mpr notLeap
    omega

/-! ## Years that begin in March -/

/-- Days from the first of March of year zero to that of another year. -/
def daysBeforeMarch (year : Int) : Int :=
  365 * year + year / 4 - year / 100 + year / 400

theorem daysBeforeMarch_eq (year : Int) :
    daysBeforeMarch year = daysBeforeYear (year + 1) - 366 := by
  unfold daysBeforeMarch daysBeforeYear
  omega

/-- The date of a day in the year that begins in March. -/
def inMarchYear (year : Int) (dayOfYear : Nat) : Date :=
  let marchMonth := (5 * dayOfYear + 2) / 153
  let day := dayOfYear - (153 * marchMonth + 2) / 5 + 1
  if marchMonth < 10 then { year, month := marchMonth + 3, day }
  else { year := year + 1, month := marchMonth - 9, day }

/-- Whether the year that begins in March has the day. -/
structure IsMarchDay (year : Int) (dayOfYear : Nat) : Prop where
  bound : dayOfYear ≤ 365
  leap : dayOfYear = 365 → isLeap (year + 1) = true

theorem exists_inMarchYear {year : Int} {dayOfYear : Nat} (within : IsMarchDay year dayOfYear) :
    (inMarchYear year dayOfYear).Exists := by
  obtain ⟨bound, leap⟩ := within
  unfold inMarchYear
  generalize isMonth : (5 * dayOfYear + 2) / 153 = marchMonth
  dsimp only
  split
  · rename_i early
    have length := monthLength_march year early
    refine ⟨⟨Nat.le_add_left _ _, ?_⟩, ⟨Nat.le_add_left _ _, ?_⟩⟩
    · show marchMonth + 3 ≤ 12
      omega
    · show dayOfYear - (153 * marchMonth + 2) / 5 + 1 ≤ monthLength year (marchMonth + 3)
      omega
  · have late : marchMonth = 10 ∨ marchMonth = 11 := by omega
    cases late with
    | inl january =>
        subst january
        refine ⟨⟨by simp, by simp⟩, ⟨Nat.le_add_left _ _, ?_⟩⟩
        show dayOfYear - (153 * 10 + 2) / 5 + 1 ≤ 31
        omega
    | inr february =>
        subst february
        refine ⟨⟨by simp, by simp⟩, ⟨Nat.le_add_left _ _, ?_⟩⟩
        show dayOfYear - (153 * 11 + 2) / 5 + 1 ≤ monthLength (year + 1) 2
        rw [monthLength_february]
        split
        · omega
        · rename_i notLeap
          have notLast := mt leap notLeap
          omega

theorem toDays_inMarchYear {year : Int} {dayOfYear : Nat} (within : IsMarchDay year dayOfYear) :
    (inMarchYear year dayOfYear).toDays = daysBeforeMarch year + dayOfYear - epoch := by
  have bound := within.bound
  have march := daysBeforeMarch_eq year
  have start : daysBeforeYear 1970 = epoch + 60 := rfl
  unfold inMarchYear Date.toDays
  generalize isMonth : (5 * dayOfYear + 2) / 153 = marchMonth
  dsimp only
  split
  · rename_i early
    have before := daysBeforeMonth_march year (Nat.le_of_lt early)
    have whole : daysBeforeMonth year 13 = _ := daysBeforeMonth_march year (Nat.le_refl 10)
    have length := daysBeforeYear_succ year
    dsimp only
    omega
  · have late : marchMonth = 10 ∨ marchMonth = 11 := by omega
    cases late with
    | inl january =>
        subst january
        have before : daysBeforeMonth (year + 1) (10 - 9) = 0 := rfl
        dsimp only
        omega
    | inr february =>
        subst february
        have before : daysBeforeMonth (year + 1) (11 - 9) = 31 := rfl
        dsimp only
        omega

/-! ## Four hundred years -/

/-- Four hundred years are four centuries, the last of which is a day longer. A century is spans of
four years, the last of which is a day shorter unless the century is the last. -/
structure IsSplit (dayOfCycle century quad yearOfQuad dayOfYear : Nat) : Prop where
  sum : dayOfCycle = century * 36524 + quad * 1461 + yearOfQuad * 365 + dayOfYear
  centuryBound : century ≤ 3
  quadBound : quad ≤ 24
  yearBound : yearOfQuad ≤ 3
  dayBound : dayOfYear ≤ 365
  leap : dayOfYear = 365 → yearOfQuad = 3 ∧ (quad = 24 → century = 3)

theorem isSplit_cycle {dayOfCycle century dayOfCentury quad dayOfQuad yearOfQuad dayOfYear : Nat}
    (within : dayOfCycle < 146097) (isCentury : century = min (dayOfCycle / 36524) 3)
    (isDayOfCentury : dayOfCentury = dayOfCycle - century * 36524)
    (isQuad : quad = dayOfCentury / 1461) (isDayOfQuad : dayOfQuad = dayOfCentury - quad * 1461)
    (isYear : yearOfQuad = min (dayOfQuad / 365) 3)
    (isDay : dayOfYear = dayOfQuad - yearOfQuad * 365) :
    IsSplit dayOfCycle century quad yearOfQuad dayOfYear := by
  have centuryBound : century ≤ 3 := by omega
  have cycleSum : dayOfCycle = century * 36524 + dayOfCentury := by omega
  have centuryLength : dayOfCentury ≤ 36524 := by omega
  have shortCentury : century < 3 → dayOfCentury < 36524 := by omega
  have quadBound : quad ≤ 24 := by omega
  have centurySum : dayOfCentury = quad * 1461 + dayOfQuad := by omega
  have quadLength : dayOfQuad < 1461 := by omega
  clear isCentury isDayOfCentury isQuad isDayOfQuad within
  have yearBound : yearOfQuad ≤ 3 := by omega
  have quadSum : dayOfQuad = yearOfQuad * 365 + dayOfYear := by omega
  have dayBound : dayOfYear ≤ 365 := by omega
  have leap : dayOfYear = 365 → yearOfQuad = 3 ∧ (quad = 24 → century = 3) := by omega
  have sum : dayOfCycle = century * 36524 + quad * 1461 + yearOfQuad * 365 + dayOfYear := by
    rw [cycleSum, centurySum, quadSum, Nat.add_assoc, Nat.add_assoc]
  exact ⟨sum, centuryBound, quadBound, yearBound, dayBound, leap⟩

namespace IsSplit

variable {dayOfCycle century quad yearOfQuad dayOfYear : Nat}

theorem daysBeforeMarch (split : IsSplit dayOfCycle century quad yearOfQuad dayOfYear)
    (cycles : Int) :
    daysBeforeMarch (cycles * 400 + (century * 100 + quad * 4 + yearOfQuad : Nat)) + dayOfYear =
      cycles * cycle + dayOfCycle := by
  obtain ⟨sum, centuryBound, quadBound, yearBound, _, _⟩ := split
  unfold Calendar.daysBeforeMarch cycle
  omega

theorem isMarchDay (split : IsSplit dayOfCycle century quad yearOfQuad dayOfYear) (cycles : Int) :
    IsMarchDay (cycles * 400 + (century * 100 + quad * 4 + yearOfQuad : Nat)) dayOfYear := by
  obtain ⟨_, centuryBound, quadBound, _, dayBound, leap⟩ := split
  constructor
  · exact dayBound
  · intro last
    obtain ⟨lastYear, lastQuad⟩ := leap last
    rw [isLeap_iff]
    omega

end IsSplit

/-! ## Dates of counts -/

theorem ofDays_eq (days : Int) :
    ∃ year dayOfYear, IsMarchDay year dayOfYear ∧
      daysBeforeMarch year + dayOfYear = days + epoch ∧ ofDays days = inMarchYear year dayOfYear := by
  have cycleSum : (days + epoch) / cycle * cycle + ((days + epoch) % cycle).toNat = days + epoch := by
    unfold cycle
    omega
  have within : ((days + epoch) % cycle).toNat < 146097 := by
    unfold cycle
    omega
  have split := isSplit_cycle within rfl rfl rfl rfl rfl rfl
  refine ⟨_, _, split.isMarchDay ((days + epoch) / cycle), ?_, rfl⟩
  rw [split.daysBeforeMarch, cycleSum]

theorem exists_ofDays (days : Int) : (ofDays days).Exists := by
  obtain ⟨year, dayOfYear, within, _, same⟩ := ofDays_eq days
  rw [same]
  exact exists_inMarchYear within

theorem toDays_ofDays (days : Int) : (ofDays days).toDays = days := by
  obtain ⟨year, dayOfYear, within, count, same⟩ := ofDays_eq days
  rw [same, toDays_inMarchYear within]
  omega

end MessageMarkup.Calendar
