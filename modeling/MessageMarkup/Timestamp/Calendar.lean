/-!
# The calendar

The proleptic Gregorian calendar with a year zero. Days are counted from the
first of January 1970, which was a Thursday. The computation goes by years that
begin in March, so that the leap day is the last day of its year.
-/

set_option autoImplicit false

namespace MessageMarkup.Calendar

structure Date where
  year : Int
  month : Nat
  day : Nat
  deriving DecidableEq, Repr

def isLeap (year : Int) : Bool :=
  year % 4 == 0 && (year % 100 != 0 || year % 400 == 0)

def monthLength (year : Int) (month : Nat) : Nat :=
  if month == 2 then if isLeap year then 29 else 28
  else if month == 4 || month == 6 || month == 9 || month == 11 then 30
  else 31

/-- Days from the first of March of year zero to the first of January 1970. -/
def epoch : Int := 719468

/-- Days in four hundred years. -/
def cycle : Int := 146097

/-- The date that is the given number of days after the first of January 1970. -/
def ofDays (days : Int) : Date :=
  let shifted := days + epoch
  let dayOfCycle := (shifted % cycle).toNat
  let century := min (dayOfCycle / 36524) 3
  let dayOfCentury := dayOfCycle - century * 36524
  let quad := dayOfCentury / 1461
  let dayOfQuad := dayOfCentury - quad * 1461
  let yearOfQuad := min (dayOfQuad / 365) 3
  let dayOfYear := dayOfQuad - yearOfQuad * 365
  let marchYear := shifted / cycle * 400 + (century * 100 + quad * 4 + yearOfQuad : Nat)
  let marchMonth := (5 * dayOfYear + 2) / 153
  let day := dayOfYear - (153 * marchMonth + 2) / 5 + 1
  if marchMonth < 10 then { year := marchYear, month := marchMonth + 3, day }
  else { year := marchYear + 1, month := marchMonth - 9, day }

/-- Days of the week, Sunday being zero. -/
def weekday (days : Int) : Nat :=
  ((days + 4) % 7).toNat

def weekdayName : Nat → String
  | 0 => "Sunday"
  | 1 => "Monday"
  | 2 => "Tuesday"
  | 3 => "Wednesday"
  | 4 => "Thursday"
  | 5 => "Friday"
  | _ => "Saturday"

def monthName : Nat → String
  | 1 => "January"
  | 2 => "February"
  | 3 => "March"
  | 4 => "April"
  | 5 => "May"
  | 6 => "June"
  | 7 => "July"
  | 8 => "August"
  | 9 => "September"
  | 10 => "October"
  | 11 => "November"
  | _ => "December"

theorem ofDays_zero : ofDays 0 = { year := 1970, month := 1, day := 1 } := by decide

end MessageMarkup.Calendar
