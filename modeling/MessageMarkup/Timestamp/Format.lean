import MessageMarkup.Text.Digits
import MessageMarkup.Timestamp.Calendar
import MessageMarkup.Timestamp.Offset

/-!
# Timestamps as text

A timestamp counts seconds from the start of 1970 in universal time. It is shown
on a clock with a fixed offset, in one of seven styles, so that the text depends
on nothing but its inputs. Times outside a range of years have no text; the range
is that of universal time and does not move with the offset.
-/

set_option autoImplicit false

namespace MessageMarkup.Timestamp

inductive Style where
  | shortTime
  | longTime
  | shortDate
  | longDate
  | shortDateTime
  | longDateTime
  /-- Relative to now. As a text that changes would not be a function of the
  message, it is shown in the default form. -/
  | relative
  deriving DecidableEq, Repr

namespace Style

def all : List Style :=
  [.shortTime, .longTime, .shortDate, .longDate, .shortDateTime, .longDateTime, .relative]

def code : Style → String
  | .shortTime => "t"
  | .longTime => "T"
  | .shortDate => "d"
  | .longDate => "D"
  | .shortDateTime => "f"
  | .longDateTime => "F"
  | .relative => "R"

def ofCode? (code : String) : Option Style :=
  all.find? fun style => style.code == code

theorem ofCode?_code (style : Style) : ofCode? style.code = some style := by
  cases style <;> rfl

end Style

/-- The first second that has a text: the start of the year -262143. -/
def earliest : Int := -8334601228800

/-- The last second that has a text: the end of the year 262142. -/
def latest : Int := 8210266876799

/-- What a clock shows: the day, counted from the first of January 1970, and the
second of that day. -/
structure Reading where
  day : Int
  second : Nat
  deriving DecidableEq, Repr

def Reading.at (offset : UtcOffset) (seconds : Int) : Reading :=
  let shown := seconds + offset.seconds
  { day := shown / 86400, second := (shown % 86400).toNat }

namespace Reading

def date (reading : Reading) : Calendar.Date :=
  Calendar.ofDays reading.day

/-- The hour on a dial of twelve, on which noon and midnight are twelve. -/
def hour (reading : Reading) : Nat :=
  let hour := reading.second / 3600 % 12
  if hour == 0 then 12 else hour

def half (reading : Reading) : String :=
  if reading.second < 43200 then "AM" else "PM"

def minute (reading : Reading) : String :=
  Text.padded 2 (reading.second / 60 % 60)

/-- Hours and minutes: `3:04 PM`. -/
def shortTime (reading : Reading) : String :=
  toString reading.hour ++ ":" ++ reading.minute ++ " " ++ reading.half

/-- Hours, minutes and seconds: `3:04:05 PM`. -/
def longTime (reading : Reading) : String :=
  toString reading.hour ++ ":" ++ reading.minute ++ ":" ++
    Text.padded 2 (reading.second % 60) ++ " " ++ reading.half

end Reading

/-- A year in four digits; one outside 0 to 9999 has a sign in front and as many
digits as it needs. -/
def yearText (year : Int) : String :=
  if year < 0 then "-" ++ Text.padded 4 year.natAbs
  else if year ≤ 9999 then Text.padded 4 year.natAbs
  else "+" ++ Text.padded 4 year.natAbs

/-- A date in figures of fixed width: `01/02/2024`. -/
def shortDate (date : Calendar.Date) : String :=
  Text.padded 2 date.month ++ "/" ++ Text.padded 2 date.day ++ "/" ++ yearText date.year

/-- A date with the name of the month: `January 2, 2024`. -/
def longDate (date : Calendar.Date) : String :=
  Calendar.monthName date.month ++ " " ++ toString date.day ++ ", " ++ yearText date.year

/-- A date in figures without padding: `1/2/2024`. -/
def plainDate (date : Calendar.Date) : String :=
  toString date.month ++ "/" ++ toString date.day ++ "/" ++ yearText date.year

/-- The form used when no style is asked for: `1/2/2024, 3:04:05 PM`. -/
def Reading.standard (reading : Reading) : String :=
  plainDate reading.date ++ ", " ++ reading.longTime

def Reading.show (reading : Reading) : Option Style → String
  | some .shortTime => reading.shortTime
  | some .longTime => reading.longTime
  | some .shortDate => shortDate reading.date
  | some .longDate => longDate reading.date
  | some .shortDateTime => longDate reading.date ++ " " ++ reading.shortTime
  | some .longDateTime =>
      Calendar.weekdayName (Calendar.weekday reading.day) ++ ", " ++ longDate reading.date ++
        " " ++ reading.shortTime
  | some .relative => reading.standard
  | none => reading.standard

/-- The text of a timestamp, if it has one. -/
def format (offset : UtcOffset) (seconds : Int) (style : Option Style) : Option String :=
  if earliest ≤ seconds ∧ seconds ≤ latest then some ((Reading.at offset seconds).show style)
  else none

theorem format_isSome (offset : UtcOffset) (seconds : Int) (style : Option Style) :
    (format offset seconds style).isSome = true ↔ earliest ≤ seconds ∧ seconds ≤ latest := by
  unfold format
  split <;> simp_all

end MessageMarkup.Timestamp
