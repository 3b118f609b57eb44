import MessageMarkup.Text.Digits

/-!
# Offsets from universal time

A clock runs a fixed number of seconds ahead of or behind universal time, less
than a day either way.
-/

set_option autoImplicit false

namespace MessageMarkup

/-- Seconds east of universal time. -/
structure UtcOffset where
  seconds : Int
  lower : -86400 < seconds := by decide
  upper : seconds < 86400 := by decide

namespace UtcOffset

def utc : UtcOffset where
  seconds := 0

/-- An offset of so many seconds, if it is less than a day. -/
def ofSeconds? (seconds : Int) : Option UtcOffset :=
  if bounds : -86400 < seconds ∧ seconds < 86400 then some ⟨seconds, bounds.1, bounds.2⟩
  else none

/-- An offset of so many minutes, if it is less than a day. The seconds have to fit 32 bits. -/
def ofMinutes? (minutes : Int) : Option UtcOffset :=
  if Text.fitsSigned 32 (minutes * 60) then ofSeconds? (minutes * 60) else none

theorem ofSeconds?_seconds (offset : UtcOffset) : ofSeconds? offset.seconds = some offset := by
  simp [ofSeconds?, offset.lower, offset.upper]

end UtcOffset

end MessageMarkup
