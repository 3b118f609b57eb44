import MessageMarkup.Context
import MessageMarkup.Emoji
import MessageMarkup.Text.Digits
import MessageMarkup.Theme
import MessageMarkup.Timestamp.Offset

/-!
# Settings

What a person may set for all messages: the context, where images of emoji are found,
the clock, whether code is highlighted, and colours of the theme. Settings may have
flaws; those without any make a theme, bases of images and a clock.
-/

set_option autoImplicit false

namespace MessageMarkup

/-- Settings. Colours are listed by the name of their role, which no two of them
share. -/
structure Settings where
  context : Context := .content
  emoji : Emoji.Bases := .standard
  offsetMinutes : Int := 0
  highlight : Bool := true
  colours : List (String × String) := []
  /-- Where the settings were read from. -/
  path : Option String := none
  deriving DecidableEq, Repr

namespace Settings

/-- A place where images of emoji are found. -/
inductive Base where
  | custom
  | unicode
  deriving DecidableEq, Repr

def Base.name : Base → String
  | .custom => "emoji.custom_base_url"
  | .unicode => "emoji.unicode_base_url"

inductive Flaw where
  | scheme (base : Base)
  | slash (base : Base)
  /-- The clock is a day or more away. -/
  | offset (minutes : Int)
  /-- There is a colour for what is no role. -/
  | role (name : String)
  | colour (name value : String)
  deriving DecidableEq, Repr

def dayMinutes : Int := 1440

def Flaw.message : Flaw → String
  | .scheme base => base.name ++ " must start with http:// or https://"
  | .slash base => base.name ++ " must end with /"
  | .offset minutes =>
      "timestamp.utc_offset_minutes must be within ±" ++ toString dayMinutes ++ ", got " ++
        toString minutes
  | .role name => "unknown theme key: theme." ++ name
  | .colour name value =>
      "theme." ++ name ++ " must be a #rgb or #rrggbb colour, got " ++ value

def hasScheme (address : String) : Bool :=
  "http://".toList.isPrefixOf address.toList || "https://".toList.isPrefixOf address.toList

def hasSlash (address : String) : Bool :=
  address.toList.getLast? == some '/'

/-- Whether a text is a colour: three or six hexadecimal digits after a mark. -/
def isColour (text : String) : Bool :=
  match text.toList with
  | '#' :: digits => (digits.length == 3 || digits.length == 6) && digits.all Text.isHexDigit
  | _ => false

def baseFlaw? (base : Base) (address : String) : Option Flaw :=
  if !hasScheme address then some (.scheme base)
  else if !hasSlash address then some (.slash base)
  else none

def offsetFlaw? (minutes : Int) : Option Flaw :=
  if -dayMinutes < minutes ∧ minutes < dayMinutes then none else some (.offset minutes)

def colourFlaw? (entry : String × String) : Option Flaw :=
  match Theme.Role.ofName? entry.1 with
  | none => some (.role entry.1)
  | some _ => if isColour entry.2 then none else some (.colour entry.1 entry.2)

def flaw? (settings : Settings) : Option Flaw :=
  baseFlaw? .custom settings.emoji.custom
    <|> baseFlaw? .unicode settings.emoji.unicode
    <|> offsetFlaw? settings.offsetMinutes
    <|> settings.colours.findSome? colourFlaw?

theorem baseFlaw?_eq_none_iff {base : Base} {address : String} :
    baseFlaw? base address = none ↔ hasScheme address = true ∧ hasSlash address = true := by
  unfold baseFlaw?
  cases hasScheme address <;> cases hasSlash address <;> simp

theorem offsetFlaw?_eq_none_iff {minutes : Int} :
    offsetFlaw? minutes = none ↔ -dayMinutes < minutes ∧ minutes < dayMinutes := by
  unfold offsetFlaw?
  split <;> simp_all

theorem colourFlaw?_eq_none_iff {entry : String × String} :
    colourFlaw? entry = none ↔
      (∃ role, Theme.Role.ofName? entry.1 = some role) ∧ isColour entry.2 = true := by
  unfold colourFlaw?
  cases found : Theme.Role.ofName? entry.1 with
  | none => simp
  | some role => cases isColour entry.2 <;> simp

theorem flaw?_eq_none_iff {settings : Settings} :
    settings.flaw? = none ↔
      baseFlaw? .custom settings.emoji.custom = none ∧
        baseFlaw? .unicode settings.emoji.unicode = none ∧
          offsetFlaw? settings.offsetMinutes = none ∧
            ∀ entry ∈ settings.colours, colourFlaw? entry = none := by
  simp [flaw?]

/-- The dark theme with the colours that are set. -/
def theme (settings : Settings) : Theme :=
  settings.colours.foldl (fun theme entry => theme.set entry.1 entry.2) .dark

/-- The clock, or universal time if that is a day or more away. -/
def offset (settings : Settings) : UtcOffset :=
  (UtcOffset.ofMinutes? settings.offsetMinutes).getD .utc

/-- The settings that a person gives for one run. -/
structure Overrides where
  context : Option Context := none
  offsetMinutes : Option Int := none
  highlight : Option Bool := none
  deriving DecidableEq, Repr

def override (settings : Settings) (overrides : Overrides) : Settings :=
  { settings with
    context := overrides.context.getD settings.context
    offsetMinutes := overrides.offsetMinutes.getD settings.offsetMinutes
    highlight := overrides.highlight.getD settings.highlight }

def sortColours (colours : List (String × String)) : List (String × String) :=
  colours.mergeSort fun left right => !(right.1 < left.1)

end Settings

end MessageMarkup
