/-!
# Themes

A theme gives each of nine roles a colour and is handed to style sheets as custom
properties. A role is found by its name.
-/

set_option autoImplicit false

namespace MessageMarkup

inductive Theme.Role where
  | background
  | backgroundSecondary
  | backgroundTertiary
  | interactiveMuted
  | link
  | mentionBackground
  | mentionForeground
  | text
  | textMuted
  deriving DecidableEq, Repr

structure Theme where
  colour : Theme.Role → String

namespace Theme

namespace Role

/-- Every role, in the order in which themes list them. -/
def all : List Role :=
  [.background, .backgroundSecondary, .backgroundTertiary, .interactiveMuted, .link,
    .mentionBackground, .mentionForeground, .text, .textMuted]

def name : Role → String
  | .background => "background"
  | .backgroundSecondary => "backgroundSecondary"
  | .backgroundTertiary => "backgroundTertiary"
  | .interactiveMuted => "interactiveMuted"
  | .link => "link"
  | .mentionBackground => "mentionBackground"
  | .mentionForeground => "mentionForeground"
  | .text => "text"
  | .textMuted => "textMuted"

def ofName? : String → Option Role
  | "background" => some .background
  | "backgroundSecondary" => some .backgroundSecondary
  | "backgroundTertiary" => some .backgroundTertiary
  | "interactiveMuted" => some .interactiveMuted
  | "link" => some .link
  | "mentionBackground" => some .mentionBackground
  | "mentionForeground" => some .mentionForeground
  | "text" => some .text
  | "textMuted" => some .textMuted
  | _ => none

theorem ofName?_name (role : Role) : ofName? role.name = some role := by
  cases role <;> rfl

theorem name_of_ofName? {name : String} {role : Role} (found : ofName? name = some role) :
    role.name = name := by
  unfold ofName? at found
  split at found <;> cases found <;> rfl

theorem ofName?_eq_some_iff {name : String} {role : Role} :
    ofName? name = some role ↔ role.name = name := by
  constructor
  · exact name_of_ofName?
  · rintro rfl
    exact ofName?_name role

theorem mem_all (role : Role) : role ∈ all := by
  cases role <;> decide

end Role

def dark : Theme where
  colour
    | .background => "#313338"
    | .backgroundSecondary => "#2b2d31"
    | .backgroundTertiary => "#1e1f22"
    | .interactiveMuted => "#4e5058"
    | .link => "#00a8fc"
    | .mentionBackground => "#3c4270"
    | .mentionForeground => "#c9cdfb"
    | .text => "#dbdee1"
    | .textMuted => "#949ba4"

def get? (theme : Theme) (name : String) : Option String :=
  (Role.ofName? name).map theme.colour

def setRole (theme : Theme) (role : Role) (colour : String) : Theme where
  colour other := if other = role then colour else theme.colour other

/-- Another colour for the role of a name. A name of no role changes nothing. -/
def set (theme : Theme) (name colour : String) : Theme :=
  match Role.ofName? name with
  | some role => theme.setRole role colour
  | none => theme

/-- The colours under the names of their roles. -/
def entries (theme : Theme) : List (String × String) :=
  [("background", theme.colour .background),
    ("backgroundSecondary", theme.colour .backgroundSecondary),
    ("backgroundTertiary", theme.colour .backgroundTertiary),
    ("interactiveMuted", theme.colour .interactiveMuted),
    ("link", theme.colour .link),
    ("mentionBackground", theme.colour .mentionBackground),
    ("mentionForeground", theme.colour .mentionForeground),
    ("text", theme.colour .text),
    ("textMuted", theme.colour .textMuted)]

/-- Each colour is listed under the name by which its role is found. -/
theorem entries_eq_map (theme : Theme) :
    theme.entries = Role.all.map fun role => (role.name, theme.colour role) := rfl

def declaration (name colour : String) : String :=
  "--" ++ name ++ ":" ++ colour ++ ";"

/-- The theme as declarations of custom properties. -/
def css (theme : Theme) : String :=
  String.join (theme.entries.map fun entry => declaration entry.1 entry.2)

theorem colour_setRole_self (theme : Theme) (role : Role) (colour : String) :
    (theme.setRole role colour).colour role = colour := by
  simp [setRole]

end Theme

end MessageMarkup
