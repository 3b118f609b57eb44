import MessageMarkup.Settings.Expansion
import MessageMarkup.Settings.Reading

/-!
# Loading settings

Settings come from the file that is asked for, or else from the nearest settings file
of the working directory and those it lies in, or else they are the defaults. What a
file sets must be without flaws, and so must what is set for one run on top of it.
-/

set_option autoImplicit false

namespace MessageMarkup

namespace Settings

inductive Fault where
  | notFound (path : String)
  | unreadable (reason : Unreadable)
  /-- The text is no TOML, or what it spells are no settings. -/
  | malformed
  | flawed (flaw : Flaw)
  | unset (base : Base) (cause : Unset)
  deriving DecidableEq, Repr

def Fault.message : Fault → String
  | .notFound path => "Configuration file not found: " ++ path
  | .unreadable reason => "I/O error: " ++ reason.message
  | .malformed => "TOML parse error"
  | .flawed flaw => "Configuration error: " ++ flaw.message
  | .unset base cause =>
      "Environment variable error in " ++ base.name ++ ": " ++ cause.message

def fileName : String := "chatmark.toml"

/-- The settings themselves if they have no flaw. -/
def check (settings : Settings) : Except Fault Settings :=
  match settings.flaw? with
  | none => .ok settings
  | some flaw => .error (.flawed flaw)

theorem check_eq_ok_iff {settings checked : Settings} :
    settings.check = .ok checked ↔ settings.flaw? = none ∧ checked = settings := by
  unfold check
  cases settings.flaw? with
  | none => simp [eq_comm]
  | some flaw => simp

def expandBase (environment : Environment) (base : Base) (address : String) :
    Except Fault String :=
  match expand environment address with
  | .ok address => .ok address
  | .error unset => .error (.unset base unset)

def expandBases (settings : Settings) (environment : Environment) : Except Fault Settings := do
  let custom ← expandBase environment .custom settings.emoji.custom
  let unicode ← expandBase environment .unicode settings.emoji.unicode
  return { settings with emoji := { custom, unicode } }

/-- The settings that a text spells, without flaws. -/
def ofFile (environment : Environment) (path text : String) : Except Fault Settings :=
  match ofText? text with
  | none => .error .malformed
  | some settings => do
      let settings ← settings.expandBases environment
      check { settings with path := some path }

def loadFile (surroundings : Surroundings) (path : String) : Except Fault Settings :=
  match surroundings.disk path with
  | .ok text => ofFile surroundings.environment path text
  | .error reason => .error (.unreadable reason)

/-- The paths where a settings file is looked for, nearest first. -/
def candidates (working : Folder) : List String :=
  working.ancestors.map fun folder => folder.pathOf fileName

def discover (surroundings : Surroundings) : Option String :=
  (candidates surroundings.working).find? surroundings.disk.has

/-- The settings before those for one run. -/
def loadBase (surroundings : Surroundings) : (path : Option String) → Except Fault Settings
  | some path =>
      if surroundings.disk.has path then loadFile surroundings path
      else .error (.notFound path)
  | none =>
      match discover surroundings with
      | some path => loadFile surroundings path
      | none => .ok {}

def load (surroundings : Surroundings) (path : Option String)
    (overrides : Option Overrides) : Except Fault Settings := do
  let settings ← loadBase surroundings path
  match overrides with
  | some overrides => check (settings.override overrides)
  | none => return settings

end Settings

end MessageMarkup
