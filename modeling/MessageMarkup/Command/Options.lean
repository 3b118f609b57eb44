import MessageMarkup.Context
import MessageMarkup.Settings.Basic
import MessageMarkup.Text.Digits

/-!
# Options

What a command line asks for. Every option is given at most once, and its value has
to be one: the path of a file is not empty, an offset is a whole number of 32 bits.
-/

set_option autoImplicit false

namespace MessageMarkup.Command

/-- Why a command line is not carried out: it is no such, or it asks for help. -/
inductive Stop where
  | usage
  | help
  deriving DecidableEq, Repr

/-- What can be asked for by name. -/
inductive Flag where
  | context
  | entities
  | config
  | utcOffset
  | noHighlight
  | verbose
  | help
  deriving DecidableEq, Repr

namespace Flag

/-- The name after two hyphens. -/
def name : Flag → String
  | .context => "context"
  | .entities => "entities"
  | .config => "config"
  | .utcOffset => "utc-offset"
  | .noHighlight => "no-highlight"
  | .verbose => "verbose"
  | .help => "help"

/-- The letter after one hyphen. -/
def letter? : Flag → Option Char
  | .context => some 'C'
  | .entities => some 'e'
  | .config => some 'c'
  | .utcOffset => none
  | .noHighlight => none
  | .verbose => some 'v'
  | .help => some 'h'

def takesValue : Flag → Bool
  | .context => true
  | .entities => true
  | .config => true
  | .utcOffset => true
  | .noHighlight => false
  | .verbose => false
  | .help => false

/-- Whether the next argument can be the value. One that starts like an option is only
taken for an offset, which may be negative; a hyphen alone is no option. -/
def accepts (flag : Flag) (argument : String) : Bool :=
  flag == .utcOffset || argument == "-" || argument.toList.head? != some '-'

end Flag

/-- What is asked for, as far as it is given. -/
structure Options where
  input : Option String := none
  context : Option Context := none
  entities : Option String := none
  config : Option String := none
  offsetMinutes : Option Int := none
  noHighlight : Bool := false
  verbose : Bool := false
  deriving DecidableEq, Repr

def path? (text : String) : Option String :=
  if text.isEmpty then none else some text

/-- A value for what has none so far. -/
def fill {α : Type} (current value : Option α) : Except Stop (Option α) :=
  match current, value with
  | none, some value => .ok (some value)
  | _, _ => .error .usage

namespace Options

def withInput (options : Options) (text : String) : Except Stop Options := do
  return { options with input := ← fill options.input (path? text) }

def withValue (options : Options) (flag : Flag) (text : String) : Except Stop Options :=
  match flag with
  | .context => do
      return { options with context := ← fill options.context (Context.read text).toOption }
  | .entities => do
      return { options with entities := ← fill options.entities (path? text) }
  | .config => do
      return { options with config := ← fill options.config (path? text) }
  | .utcOffset => do
      return { options with
        offsetMinutes := ← fill options.offsetMinutes (Text.signed? 32 text) }
  | _ => .error .usage

def withFlag (options : Options) (flag : Flag) : Except Stop Options :=
  match flag with
  | .noHighlight =>
      if options.noHighlight then .error .usage else .ok { options with noHighlight := true }
  | .verbose =>
      if options.verbose then .error .usage else .ok { options with verbose := true }
  | .help => .error .help
  | _ => .error .usage

def overrides (options : Options) : Settings.Overrides where
  context := options.context
  offsetMinutes := options.offsetMinutes
  highlight := if options.noHighlight then some false else none

end Options

end MessageMarkup.Command
