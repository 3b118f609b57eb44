import MessageMarkup.Command.Options
import MessageMarkup.Surroundings

/-!
# Arguments

From arguments to a request. Arguments are read from left to right, and the first one
that cannot be accepted, or that asks for help, ends the reading. Two hyphens alone
end the options.
-/

set_option autoImplicit false

namespace MessageMarkup.Command

/-- What a command knows. -/
structure Grammar where
  flags : List Flag
  takesInput : Bool

def Grammar.render : Grammar where
  flags := [.context, .entities, .config, .utcOffset, .noHighlight, .verbose, .help]
  takesInput := true

def Grammar.theme : Grammar where
  flags := [.config, .help]
  takesInput := false

namespace Grammar

def named? (grammar : Grammar) (name : List Char) : Option Flag :=
  grammar.flags.find? fun flag => flag.name.toList == name

def lettered? (grammar : Grammar) (letter : Char) : Option Flag :=
  grammar.flags.find? fun flag => flag.letter? == some letter

def input (grammar : Grammar) (options : Options) (argument : String) : Except Stop Options :=
  if grammar.takesInput then options.withInput argument else .error .usage

/-- An argument after its two hyphens: the options with it, and the flag whose value
is the next argument. -/
def long (grammar : Grammar) (options : Options) (argument : List Char) :
    Except Stop (Options × Option Flag) :=
  match grammar.named? (argument.takeWhile (· != '=')), argument.dropWhile (· != '=') with
  | none, _ => .error .usage
  | some flag, [] =>
      if flag.takesValue then .ok (options, some flag)
      else do return (← options.withFlag flag, none)
  | some flag, _ :: value =>
      if flag.takesValue then do
        return (← options.withValue flag (String.ofList value), none)
      else .error .usage

/-- Letters after one hyphen: the options with them, and the flag whose value is the
next argument. A value may follow its letter at once or after an equals sign. -/
def letters (grammar : Grammar) (options : Options) :
    List Char → Except Stop (Options × Option Flag)
  | [] => .ok (options, none)
  | letter :: rest =>
      match grammar.lettered? letter with
      | none => .error .usage
      | some flag =>
          if flag.takesValue then
            match rest with
            | [] => .ok (options, some flag)
            | '=' :: value => do
                return (← options.withValue flag (String.ofList value), none)
            | value => do
                return (← options.withValue flag (String.ofList value), none)
          else do
            letters grammar (← options.withFlag flag) rest

/-- One argument: the options with it, and the flag whose value is the next one. -/
def argument (grammar : Grammar) (options : Options) (text : String) :
    Except Stop (Options × Option Flag) :=
  match text.toList with
  | '-' :: '-' :: rest => grammar.long options rest
  | '-' :: letter :: rest => grammar.letters options (letter :: rest)
  | _ => do return (← grammar.input options text, none)

/-- Arguments one after the other. `pending` is the flag whose value comes next. -/
def read (grammar : Grammar) :
    (pending : Option Flag) → Options → List String → Except Stop Options
  | none, options, [] => .ok options
  | some _, _, [] => .error .usage
  | some flag, options, value :: rest =>
      if flag.accepts value then do
        grammar.read none (← options.withValue flag value) rest
      else .error .usage
  | none, options, text :: rest =>
      if text = "--" then rest.foldlM grammar.input options
      else do
        let (options, pending) ← grammar.argument options text
        grammar.read pending options rest

end Grammar

/-- What a command line asks for. -/
inductive Request where
  | version
  | help
  | render (options : Options)
  | theme (config : Option String)
  deriving DecidableEq, Repr

/-- The variable that stands in for the path of the settings. -/
def configVariable : String := "CHATMARK_CONFIG"

def withEnvironment (environment : Environment) (options : Options) : Except Stop Options :=
  match options.config, environment configVariable with
  | none, some text => options.withValue .config text
  | _, _ => .ok options

def options (environment : Environment) (grammar : Grammar) (arguments : List String) :
    Except Stop Options := do
  withEnvironment environment (← grammar.read none {} arguments)

/-- Whether one may ask for help with commands of these names. -/
def helpTopics : List String → Bool
  | [] => true
  | [name] => ["render", "theme", "help"].contains name
  | _ => false

/-- The request that is made before any command. -/
def preamble (text : String) : Except Stop Request :=
  match text.toList with
  | '-' :: '-' :: name =>
      if name = "version".toList then .ok .version
      else if name = "help".toList then .ok .help
      else .error .usage
  | '-' :: 'V' :: _ => .ok .version
  | '-' :: 'h' :: _ => .ok .help
  | _ => .error .usage

/-- The request that arguments make, or a stop. -/
def requestOrStop (environment : Environment) : List String → Except Stop Request
  | [] => .error .usage
  | "render" :: rest => do return .render (← options environment .render rest)
  | "theme" :: rest => do return .theme (← options environment .theme rest).config
  | "help" :: rest => if helpTopics rest then .ok .help else .error .usage
  | text :: _ => preamble text

def request? (environment : Environment) (arguments : List String) : Option Request :=
  match requestOrStop environment arguments with
  | .ok request => some request
  | .error .help => some .help
  | .error .usage => none

end MessageMarkup.Command
