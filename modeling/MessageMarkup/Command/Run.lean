import MessageMarkup.Command.Arguments
import MessageMarkup.Directory.Reading
import MessageMarkup.Message.Reading
import MessageMarkup.Render
import MessageMarkup.Settings.Load

/-!
# Running commands

A command either prints all of its output or fails with the first problem that it
meets: in the settings, then in the message, then in the names of entities. Standard
input is read once; whoever reads it again finds it empty.
-/

set_option autoImplicit false

namespace MessageMarkup

def Settings.renderer (settings : Settings) (directory : Option Directory) : Renderer where
  resolver := directory.elim .none Directory.resolver
  highlighter := if settings.highlight then .grammars else .plain
  emoji := settings.emoji
  offset := settings.offset

namespace Command

inductive Source where
  | standardInput
  | file (path : String)
  deriving DecidableEq, Repr

namespace Source

/-- A hyphen means standard input, also where the path says that it is a directory. -/
def ofPath (path : String) : Source :=
  match Path.names path with
  | "-" :: rest => if rest.all Path.isIdle then .standardInput else .file path
  | _ => .file path

def name : Source → String
  | .standardInput => "<stdin>"
  | .file path => path

end Source

inductive Problem where
  | settings (fault : Settings.Fault)
  | unreadable (reason : Unreadable)
  /-- The text of a source is not what it has to be. -/
  | malformed (source : Source)
  deriving DecidableEq, Repr

def Problem.message : Problem → String
  | .settings fault => fault.message
  | .unreadable reason => reason.message
  | .malformed source => "invalid JSON in " ++ source.name

abbrev StandardInput := Except Unreadable String

def Source.text (surroundings : Surroundings) (input : StandardInput) (source : Source) :
    Except Problem String :=
  let found : Except Unreadable String :=
    match source with
    | .standardInput => input
    | .file path => surroundings.disk path
  found.mapError .unreadable

/-- Standard input after a source was read. -/
def Source.rest (input : StandardInput) : Source → StandardInput
  | .standardInput => .ok ""
  | .file _ => input

def Source.read {α : Type} (surroundings : Surroundings) (input : StandardInput)
    (read : String → Json.Reading α) (source : Source) : Except Problem α := do
  let text ← source.text surroundings input
  (read text).mapError fun _ => .malformed source

def loadSettings (surroundings : Surroundings) (path : Option String)
    (overrides : Option Settings.Overrides) : Except Problem Settings :=
  (Settings.load surroundings path overrides).mapError .settings

def Options.source (options : Options) : Source :=
  options.input.elim .standardInput Source.ofPath

def render (surroundings : Surroundings) (input : StandardInput) (options : Options) :
    Except Problem String := do
  let settings ← loadSettings surroundings options.config (some options.overrides)
  let message ← options.source.read surroundings input Message.read
  let rest := options.source.rest input
  let directory ← options.entities.mapM fun path =>
    (Source.ofPath path).read surroundings rest Directory.read
  return (settings.renderer directory).render settings.context message

def theme (surroundings : Surroundings) (config : Option String) : Except Problem String := do
  return (← loadSettings surroundings config none).theme.css

inductive Outcome where
  | printed (text : String)
  | failed (problem : Problem)
  /-- The arguments are not understood. -/
  | refused
  deriving DecidableEq, Repr

namespace Outcome

/-- The status that is left to the caller. -/
def status : Outcome → Nat
  | .printed _ => 0
  | .failed _ => 1
  | .refused => 2

def output : Outcome → String
  | .printed text => text
  | .failed _ => ""
  | .refused => ""

/-- What is said about a failure. -/
def complaint? : Outcome → Option String
  | .failed problem => some ("Error: " ++ problem.message)
  | .printed _ => none
  | .refused => none

def ofLine : Except Problem String → Outcome
  | .ok text => .printed (text ++ "\n")
  | .error problem => .failed problem

end Outcome

def version : String := "chatmark 0.1.0"

/-- How the program is called. -/
def help : String :=
  "chat markup renderer\n\n" ++
  "chatmark render [OPTIONS] [INPUT]   Render a parsed message to HTML\n" ++
  "chatmark theme [OPTIONS]            Print the theme as CSS custom properties\n"

def perform (surroundings : Surroundings) (input : StandardInput) : Request → Outcome
  | .version => .printed (version ++ "\n")
  | .help => .printed help
  | .render options => .ofLine (render surroundings input options)
  | .theme config => .ofLine (theme surroundings config)

def run (surroundings : Surroundings) (input : StandardInput) (arguments : List String) :
    Outcome :=
  (request? surroundings.environment arguments).elim .refused (perform surroundings input)

end Command

end MessageMarkup
