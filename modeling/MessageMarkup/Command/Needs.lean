import MessageMarkup.Command.Run

/-!
# What a request needs

The paths, the variables and the input that a request may ask its surroundings for.
Whoever provides these and nothing else provides enough.
-/

set_option autoImplicit false

namespace MessageMarkup.Command

def Source.path? : Source → Option String
  | .standardInput => none
  | .file path => some path

namespace Request

/-- Where settings may be read from. -/
def settingsPaths (working : Folder) : Request → List String
  | .render options => options.config.elim (Settings.candidates working) fun path => [path]
  | .theme config => config.elim (Settings.candidates working) fun path => [path]
  | .version => []
  | .help => []

/-- Where the message and the names of entities are read from. -/
def sources : Request → List Source
  | .render options => options.source :: (options.entities.map Source.ofPath).toList
  | .theme _ => []
  | .version => []
  | .help => []

def paths (working : Folder) (request : Request) : List String :=
  request.settingsPaths working ++ request.sources.filterMap Source.path?

def readsInput (request : Request) : Bool :=
  request.sources.contains .standardInput

/-- The variables that may be asked for on a disk. -/
def variableNames (disk : Disk) (working : Folder) (request : Request) : List String :=
  (request.settingsPaths working).flatMap fun path =>
    match (disk path).toOption.bind Settings.ofText? with
    | some settings =>
        Settings.referenced settings.emoji.custom ++ Settings.referenced settings.emoji.unicode
    | none => []

end Request

end MessageMarkup.Command
