import MessageMarkup.Command.Needs

/-!
# The program

Collects what the request needs from the machine, performs it and reports the outcome.
-/

set_option autoImplicit false

namespace MessageMarkup

def Unreadable.ofFailure : IO.Error → Unreadable
  | .permissionDenied .. => .denied
  | .inappropriateType _ code _ => if code = 21 then .directory else .notDirectory
  | .invalidArgument .. => .longName
  | _ => .missing

def decoded (bytes : ByteArray) : Except Unreadable String :=
  match String.fromUTF8? bytes with
  | some text => .ok text
  | none => .error .notText

def readPath (path : String) : IO (Except Unreadable String) := do
  try
    return decoded (← IO.FS.readBinFile path)
  catch failure =>
    return .error (.ofFailure failure)

partial def readStream (stream : IO.FS.Stream) (bytes : ByteArray) : IO ByteArray := do
  let more ← stream.read 65536
  if more.isEmpty then return bytes else readStream stream (bytes ++ more)

def performHere (request : Command.Request) : IO Command.Outcome := do
  let working := ((Path.names (toString (← IO.currentDir))).filter (!Path.isIdle ·)).reverse
  let texts ← (request.paths working).mapM fun path => return (path, ← readPath path)
  let disk : Disk := fun path => (texts.lookup path).getD (.error .missing)
  let values ← (request.variableNames disk working).mapM fun name =>
    return (name, ← IO.getEnv name)
  let environment : Environment := fun name => (values.lookup name).join
  let bytes ← if request.readsInput then readStream (← IO.getStdin) .empty else pure .empty
  return Command.perform { disk, working, environment } (decoded bytes) request

end MessageMarkup

def main (arguments : List String) : IO UInt32 := do
  let config ← IO.getEnv MessageMarkup.Command.configVariable
  let environment : MessageMarkup.Environment := fun name =>
    if name = MessageMarkup.Command.configVariable then config else none
  let outcome ←
    match MessageMarkup.Command.request? environment arguments with
    | some request => MessageMarkup.performHere request
    | none => pure .refused
  IO.print outcome.output
  match outcome.complaint? with
  | some complaint => IO.eprintln complaint
  | none => pure ()
  if outcome.status = 2 then IO.eprint MessageMarkup.Command.help
  return outcome.status.toUInt32
