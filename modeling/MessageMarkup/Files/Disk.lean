/-!
# Disks

A disk gives the text at a path, or says why there is none.
-/

set_option autoImplicit false

namespace MessageMarkup

/-- Why there is no text at a path. -/
inductive Unreadable where
  | missing
  | notDirectory
  /-- The path or a name in it is too long. -/
  | longName
  | directory
  /-- There is something that may not be read. -/
  | denied
  /-- There is a file that is not text. -/
  | notText
  deriving DecidableEq, Repr

namespace Unreadable

def message : Unreadable → String
  | .missing => "No such file or directory (os error 2)"
  | .notDirectory => "Not a directory (os error 20)"
  | .longName => "File name too long (os error 36)"
  | .directory => "Is a directory (os error 21)"
  | .denied => "Permission denied (os error 13)"
  | .notText => "stream did not contain valid UTF-8"

/-- Whether there is something at the path, though no text. -/
def isPresent : Unreadable → Bool
  | .missing => false
  | .notDirectory => false
  | .longName => false
  | .directory => true
  | .denied => true
  | .notText => true

end Unreadable

/-- The text at each path. -/
abbrev Disk := String → Except Unreadable String

def Disk.has (disk : Disk) (path : String) : Bool :=
  match disk path with
  | .ok _ => true
  | .error reason => reason.isPresent

end MessageMarkup
