import MessageMarkup.Files.Disk
import MessageMarkup.Files.Path

/-!
# Surroundings

What a program finds where it runs.
-/

set_option autoImplicit false

namespace MessageMarkup

abbrev Environment := String → Option String

/-- Where a program runs: a disk, a working directory and variables. -/
structure Surroundings where
  disk : Disk
  working : Folder
  environment : Environment

end MessageMarkup
