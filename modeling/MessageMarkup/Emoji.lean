import MessageMarkup.Text.Digits

/-!
# Emoji

A custom emoji is addressed by its id, a Unicode emoji by the code points of its
name. Images of both kinds have addresses below a base of their own.
-/

set_option autoImplicit false

namespace MessageMarkup

/-- An emoji: a custom one if it has an id that is not empty, otherwise the
Unicode sequence that is its name. -/
structure Emoji where
  id : Option String
  name : String
  animated : Bool
  deriving DecidableEq, Repr

namespace Emoji

def custom (id name : String) (animated : Bool) : Emoji :=
  { id := some id, name, animated }

def unicode (name : String) : Emoji :=
  { id := none, name, animated := false }

/-- The id of a custom emoji. An empty id counts as none. -/
def customId? (emoji : Emoji) : Option String :=
  emoji.id.filter fun id => !id.isEmpty

/-- What stands in for the image: the name between colons for a custom emoji, the
sequence itself for a Unicode emoji. -/
def alternative (emoji : Emoji) : String :=
  match emoji.customId? with
  | some _ => ":" ++ emoji.name ++ ":"
  | none => emoji.name

def joiner : Char := '\u200d'

/-- Variation selector 16, which asks for the emoji presentation. -/
def selector : Char := '\ufe0f'

/-- The characters that name the image of a Unicode emoji: selectors count only
in a joined sequence. -/
def significant (sequence : List Char) : List Char :=
  if sequence.contains joiner then sequence
  else sequence.filter fun char => char != selector

/-- Code points in hexadecimal with hyphens between them. -/
def assetName (sequence : String) : String :=
  "-".intercalate ((significant sequence.toList).map fun char => Text.hexadecimal char.toNat)

/-- Where images of emoji are found. Each base is put in front as it stands. -/
structure Bases where
  custom : String
  unicode : String
  deriving DecidableEq, Repr

def Bases.standard : Bases where
  custom := "https://cdn.discordapp.com/emojis/"
  unicode := "https://cdnjs.cloudflare.com/ajax/libs/twemoji/14.0.2/svg/"

def Bases.url (bases : Bases) (emoji : Emoji) : String :=
  match emoji.customId? with
  | some id => bases.custom ++ id ++ if emoji.animated then ".gif" else ".png"
  | none => bases.unicode ++ assetName emoji.name ++ ".svg"

end Emoji

end MessageMarkup
