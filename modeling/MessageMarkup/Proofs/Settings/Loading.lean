import MessageMarkup.Proofs.Json.Keeping
import MessageMarkup.Proofs.Theme.Assigning
import MessageMarkup.Proofs.Toml.Distinct
import MessageMarkup.Settings.Load

/-!
# Settings that are loaded

Whichever way settings are loaded, they have no flaw, and no two of their colours are for one
role. Nothing in them is passed over then: the clock is the one that is set, every colour is in
the theme, and images of emoji have addresses of the web.
-/

set_option autoImplicit false

namespace MessageMarkup

/-! ## Clocks -/

theorem UtcOffset.ofSeconds?_isSome {seconds : Int} :
    (ofSeconds? seconds).isSome = true ↔ -86400 < seconds ∧ seconds < 86400 := by
  rw [ofSeconds?]
  split <;> simp_all

theorem UtcOffset.seconds_of_ofMinutes? {minutes : Int} {offset : UtcOffset}
    (made : ofMinutes? minutes = some offset) : offset.seconds = minutes * 60 := by
  unfold ofMinutes? ofSeconds? at made
  split at made
  · split at made
    · cases made
      rfl
    · cases made
  · cases made

namespace Settings

/-- The check of the clock is exact. Minutes whose seconds do not fit 32 bits are far outside
of the day that the check allows. -/
theorem offsetFlaw?_eq_none_iff_isSome {minutes : Int} :
    offsetFlaw? minutes = none ↔ (UtcOffset.ofMinutes? minutes).isSome = true := by
  have word : Text.fitsSigned 32 (minutes * 60) = true ↔
      -2147483648 ≤ minutes * 60 ∧ minutes * 60 < 2147483648 := by
    rw [Text.fitsSigned, Bool.and_eq_true, decide_eq_true_iff, decide_eq_true_iff]
    rfl
  rw [offsetFlaw?_eq_none_iff, dayMinutes, UtcOffset.ofMinutes?]
  split
  · rw [UtcOffset.ofSeconds?_isSome]
    omega
  · rename_i large
    rw [word] at large
    simp only [Option.isSome_none, Bool.false_eq_true, iff_false]
    omega

/-! ## Colours -/

theorem keys_of_mapM {entries : Toml.Entries} {colours : List (String × String)}
    (all : (entries.mapM fun entry => (text? entry.2).map fun text => (entry.1, text)) =
      some colours) :
    colours.map Prod.fst = entries.map Prod.fst := by
  induction entries generalizing colours with
  | nil =>
      cases all
      rfl
  | cons entry rest ih =>
      rw [List.mapM_cons] at all
      obtain ⟨first, own, all⟩ := Option.bind_eq_some_iff.mp all
      obtain ⟨others, later, same⟩ := Option.bind_eq_some_iff.mp all
      obtain ⟨text, _, rfl⟩ := Option.map_eq_some_iff.mp own
      cases same
      rw [List.map_cons, List.map_cons, ih later]

theorem distinct_colours? {value : Toml.Value} {colours : List (String × String)}
    (distinct : value.Distinct) (read : colours? value = some colours) :
    (colours.map Prod.fst).Nodup := by
  cases distinct with
  | table keys inner =>
      obtain ⟨listed, all, rfl⟩ := Option.map_eq_some_iff.mp read
      have sorted : (sortColours listed).Perm listed := List.mergeSort_perm _ _
      rw [(sorted.map Prod.fst).nodup_iff, keys_of_mapM all]
      exact keys
  | moment text =>
      cases read
      exact List.nodup_singleton momentName
  | string | integer | real | boolean | array => cases read

/-- Where the context and the colours of settings stand in a document. -/
theorem ofEntries?_eq_some {entries : Toml.Entries} {settings : Settings}
    (read : ofEntries? entries = some settings) :
    (∃ render, fields? ["context"] (entries.get? "render") = some render ∧
        field? .content context? (render "context") = some settings.context) ∧
      field? [] colours? (entries.get? "theme") = some settings.colours := by
  obtain ⟨_, _, read⟩ := Option.bind_eq_some_iff.mp read
  obtain ⟨render, fields, read⟩ := Option.bind_eq_some_iff.mp read
  obtain ⟨context, setContext, read⟩ := Option.bind_eq_some_iff.mp read
  obtain ⟨_, _, read⟩ := Option.bind_eq_some_iff.mp read
  obtain ⟨_, _, read⟩ := Option.bind_eq_some_iff.mp read
  obtain ⟨_, _, read⟩ := Option.bind_eq_some_iff.mp read
  obtain ⟨_, _, read⟩ := Option.bind_eq_some_iff.mp read
  obtain ⟨_, _, read⟩ := Option.bind_eq_some_iff.mp read
  obtain ⟨_, _, read⟩ := Option.bind_eq_some_iff.mp read
  obtain ⟨_, _, read⟩ := Option.bind_eq_some_iff.mp read
  obtain ⟨colours, setColours, same⟩ := Option.bind_eq_some_iff.mp read
  cases same
  exact ⟨⟨render, fields, setContext⟩, setColours⟩

theorem distinct_ofEntries? {entries : Toml.Entries} {settings : Settings}
    (distinct : entries.Distinct) (read : ofEntries? entries = some settings) :
    (settings.colours.map Prod.fst).Nodup := by
  have own := (ofEntries?_eq_some read).2
  cases theme : entries.get? "theme" with
  | none =>
      rw [theme] at own
      rw [← Option.some.inj own]
      exact List.nodup_nil
  | some value =>
      rw [theme] at own
      exact distinct_colours? (distinct.get? theme) own

theorem distinct_ofText? {text : String} {settings : Settings} (read : ofText? text = some settings) :
    (settings.colours.map Prod.fst).Nodup := by
  obtain ⟨entries, spelled, read⟩ := Option.bind_eq_some_iff.mp read
  exact distinct_ofEntries? (Toml.distinct_read spelled) read

/-! ## Ways to load settings -/

/-- Settings without a flaw, which have no two colours for one role. -/
structure Valid (settings : Settings) : Prop where
  flawless : settings.flaw? = none
  distinct : (settings.colours.map Prod.fst).Nodup

theorem valid_default : Valid {} := by
  constructor
  · decide
  · exact List.nodup_nil

/-- Settings from a file are what its text spells, with other bases and the path. -/
theorem exists_ofText? {environment : Environment} {path text : String} {settings : Settings}
    (loaded : ofFile environment path text = .ok settings) :
    ∃ read emoji, ofText? text = some read ∧ settings.flaw? = none ∧
      settings = { read with emoji := emoji, path := some path } := by
  unfold ofFile at loaded
  split at loaded
  · cases loaded
  · rename_i read spelled
    obtain ⟨expanded, bases, checked⟩ := Json.bind_eq_ok.mp loaded
    obtain ⟨custom, _, bases⟩ := Json.bind_eq_ok.mp bases
    obtain ⟨unicode, _, same⟩ := Json.bind_eq_ok.mp bases
    cases same
    obtain ⟨flawless, rfl⟩ := check_eq_ok_iff.mp checked
    exact ⟨read, { custom, unicode }, spelled, flawless, rfl⟩

theorem loadFile_eq_ok_iff {surroundings : Surroundings} {path : String} {settings : Settings} :
    loadFile surroundings path = .ok settings ↔
      ∃ text, surroundings.disk path = .ok text ∧
        ofFile surroundings.environment path text = .ok settings := by
  unfold loadFile
  cases surroundings.disk path with
  | ok text => simp
  | error reason => simp

theorem valid_loadFile {surroundings : Surroundings} {path : String} {settings : Settings}
    (loaded : loadFile surroundings path = .ok settings) : settings.Valid := by
  obtain ⟨text, _, loaded⟩ := loadFile_eq_ok_iff.mp loaded
  obtain ⟨read, emoji, spelled, flawless, rfl⟩ := exists_ofText? loaded
  have distinct := distinct_ofText? spelled
  exact ⟨flawless, distinct⟩

theorem valid_loadBase {surroundings : Surroundings} {path : Option String} {settings : Settings}
    (loaded : loadBase surroundings path = .ok settings) : settings.Valid := by
  unfold loadBase at loaded
  split at loaded
  · split at loaded
    · exact valid_loadFile loaded
    · cases loaded
  · split at loaded
    · exact valid_loadFile loaded
    · cases loaded
      exact valid_default

theorem load_overridden_iff {surroundings : Surroundings} {path : Option String}
    {overrides : Overrides} {settings : Settings} :
    load surroundings path (some overrides) = .ok settings ↔
      ∃ base, loadBase surroundings path = .ok base ∧
        (base.override overrides).flaw? = none ∧ settings = base.override overrides := by
  simp only [load, Json.bind_eq_ok, check_eq_ok_iff]

theorem valid_load {surroundings : Surroundings} {path : Option String}
    {overrides : Option Overrides} {settings : Settings}
    (loaded : load surroundings path overrides = .ok settings) : settings.Valid := by
  obtain ⟨base, baseLoaded, loaded⟩ := Json.bind_eq_ok.mp loaded
  have valid := valid_loadBase baseLoaded
  split at loaded
  · obtain ⟨flawless, rfl⟩ := check_eq_ok_iff.mp loaded
    exact ⟨flawless, valid.distinct⟩
  · cases loaded
    exact valid

/-! ## The context that a file sets -/

/-- The context that a text sets, if it sets one. -/
def contextSet? (text : String) : Option Context := do
  let entries ← Toml.read text
  let render ← fields? ["context"] (entries.get? "render")
  context? (← render "context")

/-- The context that the settings file sets, if there is one that does. -/
def fileContext? (surroundings : Surroundings) (path : Option String) : Option Context := do
  let file ← path.or (discover surroundings)
  contextSet? (← (surroundings.disk file).toOption)

theorem context_ofText? {text : String} {settings : Settings} (read : ofText? text = some settings) :
    settings.context = (contextSet? text).getD .content := by
  obtain ⟨entries, spelled, read⟩ := Option.bind_eq_some_iff.mp read
  obtain ⟨⟨render, fields, own⟩, _⟩ := ofEntries?_eq_some read
  have set : contextSet? text = (render "context").bind context? := by
    rw [contextSet?, spelled]
    exact congrArg (Option.bind · fun render => (render "context").bind context?) fields
  rw [set]
  cases given : render "context" with
  | none =>
      rw [given] at own
      exact (Option.some.inj own).symm
  | some value =>
      rw [given] at own
      have read : context? value = some settings.context := own
      rw [Option.bind_some, read]
      rfl

theorem context_loadFile {surroundings : Surroundings} {path : String} {settings : Settings}
    (loaded : loadFile surroundings path = .ok settings) :
    settings.context = ((surroundings.disk path).toOption.bind contextSet?).getD .content := by
  obtain ⟨text, given, loaded⟩ := loadFile_eq_ok_iff.mp loaded
  obtain ⟨read, emoji, spelled, _, rfl⟩ := exists_ofText? loaded
  have set := context_ofText? spelled
  rw [given]
  exact set

/-- A file that sets no context leaves messages as content, and so does no file. -/
theorem context_loadBase {surroundings : Surroundings} {path : Option String} {settings : Settings}
    (loaded : loadBase surroundings path = .ok settings) :
    settings.context = (fileContext? surroundings path).getD .content := by
  unfold loadBase at loaded
  unfold fileContext?
  split at loaded
  · split at loaded
    · exact context_loadFile loaded
    · cases loaded
  · rw [Option.none_or]
    cases found : discover surroundings with
    | none =>
        rw [found] at loaded
        cases loaded
        rfl
    | some file =>
        rw [found] at loaded
        exact context_loadFile loaded

/-! ## Addresses -/

/-- An address of the web. -/
def HasScheme (address : String) : Prop :=
  ∃ scheme ∈ ["http://", "https://"], scheme.toList <+: address.toList

theorem hasScheme_eq_true_iff {address : String} : hasScheme address = true ↔ HasScheme address := by
  simp [hasScheme, HasScheme]

theorem HasScheme.append {address : String} (has : HasScheme address) (rest : String) :
    HasScheme (address ++ rest) := by
  obtain ⟨scheme, member, begins⟩ := has
  refine ⟨scheme, member, ?_⟩
  rw [String.toList_append]
  exact begins.trans (List.prefix_append _ _)

/-! ## Nothing is passed over -/

namespace Valid

variable {settings : Settings}

theorem ofMinutes?_eq (valid : settings.Valid) :
    UtcOffset.ofMinutes? settings.offsetMinutes = some settings.offset := by
  obtain ⟨_, _, clock, _⟩ := flaw?_eq_none_iff.mp valid.flawless
  obtain ⟨made, same⟩ := Option.isSome_iff_exists.mp (offsetFlaw?_eq_none_iff_isSome.mp clock)
  rw [Settings.offset, same]
  rfl

/-- Other minutes are as valid as they make a clock. -/
theorem flaw?_offset_iff (valid : settings.Valid) (minutes : Int) :
    ({ settings with offsetMinutes := minutes } : Settings).flaw? = none ↔
      (UtcOffset.ofMinutes? minutes).isSome = true := by
  obtain ⟨custom, unicode, _, colours⟩ := flaw?_eq_none_iff.mp valid.flawless
  rw [flaw?_eq_none_iff, ← offsetFlaw?_eq_none_iff_isSome]
  constructor
  · intro flawless
    exact flawless.2.2.1
  · intro clock
    exact ⟨custom, unicode, clock, colours⟩

theorem exists_role (valid : settings.Valid) {entry : String × String}
    (member : entry ∈ settings.colours) :
    ∃ role : Theme.Role, role.name = entry.1 ∧ settings.theme.colour role = entry.2 := by
  obtain ⟨_, _, _, colours⟩ := flaw?_eq_none_iff.mp valid.flawless
  obtain ⟨⟨role, found⟩, _⟩ := colourFlaw?_eq_none_iff.mp (colours entry member)
  have named := Theme.Role.name_of_ofName? found
  have own : (role.name, entry.2) ∈ settings.colours := named ▸ member
  exact ⟨role, named, Theme.colour_setAll_of_mem valid.distinct own⟩

/-- The address of an image begins with one of the bases. -/
theorem hasScheme_url (valid : settings.Valid) (emoji : Emoji) :
    HasScheme (settings.emoji.url emoji) := by
  obtain ⟨custom, unicode, _, _⟩ := flaw?_eq_none_iff.mp valid.flawless
  have customScheme := hasScheme_eq_true_iff.mp (baseFlaw?_eq_none_iff.mp custom).1
  have unicodeScheme := hasScheme_eq_true_iff.mp (baseFlaw?_eq_none_iff.mp unicode).1
  unfold Emoji.Bases.url
  split
  · exact (customScheme.append _).append _
  · exact (unicodeScheme.append _).append _

end Valid

/-- Whatever is loaded is valid, and nothing in it has no effect. The clock is exactly the one
that is set: the check lets those minutes through that make a clock. Every colour is in the
theme, which is dark otherwise. -/
theorem load_valid {surroundings : Surroundings} {path : Option String}
    {overrides : Option Overrides} {settings : Settings}
    (loaded : load surroundings path overrides = .ok settings) :
    settings.flaw? = none ∧
      UtcOffset.ofMinutes? settings.offsetMinutes = some settings.offset ∧
      settings.offset.seconds = settings.offsetMinutes * 60 ∧
      (∀ minutes, ({ settings with offsetMinutes := minutes } : Settings).flaw? = none ↔
        (UtcOffset.ofMinutes? minutes).isSome = true) ∧
      (∀ entry ∈ settings.colours, ∃ role : Theme.Role,
        role.name = entry.1 ∧ settings.theme.colour role = entry.2) ∧
      (∀ role : Theme.Role, role.name ∉ settings.colours.map Prod.fst →
        settings.theme.colour role = Theme.dark.colour role) ∧
      ∀ emoji, HasScheme (settings.emoji.url emoji) := by
  have valid := valid_load loaded
  have clock := valid.ofMinutes?_eq
  refine ⟨valid.flawless, clock, UtcOffset.seconds_of_ofMinutes? clock, valid.flaw?_offset_iff, ?_,
    ?_, valid.hasScheme_url⟩
  · intro entry member
    exact valid.exists_role member
  · intro role absent
    exact Theme.colour_setAll_of_not_mem absent

/-- A disk with one settings file, which lies above the working directory. -/
def annsSurroundings : Surroundings where
  disk path :=
    if path = "/home/chatmark.toml" then
      .ok "emoji.custom_base_url = '${CDN}/e/'\n[theme]\nlink = '#0af'"
    else .error .missing
  working := ["ann", "home"]
  environment name := if name = "CDN" then some "https://cdn" else none

def annsSettings : Settings where
  emoji := { custom := "https://cdn/e/", unicode := Emoji.Bases.standard.unicode }
  offsetMinutes := -1439
  colours := [("link", "#0af")]
  path := some "/home/chatmark.toml"

/-- Settings from a file that is found, with the clock as far behind as can be for one run. -/
theorem load_valid_found :
    load annsSurroundings none (some { offsetMinutes := some (-1439) }) = .ok annsSettings ∧
      annsSettings.flaw? = none ∧
      annsSettings.offset.seconds = -86340 ∧
      annsSettings.theme.colour .link = "#0af" ∧
      annsSettings.theme.colour .text = Theme.dark.colour .text ∧
      HasScheme (annsSettings.emoji.url (.custom "1" "wave" false)) := by
  have loaded : load annsSurroundings none (some { offsetMinutes := some (-1439) }) =
      .ok annsSettings := by
    decide +kernel
  obtain ⟨flawless, _, clock, _, colours, others, addresses⟩ := load_valid loaded
  obtain ⟨role, named, link⟩ := colours ("link", "#0af") (.head _)
  have isLink : role = .link := by
    revert named
    cases role <;> decide
  refine ⟨loaded, flawless, clock, isLink ▸ link, others .text (by decide), addresses _⟩

end Settings

end MessageMarkup
