import MessageMarkup.Proofs.Settings.Loading

/-!
# Settings from a file

What becomes of the settings that a file spells: the addresses in them are expanded, they are
checked, and they are checked again with the settings for one run on top.
-/

set_option autoImplicit false

namespace MessageMarkup.Settings

/-- Settings are loaded from the file, and its text spells them. -/
structure LoadsFrom (surroundings : Surroundings) (path : Option String) (file : String)
    (written : Settings) : Prop where
  located : path.or (discover surroundings) = some file
  spelled : ∃ text, surroundings.disk file = .ok text ∧ ofText? text = some written

/-- Settings that have no flaw, and have none either with those for one run. -/
def accept (overrides : Option Overrides) (settings : Settings) : Except Fault Settings := do
  let settings ← check settings
  match overrides with
  | some overrides => check (settings.override overrides)
  | none => return settings

/-! ## Checking -/

theorem check_eq_error_iff {settings : Settings} {fault : Fault} :
    settings.check = .error fault ↔ ∃ flaw, settings.flaw? = some flaw ∧ fault = .flawed flaw := by
  unfold check
  cases settings.flaw? with
  | none => simp
  | some flaw => simp [eq_comm]

theorem exists_flaw_of_accept {overrides : Option Overrides} {settings : Settings} {fault : Fault}
    (refused : accept overrides settings = .error fault) : ∃ flaw, fault = .flawed flaw := by
  rcases Json.bind_eq_error.mp refused with flawed | ⟨checked, _, refused⟩
  · obtain ⟨flaw, _, same⟩ := check_eq_error_iff.mp flawed
    exact ⟨flaw, same⟩
  · cases overrides with
    | none => cases refused
    | some overrides =>
        obtain ⟨flaw, _, same⟩ := check_eq_error_iff.mp refused
        exact ⟨flaw, same⟩

theorem eq_of_accept {overrides : Option Overrides} {settings accepted : Settings}
    (checked : accept overrides settings = .ok accepted) :
    accepted = settings.override (overrides.getD {}) := by
  obtain ⟨kept, flawless, rest⟩ := Json.bind_eq_ok.mp checked
  obtain ⟨_, rfl⟩ := check_eq_ok_iff.mp flawless
  cases overrides with
  | none =>
      cases rest
      rfl
  | some overrides => exact (check_eq_ok_iff.mp rest).2

/-! ## Expanding -/

theorem expandBase_eq_ok {environment : Environment} {base : Base} {address expanded : String} :
    expandBase environment base address = .ok expanded ↔ expand environment address = .ok expanded := by
  unfold expandBase
  cases expand environment address <;> simp

def Base.address : Base → Emoji.Bases → String
  | .custom, bases => bases.custom
  | .unicode, bases => bases.unicode

theorem expandBases_eq_ok {environment : Environment} {settings expanded : Settings} :
    settings.expandBases environment = .ok expanded ↔
      ∃ bases : Emoji.Bases,
        (∀ base : Base, expand environment (base.address settings.emoji) =
          .ok (base.address bases)) ∧
        expanded = { settings with emoji := bases } := by
  simp only [expandBases, Json.bind_eq_ok, expandBase_eq_ok]
  constructor
  · intro each
    obtain ⟨custom, customExpanded, unicode, unicodeExpanded, same⟩ := each
    cases same
    refine ⟨{ custom, unicode }, ?_, rfl⟩
    intro base
    cases base with
    | custom => exact customExpanded
    | unicode => exact unicodeExpanded
  · intro all
    obtain ⟨bases, all, rfl⟩ := all
    exact ⟨bases.custom, all .custom, bases.unicode, all .unicode, rfl⟩

/-- The first base that refers to a variable without a value is named. -/
theorem expandBases_eq_unset {environment : Environment} {settings : Settings} {base : Base}
    {cause : Unset} :
    settings.expandBases environment = .error (.unset base cause) ↔
      expand environment (base.address settings.emoji) = .error cause ∧
        (base = .unicode → ∃ custom, expand environment settings.emoji.custom = .ok custom) := by
  cases custom : expand environment settings.emoji.custom with
  | error missing =>
      have failed : settings.expandBases environment = .error (.unset .custom missing) := by
        simp only [expandBases, expandBase, custom]
        rfl
      cases base <;> simp [failed, Base.address, custom]
  | ok address =>
      cases unicode : expand environment settings.emoji.unicode with
      | error missing =>
          have failed : settings.expandBases environment = .error (.unset .unicode missing) := by
            simp only [expandBases, expandBase, custom, unicode]
            rfl
          cases base <;> simp [failed, Base.address, custom, unicode]
      | ok other =>
          have done : ∃ expanded, settings.expandBases environment = .ok expanded := by
            simp only [expandBases, expandBase, custom, unicode]
            exact ⟨_, rfl⟩
          obtain ⟨expanded, done⟩ := done
          cases base <;> simp [done, Base.address, custom, unicode]

variable {surroundings : Surroundings} {path : Option String} {file : String} {written : Settings}

theorem LoadsFrom.loadBase_eq (source : LoadsFrom surroundings path file written) :
    loadBase surroundings path = loadFile surroundings file := by
  obtain ⟨text, given, _⟩ := source.spelled
  have located := source.located
  unfold loadBase
  cases path with
  | some asked =>
      cases located
      have has : surroundings.disk.has file = true := by rw [Disk.has, given]
      exact if_pos has
  | none =>
      rw [Option.none_or] at located
      rw [located]

theorem LoadsFrom.load_eq (source : LoadsFrom surroundings path file written)
    (overrides : Option Overrides) :
    load surroundings path overrides = (do
      let expanded ← written.expandBases surroundings.environment
      accept overrides { expanded with path := some file }) := by
  obtain ⟨text, given, spelled⟩ := source.spelled
  have read : loadFile surroundings file = (do
      let expanded ← written.expandBases surroundings.environment
      check { expanded with path := some file }) := by
    rw [loadFile, given]
    simp only [ofFile, spelled]
  rw [load, source.loadBase_eq, read]
  cases written.expandBases surroundings.environment <;> rfl

theorem LoadsFrom.load_of_expanded (source : LoadsFrom surroundings path file written)
    (overrides : Option Overrides) {bases : Emoji.Bases}
    (expanded : ∀ base : Base, expand surroundings.environment (base.address written.emoji) =
      .ok (base.address bases)) :
    load surroundings path overrides =
      accept overrides { written with emoji := bases, path := some file } := by
  rw [source.load_eq, expandBases_eq_ok.mpr ⟨bases, expanded, rfl⟩]
  rfl

theorem LoadsFrom.load_eq_unset (source : LoadsFrom surroundings path file written)
    {overrides : Option Overrides} {base : Base} {cause : Unset} :
    load surroundings path overrides = .error (.unset base cause) ↔
      written.expandBases surroundings.environment = .error (.unset base cause) := by
  rw [source.load_eq, Json.bind_eq_error]
  constructor
  · intro failed
    rcases failed with missing | ⟨_, _, refused⟩
    · exact missing
    · obtain ⟨_, flawed⟩ := exists_flaw_of_accept refused
      cases flawed
  · exact .inl

theorem LoadsFrom.exists_bases (source : LoadsFrom surroundings path file written)
    {overrides : Option Overrides} {settings : Settings}
    (loaded : load surroundings path overrides = .ok settings) :
    ∃ bases : Emoji.Bases,
      (∀ base : Base, expand surroundings.environment (base.address written.emoji) =
        .ok (base.address bases)) ∧
      settings = ({ written with emoji := bases, path := some file } : Settings).override
        (overrides.getD {}) := by
  rw [source.load_eq] at loaded
  obtain ⟨_, expanded, checked⟩ := Json.bind_eq_ok.mp loaded
  obtain ⟨bases, all, rfl⟩ := expandBases_eq_ok.mp expanded
  exact ⟨bases, all, eq_of_accept checked⟩

end MessageMarkup.Settings
