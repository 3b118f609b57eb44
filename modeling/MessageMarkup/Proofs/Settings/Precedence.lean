import MessageMarkup.Proofs.Settings.FromFile

/-!
# Settings for one run

Settings for one run stand in place of those of the file, of which nothing is left then. But the
file is checked on its own: a clock in it that is a day or more away is refused even if another
one is set for the run.
-/

set_option autoImplicit false

namespace MessageMarkup.Settings

/-- Settings that no more than the settings for one run can tell apart. -/
structure Alike (settings settings' : Settings) : Prop where
  emoji : settings'.emoji = settings.emoji
  colours : settings'.colours = settings.colours
  path : settings'.path = settings.path

theorem Alike.symm {settings settings' : Settings} (alike : Alike settings settings') :
    Alike settings' settings := by
  constructor
  · exact alike.emoji.symm
  · exact alike.colours.symm
  · exact alike.path.symm

def Overrides.all (context : Context) (minutes : Int) (highlight : Bool) : Overrides where
  context := some context
  offsetMinutes := some minutes
  highlight := some highlight

theorem Alike.override_all {settings settings' : Settings} (alike : Alike settings settings')
    (context : Context) (minutes : Int) (highlight : Bool) :
    settings.override (.all context minutes highlight) =
      settings'.override (.all context minutes highlight) := by
  obtain ⟨emoji, colours, path⟩ := alike
  cases settings
  cases settings'
  cases emoji
  cases colours
  cases path
  rfl

/-! ## Clocks -/

/-- A clock that is less than a day away. -/
def InDay (minutes : Int) : Prop :=
  -dayMinutes < minutes ∧ minutes < dayMinutes

instance (minutes : Int) : Decidable (InDay minutes) :=
  inferInstanceAs (Decidable (_ ∧ _))

theorem offsetFlaw?_of_not_inDay {minutes : Int} (outside : ¬ InDay minutes) :
    offsetFlaw? minutes = some (.offset minutes) :=
  if_neg outside

/-- Two clocks make the same flaw or none, or they differ and one of them is outside of the day. -/
theorem offsetFlaw?_eq_or_not_inDay (minutes minutes' : Int) :
    offsetFlaw? minutes = offsetFlaw? minutes' ∨
      minutes ≠ minutes' ∧ (¬ InDay minutes ∨ ¬ InDay minutes') := by
  by_cases inside : InDay minutes ∧ InDay minutes'
  · have flawless := offsetFlaw?_eq_none_iff.mpr inside.1
    exact .inl (flawless.trans (offsetFlaw?_eq_none_iff.mpr inside.2).symm)
  · by_cases equal : minutes = minutes'
    · exact .inl (congrArg offsetFlaw? equal)
    · exact .inr ⟨equal, not_and_or.mp inside⟩

theorem Alike.flaw?_eq {settings settings' : Settings} (alike : Alike settings settings')
    (same : offsetFlaw? settings.offsetMinutes = offsetFlaw? settings'.offsetMinutes) :
    settings.flaw? = settings'.flaw? := by
  rw [flaw?, flaw?, alike.emoji, alike.colours, same]

/-- A clock outside of the day is the flaw, or a base has one that stands before it. -/
theorem Alike.flaw?_eq_or_offset {settings settings' : Settings} (alike : Alike settings settings')
    (outside : ¬ InDay settings.offsetMinutes) :
    settings.flaw? = some (.offset settings.offsetMinutes) ∨
      ∃ flaw, settings.flaw? = some flaw ∧ settings'.flaw? = some flaw := by
  -- The bases, which are looked at before the clock, are the same.
  simp only [flaw?, alike.emoji, alike.colours, offsetFlaw?_of_not_inDay outside]
  cases baseFlaw? .custom settings.emoji.custom with
  | some flaw => exact .inr ⟨flaw, rfl, rfl⟩
  | none =>
      cases baseFlaw? .unicode settings.emoji.unicode with
      | some flaw => exact .inr ⟨flaw, rfl, rfl⟩
      | none => exact .inl rfl

/-! ## Loading -/

theorem accept_of_flaw {overrides : Option Overrides} {settings : Settings} {flaw : Flaw}
    (flawed : settings.flaw? = some flaw) :
    accept overrides settings = .error (.flawed flaw) := by
  rw [accept, check, flawed]
  rfl

theorem Alike.accept_eq {settings settings' : Settings} (alike : Alike settings settings')
    (same : settings.flaw? = settings'.flaw?) (context : Context) (minutes : Int)
    (highlight : Bool) :
    accept (some (.all context minutes highlight)) settings =
      accept (some (.all context minutes highlight)) settings' := by
  unfold accept check
  rw [same]
  cases settings'.flaw? with
  | some flaw => rfl
  | none => exact congrArg check (alike.override_all context minutes highlight)

variable {surroundings surroundings' : Surroundings} {path : Option String} {file : String}
variable {written written' : Settings}

theorem LoadsFrom.load_eq_bases (source : LoadsFrom surroundings path file written)
    (overrides : Option Overrides) :
    load surroundings path overrides = (do
      let custom ← expandBase surroundings.environment .custom written.emoji.custom
      let unicode ← expandBase surroundings.environment .unicode written.emoji.unicode
      accept overrides { written with emoji := { custom, unicode }, path := some file }) := by
  rw [source.load_eq, expandBases]
  simp only [bind_assoc, pure_bind]

/-- Loading alike settings comes down to accepting them, or fails at the same base. -/
theorem LoadsFrom.alike_cases (source : LoadsFrom surroundings path file written)
    (source' : LoadsFrom surroundings' path file written')
    (environment : surroundings'.environment = surroundings.environment)
    (alike : Alike written written') (overrides : Option Overrides) :
    load surroundings path overrides = load surroundings' path overrides ∨
      ∃ emoji, load surroundings path overrides =
          accept overrides { written with emoji, path := some file } ∧
        load surroundings' path overrides =
          accept overrides { written' with emoji, path := some file } := by
  rw [source.load_eq_bases, source'.load_eq_bases, environment, alike.emoji]
  cases expandBase surroundings.environment .custom written.emoji.custom with
  | error fault => exact .inl rfl
  | ok custom =>
      cases expandBase surroundings.environment .unicode written.emoji.unicode with
      | error fault => exact .inl rfl
      | ok unicode => exact .inr ⟨{ custom, unicode }, rfl, rfl⟩

theorem Alike.located {settings settings' : Settings} (alike : Alike settings settings')
    (emoji : Emoji.Bases) (file : String) :
    Alike { settings with emoji, path := some file }
      { settings' with emoji, path := some file } := by
  constructor
  · rfl
  · exact alike.colours
  · rfl

theorem LoadsFrom.load_eq_of_offsetFlaw? (source : LoadsFrom surroundings path file written)
    (source' : LoadsFrom surroundings' path file written')
    (environment : surroundings'.environment = surroundings.environment)
    (alike : Alike written written')
    (same : offsetFlaw? written.offsetMinutes = offsetFlaw? written'.offsetMinutes)
    (context : Context) (minutes : Int) (highlight : Bool) :
    load surroundings path (some (.all context minutes highlight)) =
      load surroundings' path (some (.all context minutes highlight)) := by
  rcases source.alike_cases source' environment alike (some (.all context minutes highlight)) with
    equal | ⟨emoji, loads, loads'⟩
  · exact equal
  · have located := alike.located emoji file
    rw [loads, loads']
    exact located.accept_eq (located.flaw?_eq same) context minutes highlight

theorem LoadsFrom.load_eq_or_offset (source : LoadsFrom surroundings path file written)
    (source' : LoadsFrom surroundings' path file written')
    (environment : surroundings'.environment = surroundings.environment)
    (alike : Alike written written') (outside : ¬ InDay written.offsetMinutes)
    (overrides : Option Overrides) :
    load surroundings path overrides = load surroundings' path overrides ∨
      load surroundings path overrides = .error (.flawed (.offset written.offsetMinutes)) := by
  rcases source.alike_cases source' environment alike overrides with
    equal | ⟨emoji, loads, loads'⟩
  · exact .inl equal
  · rcases (alike.located emoji file).flaw?_eq_or_offset outside with flawed | ⟨flaw, flawed, flawed'⟩
    · exact .inr (loads.trans (accept_of_flaw flawed))
    · rw [loads, loads', accept_of_flaw flawed, accept_of_flaw flawed']
      exact .inl rfl

/-- The clock of the file is within the day, whatever is set for the run. -/
theorem LoadsFrom.inDay_of_load (source : LoadsFrom surroundings path file written)
    {overrides : Option Overrides} {settings : Settings}
    (loaded : load surroundings path overrides = .ok settings) : InDay written.offsetMinutes := by
  rw [source.load_eq] at loaded
  obtain ⟨expanded, bases, accepted⟩ := Json.bind_eq_ok.mp loaded
  obtain ⟨emoji, _, rfl⟩ := expandBases_eq_ok.mp bases
  obtain ⟨_, checked, _⟩ := Json.bind_eq_ok.mp accepted
  obtain ⟨flawless, _⟩ := check_eq_ok_iff.mp checked
  obtain ⟨_, _, clock, _⟩ := flaw?_eq_none_iff.mp flawless
  exact offsetFlaw?_eq_none_iff.mp clock

/-- Files that are alike load the same if all is set for the run, unless the clocks in them
differ and one is a day or more away. Such a file is refused, whatever is set. -/
theorem load_all_overridden (source : LoadsFrom surroundings path file written)
    (source' : LoadsFrom surroundings' path file written')
    (environment : surroundings'.environment = surroundings.environment)
    (alike : Alike written written') (context : Context) (minutes : Int) (highlight : Bool) :
    (load surroundings path (some (.all context minutes highlight)) =
        load surroundings' path (some (.all context minutes highlight)) ∨
      written.offsetMinutes ≠ written'.offsetMinutes ∧
        (¬ InDay written.offsetMinutes ∧
            load surroundings path (some (.all context minutes highlight)) =
              .error (.flawed (.offset written.offsetMinutes)) ∨
          ¬ InDay written'.offsetMinutes ∧
            load surroundings' path (some (.all context minutes highlight)) =
              .error (.flawed (.offset written'.offsetMinutes)))) ∧
      (¬ InDay written.offsetMinutes → ∀ overrides settings,
        load surroundings path overrides ≠ .ok settings) := by
  constructor
  · rcases offsetFlaw?_eq_or_not_inDay written.offsetMinutes written'.offsetMinutes with
      same | ⟨differ, outside | outside'⟩
    · exact .inl (source.load_eq_of_offsetFlaw? source' environment alike same context minutes
        highlight)
    · rcases source.load_eq_or_offset source' environment alike outside
        (some (.all context minutes highlight)) with equal | refused
      · exact .inl equal
      · exact .inr ⟨differ, .inl ⟨outside, refused⟩⟩
    · rcases source'.load_eq_or_offset source environment.symm alike.symm outside'
        (some (.all context minutes highlight)) with equal | refused
      · exact .inl equal.symm
      · exact .inr ⟨differ, .inr ⟨outside', refused⟩⟩
  · intro outside overrides settings loaded
    exact outside (source.inDay_of_load loaded)

/-- A disk with a settings file that sets the clock. -/
def clockSurroundings (minutes : Int) : Surroundings where
  disk path :=
    if path = "clock.toml" then .ok ("timestamp.utc_offset_minutes = " ++ toString minutes)
    else .error .missing
  working := []
  environment _ := none

def clockSettings (minutes : Int) : Settings where
  offsetMinutes := minutes

theorem clockSource {minutes : Int}
    (spelled : ofText? ("timestamp.utc_offset_minutes = " ++ toString minutes) =
      some (clockSettings minutes)) :
    LoadsFrom (clockSurroundings minutes) (some "clock.toml") "clock.toml"
      (clockSettings minutes) := by
  constructor
  · rfl
  · exact ⟨_, rfl, spelled⟩

theorem clockAlike (minutes minutes' : Int) : Alike (clockSettings minutes) (clockSettings minutes') := by
  constructor <;> rfl

theorem load_all_overridden_clock :
    load (clockSurroundings 840) (some "clock.toml") (some (.all .content 0 true)) =
      load (clockSurroundings (-60)) (some "clock.toml") (some (.all .content 0 true)) := by
  have source := clockSource (show ofText? _ = some (clockSettings 840) by decide +kernel)
  have source' := clockSource (show ofText? _ = some (clockSettings (-60)) by decide +kernel)
  obtain ⟨equal | ⟨_, ⟨outside, _⟩ | ⟨outside, _⟩⟩, _⟩ :=
    load_all_overridden source source' rfl (clockAlike _ _) .content 0 true
  · exact equal
  · exact absurd (by decide) outside
  · exact absurd (by decide) outside

/-- The run uses neither clock, but one of them is a day away. -/
theorem load_all_overridden_far :
    LoadsFrom (clockSurroundings 1440) (some "clock.toml") "clock.toml" (clockSettings 1440) ∧
      LoadsFrom (clockSurroundings 60) (some "clock.toml") "clock.toml" (clockSettings 60) ∧
      (clockSurroundings 60).environment = (clockSurroundings 1440).environment ∧
      Alike (clockSettings 1440) (clockSettings 60) ∧
      load (clockSurroundings 1440) (some "clock.toml") (some (.all .content 0 true)) =
        .error (.flawed (.offset 1440)) ∧
      load (clockSurroundings 60) (some "clock.toml") (some (.all .content 0 true)) =
        .ok { path := some "clock.toml" } ∧
      load (clockSurroundings 1440) (some "clock.toml") (some (.all .content 0 true)) ≠
        load (clockSurroundings 60) (some "clock.toml") (some (.all .content 0 true)) := by
  have source := clockSource (show ofText? _ = some (clockSettings 1440) by decide +kernel)
  have source' := clockSource (show ofText? _ = some (clockSettings 60) by decide +kernel)
  have far : load (clockSurroundings 1440) (some "clock.toml") (some (.all .content 0 true)) =
      .error (.flawed (.offset 1440)) := by
    decide +kernel
  have near : load (clockSurroundings 60) (some "clock.toml") (some (.all .content 0 true)) =
      .ok { path := some "clock.toml" } := by
    decide +kernel
  refine ⟨source, source', rfl, clockAlike _ _, far, near, ?_⟩
  rw [far, near]
  intro same
  cases same

end MessageMarkup.Settings
