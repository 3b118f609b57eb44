import MessageMarkup.Command.Run
import MessageMarkup.Proofs.Settings.Loading

/-!
# The command that renders

Rendering a message takes settings, the nodes of the message and perhaps names. Either all of
them are there, and the markup is printed as the settings and the options want it, or nothing
is printed and the first of them that is missing is complained about.
-/

set_option autoImplicit false

namespace MessageMarkup.Command

open Json (bind_eq_ok bind_eq_error mapError_eq_ok mapError_eq_error mapM_eq_ok_iff
  mapM_eq_error_iff)

/-! ## Sources -/

namespace Source

/-- The text of a source. -/
def found (surroundings : Surroundings) (input : StandardInput) : Source → Except Unreadable String
  | .standardInput => input
  | .file path => surroundings.disk path

variable {Value : Type}

/-- A source has a text that is read as a value. -/
def Holds (surroundings : Surroundings) (input : StandardInput) (read : String → Json.Reading Value)
    (source : Source) (value : Value) : Prop :=
  ∃ text, source.found surroundings input = .ok text ∧ read text = .ok value

/-- Why a source does not hold what is read from it. -/
inductive Fails (surroundings : Surroundings) (input : StandardInput)
    (read : String → Json.Reading Value) (source : Source) : Problem → Prop where
  | unreadable {reason : Unreadable} :
      source.found surroundings input = .error reason →
      Fails surroundings input read source (.unreadable reason)
  | malformed {text : String} {refusal : Json.Refusal} :
      source.found surroundings input = .ok text → read text = .error refusal →
      Fails surroundings input read source (.malformed source)

variable {surroundings : Surroundings} {input : StandardInput} {reading : String → Json.Reading Value}
  {source : Source}

theorem text_eq (source : Source) :
    source.text surroundings input = (source.found surroundings input).mapError .unreadable := by
  cases source <;> rfl

theorem read_eq_ok_iff {value : Value} :
    source.read surroundings input reading = .ok value ↔
      source.Holds surroundings input reading value := by
  rw [read, text_eq, bind_eq_ok]
  simp only [mapError_eq_ok, Holds]

theorem read_eq_error_iff {problem : Problem} :
    source.read surroundings input reading = .error problem ↔
      source.Fails surroundings input reading problem := by
  rw [read, text_eq, bind_eq_error]
  simp only [mapError_eq_ok, mapError_eq_error]
  constructor
  · intro failed
    rcases failed with ⟨reason, missing, rfl⟩ | ⟨text, given, refusal, refused, rfl⟩
    · exact .unreadable missing
    · exact .malformed given refused
  · intro fails
    cases fails with
    | unreadable missing => exact .inl ⟨_, missing, rfl⟩
    | malformed given refused => exact .inr ⟨_, given, _, refused, rfl⟩

end Source

/-! ## The stages of a run -/

/-- Everything is there that it takes to render: the settings, the message and, if they are asked
for, the names. Standard input holds the names only if it does not hold the message. -/
structure Ready (surroundings : Surroundings) (input : StandardInput) (options : Options)
    (settings : Settings) (message : List Node) (directory : Option Directory) : Prop where
  settings : Settings.load surroundings options.config (some options.overrides) = .ok settings
  message : options.source.Holds surroundings input Message.read message
  directory : Option.Rel
    (fun path => (Source.ofPath path).Holds surroundings (options.source.rest input) Directory.read)
    options.entities directory

/-- The problem of the first stage that fails. -/
inductive FirstProblem (surroundings : Surroundings) (input : StandardInput) (options : Options) :
    Problem → Prop where
  | settings {fault : Settings.Fault} :
      Settings.load surroundings options.config (some options.overrides) = .error fault →
      FirstProblem surroundings input options (.settings fault)
  | message {settings : Settings} {problem : Problem} :
      Settings.load surroundings options.config (some options.overrides) = .ok settings →
      options.source.Fails surroundings input Message.read problem →
      FirstProblem surroundings input options problem
  | directory {settings : Settings} {message : List Node} {path : String} {problem : Problem} :
      Settings.load surroundings options.config (some options.overrides) = .ok settings →
      options.source.Holds surroundings input Message.read message →
      options.entities = some path →
      (Source.ofPath path).Fails surroundings (options.source.rest input) Directory.read problem →
      FirstProblem surroundings input options problem

variable {surroundings : Surroundings} {input : StandardInput} {options : Options}

theorem loadSettings_eq_ok_iff {path : Option String} {overrides : Option Settings.Overrides}
    {settings : Settings} :
    loadSettings surroundings path overrides = .ok settings ↔
      Settings.load surroundings path overrides = .ok settings :=
  mapError_eq_ok

theorem loadSettings_eq_error_iff {path : Option String} {overrides : Option Settings.Overrides}
    {problem : Problem} :
    loadSettings surroundings path overrides = .error problem ↔
      ∃ fault, Settings.load surroundings path overrides = .error fault ∧
        .settings fault = problem :=
  mapError_eq_error

theorem render_eq_ok_iff {text : String} :
    render surroundings input options = .ok text ↔
      ∃ settings message directory, Ready surroundings input options settings message directory ∧
        text = (settings.renderer directory).render settings.context message := by
  simp only [render, bind_eq_ok, loadSettings_eq_ok_iff, Source.read_eq_ok_iff, mapM_eq_ok_iff]
  constructor
  · intro rendered
    obtain ⟨settings, loaded, message, holds, directory, named, same⟩ := rendered
    cases same
    exact ⟨settings, message, directory, ⟨loaded, holds, named⟩, rfl⟩
  · intro ready
    obtain ⟨settings, message, directory, ready, rfl⟩ := ready
    exact ⟨settings, ready.settings, message, ready.message, directory, ready.directory, rfl⟩

theorem render_eq_error_iff {problem : Problem} :
    render surroundings input options = .error problem ↔
      FirstProblem surroundings input options problem := by
  simp only [render, bind_eq_error, loadSettings_eq_ok_iff, loadSettings_eq_error_iff,
    Source.read_eq_ok_iff, Source.read_eq_error_iff, mapM_eq_error_iff]
  constructor
  · intro failed
    rcases failed with ⟨fault, faulty, rfl⟩ | ⟨settings, loaded, failed⟩
    · exact .settings faulty
    · rcases failed with fails | ⟨message, holds, failed⟩
      · exact .message loaded fails
      · rcases failed with ⟨path, asked, fails⟩ | ⟨directory, _, impossible⟩
        · exact .directory loaded holds asked fails
        · cases impossible
  · intro first
    cases first with
    | settings faulty => exact .inl ⟨_, faulty, rfl⟩
    | message loaded fails => exact .inr ⟨_, loaded, .inl fails⟩
    | directory loaded holds asked fails =>
        exact .inr ⟨_, loaded, .inr ⟨_, holds, .inl ⟨_, asked, fails⟩⟩⟩

/-! ## What is printed -/

/-- The services that the settings and the options of a run want. -/
structure Wanted (options : Options) (base : Settings) (directory : Option Directory)
    (renderer : Renderer) : Prop where
  resolver : renderer.resolver = directory.elim .none Directory.resolver
  highlighter : renderer.highlighter =
    if options.noHighlight = true ∨ base.highlight = false then .plain else .grammars
  emoji : renderer.emoji = base.emoji
  offset : renderer.offset.seconds = options.offsetMinutes.getD base.offsetMinutes * 60

theorem wanted_renderer {base settings : Settings}
    (loaded : Settings.load surroundings options.config (some options.overrides) = .ok settings)
    (overridden : settings = base.override options.overrides) (directory : Option Directory) :
    Wanted options base directory (settings.renderer directory) := by
  have clock := UtcOffset.seconds_of_ofMinutes? (Settings.valid_load loaded).ofMinutes?_eq
  subst overridden
  constructor
  · rfl
  · have highlight : (base.override options.overrides).highlight =
        (!options.noHighlight && base.highlight) := by
      simp only [Settings.override, Options.overrides]
      cases options.noHighlight <;> rfl
    rw [Settings.renderer, highlight]
    cases options.noHighlight <;> cases base.highlight <;> rfl
  · rfl
  · exact clock

theorem read_empty_names : ∃ refusal, Directory.read "" = .error refusal :=
  ⟨_, rfl⟩

/-- Standard input that was read for the message holds no names. -/
theorem not_ready_of_shared_input {path : String} (sharesFirst : options.source = .standardInput)
    (asked : options.entities = some path) (shares : Source.ofPath path = .standardInput)
    {settings : Settings} {message : List Node} {directory : Option Directory} :
    ¬ Ready surroundings input options settings message directory := by
  intro ready
  have named := ready.directory
  rw [asked] at named
  cases named with
  | some holds =>
      rw [shares, sharesFirst] at holds
      obtain ⟨text, given, read⟩ := holds
      cases given
      obtain ⟨refusal, refused⟩ := read_empty_names
      rw [refused] at read
      cases read

theorem run_eq {arguments : List String}
    (asked : request? surroundings.environment arguments = some (.render options)) :
    run surroundings input arguments = .ofLine (render surroundings input options) := by
  rw [run, asked]
  rfl

theorem run_of_ready {arguments : List String}
    (asked : request? surroundings.environment arguments = some (.render options))
    {settings : Settings} {message : List Node} {directory : Option Directory}
    (ready : Ready surroundings input options settings message directory) :
    run surroundings input arguments =
      .printed ((settings.renderer directory).render settings.context message ++ "\n") := by
  have rendered := render_eq_ok_iff.mpr ⟨settings, message, directory, ready, rfl⟩
  rw [run_eq asked, rendered]
  rfl

theorem run_of_firstProblem {arguments : List String}
    (asked : request? surroundings.environment arguments = some (.render options))
    {problem : Problem} (first : FirstProblem surroundings input options problem) :
    run surroundings input arguments = .failed problem := by
  rw [run_eq asked, render_eq_error_iff.mpr first]
  rfl

theorem ready_or_firstProblem :
    (∃ settings message directory, Ready surroundings input options settings message directory) ∨
      ∃ problem, FirstProblem surroundings input options problem := by
  cases rendered : render surroundings input options with
  | ok text =>
      obtain ⟨settings, message, directory, ready, _⟩ := render_eq_ok_iff.mp rendered
      exact .inl ⟨settings, message, directory, ready⟩
  | error problem => exact .inr ⟨problem, render_eq_error_iff.mp rendered⟩

/-- A disk with nothing but the name of a user. -/
def adasSurroundings : Surroundings where
  disk path :=
    if path = "names.json" then
      .ok "\x7b\x22users\x22:\x7b\x2242\x22:\x7b\x22username\x22:\x22ada\x22\x7d\x7d\x7d"
    else .error .missing
  working := ["ann", "home"]
  environment _ := none

end MessageMarkup.Command
