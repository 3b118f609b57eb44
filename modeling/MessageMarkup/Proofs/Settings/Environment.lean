import MessageMarkup.Proofs.Settings.FromFile
import MessageMarkup.Proofs.Text.Cutting

/-!
# Variables in addresses

An address that is made of plain text, of variables and of variables with a default stands for
these parts one after the other. Loading fails at such an address exactly if it refers to a
variable without a value or a default; otherwise the settings are those with the text filled in.
Nothing else in the settings depends on the environment.
-/

set_option autoImplicit false

namespace MessageMarkup.Settings

/-! ## Templates -/

def IsName (name : String) : Prop :=
  name ≠ "" ∧ name.toList.all isNameChar = true

instance (name : String) : Decidable (IsName name) :=
  inferInstanceAs (Decidable (_ ∧ _))

/-- A part of an address. That it is plain is part of it, so that parts stay apart. -/
inductive Piece where
  | literal (text : String) (plain : '$' ∉ text.toList)
  | named (name : String) (isName : IsName name)
  | fallback (name : String) (isName : IsName name) (default : String)
      (closed : '$' ∉ default.toList ∧ '\x7d' ∉ default.toList)

def Piece.text : Piece → String
  | .literal text _ => text
  | .named name _ => "$\x7b" ++ name ++ "\x7d"
  | .fallback name _ default _ => "$\x7b" ++ name ++ ":-" ++ default ++ "\x7d"

/-- What stands for a part, if there is a value or a default. -/
def Piece.value? (environment : Environment) : Piece → Option String
  | .literal text _ => some text
  | .named name _ => environment name
  | .fallback name _ default _ => some ((environment name).getD default)

abbrev Template := List Piece

namespace Template

def text (template : Template) : String :=
  String.join (template.map Piece.text)

def filled (environment : Environment) (template : Template) : String :=
  String.join (template.map fun piece => (piece.value? environment).getD "")

def Complete (environment : Environment) (template : Template) : Prop :=
  ∀ piece ∈ template, (piece.value? environment).isSome = true

theorem not_complete_iff {environment : Environment} {template : Template} :
    ¬ template.Complete environment ↔
      ∃ name isName, Piece.named name isName ∈ template ∧ environment name = none := by
  constructor
  · intro incomplete
    simp only [Complete, not_forall, Bool.not_eq_true, Option.isSome_eq_false_iff,
      Option.isNone_iff_eq_none] at incomplete
    obtain ⟨piece, member, lacks⟩ := incomplete
    cases piece with
    | literal text plain => cases lacks
    | named name isName => exact ⟨name, isName, member, lacks⟩
    | fallback name isName default closed => cases lacks
  · intro exists_ complete
    obtain ⟨name, isName, member, lacks⟩ := exists_
    have has := complete _ member
    rw [Piece.value?, lacks] at has
    cases has

theorem complete_cons {environment : Environment} {piece : Piece} {rest : Template} :
    Complete environment (piece :: rest) ↔
      (piece.value? environment).isSome = true ∧ Complete environment rest :=
  List.forall_mem_cons

theorem toList_text_cons (piece : Piece) (rest : Template) :
    (text (piece :: rest)).toList = piece.text.toList ++ (text rest).toList := by
  rw [text, List.map_cons, String.join_cons, String.toList_append]
  rfl

theorem toList_filled_cons {environment : Environment} {piece : Piece} {value : String}
    (has : piece.value? environment = some value) (rest : Template) :
    (filled environment (piece :: rest)).toList = value.toList ++ (filled environment rest).toList := by
  rw [filled, List.map_cons, String.join_cons, String.toList_append, has]
  rfl

end Template

/-! ## Expanding templates -/

theorem expandChars_drop (environment : Environment) (skip : Nat) (chars : List Char) :
    expandChars environment skip chars = expandChars environment 0 (chars.drop skip) := by
  induction skip generalizing chars with
  | zero => rfl
  | succ skip ih =>
      cases chars with
      | nil => rfl
      | cons char rest => exact ih rest

theorem expandChars_plain (environment : Environment) {plain : List Char} (absent : '$' ∉ plain)
    (rest : List Char) :
    expandChars environment 0 (plain ++ rest) =
      (plain ++ ·) <$> expandChars environment 0 rest := by
  induction plain with
  | nil => exact (id_map _).symm
  | cons char plain ih =>
      rw [List.mem_cons, not_or] at absent
      obtain ⟨other, absent⟩ := absent
      rw [List.cons_append, expandChars, ih absent]
      · cases expandChars environment 0 rest <;> rfl
      · exact Ne.symm other

theorem splitFallback_none {name : List Char} (whole : ':' ∉ name) :
    splitFallback name = (name, none) := by
  induction name with
  | nil => rfl
  | cons char name ih =>
      rw [List.mem_cons, not_or] at whole
      obtain ⟨other, whole⟩ := whole
      rw [splitFallback, ih whole]
      intro rest same
      exact absurd same.symm other

theorem splitFallback_some {name : List Char} (whole : ':' ∉ name) (default : List Char) :
    splitFallback (name ++ ':' :: '-' :: default) = (name, some default) := by
  induction name with
  | nil => rfl
  | cons char name ih =>
      rw [List.mem_cons, not_or] at whole
      obtain ⟨other, whole⟩ := whole
      rw [List.cons_append, splitFallback, ih whole]
      intro rest same
      exact absurd same.symm other

theorem reference_braced {body : List Char} (inside : '\x7d' ∉ body) (rest : List Char) :
    reference ('\x7b' :: (body ++ '\x7d' :: rest)) = (braced body, body.length + 2) := by
  have taken := (Text.cut_at inside rest).1
  simp [reference, taken]

theorem expandChars_braced (environment : Environment) {body : List Char} (inside : '\x7d' ∉ body)
    (rest : List Char) :
    expandChars environment 0 ('$' :: '\x7b' :: (body ++ '\x7d' :: rest)) = (do
      let value ← (braced body).value environment
      return value ++ (← expandChars environment 0 rest)) := by
  rw [expandChars, reference_braced inside, expandChars_drop]
  have after : ('\x7b' :: (body ++ '\x7d' :: rest)).drop (body.length + 2) = rest := by
    simp
  rw [after]


theorem IsName.not_mem {name : String} (isName : IsName name) {char : Char}
    (other : isNameChar char = false) : char ∉ name.toList := by
  intro member
  have inside := List.all_eq_true.mp isName.2 char member
  rw [other] at inside
  cases inside

theorem IsName.braced {name : String} (isName : IsName name) :
    braced name.toList = .named name.toList none := by
  have colon : isNameChar ':' = false := by decide +kernel
  rw [Settings.braced, splitFallback_none (isName.not_mem colon)]
  cases name.toList <;> rfl

theorem IsName.braced_default {name : String} (isName : IsName name) (default : List Char) :
    Settings.braced (name.toList ++ ':' :: '-' :: default) =
      .named name.toList (some default) := by
  have colon : isNameChar ':' = false := by decide +kernel
  rw [Settings.braced, splitFallback_some (isName.not_mem colon)]
  cases front : name.toList with
  | nil => exact absurd (String.toList_eq_nil_iff.mp front) isName.1
  | cons first others => rfl

namespace Piece

def read (environment : Environment) : Piece → Except Unset (List Char)
  | literal text _ => .ok text.toList
  | named name _ => (Reference.named name.toList none).value environment
  | fallback name _ default _ =>
      (Reference.named name.toList (some default.toList)).value environment

theorem expandChars_append (environment : Environment) (piece : Piece) (rest : List Char) :
    expandChars environment 0 (piece.text.toList ++ rest) = (do
      let value ← piece.read environment
      return value ++ (← expandChars environment 0 rest)) := by
  have brace : isNameChar '\x7d' = false := by decide +kernel
  cases piece with
  | literal text plain => exact expandChars_plain environment plain rest
  | named name isName =>
      have spelled : (named name isName).text.toList ++ rest =
          '$' :: '\x7b' :: (name.toList ++ '\x7d' :: rest) := by
        simp [text]
      rw [spelled, expandChars_braced environment (isName.not_mem brace), isName.braced]
      rfl
  | fallback name isName default closed =>
      have inside : '\x7d' ∉ name.toList ++ ':' :: '-' :: default.toList := by
        simp [isName.not_mem brace, closed.2]
      have spelled : (fallback name isName default closed).text.toList ++ rest =
          '$' :: '\x7b' :: ((name.toList ++ ':' :: '-' :: default.toList) ++ '\x7d' :: rest) := by
        simp [text]
      rw [spelled, expandChars_braced environment inside, isName.braced_default]
      rfl

theorem read_eq_ok {environment : Environment} {piece : Piece} {value : String}
    (has : piece.value? environment = some value) : piece.read environment = .ok value.toList := by
  cases piece with
  | literal text plain =>
      cases has
      rfl
  | named name isName =>
      have set : environment name = some value := has
      simp [read, Reference.value, set]
  | fallback name isName default closed =>
      cases has
      cases set : environment name <;> simp [read, Reference.value, set]

theorem read_eq_error {environment : Environment} {piece : Piece}
    (lacks : piece.value? environment = none) : ∃ cause, piece.read environment = .error cause := by
  cases piece with
  | literal text plain => cases lacks
  | named name isName =>
      have unset : environment name = none := lacks
      exact ⟨⟨name⟩, by simp [read, Reference.value, unset]⟩
  | fallback name isName default closed => cases lacks

end Piece

namespace Template

theorem expandChars_text {environment : Environment} {template : Template}
    (complete : template.Complete environment) :
    expandChars environment 0 template.text.toList = .ok (template.filled environment).toList := by
  induction template with
  | nil => rfl
  | cons piece rest ih =>
      obtain ⟨has, complete⟩ := complete_cons.mp complete
      obtain ⟨value, has⟩ := Option.isSome_iff_exists.mp has
      rw [toList_text_cons, Piece.expandChars_append, Piece.read_eq_ok has, ih complete,
        toList_filled_cons has]
      rfl

theorem expand_text {environment : Environment} {template : Template}
    (complete : template.Complete environment) :
    expand environment template.text = .ok (template.filled environment) := by
  rw [expand, expandChars_text complete]
  exact congrArg Except.ok String.ofList_toList

theorem expandChars_text_eq_error {environment : Environment} {template : Template}
    (incomplete : ¬ template.Complete environment) :
    ∃ cause, expandChars environment 0 template.text.toList = .error cause := by
  induction template with
  | nil => exact absurd (List.forall_mem_nil _) incomplete
  | cons piece rest ih =>
      rw [toList_text_cons, Piece.expandChars_append]
      cases has : piece.value? environment with
      | none =>
          obtain ⟨cause, failed⟩ := Piece.read_eq_error has
          exact ⟨cause, by rw [failed]; rfl⟩
      | some value =>
          -- This part has a value, so it is a later one that has none.
          have later : ¬ Complete environment rest := by
            intro complete
            exact incomplete (complete_cons.mpr ⟨by rw [has]; rfl, complete⟩)
          obtain ⟨cause, failed⟩ := ih later
          exact ⟨cause, by rw [Piece.read_eq_ok has, failed]; rfl⟩

theorem expand_text_eq_error {environment : Environment} {template : Template} :
    (∃ cause, expand environment template.text = .error cause) ↔ ¬ template.Complete environment := by
  constructor
  · intro failed complete
    obtain ⟨cause, failed⟩ := failed
    rw [expand_text complete] at failed
    cases failed
  · intro incomplete
    obtain ⟨cause, failed⟩ := expandChars_text_eq_error incomplete
    exact ⟨cause, by rw [expand, failed]; rfl⟩

end Template

/-! ## Loading -/

def Base.other : Base → Base
  | .custom => .unicode
  | .unicode => .custom

/-- Both bases, one of them and then the other. -/
def Base.bases : (base : Base) → (own other : String) → Emoji.Bases
  | .custom, own, other => { custom := own, unicode := other }
  | .unicode, own, other => { custom := other, unicode := own }

theorem Base.address_bases (base : Base) (own other : String) :
    base.address (base.bases own other) = own := by
  cases base <;> rfl

theorem Base.address_other_bases (base : Base) (own other : String) :
    base.other.address (base.bases own other) = other := by
  cases base <;> rfl

theorem Base.forall_of_other (base : Base) {motive : Base → Prop} (own : motive base)
    (other : motive base.other) (base' : Base) : motive base' := by
  cases base with
  | custom =>
      cases base' with
      | custom => exact own
      | unicode => exact other
  | unicode =>
      cases base' with
      | custom => exact other
      | unicode => exact own

variable {surroundings : Surroundings} {path : Option String} {file : String} {written : Settings}

theorem LoadsFrom.relocate (source : LoadsFrom surroundings path file written)
    (environment : Environment) : LoadsFrom { surroundings with environment } path file written := by
  constructor
  · exact source.located
  · exact source.spelled

theorem LoadsFrom.unset_iff (source : LoadsFrom surroundings path file written)
    (overrides : Option Overrides) {base : Base} {template : Template}
    (spelled : base.address written.emoji = template.text) :
    (∃ cause, load surroundings path overrides = .error (.unset base cause)) ↔
      ¬ template.Complete surroundings.environment ∧
        (base = .unicode → ∀ cause,
          load surroundings path overrides ≠ .error (.unset .custom cause)) := by
  simp only [source.load_eq_unset, ne_eq, expandBases_eq_unset, spelled]
  rw [← Template.expand_text_eq_error, exists_and_right]
  refine and_congr_right fun _ => ?_
  cases base with
  | custom => simp
  | unicode =>
      cases custom : expand surroundings.environment written.emoji.custom <;>
        simp [Base.address, custom]

theorem LoadsFrom.load_of_complete (source : LoadsFrom surroundings path file written)
    (overrides : Option Overrides) {base : Base} {template : Template}
    (spelled : base.address written.emoji = template.text)
    (complete : template.Complete surroundings.environment) :
    load surroundings path overrides = (do
      let other ← expandBase surroundings.environment base.other
        (base.other.address written.emoji)
      let emoji := base.bases (template.filled surroundings.environment) other
      accept overrides { written with emoji, path := some file }) := by
  have own := Template.expand_text complete
  rw [← spelled] at own
  cases other : expand surroundings.environment (base.other.address written.emoji) with
  | error cause =>
      -- Whichever base comes first, this one does not fail and the other one is named.
      have failed : load surroundings path overrides = .error (.unset base.other cause) := by
        rw [source.load_eq_unset, expandBases_eq_unset]
        refine ⟨other, ?_⟩
        intro isUnicode
        cases base with
        | custom => exact ⟨_, own⟩
        | unicode => cases isUnicode
      rw [failed, expandBase, other]
      rfl
  | ok address =>
      rw [expandBase, other]
      refine source.load_of_expanded overrides (base.forall_of_other ?_ ?_)
      · rw [Base.address_bases]
        exact own
      · rw [Base.address_other_bases]
        exact other

theorem LoadsFrom.complete_of_load (source : LoadsFrom surroundings path file written)
    {overrides : Option Overrides} {base : Base} {template : Template} {settings : Settings}
    (spelled : base.address written.emoji = template.text)
    (loaded : load surroundings path overrides = .ok settings) :
    template.Complete surroundings.environment ∧
      base.address settings.emoji = template.filled surroundings.environment := by
  obtain ⟨bases, expanded, rfl⟩ := source.exists_bases loaded
  have own := expanded base
  rw [spelled] at own
  have complete : template.Complete surroundings.environment := by
    by_contra incomplete
    obtain ⟨cause, failed⟩ := Template.expand_text_eq_error.mpr incomplete
    rw [failed] at own
    cases own
  rw [Template.expand_text complete] at own
  exact ⟨complete, (Except.ok.inj own).symm⟩

theorem LoadsFrom.eq_of_environment (source : LoadsFrom surroundings path file written)
    {overrides : Option Overrides} {environment : Environment} {settings settings' : Settings}
    (loaded : load surroundings path overrides = .ok settings)
    (loaded' : load { surroundings with environment } path overrides = .ok settings') :
    settings' = { settings with emoji := settings'.emoji } := by
  obtain ⟨bases, _, rfl⟩ := source.exists_bases loaded
  obtain ⟨bases', _, rfl⟩ := (source.relocate environment).exists_bases loaded'
  rfl

/-- An address of a file is used and checked with its variables filled in, if there is a value
or a default for each of them. Loading fails at this address if there is none for one of them,
unless it fails at the address before. -/
theorem load_template (source : LoadsFrom surroundings path file written)
    (overrides : Option Overrides) {base : Base} {template : Template}
    (spelled : base.address written.emoji = template.text) :
    (template.Complete surroundings.environment →
      load surroundings path overrides = (do
        let other ← expandBase surroundings.environment base.other
          (base.other.address written.emoji)
        let emoji := base.bases (template.filled surroundings.environment) other
        accept overrides { written with emoji, path := some file })) ∧
      (∀ settings, load surroundings path overrides = .ok settings →
        base.address settings.emoji = template.filled surroundings.environment) ∧
      ((∃ cause, load surroundings path overrides = .error (.unset base cause)) ↔
        (∃ name isName, Piece.named name isName ∈ template ∧
          surroundings.environment name = none) ∧
        (base = .unicode → ∀ cause,
          load surroundings path overrides ≠ .error (.unset .custom cause))) ∧
      ∀ environment settings settings', load surroundings path overrides = .ok settings →
        load { surroundings with environment } path overrides = .ok settings' →
        settings' = { settings with emoji := settings'.emoji } := by
  refine ⟨source.load_of_complete overrides spelled, ?_, ?_, ?_⟩
  · intro settings loaded
    exact (source.complete_of_load spelled loaded).2
  · rw [source.unset_iff overrides spelled, Template.not_complete_iff]
  · intro environment settings settings' loaded loaded'
    exact source.eq_of_environment loaded loaded'

/-- A disk with a settings file that refers to three variables. The first has no value, and the
value of the last is empty. -/
def mirrorSurroundings : Surroundings where
  disk path :=
    if path = "mirror.toml" then
      .ok "emoji.custom_base_url = '$\x7bSCHEME:-https\x7d://$\x7bHOST\x7d/$\x7bFOLDER\x7d'"
    else .error .missing
  working := []
  environment name :=
    if name = "HOST" then some "cdn" else if name = "FOLDER" then some "" else none

def mirrorTemplate : Template :=
  [.fallback "SCHEME" (by decide +kernel) "https" (by decide), .literal "://" (by decide),
    .named "HOST" (by decide +kernel), .literal "/" (by decide),
    .named "FOLDER" (by decide +kernel)]

def mirrorSettings : Settings where
  emoji := { custom := mirrorTemplate.text, unicode := Emoji.Bases.standard.unicode }

theorem mirrorSource :
    LoadsFrom mirrorSurroundings (some "mirror.toml") "mirror.toml" mirrorSettings := by
  constructor
  · rfl
  · exact ⟨_, rfl, by decide +kernel⟩

/-- The default, the value and the empty value are filled in; without a host, loading fails. -/
theorem load_template_mirror :
    load mirrorSurroundings (some "mirror.toml") none =
        .ok { mirrorSettings with
          emoji := Base.custom.bases "https://cdn/" Emoji.Bases.standard.unicode
          path := some "mirror.toml" } ∧
      ∃ cause, load { mirrorSurroundings with environment := fun _ => none }
        (some "mirror.toml") none = .error (.unset .custom cause) := by
  have spelled : Base.custom.address mirrorSettings.emoji = mirrorTemplate.text := rfl
  constructor
  · have complete : mirrorTemplate.Complete mirrorSurroundings.environment := by
      unfold Template.Complete
      decide
    rw [(load_template mirrorSource none spelled).1 complete]
    decide +kernel
  · have source := mirrorSource.relocate fun _ => none
    have host : ∃ name isName, Piece.named name isName ∈ mirrorTemplate ∧
        (none : Option String) = none :=
      ⟨"HOST", by decide +kernel, .tail _ (.tail _ (.head _)), rfl⟩
    exact (load_template source none spelled).2.2.1.mpr ⟨host, fun impossible => nomatch impossible⟩

end MessageMarkup.Settings
