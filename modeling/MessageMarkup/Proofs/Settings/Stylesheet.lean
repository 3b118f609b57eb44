import MessageMarkup.Proofs.Settings.Loading
import MessageMarkup.Proofs.Text.Cutting

/-!
# Style sheets

The style sheet of loaded settings declares a colour for each role and nothing else, whatever
colours are set, so that the theme can be read back from it.
-/

set_option autoImplicit false

namespace MessageMarkup

/-! ## Reading declarations -/

namespace Theme

/-- The name and the value of a declaration, which a colon separates. -/
def nameAndValue (declaration : List Char) : String × String :=
  (String.ofList (declaration.takeWhile (· != ':')),
    String.ofList (declaration.dropWhile (· != ':')).tail)

/-- The names and values of declarations that each end in a semicolon. -/
def readCss (css : String) : List (String × String) :=
  (css.toList.splitOn ';').dropLast.map nameAndValue

theorem nameAndValue_append {name : String} (whole : ':' ∉ name.toList) (value : String) :
    nameAndValue (name.toList ++ ':' :: value.toList) = (name, value) := by
  obtain ⟨before, after⟩ := Text.cut_at whole value.toList
  rw [nameAndValue, before, after, List.tail_cons, String.ofList_toList, String.ofList_toList]

theorem readCss_declaration {name value : String} (whole : ':' ∉ name.toList)
    (one : ';' ∉ name.toList ++ value.toList) (rest : String) :
    readCss (declaration name value ++ rest) = ("--" ++ name, value) :: readCss rest := by
  have spelled : (declaration name value ++ rest).toList =
      (("--" ++ name).toList ++ ':' :: value.toList) ++ ';' :: rest.toList := by
    simp [declaration]
  have one : ';' ∉ ("--" ++ name).toList ++ ':' :: value.toList := by
    simpa using one
  have whole : ':' ∉ ("--" ++ name).toList := by
    simpa using whole
  rw [readCss, spelled, List.splitOn_append_cons_self_of_not_mem one,
    List.dropLast_cons_of_ne_nil (List.splitOn_ne_nil _ _), List.map_cons, nameAndValue_append whole]
  rfl

theorem readCss_join {entries : List (String × String)}
    (whole : ∀ entry ∈ entries, ':' ∉ entry.1.toList)
    (one : ∀ entry ∈ entries, ';' ∉ entry.1.toList ++ entry.2.toList) :
    readCss (String.join (entries.map fun entry => declaration entry.1 entry.2)) =
      entries.map fun entry => ("--" ++ entry.1, entry.2) := by
  induction entries with
  | nil => rfl
  | cons entry rest ih =>
      rw [List.forall_mem_cons] at whole one
      rw [List.map_cons, String.join_cons, readCss_declaration whole.1 one.1, ih whole.2 one.2]
      rfl

end Theme

/-! ## Colours -/

def Text.hexDigits : List Char :=
  "0123456789abcdefABCDEF".toList

theorem Text.lt_of_isHexDigit {char : Char} (isDigit : isHexDigit char = true) :
    char.toNat < 103 := by
  unfold isHexDigit hexDigit? at isDigit
  by_contra large
  have above : ∀ last : Char, last.toNat < 103 → ¬ char ≤ last := by
    intro last small below
    exact large (Nat.lt_of_le_of_lt below small)
  simp [above '9' (by decide), above 'f' (by decide), above 'F' (by decide)] at isDigit

theorem Text.isHexDigit_eq_true_iff {char : Char} : isHexDigit char = true ↔ char ∈ hexDigits := by
  constructor
  · intro isDigit
    -- The characters up to the last digit are few enough to be tried one by one.
    have each : ∀ code : Fin 103, isHexDigit (Char.ofNat code) = true →
        Char.ofNat code ∈ hexDigits := by
      decide
    have own := each ⟨char.toNat, lt_of_isHexDigit isDigit⟩
    rw [Char.ofNat_toNat] at own
    exact own isDigit
  · intro member
    have all : hexDigits.all isHexDigit = true := by decide
    exact List.all_eq_true.mp all char member

namespace Settings

/-- A mark and three or six hexadecimal digits. -/
def IsColour (text : String) : Prop :=
  ∃ digits, text.toList = '#' :: digits ∧ (digits.length = 3 ∨ digits.length = 6) ∧
    ∀ digit ∈ digits, digit ∈ Text.hexDigits

theorem isColour_eq_true_iff {text : String} : isColour text = true ↔ IsColour text := by
  unfold isColour IsColour
  split
  · rename_i digits spelled
    simp [spelled, Text.isHexDigit_eq_true_iff]
  · rename_i other
    constructor
    · intro impossible
      cases impossible
    · intro isColour
      obtain ⟨digits, spelled, _⟩ := isColour
      exact absurd spelled (other digits)

theorem IsColour.not_mem {text : String} (isColour : IsColour text) : ';' ∉ text.toList := by
  obtain ⟨digits, spelled, _, isHex⟩ := isColour
  rw [spelled]
  intro member
  rcases List.mem_cons.mp member with same | member
  · cases same
  · exact absurd (isHex ';' member) (by decide)

end Settings

namespace Theme

theorem isColour_dark (role : Role) : Settings.IsColour (dark.colour role) := by
  rw [← Settings.isColour_eq_true_iff]
  cases role <;> decide

theorem readCss_css {theme : Theme} (colours : ∀ role, Settings.IsColour (theme.colour role)) :
    readCss theme.css = Role.all.map fun role => ("--" ++ role.name, theme.colour role) := by
  have names : ∀ role : Role, ':' ∉ role.name.toList ∧ ';' ∉ role.name.toList := by
    intro role
    cases role <;> decide
  rw [css, entries_eq_map, readCss_join, List.map_map]
  · rfl
  · intro entry member
    obtain ⟨role, _, rfl⟩ := List.mem_map.mp member
    exact (names role).1
  · intro entry member
    obtain ⟨role, _, rfl⟩ := List.mem_map.mp member
    rw [List.mem_append, not_or]
    exact ⟨(names role).2, (colours role).not_mem⟩

/-- Themes of colours differ if their style sheets do not. -/
theorem css_inj {theme theme' : Theme} (colours : ∀ role, Settings.IsColour (theme.colour role))
    (colours' : ∀ role, Settings.IsColour (theme'.colour role)) :
    theme.css = theme'.css ↔ theme = theme' := by
  constructor
  · intro same
    -- What is read from one sheet is read from the other, and it tells the colours of both.
    have read := congrArg readCss same
    rw [readCss_css colours, readCss_css colours', List.map_eq_map_iff] at read
    have each : theme.colour = theme'.colour := by
      funext role
      exact (Prod.mk.inj (read role (Role.mem_all role))).2
    cases theme
    cases theme'
    exact congrArg Theme.mk each
  · intro same
    rw [same]

end Theme

/-! ## Loading -/

namespace Settings

/-- The colour that is set for a role, or else the dark one. -/
def colour (settings : Settings) (role : Theme.Role) : String :=
  (settings.colours.lookup role.name).getD (Theme.dark.colour role)

theorem colour_mem_or_eq_dark (settings : Settings) (role : Theme.Role) :
    (role.name, settings.colour role) ∈ settings.colours ∨
      role.name ∉ settings.colours.map Prod.fst ∧
        settings.colour role = Theme.dark.colour role := by
  unfold colour
  cases found : settings.colours.lookup role.name with
  | none =>
      refine .inr ⟨?_, rfl⟩
      intro member
      obtain ⟨entry, member, same⟩ := List.mem_map.mp member
      have different := List.lookup_eq_none_iff.mp found entry member
      exact bne_iff_ne.mp different same.symm
  | some value =>
      obtain ⟨before, after, split, _⟩ := List.lookup_eq_some_iff.mp found
      rw [split]
      exact .inl (List.mem_append_cons_self)

namespace Valid

variable {settings : Settings}

theorem colour_theme (valid : settings.Valid) (role : Theme.Role) :
    settings.theme.colour role = settings.colour role := by
  rcases settings.colour_mem_or_eq_dark role with member | ⟨absent, isDark⟩
  · exact Theme.colour_setAll_of_mem valid.distinct member
  · rw [isDark]
    exact Theme.colour_setAll_of_not_mem absent

theorem isColour (valid : settings.Valid) (role : Theme.Role) : IsColour (settings.colour role) := by
  rcases settings.colour_mem_or_eq_dark role with member | ⟨_, isDark⟩
  · obtain ⟨_, _, _, colours⟩ := flaw?_eq_none_iff.mp valid.flawless
    exact isColour_eq_true_iff.mp (colourFlaw?_eq_none_iff.mp (colours _ member)).2
  · rw [isDark]
    exact Theme.isColour_dark role

theorem isColour_theme (valid : settings.Valid) (role : Theme.Role) :
    IsColour (settings.theme.colour role) := by
  rw [valid.colour_theme]
  exact valid.isColour role

theorem css_theme (valid : settings.Valid) :
    settings.theme.css = String.join (Theme.Role.all.map fun role =>
      "--" ++ role.name ++ ":" ++ settings.colour role ++ ";") := by
  rw [Theme.css, Theme.entries_eq_map, List.map_map]
  refine congrArg String.join (List.map_congr_left fun role _ => ?_)
  exact congrArg (Theme.declaration role.name) (valid.colour_theme role)

theorem readCss_theme (valid : settings.Valid) :
    Theme.readCss settings.theme.css =
      Theme.Role.all.map fun role => ("--" ++ role.name, settings.colour role) := by
  rw [Theme.readCss_css valid.isColour_theme]
  simp only [valid.colour_theme]

end Valid

/-- The style sheet of loaded settings declares the nine colours, of which those that are set are
the ones that are set. It has one reading, so that style sheets are as different as themes. -/
theorem css_of_load {surroundings : Surroundings} {path : Option String}
    {overrides : Option Overrides} {settings : Settings}
    (loaded : load surroundings path overrides = .ok settings) :
    settings.theme.css = String.join (Theme.Role.all.map fun role =>
        "--" ++ role.name ++ ":" ++ settings.colour role ++ ";") ∧
      (∀ role, IsColour (settings.colour role)) ∧
      (∀ entry ∈ settings.colours, ∃ role : Theme.Role,
        role.name = entry.1 ∧ settings.colour role = entry.2) ∧
      Theme.readCss settings.theme.css =
        Theme.Role.all.map (fun role => ("--" ++ role.name, settings.colour role)) ∧
      (Theme.readCss settings.theme.css).map Prod.fst =
        ["--background", "--backgroundSecondary", "--backgroundTertiary", "--interactiveMuted",
          "--link", "--mentionBackground", "--mentionForeground", "--text", "--textMuted"] ∧
      ∀ surroundings' path' overrides' settings',
        load surroundings' path' overrides' = .ok settings' →
        (settings.theme.css = settings'.theme.css ↔ settings.theme = settings'.theme) := by
  have valid := valid_load loaded
  refine ⟨valid.css_theme, valid.isColour, ?_, valid.readCss_theme, ?_, ?_⟩
  · intro entry member
    obtain ⟨role, named, own⟩ := valid.exists_role member
    exact ⟨role, named, valid.colour_theme role ▸ own⟩
  · rw [valid.readCss_theme]
    rfl
  · intro surroundings' path' overrides' settings' loaded'
    have valid' := valid_load loaded'
    exact Theme.css_inj valid.isColour_theme valid'.isColour_theme

/-- A set colour stands among the dark ones, and no style sheet without it is the same. -/
theorem css_of_load_link :
    load annsSurroundings none (some { offsetMinutes := some (-1439) }) = .ok annsSettings ∧
      IsColour (annsSettings.colour .link) ∧
      annsSettings.theme.css =
        "--background:#313338;--backgroundSecondary:#2b2d31;--backgroundTertiary:#1e1f22;" ++
        "--interactiveMuted:#4e5058;--link:#0af;--mentionBackground:#3c4270;" ++
        "--mentionForeground:#c9cdfb;--text:#dbdee1;--textMuted:#949ba4;" ∧
      annsSettings.theme.css ≠ ({} : Settings).theme.css := by
  have loaded : load annsSurroundings none (some { offsetMinutes := some (-1439) }) =
      .ok annsSettings := by
    decide +kernel
  have standard : load { annsSurroundings with disk := fun _ => .error .missing } none none =
      .ok {} := by
    decide +kernel
  obtain ⟨css, colours, _, _, _, differ⟩ := css_of_load loaded
  refine ⟨loaded, colours .link, css.trans (by decide +kernel), ?_⟩
  rw [ne_eq, differ _ _ _ _ standard]
  intro same
  have link : annsSettings.theme.colour .link = ({} : Settings).theme.colour .link := by
    rw [same]
  exact absurd link (by decide +kernel)

end Settings

end MessageMarkup
