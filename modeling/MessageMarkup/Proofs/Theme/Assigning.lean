import MessageMarkup.Proofs.Assignments
import MessageMarkup.Theme

/-!
# Assigning colours

A theme lists its colours by name, and colours are assigned by name as well. Both name the same
colours: after any run of assignments each colour of the list is the one that was assigned to its
name last, and a name that is not in the list has no colour to assign.
-/

set_option autoImplicit false

namespace MessageMarkup.Theme

/-! ## One assignment -/

theorem get?_name (theme : Theme) (role : Role) :
    theme.get? role.name = some (theme.colour role) := by
  rw [get?, Role.ofName?_name]
  rfl

theorem colour_set_self {theme : Theme} {name : String} {role : Role} (named : role.name = name)
    (value : String) : (theme.set name value).colour role = value := by
  rw [set, ← named, Role.ofName?_name]
  exact theme.colour_setRole_self role value

theorem colour_set_of_ne {theme : Theme} {name : String} {role : Role} (different : role.name ≠ name)
    (value : String) : (theme.set name value).colour role = theme.colour role := by
  rw [set]
  split
  · rename_i other found
    have apart : role ≠ other := by
      intro same
      exact different (same ▸ Role.name_of_ofName? found)
    exact if_neg apart
  · rfl

/-! ## Runs of assignments -/

/-- A theme with several colours set, one after the other. -/
def setAll (theme : Theme) (colours : List (String × String)) : Theme :=
  colours.foldl (fun theme entry => theme.set entry.1 entry.2) theme

theorem colour_setAll (theme : Theme) (colours : List (String × String)) (role : Role) :
    (theme.setAll colours).colour role = (latest? colours role.name).getD (theme.colour role) := by
  have last : (theme.setAll colours).get? role.name =
      (latest? colours role.name).or (theme.get? role.name) := by
    apply foldl_eq_latest? (fun theme : Theme => theme.get? role.name)
    · intro theme value
      rw [get?_name, colour_set_self rfl]
    · intro theme entry different
      rw [get?_name, get?_name, colour_set_of_ne (Ne.symm different)]
  rw [get?_name, get?_name] at last
  exact Option.some.inj (last.trans Option.or_some)

theorem colour_setAll_of_not_mem {colours : List (String × String)} {role : Role} {theme : Theme}
    (absent : role.name ∉ colours.map Prod.fst) :
    (theme.setAll colours).colour role = theme.colour role := by
  rw [colour_setAll, latest?_eq_none_iff.mpr absent, Option.getD_none]

/-- A colour stays if no other is set for its role. -/
theorem colour_setAll_of_mem {colours : List (String × String)} {role : Role} {value : String}
    {theme : Theme} (distinct : (colours.map Prod.fst).Nodup) (member : (role.name, value) ∈ colours) :
    (theme.setAll colours).colour role = value := by
  have last : latest? colours role.name = some value := by
    obtain ⟨before, after, rfl⟩ := List.append_of_mem member
    rw [List.map_append, List.map_cons] at distinct
    obtain ⟨_, later, _⟩ := List.nodup_append.mp distinct
    exact latest?_eq_some_iff.mpr ⟨before, after, rfl, (List.nodup_cons.mp later).1⟩
  rw [colour_setAll, last, Option.getD_some]

/-- Two themes are the same if their colours are. -/
theorem eq_of_colour {theme other : Theme} (same : ∀ role, theme.colour role = other.colour role) :
    theme = other := by
  cases theme
  cases other
  exact congrArg Theme.mk (funext same)

/-- A run of assignments comes to the last one for each role. -/
theorem setAll_congr {theme : Theme} {colours others : List (String × String)}
    (same : ∀ role : Role, latest? colours role.name = latest? others role.name) :
    theme.setAll colours = theme.setAll others := by
  apply eq_of_colour
  intro role
  rw [colour_setAll, colour_setAll, same]

/-! ## The list of colours -/

theorem mem_names_iff {theme : Theme} {name : String} :
    name ∈ theme.entries.map Prod.fst ↔ ∃ role : Role, role.name = name := by
  rw [entries_eq_map, List.map_map, List.mem_map]
  constructor
  · rintro ⟨role, _, named⟩
    exact ⟨role, named⟩
  · rintro ⟨role, named⟩
    exact ⟨role, Role.mem_all role, named⟩

theorem get?_isSome_iff {theme : Theme} {name : String} :
    (theme.get? name).isSome = true ↔ name ∈ theme.entries.map Prod.fst := by
  rw [mem_names_iff, get?, Option.isSome_map, Option.isSome_iff_exists]
  simp only [Role.ofName?_eq_some_iff]

theorem mem_entries_iff {theme : Theme} {name colour : String} :
    (name, colour) ∈ theme.entries ↔ theme.get? name = some colour := by
  rw [entries_eq_map, List.mem_map, get?, Option.map_eq_some_iff]
  simp only [Prod.mk.injEq, Role.ofName?_eq_some_iff, Role.mem_all, true_and]

theorem set_of_not_mem {theme : Theme} {name : String} (colour : String)
    (unlisted : name ∉ theme.entries.map Prod.fst) : theme.set name colour = theme := by
  rw [set]
  split
  · rename_i role found
    exact absurd (mem_names_iff.mpr ⟨role, Role.name_of_ofName? found⟩) unlisted
  · rfl

theorem entries_setAll (theme : Theme) (colours : List (String × String)) :
    (theme.setAll colours).entries =
      theme.entries.map fun entry => (entry.1, (latest? colours entry.1).getD entry.2) := by
  rw [entries_eq_map, entries_eq_map, List.map_map]
  refine List.map_congr_left fun role _ => ?_
  rw [colour_setAll]
  rfl

/-- A theme has a colour by a name if and only if it lists the name, and it is the colour that is
listed. A run of assignments leaves the names and their order as they are and gives each of them the
colour that was assigned to it last. Names that are not listed are passed over, and assignments to
different names may be made in either order, also to declare the colours. -/
theorem assigned_as_listed (theme : Theme) (colours : List (String × String)) :
    theme.entries.map Prod.fst =
        ["background", "backgroundSecondary", "backgroundTertiary", "interactiveMuted", "link",
          "mentionBackground", "mentionForeground", "text", "textMuted"] ∧
      (∀ name, (theme.get? name).isSome = true ↔ name ∈ theme.entries.map Prod.fst) ∧
      (∀ name colour, (name, colour) ∈ theme.entries ↔ theme.get? name = some colour) ∧
      (theme.setAll colours).entries =
        theme.entries.map (fun entry => (entry.1, (latest? colours entry.1).getD entry.2)) ∧
      (∀ name colour, name ∉ theme.entries.map Prod.fst → theme.set name colour = theme) ∧
      (∀ before first second after, first.1 ≠ second.1 →
        theme.setAll (before ++ first :: second :: after) =
          theme.setAll (before ++ second :: first :: after)) ∧
      (theme.setAll colours).css = String.join (theme.entries.map fun entry =>
        "--" ++ entry.1 ++ ":" ++ (latest? colours entry.1).getD entry.2 ++ ";") ∧
      ∀ others, (∀ name ∈ theme.entries.map Prod.fst, latest? colours name = latest? others name) →
        (theme.setAll colours).css = (theme.setAll others).css := by
  refine ⟨rfl, fun _ => get?_isSome_iff, fun _ _ => mem_entries_iff, entries_setAll theme colours,
    ?_, ?_, ?_, ?_⟩
  · intro name colour unlisted
    exact set_of_not_mem colour unlisted
  · intro before first second after different
    exact setAll_congr fun role => latest?_swap before after different role.name
  · rw [css, entries_setAll, List.map_map]
    rfl
  · intro others same
    refine congrArg css (setAll_congr fun role => ?_)
    exact same role.name (mem_names_iff.mpr ⟨role, rfl⟩)

/-- Of the colours for links the last one counts. There is no role of accents. -/
theorem assigned_as_listed_links :
    let colours := [("link", "#fff"), ("accent", "#000"), ("text", "#111"), ("link", "#222")]
    ("link", "#222") ∈ (dark.setAll colours).entries ∧
      "accent" ∉ dark.entries.map Prod.fst ∧ dark.set "accent" "#000" = dark ∧
      "text" ≠ "link" ∧
      dark.setAll [("text", "#111"), ("link", "#222")] =
        dark.setAll [("link", "#222"), ("text", "#111")] ∧
      (dark.setAll colours).css = (dark.setAll [("text", "#111"), ("link", "#222")]).css := by
  intro colours
  obtain ⟨_, _, _, entries, unlisted, swap, _, css⟩ := assigned_as_listed dark colours
  have absent : "accent" ∉ dark.entries.map Prod.fst := by decide
  have different : "text" ≠ "link" := by decide
  refine ⟨?_, absent, unlisted "accent" "#000" absent, different,
    swap [] ("text", "#111") ("link", "#222") [] different, css _ ?_⟩
  · rw [entries]
    decide
  · decide

end MessageMarkup.Theme
