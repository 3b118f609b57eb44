import Mathlib.Data.List.Basic
import MessageMarkup.Emoji
import MessageMarkup.Proofs.Text.Hexadecimal

/-!
# Addresses of emoji images

The address of an image tells the emoji: the code points of a Unicode emoji, as far as they count,
or the id of a custom emoji and whether it is animated.
-/

set_option autoImplicit false

namespace MessageMarkup.Emoji

/-! ## Two kinds of emoji -/

def IsUnicode (emoji : Emoji) : Prop :=
  emoji.id = none ∨ emoji.id = some ""

def IsCustom (emoji : Emoji) : Prop :=
  ∃ id, emoji.id = some id ∧ id ≠ ""

theorem customId?_unicode {emoji : Emoji} (kind : emoji.IsUnicode) : emoji.customId? = none := by
  cases kind with
  | inl absent => rw [customId?, absent, Option.filter_none]
  | inr empty =>
      rw [customId?, empty]
      rfl

theorem customId?_custom {emoji : Emoji} (kind : emoji.IsCustom) : emoji.customId? = emoji.id := by
  obtain ⟨id, given, nonempty⟩ := kind
  rw [customId?, given]
  exact Option.filter_some_pos (by simpa using nonempty)

/-! ## Code points -/

def codePoints (name : String) : List Nat :=
  name.toList.map Char.toNat

/-- The code points that count: U+FE0F is left out, but only if U+200D does not occur. -/
def normalized (points : List Nat) : List Nat :=
  if 0x200d ∈ points then points else points.filter (· ≠ 0xfe0f)

/-- The code points of which a text is made: hexadecimal numbers with hyphens between them. A text
without characters is made of none. -/
def readAsset (asset : String) : Option (List Nat) :=
  if asset = "" then some [] else (asset.toList.splitOn '-').mapM Text.hexadecimal?

def assetChars : List Char :=
  "0123456789abcdef-".toList

theorem map_significant (chars : List Char) :
    (significant chars).map Char.toNat = normalized (chars.map Char.toNat) := by
  have injective : Function.Injective Char.toNat := fun _ _ => Char.toNat_inj.mp
  have joined : joiner ∈ chars ↔ 0x200d ∈ chars.map Char.toNat :=
    (List.mem_map_of_injective injective).symm
  have selects (char : Char) : (char != selector) = decide (char.toNat ≠ 0xfe0f) := by
    rw [Bool.eq_iff_iff, bne_iff_ne, decide_eq_true_iff]
    exact not_congr Char.toNat_inj.symm
  by_cases isJoined : joiner ∈ chars
  · rw [significant, if_pos (List.contains_iff_mem.mpr isJoined), normalized,
      if_pos (joined.mp isJoined)]
  · rw [significant, if_neg (mt List.contains_iff_mem.mp isJoined), normalized,
      if_neg (mt joined.mpr isJoined), List.filter_map]
    congr 2
    funext char
    exact selects char

theorem toList_assetName (name : String) :
    (assetName name).toList = ['-'].intercalate ((normalized (codePoints name)).map (Nat.toDigits 16)) := by
  have digits (char : Char) : (Text.hexadecimal char.toNat).toList = Nat.toDigits 16 char.toNat :=
    String.toList_ofList
  rw [codePoints, ← map_significant, assetName, String.toList_intercalate, List.map_map, List.map_map]
  congr 2
  funext char
  exact digits char

theorem hyphen_not_mem_toDigits (value : Nat) : '-' ∉ Nat.toDigits 16 value := by
  intro member
  exact absurd (Text.mem_of_mem_toDigits '-' member) (by decide)

theorem mem_assetChars_of_mem_intercalate (points : List Nat) :
    ∀ char ∈ ['-'].intercalate (points.map (Nat.toDigits 16)), char ∈ assetChars := by
  have digits (point : Nat) : ∀ char ∈ Nat.toDigits 16 point, char ∈ assetChars := by
    intro char member
    have own : Text.lowercaseHexDigits ⊆ assetChars := by decide
    exact own (Text.mem_of_mem_toDigits char member)
  induction points with
  | nil => simp
  | cons first rest ih =>
      cases rest with
      | nil =>
          simpa using digits first
      | cons second rest =>
          rw [List.map_cons, List.map_cons, List.intercalate_cons_cons, ← List.map_cons,
            List.forall_mem_append, List.forall_mem_append]
          exact ⟨⟨digits first, List.forall_mem_singleton.mpr (by decide)⟩, ih⟩

theorem mapM_hexadecimal? (points : List Nat) :
    (points.map (Nat.toDigits 16)).mapM Text.hexadecimal? = some points := by
  induction points with
  | nil => rfl
  | cons first rest ih => simp [Text.hexadecimal?_toDigits, ih]

theorem readAsset_assetName (name : String) :
    readAsset (assetName name) = some (normalized (codePoints name)) := by
  have spelled := toList_assetName name
  generalize normalized (codePoints name) = points at spelled
  cases points with
  | nil =>
      have empty : assetName name = "" := String.toList_inj.mp spelled
      rw [readAsset, if_pos empty]
  | cons first rest =>
      have pieces : (assetName name).toList.splitOn '-' = (first :: rest).map (Nat.toDigits 16) := by
        rw [spelled]
        apply List.splitOn_intercalate
        · rw [List.forall_mem_map]
          exact fun point _ => hyphen_not_mem_toDigits point
        · exact List.cons_ne_nil _ _
      have nonempty : assetName name ≠ "" := by
        intro empty
        rw [empty] at pieces
        have digits : [] = Nat.toDigits 16 first := List.head_eq_of_cons_eq pieces
        exact Nat.toDigits_ne_nil digits.symm
      rw [readAsset, if_neg nonempty, pieces, mapM_hexadecimal?]

/-! ## Addresses -/

theorem url_unicode (bases : Bases) {emoji : Emoji} (kind : emoji.IsUnicode) :
    bases.url emoji = bases.unicode ++ assetName emoji.name ++ ".svg" := by
  rw [Bases.url, customId?_unicode kind]

theorem url_unicode_inj {bases : Bases} {one other : Emoji} (kind : one.IsUnicode)
    (otherKind : other.IsUnicode) :
    bases.url one = bases.url other ↔
      normalized (codePoints one.name) = normalized (codePoints other.name) := by
  rw [url_unicode bases kind, url_unicode bases otherKind, String.append_left_inj,
    String.append_right_inj]
  constructor
  · intro same
    rw [← Option.some_inj, ← readAsset_assetName, ← readAsset_assetName, same]
  · intro same
    rw [← String.toList_inj, toList_assetName, toList_assetName, same]

/-- What the address of a custom emoji ends in. -/
def extension (animated : Bool) : String :=
  if animated then ".gif" else ".png"

theorem append_extension_inj {id otherId : String} {animated otherAnimated : Bool} :
    id ++ extension animated = otherId ++ extension otherAnimated ↔
      id = otherId ∧ animated = otherAnimated := by
  constructor
  · intro same
    have length (animated : Bool) : (extension animated).toList.length = 4 := by
      cases animated <;> rfl
    have chars := congrArg String.toList same
    rw [String.toList_append, String.toList_append] at chars
    obtain ⟨sameId, sameEnd⟩ := List.append_inj' chars ((length _).trans (length _).symm)
    refine ⟨String.toList_inj.mp sameId, ?_⟩
    cases animated <;> cases otherAnimated <;> simp [extension] at sameEnd ⊢
  · rintro ⟨rfl, rfl⟩
    rfl

theorem url_custom_inj {bases : Bases} {one other : Emoji} (kind : one.IsCustom)
    (otherKind : other.IsCustom) :
    bases.url one = bases.url other ↔ one.id = other.id ∧ one.animated = other.animated := by
  have address {emoji : Emoji} {id : String} (kind : emoji.IsCustom) (given : emoji.id = some id) :
      bases.url emoji = bases.custom ++ (id ++ extension emoji.animated) := by
    rw [Bases.url, customId?_custom kind, given, ← String.append_assoc]
    rfl
  have ⟨id, given, _⟩ := kind
  have ⟨otherId, otherGiven, _⟩ := otherKind
  rw [address kind given, address otherKind otherGiven, String.append_right_inj,
    append_extension_inj, given, otherGiven, Option.some_inj]

/-- The address of an image tells the emoji. That of a Unicode emoji has the code points of its
name between the base and `.svg`, in lowercase hexadecimal digits with hyphens between them, so two
of them are the same exactly if the code points are that count. Those of two custom emoji are the
same exactly if both the ids are and the emoji are both animated or both not. -/
theorem url_identifies_emoji (bases : Bases) :
    (∀ emoji : Emoji, emoji.IsUnicode →
        ∃ asset, bases.url emoji = bases.unicode ++ asset ++ ".svg" ∧
          (∀ char ∈ asset.toList, char ∈ assetChars) ∧
          readAsset asset = some (normalized (codePoints emoji.name))) ∧
      (∀ one other : Emoji, one.IsUnicode → other.IsUnicode →
        (bases.url one = bases.url other ↔
          normalized (codePoints one.name) = normalized (codePoints other.name))) ∧
      ∀ one other : Emoji, one.IsCustom → other.IsCustom →
        (bases.url one = bases.url other ↔ one.id = other.id ∧ one.animated = other.animated) := by
  refine ⟨?_, fun one other => url_unicode_inj, fun one other => url_custom_inj⟩
  intro emoji kind
  refine ⟨assetName emoji.name, url_unicode bases kind, ?_, readAsset_assetName emoji.name⟩
  rw [toList_assetName]
  exact mem_assetChars_of_mem_intercalate _

/-- The rainbow flag, which is a joined sequence; a selector alone, which has the address of the empty
name; and a custom emoji that is animated or not. -/
theorem url_identifies_emoji_rainbow :
    (∃ asset, Bases.standard.url (.unicode "🏳\ufe0f\u200d🌈") =
          Bases.standard.unicode ++ asset ++ ".svg" ∧
        readAsset asset = some [0x1f3f3, 0xfe0f, 0x200d, 0x1f308]) ∧
      Bases.standard.url (.unicode "\ufe0f") = Bases.standard.url (.unicode "") ∧
      Bases.standard.url (.custom "1" "party" true) ≠ Bases.standard.url (.custom "1" "party" false) := by
  obtain ⟨reading, unicode, custom⟩ := url_identifies_emoji .standard
  obtain ⟨asset, address, _, read⟩ := reading (.unicode "🏳\ufe0f\u200d🌈") (.inl rfl)
  refine ⟨⟨asset, address, read⟩, (unicode _ _ (.inl rfl) (.inl rfl)).mpr (by decide), ?_⟩
  have told := custom (.custom "1" "party" true) (.custom "1" "party" false)
    ⟨"1", rfl, by decide⟩ ⟨"1", rfl, by decide⟩
  exact mt told.mp (by decide)

end MessageMarkup.Emoji
