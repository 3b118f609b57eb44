import MessageMarkup.Proofs.Directory.Spelled
import MessageMarkup.Proofs.Json.Writing

/-!
# Texts for directories

Every directory that additions make has a text that it is read from. So a directory is the same
whether its names are added one by one or read, and in both cases the last name of an id counts.
-/

set_option autoImplicit false

namespace MessageMarkup.Directory

open Json

variable {room : Nat} {kind : Section} {stop : Option Fault}

/-! ## Records and tables -/

theorem exists_record (kind : Section) (name : String) :
    ∃ document : Document, (∃ chars, SpellsDocument document chars) ∧
      ∀ room, room ≠ 0 → readRecord room kind document = .ok name := by
  obtain ⟨spelling, chars, spelled, isText⟩ := exists_spelling name
  refine ⟨.object [(.plain kind.nameField, .string spelling)] none, ?_, ?_⟩
  · apply exists_spellsObject
    rw [List.forall_mem_singleton]
    have plain : kind.nameField.toList.all isPlain = true := by cases kind <;> decide
    exact ⟨_, spells_member plain (.string spelled)⟩
  · intro room roomy
    rw [readRecord, if_neg roomy]
    simp only [readRecordMembers, Spelling.text_plain, Reading.ofFault, bind, Except.bind,
      beq_self_eq_true, if_true, readName, isText]
    rfl

theorem exists_entry (kind : Section) (entry : String × String) :
    ∃ member : Spelling × Document, (∃ chars, SpellsMember member chars) ∧
      member.1.text = .ok entry.1 ∧
        ∀ room, room ≠ 0 → readRecord room kind member.2 = .ok entry.2 := by
  obtain ⟨id, chars, spelled, isText⟩ := exists_spelling entry.1
  obtain ⟨document, ⟨own, written⟩, isRecord⟩ := exists_record kind entry.2
  exact ⟨(id, document), ⟨_, .named spelled space_nil space_nil written⟩, isText, isRecord⟩

theorem readEntries_of_paired {names : Names} {members : List (Spelling × Document)}
    {given : List (String × String)}
    (paired : List.Forall₂ (fun member entry => member.1.text = .ok entry.1 ∧
      readRecord room kind member.2 = .ok entry.2) members given) :
    readEntries room kind none names members = .ok (names.insertAll given) := by
  induction paired generalizing names with
  | nil => rfl
  | @cons member entry rest given first _ ih =>
      obtain ⟨spelling, value⟩ := member
      obtain ⟨isText, isRecord⟩ := first
      simp only [readEntries, ofFault_eq_ok.mpr isText, isRecord]
      exact ih

theorem exists_table (kind : Section) (given : List (String × String)) :
    ∃ document : Document, (∃ chars, SpellsDocument document chars) ∧
      ∀ room, 2 ≤ room → readTable room kind document = .ok (Names.empty.insertAll given) := by
  obtain ⟨members, paired⟩ :=
    exists_forall₂_iff.mpr fun (entry : String × String) (_ : entry ∈ given) =>
      exists_entry kind entry
  refine ⟨.object members none, ?_, ?_⟩
  · apply exists_spellsObject
    intro member within
    obtain ⟨_, spelled, _⟩ := exists_of_mem_right paired within
    exact spelled
  · intro room roomy
    rw [readTable, if_neg (by omega)]
    apply readEntries_of_paired
    refine forall₂_of_mem paired.flip ?_
    rintro member within entry ⟨_, isText, isRecord⟩
    exact ⟨isText, isRecord (room - 1) (by omega)⟩

/-! ## Directories -/

theorem readSections_section {seen : List Section} {directory : Directory} {document : Document}
    {rest : List (Spelling × Document)} {names : Names} (fresh : kind ∉ seen)
    (table : readTable room kind document = .ok names) :
    readSections room stop seen directory ((.plain kind.spelling, document) :: rest) =
      readSections room stop (kind :: seen) (directory.withTable kind names) rest := by
  have known : Section.ofSpelling? kind.spelling = some kind := by cases kind <;> rfl
  have unseen : seen.contains kind = false := by simpa using fresh
  simp only [readSections, Spelling.text_plain, Reading.ofFault, bind, Except.bind, known, unseen,
    Bool.false_eq_true, if_false, table]

theorem exists_read (additions : List Addition) :
    ∃ text, read text = .ok (ofAdditions additions) := by
  obtain ⟨channels, ⟨channelChars, channelsSpelled⟩, channelTable⟩ :=
    exists_table .channels (namesIn .channels additions)
  obtain ⟨roles, ⟨roleChars, rolesSpelled⟩, roleTable⟩ :=
    exists_table .roles (namesIn .roles additions)
  obtain ⟨users, ⟨userChars, usersSpelled⟩, userTable⟩ :=
    exists_table .users (namesIn .users additions)
  have spelled : ∃ chars, SpellsDocument (.object [(.plain Section.channels.spelling, channels),
      (.plain Section.roles.spelling, roles), (.plain Section.users.spelling, users)] none) chars := by
    apply exists_spellsObject
    simp only [List.forall_mem_cons]
    exact ⟨⟨_, spells_member (by decide) channelsSpelled⟩, ⟨_, spells_member (by decide) rolesSpelled⟩,
      ⟨_, spells_member (by decide) usersSpelled⟩, List.forall_mem_nil _⟩
  obtain ⟨text, written⟩ := exists_spelledBy spelled
  refine ⟨text, ?_⟩
  rw [read, readText_eq_ok written, readDirectory, if_neg (by decide),
    readSections_section (by decide) (channelTable _ (by decide)),
    readSections_section (by decide) (roleTable _ (by decide)),
    readSections_section (by decide) (userTable _ (by decide))]
  refine congrArg Except.ok (ext_table fun kind => ?_)
  rw [ofAdditions, table_addAll, table_empty]
  cases kind <;> rfl

/-- A directory answers to an id of one kind with the last name that was added for it, whatever was
added to the other tables and however the additions are mixed, and it is empty only if nothing was
added. A directory that is read is the one that the additions in the text make, in their order, and
whatever additions make can be read. -/
theorem names_given_last :
    (∀ additions kind id,
      (ofAdditions additions).resolver.ask kind id = latest? (namesIn kind additions) id) ∧
    (∀ additions, (ofAdditions additions).isEmpty = true ↔ additions = []) ∧
    (∀ additions others, (∀ kind, namesIn kind additions = namesIn kind others) →
      ofAdditions additions = ofAdditions others) ∧
    (∀ text directory, read text = .ok directory →
      ∃ additions, additions? (scanText text.toList).root = some additions ∧
        (∀ document : Document, document.SpelledBy text → additions? document = some additions) ∧
        directory = ofAdditions additions) ∧
    ∀ additions, ∃ text, read text = .ok (ofAdditions additions) := by
  refine ⟨ask_ofAdditions, fun _ => isEmpty_ofAdditions, fun _ _ same => ofAdditions_congr same, ?_,
    exists_read⟩
  intro text directory accepted
  obtain ⟨additions, scanned, made⟩ := additions_of_read accepted
  refine ⟨additions, scanned, ?_, made⟩
  intro document spelled
  rw [scanText_spelled spelled] at scanned
  exact scanned

/-- A role whose id is repeated, once with its name by position, and a user of the same id. -/
def staffText : String :=
  "\x7b\x22roles\x22:\x7b\x221\x22:\x7b\x22name\x22:\x22mods\x22\x7d,\x221\x22:[\x22staff\x22]\x7d," ++
    "\x22other\x22:1e400,\x22users\x22:\x7b\x221\x22:\x7b\x22username\x22:\x22ada\x22\x7d\x7d\x7d"

def staffDirectory : Directory :=
  ⟨.empty, ⟨[("1", "staff")]⟩, ⟨[("1", "ada")]⟩⟩

theorem names_given_last_staff :
    read staffText = .ok staffDirectory ∧
      ∃ additions, additions? (scanText staffText.toList).root = some additions ∧
        staffDirectory = ofAdditions additions ∧
        latest? (namesIn .roles additions) "1" = some "staff" ∧
        latest? (namesIn .channels additions) "1" = none := by
  have accepted : read staffText = .ok staffDirectory := by decide +kernel
  obtain ⟨answers, _, _, reads, _⟩ := names_given_last
  obtain ⟨additions, spelled, _, made⟩ := reads staffText staffDirectory accepted
  refine ⟨accepted, additions, spelled, made, ?_, ?_⟩
  · rw [← answers, ← made]
    decide
  · rw [← answers, ← made]
    decide

end MessageMarkup.Directory
