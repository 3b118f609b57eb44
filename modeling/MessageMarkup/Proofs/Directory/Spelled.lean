import MessageMarkup.Proofs.Directory.Adding
import MessageMarkup.Proofs.Json.Keeping
import MessageMarkup.Proofs.Json.Scanning

/-!
# Directories as they are spelled

The additions that a document spells, told by its form alone: an object gives its tables by name and
an array by position, a table gives a name to each id in the order of the text, and a record holds
the name in a field or as the only item of an array. A directory that is read is the one that these
additions make.
-/

set_option autoImplicit false

namespace MessageMarkup.Directory

open Json

/-! ## The additions in a document -/

/-- The text of a string. -/
def text? : Document → Option String
  | .string spelling => spelling.text.toOption
  | _ => none

/-- The name in the field of a record that holds it. -/
def fieldName? (kind : Section) (members : List (Spelling × Document)) : Option String :=
  (members.find? fun member => member.1.text.toOption = some kind.nameField).bind fun member =>
    text? member.2

/-- The name in a record. -/
def recordName? (kind : Section) : Document → Option String
  | .object members _ => fieldName? kind members
  | .array [item] _ => text? item
  | _ => none

/-- An id and the name in its record. -/
def named? (kind : Section) (member : Spelling × Document) : Option (String × String) := do
  let id ← member.1.text.toOption
  let name ← recordName? kind member.2
  return (id, name)

/-- The ids and names in a table. -/
def tableNames? (kind : Section) : Document → Option (List (String × String))
  | .object members _ => members.mapM (named? kind)
  | _ => none

/-- The additions of several tables. -/
def additionsOf? : List (Section × Document) → Option (List Addition)
  | [] => some []
  | (kind, document) :: rest => do
      let names ← tableNames? kind document
      let others ← additionsOf? rest
      return additionsTo kind names ++ others

/-- The table that a member of an object gives. Members with other names are no tables. -/
def part? (member : Spelling × Document) : Option (Section × Document) :=
  (member.1.text.toOption.bind Section.ofSpelling?).map fun kind => (kind, member.2)

/-- The tables in a document, in the order of the text. -/
def parts? : Document → Option (List (Section × Document))
  | .object members _ => some (members.filterMap part?)
  | .array items _ => some (Section.all.zip items)
  | _ => none

/-- The additions in a document, in the order of the text. -/
def additions? (document : Document) : Option (List Addition) :=
  (parts? document).bind additionsOf?

/-! ## Names and records -/

theorem readName_eq_ok {document : Document} {name : String} (read : readName document = .ok name) :
    text? document = some name := by
  cases document with
  | string spelling => exact toOption_of_ofFault read
  | null | boolean | number | cutNumber | array | object | missing =>
      simp only [readName] at read
      exact absurd read (refuse_ne_ok _ _ _)

/-- A name that was found before stands as long as the field is not repeated. -/
theorem readRecordMembers_eq_ok {kind : Section} {stop : Option Fault} {found : Option String}
    {members : List (Spelling × Document)} {name : String}
    (read : readRecordMembers kind stop found members = .ok name) :
    found.or (fieldName? kind members) = some name := by
  induction members generalizing found with
  | nil =>
      obtain ⟨_, read⟩ := bind_unit_eq_ok.mp read
      cases found with
      | none => cases read
      | some own =>
          cases read
          rfl
  | cons member rest ih =>
      obtain ⟨spelling, value⟩ := member
      obtain ⟨text, isText, read⟩ := bind_eq_ok.mp read
      have named := toOption_of_ofFault isText
      by_cases own : text = kind.nameField
      · subst own
        have here : fieldName? kind ((spelling, value) :: rest) = text? value := by
          simp [fieldName?, named]
        simp only [beq_self_eq_true, if_true] at read
        cases found with
        | some earlier => cases read
        | none =>
            obtain ⟨given, isName, read⟩ := bind_eq_ok.mp read
            rw [Option.none_or, here, readName_eq_ok isName]
            exact ih read
      · have later : fieldName? kind ((spelling, value) :: rest) = fieldName? kind rest := by
          simp [fieldName?, named, own]
        simp only [beq_iff_eq, own, if_false] at read
        obtain ⟨_, read⟩ := bind_unit_eq_ok.mp read
        rw [later]
        exact ih read

theorem readRecord_eq_ok {room : Nat} {kind : Section} {document : Document} {name : String}
    (read : readRecord room kind document = .ok name) : recordName? kind document = some name := by
  cases document with
  | object members stop =>
      rw [readRecord] at read
      split at read
      · cases read
      · exact readRecordMembers_eq_ok read
  | array items stop =>
      simp only [readRecord] at read
      split at read
      · cases read
      · match items, read with
        | [], read =>
            obtain ⟨_, read⟩ := bind_unit_eq_ok.mp read
            cases read
        | [item], read =>
            obtain ⟨own, isName, read⟩ := bind_eq_ok.mp read
            obtain ⟨_, same⟩ := bind_unit_eq_ok.mp read
            cases same
            exact readName_eq_ok isName
        | item :: _ :: _, read =>
            obtain ⟨_, _, read⟩ := bind_eq_ok.mp read
            cases read
  | null | boolean | number | cutNumber | string | missing =>
      simp only [readRecord] at read
      exact absurd read (refuse_ne_ok _ _ _)

/-! ## Tables -/

theorem readEntries_eq_ok {room : Nat} {kind : Section} {stop : Option Fault} {names result : Names}
    {members : List (Spelling × Document)}
    (read : readEntries room kind stop names members = .ok result) :
    ∃ given, members.mapM (named? kind) = some given ∧ result = names.insertAll given := by
  induction members generalizing names with
  | nil =>
      obtain ⟨_, same⟩ := bind_unit_eq_ok.mp read
      cases same
      exact ⟨[], rfl, rfl⟩
  | cons member rest ih =>
      obtain ⟨spelling, value⟩ := member
      obtain ⟨id, isText, read⟩ := bind_eq_ok.mp read
      obtain ⟨name, isRecord, read⟩ := bind_eq_ok.mp read
      obtain ⟨given, spelled, rfl⟩ := ih read
      have first : named? kind (spelling, value) = some (id, name) := by
        simp [named?, toOption_of_ofFault isText, readRecord_eq_ok isRecord]
      refine ⟨(id, name) :: given, ?_, rfl⟩
      simp [List.mapM_cons, first, spelled]

/-- A table that is read and put where nothing was yet is the additions that it spells. -/
theorem readTable_eq_ok {room : Nat} {kind : Section} {document : Document} {names : Names}
    {directory : Directory} (read : readTable room kind document = .ok names)
    (nothing : directory.table kind = .empty) :
    ∃ given, tableNames? kind document = some given ∧
      directory.withTable kind names = directory.addAll (additionsTo kind given) := by
  cases document with
  | object members stop =>
      rw [readTable] at read
      split at read
      · cases read
      · obtain ⟨given, spelled, rfl⟩ := readEntries_eq_ok read
        exact ⟨given, spelled, (addAll_additionsTo nothing given).symm⟩
  | null | boolean | number | cutNumber | string | array | missing =>
      simp only [readTable] at read
      exact absurd read (refuse_ne_ok _ _ _)

theorem additionsOf?_cons {kind : Section} {document : Document}
    {rest : List (Section × Document)} {given : List (String × String)} {others : List Addition}
    (first : tableNames? kind document = some given) (later : additionsOf? rest = some others) :
    additionsOf? ((kind, document) :: rest) = some (additionsTo kind given ++ others) := by
  simp [additionsOf?, first, later]

/-- The tables that were not seen yet are still empty, so that what a table of an object spells is
only added to what stands before it. -/
theorem readSections_eq_ok {room : Nat} {stop : Option Fault} {seen : List Section}
    {directory result : Directory} {members : List (Spelling × Document)}
    (read : readSections room stop seen directory members = .ok result)
    (unseen : ∀ kind ∉ seen, directory.table kind = .empty) :
    ∃ additions, additionsOf? (members.filterMap part?) = some additions ∧
      result = directory.addAll additions := by
  induction members generalizing seen directory with
  | nil =>
      obtain ⟨_, same⟩ := bind_unit_eq_ok.mp read
      cases same
      exact ⟨[], rfl, rfl⟩
  | cons member rest ih =>
      obtain ⟨spelling, value⟩ := member
      obtain ⟨text, isText, read⟩ := bind_eq_ok.mp read
      have named := toOption_of_ofFault isText
      cases which : Section.ofSpelling? text with
      | none =>
          simp only [which] at read
          obtain ⟨_, read⟩ := bind_unit_eq_ok.mp read
          obtain ⟨additions, spelled, made⟩ := ih read unseen
          have other : part? (spelling, value) = none := by simp [part?, named, which]
          exact ⟨additions, by rw [List.filterMap_cons_none other, spelled], made⟩
      | some kind =>
          simp only [which, List.contains_eq_mem, decide_eq_true_eq] at read
          split at read
          · cases read
          · rename_i fresh
            obtain ⟨names, isTable, read⟩ := bind_eq_ok.mp read
            obtain ⟨given, table, put⟩ := readTable_eq_ok isTable (unseen kind fresh)
            have still (other : Section) (apart : other ∉ kind :: seen) :
                (directory.withTable kind names).table other = .empty := by
              obtain ⟨different, later⟩ := List.ne_and_not_mem_of_not_mem_cons apart
              rw [table_withTable, if_neg (Ne.symm different), unseen other later]
            obtain ⟨others, spelled, rfl⟩ := ih read still
            have own : part? (spelling, value) = some (kind, value) := by simp [part?, named, which]
            refine ⟨additionsTo kind given ++ others, ?_, ?_⟩
            · rw [List.filterMap_cons_some own, additionsOf?_cons table spelled]
            · rw [addAll_append, put]

/-- The same by position: the tables that are still to come are empty. -/
theorem readTables_eq_ok {room : Nat} {stop : Option Fault} {directory result : Directory}
    {kinds : List Section} {items : List Document}
    (read : readTables room stop directory kinds items = .ok result) (distinct : kinds.Nodup)
    (unseen : ∀ kind ∈ kinds, directory.table kind = .empty) :
    ∃ additions, additionsOf? (kinds.zip items) = some additions ∧
      result = directory.addAll additions := by
  induction items generalizing kinds directory with
  | nil =>
      rw [readTables] at read
      obtain ⟨_, same⟩ := bind_unit_eq_ok.mp read
      cases same
      exact ⟨[], by rw [List.zip_nil_right, additionsOf?], rfl⟩
  | cons item rest ih =>
      cases kinds with
      | nil => cases read
      | cons kind kinds =>
          obtain ⟨names, isTable, read⟩ := bind_eq_ok.mp read
          obtain ⟨here, later⟩ := List.forall_mem_cons.mp unseen
          obtain ⟨fresh, distinct⟩ := List.nodup_cons.mp distinct
          obtain ⟨given, table, put⟩ := readTable_eq_ok isTable here
          have still (other : Section) (member : other ∈ kinds) :
              (directory.withTable kind names).table other = .empty := by
            have different : kind ≠ other := by
              rintro rfl
              exact fresh member
            rw [table_withTable, if_neg different, later other member]
          obtain ⟨others, spelled, rfl⟩ := ih read distinct still
          refine ⟨additionsTo kind given ++ others, ?_, ?_⟩
          · rw [List.zip_cons_cons, additionsOf?_cons table spelled]
          · rw [addAll_append, put]

/-! ## Whole texts -/

theorem readDirectory_eq_ok {room : Nat} {document : Document} {directory : Directory}
    (read : readDirectory room document = .ok directory) :
    ∃ additions, additions? document = some additions ∧ directory = ofAdditions additions := by
  cases document with
  | object members stop =>
      rw [readDirectory] at read
      split at read
      · cases read
      · exact readSections_eq_ok read fun kind _ => table_empty kind
  | array items stop =>
      rw [readDirectory] at read
      split at read
      · cases read
      · exact readTables_eq_ok read (by decide) fun kind _ => table_empty kind
  | null | boolean | number | cutNumber | string | missing =>
      simp only [readDirectory] at read
      exact absurd read (refuse_ne_ok _ _ _)

theorem additions_of_read {text : String} {directory : Directory}
    (accepted : read text = .ok directory) :
    ∃ additions, additions? (scanText text.toList).root = some additions ∧
      directory = ofAdditions additions :=
  readDirectory_eq_ok (readRoot_eq_ok accepted)

end MessageMarkup.Directory
