import MessageMarkup.Directory.Reading
import MessageMarkup.Proofs.Assignments

/-!
# Adding names to directories

A directory that names are added to one after the other. Each table takes only the names that are
added to it, and answers with the last one that an id was given. So a directory is known by what is
added to each of its tables, however these additions are mixed.
-/

set_option autoImplicit false

namespace MessageMarkup

/-! ## One table -/

namespace Names

/-- Inserts the names of several ids one after the other. -/
def insertAll (names : Names) (given : List (String × String)) : Names :=
  given.foldl (fun names entry => names.insert entry.1 entry.2) names

theorem insertAll_cons (names : Names) (first : String × String) (rest : List (String × String)) :
    names.insertAll (first :: rest) = (names.insert first.1 first.2).insertAll rest := rfl

@[simp] theorem find?_empty (id : String) : empty.find? id = none := rfl

theorem find?_insertAll (names : Names) (given : List (String × String)) (id : String) :
    (names.insertAll given).find? id = (latest? given id).or (names.find? id) :=
  foldl_eq_latest? (fun names => names.find? id)
    (fun names name => find?_insert_self names id name)
    (fun names entry different => find?_insert_of_ne names entry.2 different) given names

theorem isEmpty_insertAll (names : Names) (given : List (String × String)) :
    (names.insertAll given).isEmpty = true ↔ names.isEmpty = true ∧ given = [] := by
  induction given generalizing names with
  | nil => simp [insertAll]
  | cons first rest ih =>
      have inserted : (names.insert first.1 first.2).isEmpty = false := rfl
      simp [insertAll_cons, ih, inserted]

end Names

/-! ## Three tables -/

/-- What a resolver answers to an id of one kind. -/
def Resolver.ask (resolver : Resolver) : Directory.Section → String → Option String
  | .channels => resolver.channel
  | .roles => resolver.role
  | .users => resolver.user

namespace Directory

/-- A name that an id of one kind is given. -/
structure Addition where
  table : Section
  id : String
  name : String
  deriving DecidableEq, Repr

def add (directory : Directory) (addition : Addition) : Directory :=
  match addition.table with
  | .channels => directory.withChannel addition.id addition.name
  | .roles => directory.withRole addition.id addition.name
  | .users => directory.withUser addition.id addition.name

def addAll (directory : Directory) (additions : List Addition) : Directory :=
  additions.foldl add directory

/-- The directory that several additions make, one after the other. -/
def ofAdditions (additions : List Addition) : Directory :=
  empty.addAll additions

/-- The additions of one kind, in order. -/
def namesIn (table : Section) (additions : List Addition) : List (String × String) :=
  (additions.filter fun addition => addition.table = table).map fun addition =>
    (addition.id, addition.name)

/-- The table of one kind. -/
def table (directory : Directory) : Section → Names
  | .channels => directory.channels
  | .roles => directory.roles
  | .users => directory.users

variable {directory other : Directory} {additions : List Addition}

@[simp] theorem table_empty (kind : Section) : empty.table kind = .empty := by
  cases kind <;> rfl

theorem ext_table (same : ∀ kind, directory.table kind = other.table kind) : directory = other := by
  obtain ⟨channels, roles, users⟩ := directory
  obtain ⟨otherChannels, otherRoles, otherUsers⟩ := other
  obtain rfl : channels = otherChannels := same .channels
  obtain rfl : roles = otherRoles := same .roles
  obtain rfl : users = otherUsers := same .users
  rfl

theorem ask_resolver (directory : Directory) (kind : Section) (id : String) :
    directory.resolver.ask kind id = (directory.table kind).find? id := by
  cases kind <;> rfl

theorem isEmpty_iff : directory.isEmpty = true ↔ ∀ kind, (directory.table kind).isEmpty = true := by
  simp only [isEmpty, Bool.and_eq_true]
  constructor
  · rintro ⟨⟨channels, roles⟩, users⟩ (_ | _ | _)
    exacts [channels, roles, users]
  · intro all
    exact ⟨⟨all .channels, all .roles⟩, all .users⟩

theorem table_withTable (directory : Directory) (own kind : Section) (names : Names) :
    (directory.withTable own names).table kind = if own = kind then names else directory.table kind := by
  cases own <;> cases kind <;> rfl

/-- Only the table of its own kind takes an addition. -/
theorem table_add (directory : Directory) (addition : Addition) (kind : Section) :
    (directory.add addition).table kind =
      if addition.table = kind then (directory.table kind).insert addition.id addition.name
      else directory.table kind := by
  obtain ⟨own, id, name⟩ := addition
  cases own <;> cases kind <;> rfl

theorem table_addAll (directory : Directory) (additions : List Addition) (kind : Section) :
    (directory.addAll additions).table kind =
      (directory.table kind).insertAll (namesIn kind additions) := by
  induction additions generalizing directory with
  | nil => rfl
  | cons first rest ih =>
      have step : (directory.addAll (first :: rest)) = (directory.add first).addAll rest := rfl
      rw [step, ih, table_add]
      by_cases own : first.table = kind
      · simp [namesIn, own, Names.insertAll_cons]
      · simp [namesIn, own]

theorem addAll_append (directory : Directory) (earlier later : List Addition) :
    directory.addAll (earlier ++ later) = (directory.addAll earlier).addAll later :=
  List.foldl_append

/-! ## Additions of one kind -/

/-- The additions that give names to ids of one kind. -/
def additionsTo (kind : Section) (given : List (String × String)) : List Addition :=
  given.map fun entry => ⟨kind, entry.1, entry.2⟩

theorem namesIn_additionsTo (own kind : Section) (given : List (String × String)) :
    namesIn kind (additionsTo own given) = if own = kind then given else [] := by
  by_cases same : own = kind
  · simp [namesIn, additionsTo, List.filter_map, Function.comp_def, same]
  · simp [namesIn, additionsTo, List.filter_map, Function.comp_def, same]

/-- A table that is put where nothing was yet is the additions that made it. -/
theorem addAll_additionsTo {kind : Section} (nothing : directory.table kind = .empty)
    (given : List (String × String)) :
    directory.addAll (additionsTo kind given) =
      directory.withTable kind (Names.empty.insertAll given) := by
  refine ext_table fun other => ?_
  rw [table_addAll, namesIn_additionsTo, table_withTable]
  by_cases same : kind = other
  · subst same
    rw [if_pos rfl, if_pos rfl, nothing]
  · rw [if_neg same, if_neg same]
    rfl

/-! ## What additions come to -/

theorem ask_ofAdditions (additions : List Addition) (kind : Section) (id : String) :
    (ofAdditions additions).resolver.ask kind id = latest? (namesIn kind additions) id := by
  rw [ask_resolver, ofAdditions, table_addAll, Names.find?_insertAll, table_empty, Names.find?_empty,
    Option.or_none]

theorem isEmpty_ofAdditions : (ofAdditions additions).isEmpty = true ↔ additions = [] := by
  simp only [isEmpty_iff, ofAdditions, table_addAll, table_empty, Names.isEmpty_insertAll]
  constructor
  · intro none
    cases additions with
    | nil => rfl
    | cons first rest =>
        obtain ⟨_, added⟩ := none first.table
        simp [namesIn] at added
  · rintro rfl kind
    exact ⟨rfl, rfl⟩

/-- A directory is known by what is added to each of its tables. -/
theorem ofAdditions_congr {others : List Addition}
    (same : ∀ kind, namesIn kind additions = namesIn kind others) :
    ofAdditions additions = ofAdditions others :=
  ext_table fun kind => by rw [ofAdditions, ofAdditions, table_addAll, table_addAll, same kind]

end Directory

end MessageMarkup
