import Mathlib.Data.List.Nodup
import MessageMarkup.Toml.Reading

/-!
# Keys are set once

In what is read from TOML no table repeats a key, neither the table of the document nor any
table inside of it.
-/

set_option autoImplicit false

namespace MessageMarkup.Toml

/-- No table in a value repeats a key. -/
inductive Value.Distinct : Value → Prop where
  | string (text : String) : Distinct (.string text)
  | integer (value : Int) : Distinct (.integer value)
  | real (value : Real) : Distinct (.real value)
  | boolean (value : Bool) : Distinct (.boolean value)
  | moment (text : String) : Distinct (.moment text)
  | array {items : List Value} {growing : Bool} :
      (∀ item ∈ items, Distinct item) → Distinct (.array items growing)
  | table {form : Form} {entries : List (String × Value)} :
      (entries.map Prod.fst).Nodup → (∀ entry ∈ entries, Distinct entry.2) →
      Distinct (.table form entries)

def Entries.Distinct (entries : Entries) : Prop :=
  (entries.map Prod.fst).Nodup ∧ ∀ entry ∈ entries, entry.2.Distinct

theorem Value.distinct_table {form : Form} {entries : Entries} :
    (Value.table form entries).Distinct ↔ entries.Distinct := by
  constructor
  · intro distinct
    cases distinct with
    | table keys inner => exact ⟨keys, inner⟩
  · intro distinct
    exact .table distinct.1 distinct.2

theorem Value.distinct_array {items : List Value} {growing : Bool} :
    (Value.array items growing).Distinct ↔ ∀ item ∈ items, item.Distinct := by
  constructor
  · intro distinct
    cases distinct with
    | array inner => exact inner
  · exact .array

/-! ## Filling tables -/

namespace Entries

theorem get?_eq_none_iff {entries : Entries} {key : String} :
    entries.get? key = none ↔ key ∉ entries.map Prod.fst := by
  rw [get?, Option.map_eq_none_iff, List.find?_eq_none, List.mem_map]
  constructor
  · intro absent present
    obtain ⟨entry, member, same⟩ := present
    exact absent entry member (beq_iff_eq.mpr same)
  · intro absent entry member same
    exact absent ⟨entry, member, beq_iff_eq.mp same⟩

/-- The table that a path enters at a key, and what the entries are if another takes its place.
A table is made where there is none, and an array is entered at its end. -/
inductive Enters (entries : Entries) (key : String) : Entries → (Entries → Entries) → Prop where
  | made {form : Form} :
      entries.get? key = none →
      Enters entries key [] fun inner => entries.append key (.table form inner)
  | table {form : Form} {inner : Entries} :
      entries.get? key = some (.table form inner) →
      Enters entries key inner fun changed => entries.replace key (.table form changed)
  | last {items : List Value} {form : Form} {inner : Entries} :
      entries.get? key = some (.array items true) → items.getLast? = some (.table form inner) →
      Enters entries key inner fun changed =>
        entries.replace key (.array (items.dropLast ++ [.table form changed]) true)

/-- A value at a dotted key is set in the table that its path enters. -/
theorem set?_dotted {form : Form} {entries result : Entries} {dotted : Bool} {value : Value}
    {key next : String} {rest : List String}
    (set : entries.set? form dotted value (key :: next :: rest) = some result) :
    ∃ within inner put changed, entries.Enters key inner put ∧
      inner.set? within dotted value (next :: rest) = some changed ∧ result = put changed := by
  rw [set?] at set
  split at set
  · rename_i absent
    obtain ⟨changed, setInner, same⟩ := Option.bind_eq_some_iff.mp set
    cases same
    exact ⟨_, _, _, changed, .made absent, setInner, rfl⟩
  · rename_i present
    obtain ⟨changed, setInner, same⟩ := Option.bind_eq_some_iff.mp set
    cases same
    exact ⟨_, _, _, changed, .table present, setInner, rfl⟩
  · rename_i present
    obtain ⟨changed, setInner, same⟩ := Option.bind_eq_some_iff.mp set
    cases same
    exact ⟨_, _, _, changed, .table present, setInner, rfl⟩
  · rename_i present
    split at set
    · rename_i ends
      obtain ⟨changed, setInner, same⟩ := Option.bind_eq_some_iff.mp set
      cases same
      exact ⟨_, _, _, changed, .last present ends, setInner, rfl⟩
    · cases set
  · cases set

/-- A section stands in the table that the path in its header enters. -/
theorem place?_dotted {element : Bool} {pairs : List Pair} {entries result : Entries}
    {key next : String} {rest : List String}
    (placed : entries.place? element pairs (key :: next :: rest) = some result) :
    ∃ inner put changed, entries.Enters key inner put ∧
      inner.place? element pairs (next :: rest) = some changed ∧ result = put changed := by
  rw [place?] at placed
  split at placed
  · rename_i absent
    obtain ⟨changed, placedInner, same⟩ := Option.bind_eq_some_iff.mp placed
    cases same
    exact ⟨_, _, changed, .made absent, placedInner, rfl⟩
  · cases placed
  · rename_i present
    obtain ⟨changed, placedInner, same⟩ := Option.bind_eq_some_iff.mp placed
    cases same
    exact ⟨_, _, changed, .table present, placedInner, rfl⟩
  · rename_i present
    split at placed
    · rename_i ends
      obtain ⟨changed, placedInner, same⟩ := Option.bind_eq_some_iff.mp placed
      cases same
      exact ⟨_, _, changed, .last present ends, placedInner, rfl⟩
    · cases placed
  · cases placed

theorem distinct_nil : Entries.Distinct [] := by
  constructor
  · exact List.nodup_nil
  · intro entry member
    cases member

namespace Distinct

variable {entries : Entries} {key : String} {value : Value}

theorem get? {found : Value} (distinct : entries.Distinct)
    (present : entries.get? key = some found) : found.Distinct := by
  obtain ⟨entry, first, rfl⟩ := Option.map_eq_some_iff.mp present
  exact distinct.2 entry (List.mem_of_find?_eq_some first)

theorem append (distinct : entries.Distinct) (absent : entries.get? key = none)
    (own : value.Distinct) : (entries.append key value).Distinct := by
  constructor
  · rw [Entries.append, List.map_append]
    exact List.Nodup.append distinct.1 (List.nodup_singleton key)
      (List.disjoint_singleton.mpr (get?_eq_none_iff.mp absent))
  · intro entry member
    rcases List.mem_append.mp member with former | last
    · exact distinct.2 entry former
    · obtain rfl := List.mem_singleton.mp last
      exact own

theorem replace (distinct : entries.Distinct) (own : value.Distinct) :
    (entries.replace key value).Distinct := by
  constructor
  · have keys : (entries.replace key value).map Prod.fst = entries.map Prod.fst := by
      rw [Entries.replace, List.map_map]
      apply List.map_congr_left
      intro entry _
      by_cases same : entry.1 = key <;> simp [same]
    rw [keys]
    exact distinct.1
  · intro entry member
    obtain ⟨former, formerMember, rfl⟩ := List.mem_map.mp member
    split
    · exact own
    · exact distinct.2 former formerMember

theorem array_concat {items : List Value} {growing : Bool} {form : Form} {inner : Entries}
    (distinct : ∀ item ∈ items, item.Distinct) (own : inner.Distinct) :
    (Value.array (items ++ [.table form inner]) growing).Distinct := by
  apply Value.distinct_array.mpr
  intro item member
  rcases List.mem_append.mp member with former | last
  · exact distinct item former
  · obtain rfl := List.mem_singleton.mp last
    exact Value.distinct_table.mpr own

theorem enters {inner : Entries} {put : Entries → Entries} (distinct : entries.Distinct)
    (enters : entries.Enters key inner put) :
    inner.Distinct ∧ ∀ changed : Entries, changed.Distinct → (put changed).Distinct := by
  cases enters with
  | made absent =>
      constructor
      · exact distinct_nil
      · intro changed own
        exact distinct.append absent (Value.distinct_table.mpr own)
  | table present =>
      constructor
      · exact Value.distinct_table.mp (distinct.get? present)
      · intro changed own
        exact distinct.replace (Value.distinct_table.mpr own)
  | last present ends =>
      have items := Value.distinct_array.mp (distinct.get? present)
      constructor
      · exact Value.distinct_table.mp (items _ (List.mem_of_getLast? ends))
      · intro changed own
        have before := fun item member => items item (List.dropLast_subset _ member)
        exact distinct.replace (array_concat before own)

theorem set? {form : Form} {dotted : Bool} {path : List String} {result : Entries}
    (distinct : entries.Distinct) (own : value.Distinct)
    (set : entries.set? form dotted value path = some result) : result.Distinct := by
  induction path generalizing form entries result with
  | nil => cases set
  | cons key rest ih =>
      cases rest with
      | nil =>
          rw [Entries.set?] at set
          split at set
          · cases set
          · rename_i absent
            split at set
            · cases set
              exact distinct.append absent own
            · cases set
      | cons next rest =>
          obtain ⟨within, inner, put, changed, enters, setInner, rfl⟩ := set?_dotted set
          obtain ⟨distinctInner, distinctPut⟩ := distinct.enters enters
          exact distinctPut changed (ih distinctInner setInner)

theorem setAll? {form : Form} {pairs : List Pair} {result : Entries} (distinct : entries.Distinct)
    (own : ∀ pair ∈ pairs, pair.value.Distinct) (set : entries.setAll? form pairs = some result) :
    result.Distinct := by
  induction pairs generalizing entries with
  | nil =>
      cases set
      exact distinct
  | cons pair rest ih =>
      rw [Entries.setAll?, List.foldlM_cons] at set
      obtain ⟨next, first, others⟩ := Option.bind_eq_some_iff.mp set
      have distinctNext := distinct.set? (own pair List.mem_cons_self) first
      exact ih distinctNext (fun pair member => own pair (List.mem_cons_of_mem _ member)) others

theorem place? {element : Bool} {pairs : List Pair} {path : List String} {result : Entries}
    (own : ∀ pair ∈ pairs, pair.value.Distinct) (distinct : entries.Distinct)
    (placed : entries.place? element pairs path = some result) : result.Distinct := by
  induction path generalizing entries result with
  | nil => cases placed
  | cons key rest ih =>
      cases rest with
      | nil =>
          unfold Entries.place? at placed
          split at placed
          · rename_i absent
            obtain ⟨inner, set, same⟩ := Option.bind_eq_some_iff.mp placed
            cases same
            have none : ∀ item ∈ ([] : List Value), item.Distinct := List.forall_mem_nil _
            exact distinct.append absent (array_concat none (distinct_nil.setAll? own set))
          · rename_i items present
            obtain ⟨inner, set, same⟩ := Option.bind_eq_some_iff.mp placed
            cases same
            have former := Value.distinct_array.mp (distinct.get? present)
            exact distinct.replace (array_concat former (distinct_nil.setAll? own set))
          · rename_i absent
            obtain ⟨inner, set, same⟩ := Option.bind_eq_some_iff.mp placed
            cases same
            exact distinct.append absent (Value.distinct_table.mpr (distinct_nil.setAll? own set))
          · rename_i inner present
            obtain ⟨filled, set, same⟩ := Option.bind_eq_some_iff.mp placed
            cases same
            have former := Value.distinct_table.mp (distinct.get? present)
            exact distinct.replace (Value.distinct_table.mpr (former.setAll? own set))
          · cases placed
      | cons next rest =>
          obtain ⟨inner, put, changed, enters, placedInner, rfl⟩ := place?_dotted placed
          obtain ⟨distinctInner, distinctPut⟩ := distinct.enters enters
          exact distinctPut changed (ih distinctInner placedInner)

end Distinct

theorem distinct_ofSections {pairs : List Pair} {sections : List Section} {result : Entries}
    (own : ∀ pair ∈ pairs, pair.value.Distinct)
    (inner : ∀ part ∈ sections, ∀ pair ∈ part.pairs, pair.value.Distinct)
    (made : ofSections? pairs sections = some result) : result.Distinct := by
  obtain ⟨entries, set, placed⟩ := Option.bind_eq_some_iff.mp made
  have distinct := distinct_nil.setAll? own set
  clear set made
  induction sections generalizing entries with
  | nil =>
      cases placed
      exact distinct
  | cons part rest ih =>
      rw [List.foldlM_cons] at placed
      obtain ⟨next, first, others⟩ := Option.bind_eq_some_iff.mp placed
      have distinctNext := distinct.place? (inner part List.mem_cons_self) first
      exact ih (fun part member => inner part (List.mem_cons_of_mem _ member)) next others distinctNext

end Entries

/-! ## Reading -/

theorem distinct_decimal? {negative : Bool} {chars : List Char} {value : Value}
    (spelled : decimal? negative chars = some value) : value.Distinct := by
  obtain ⟨whole, _, spelled⟩ := Option.bind_eq_some_iff.mp spelled
  simp only at spelled
  -- the first split is on the exponent, the second on the places after the point
  split at spelled
  all_goals
    obtain ⟨exponent, _, spelled⟩ := Option.bind_eq_some_iff.mp spelled
    split at spelled
    all_goals
      obtain ⟨fraction, _, spelled⟩ := Option.bind_eq_some_iff.mp spelled
      split at spelled
      · cases spelled
        exact .integer _
      · cases spelled
        exact .real _

theorem distinct_based? {base : Nat} {chars : List Char} {value : Value}
    (spelled : based? base chars = some value) : value.Distinct := by
  obtain ⟨digits, _, rfl⟩ := Option.map_eq_some_iff.mp spelled
  exact .integer _

theorem distinct_number? {chars : List Char} {value : Value} (spelled : number? chars = some value) :
    value.Distinct := by
  unfold number? at spelled
  simp only at spelled
  split at spelled
  · cases spelled
    exact .real .infinite
  · cases spelled
    exact .real .undefined
  · split at spelled
    · cases spelled
    · exact distinct_based? spelled
  · split at spelled
    · cases spelled
    · exact distinct_based? spelled
  · split at spelled
    · cases spelled
    · exact distinct_based? spelled
  · exact distinct_decimal? spelled

theorem distinct_scalar? {chars : List Char} {value : Value} (spelled : scalar? chars = some value) :
    value.Distinct := by
  unfold scalar? at spelled
  split at spelled
  · cases spelled
    exact .boolean true
  · split at spelled
    · cases spelled
      exact .boolean false
    · split at spelled
      · cases spelled
        exact .moment _
      · exact distinct_number? spelled

theorem forall_sequence? {Item : Type} {holds : Item → Prop}
    {item? : List Char → Option (Item × List Char)} {bracket : Char}
    (each : ∀ {chars item rest}, item? chars = some (item, rest) → holds item)
    {fuel : Nat} {chars rest : List Char} {items : List Item}
    (sequence : sequence? item? bracket fuel chars = some (items, rest)) :
    ∀ item ∈ items, holds item := by
  induction fuel generalizing chars rest items with
  | zero => cases sequence
  | succ fuel ih =>
      rw [sequence?] at sequence
      obtain ⟨chars, _, sequence⟩ := Option.bind_eq_some_iff.mp sequence
      split at sequence
      · cases sequence
        exact List.forall_mem_nil _
      · obtain ⟨⟨item, after⟩, first, sequence⟩ := Option.bind_eq_some_iff.mp sequence
        obtain ⟨after, _, sequence⟩ := Option.bind_eq_some_iff.mp sequence
        split at sequence
        · obtain ⟨⟨others, after⟩, later, same⟩ := Option.bind_eq_some_iff.mp sequence
          cases same
          exact List.forall_mem_cons.mpr ⟨each first, ih later⟩
        · split at sequence
          · cases sequence
            exact List.forall_mem_singleton.mpr (each first)
          · cases sequence
        · cases sequence

theorem distinct_pair? {value? : List Char → Option (Value × List Char)}
    (each : ∀ {chars value rest}, value? chars = some (value, rest) → value.Distinct)
    {chars rest : List Char} {pair : Pair} (spelled : pair? value? chars = some (pair, rest)) :
    pair.value.Distinct := by
  obtain ⟨⟨path, after⟩, _, spelled⟩ := Option.bind_eq_some_iff.mp spelled
  simp only at spelled
  split at spelled
  · obtain ⟨⟨value, after⟩, own, same⟩ := Option.bind_eq_some_iff.mp spelled
    cases same
    exact each own
  · cases spelled

theorem distinct_value? {depth : Nat} {chars rest : List Char} {value : Value}
    (spelled : value? depth chars = some (value, rest)) : value.Distinct := by
  induction depth using Nat.strongRecOn generalizing chars rest value with
  | ind depth ih =>
      unfold value? at spelled
      split at spelled
      · rename_i depth chars
        obtain ⟨⟨items, after⟩, sequence, same⟩ := Option.bind_eq_some_iff.mp spelled
        cases same
        exact .array (forall_sequence? (ih depth (Nat.lt_succ_self depth)) sequence)
      · rename_i depth chars
        obtain ⟨⟨pairs, after⟩, sequence, spelled⟩ := Option.bind_eq_some_iff.mp spelled
        obtain ⟨entries, set, same⟩ := Option.bind_eq_some_iff.mp spelled
        cases same
        have own := forall_sequence? (distinct_pair? (ih depth (Nat.lt_succ_self depth))) sequence
        exact Value.distinct_table.mpr (Entries.distinct_nil.setAll? own set)
      · obtain ⟨⟨text, after⟩, _, same⟩ := Option.bind_eq_some_iff.mp spelled
        cases same
        exact .string text
      · obtain ⟨⟨text, after⟩, _, same⟩ := Option.bind_eq_some_iff.mp spelled
        cases same
        exact .string text
      · obtain ⟨value, scalar, same⟩ := Option.bind_eq_some_iff.mp spelled
        cases same
        exact distinct_scalar? scalar

def Statement.Distinct : Statement → Prop
  | .pair stated => stated.value.Distinct
  | .header _ _ => True

theorem distinct_header? {chars rest : List Char} {statement : Statement}
    (spelled : header? chars = some (statement, rest)) : statement.Distinct := by
  unfold header? at spelled
  split at spelled
  · obtain ⟨path, _, spelled⟩ := Option.bind_eq_some_iff.mp spelled
    split at spelled
    · cases spelled
      trivial
    · cases spelled
  · obtain ⟨path, _, spelled⟩ := Option.bind_eq_some_iff.mp spelled
    split at spelled
    · cases spelled
      trivial
    · cases spelled
  · cases spelled

theorem distinct_statement? {chars rest : List Char} {stated : Option Statement}
    (spelled : statement? chars = some (stated, rest)) :
    ∀ statement ∈ stated.toList, statement.Distinct := by
  unfold statement? at spelled
  split at spelled
  · cases spelled
    exact List.forall_mem_nil _
  · obtain ⟨⟨header, after⟩, heads, same⟩ := Option.bind_eq_some_iff.mp spelled
    cases same
    exact List.forall_mem_singleton.mpr (distinct_header? heads)
  · split at spelled
    · cases spelled
      exact List.forall_mem_nil _
    · obtain ⟨⟨pair, after⟩, sets, same⟩ := Option.bind_eq_some_iff.mp spelled
      cases same
      have own : (Statement.pair pair).Distinct := distinct_pair? distinct_value? sets
      exact List.forall_mem_singleton.mpr own

theorem distinct_statements? {fuel : Nat} {chars : List Char} {statements : List Statement}
    (spelled : statements? fuel chars = some statements) :
    ∀ statement ∈ statements, statement.Distinct := by
  induction fuel generalizing chars statements with
  | zero =>
      cases chars with
      | nil =>
          cases spelled
          exact List.forall_mem_nil _
      | cons => cases spelled
  | succ fuel ih =>
      cases chars with
      | nil =>
          cases spelled
          exact List.forall_mem_nil _
      | cons char chars =>
          rw [statements?] at spelled
          · obtain ⟨⟨stated, after⟩, first, spelled⟩ := Option.bind_eq_some_iff.mp spelled
            obtain ⟨next, _, spelled⟩ := Option.bind_eq_some_iff.mp spelled
            obtain ⟨others, later, same⟩ := Option.bind_eq_some_iff.mp spelled
            cases same
            exact List.forall_mem_append.mpr ⟨distinct_statement? first, ih later⟩
          · intro empty
            cases empty

theorem distinct_gather {statements : List Statement}
    (distinct : ∀ statement ∈ statements, statement.Distinct) :
    (∀ pair ∈ (gather statements).1, pair.value.Distinct) ∧
      ∀ part ∈ (gather statements).2, ∀ pair ∈ part.pairs, pair.value.Distinct := by
  induction statements with
  | nil => exact ⟨List.forall_mem_nil _, List.forall_mem_nil _⟩
  | cons statement rest ih =>
      obtain ⟨own, others⟩ := List.forall_mem_cons.mp distinct
      obtain ⟨pairs, sections⟩ := ih others
      cases statement with
      | pair stated => exact ⟨List.forall_mem_cons.mpr ⟨own, pairs⟩, sections⟩
      | header element path => exact ⟨List.forall_mem_nil _, List.forall_mem_cons.mpr ⟨pairs, sections⟩⟩

/-- No table in a document repeats a key. -/
theorem distinct_read {text : String} {entries : Entries} (spelled : read text = some entries) :
    entries.Distinct := by
  obtain ⟨statements, stated, made⟩ := Option.bind_eq_some_iff.mp spelled
  obtain ⟨pairs, sections⟩ := distinct_gather (distinct_statements? stated)
  exact Entries.distinct_ofSections pairs sections made

end MessageMarkup.Toml
