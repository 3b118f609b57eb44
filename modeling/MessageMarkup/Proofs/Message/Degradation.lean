import MessageMarkup.Proofs.Message.Numbers
import MessageMarkup.Render

/-!
# Nodes without a model

A record whose kind has no model, or which lacks something that its kind needs, becomes an unknown
node. It keeps its kind and its content, and it is shown as its content is. Every other record
becomes a node of its kind, with its content as well.
-/

set_option autoImplicit false

namespace MessageMarkup.Message

open Json

/-! ## What kinds need -/

/-- What a kind of node needs: one of the fields that it is named for, a time, or content that is
text. -/
inductive Need where
  | nothing
  | target
  | id
  | name
  | time
  | text
  deriving DecidableEq, Repr

/-- The kinds that have a model, and what each of them needs. -/
def modelled : List (String × Need) :=
  [("text", .text), ("link", .target), ("url", .target), ("autolink", .target),
    ("blockQuote", .nothing), ("br", .nothing), ("newline", .nothing), ("channel", .id),
    ("role", .id), ("user", .id), ("here", .nothing), ("everyone", .nothing),
    ("codeBlock", .text), ("inlineCode", .text), ("em", .nothing), ("strong", .nothing),
    ("underline", .nothing), ("strikethrough", .nothing), ("emoticon", .nothing),
    ("spoiler", .nothing), ("emoji", .name), ("twemoji", .name), ("timestamp", .time)]

/-- The name under which a kind with several names is known. -/
def commonName : String → String
  | "autolink" => "url"
  | "newline" => "br"
  | "twemoji" => "emoji"
  | kind => kind

/-! ## What records give -/

/-- What a record gives for a field. -/
def suppliedFor? (key : Key) : Document → Option Document
  | .object members _ => given? key members
  | .array items _ => (Key.all.zip items).lookup key
  | _ => none

def text? : Document → Option String
  | .string spelling => spelling.text.toOption
  | _ => none

/-- The kind of a record. It is empty if none is given or what is given is no text. -/
def kindGiven (document : Document) : String :=
  ((suppliedFor? .kind document).bind text?).getD ""

/-- The content of a record. It is empty if none is given or what is given cannot serve as it. -/
def contentGiven (document : Document) : Content :=
  ((suppliedFor? .content document).bind fun given => (meaning given).content).getD .empty

def SpellsText (document : Document) : Prop :=
  ∃ text, text? document = some text

def SpellsWord (document : Document) : Prop :=
  ∃ numeral value, document = .number numeral ∧ numeral.Whole value ∧ Text.InWord value

/-- A document that spells a time: a whole number of 64 bits, as a number or in text. -/
def SpellsTime (document : Document) : Prop :=
  SpellsWord document ∨
    ∃ text value, text? document = some text ∧ Text.InWord value ∧ Text.Holds text value

/-- Whether a record has what is needed, and has it in the right shape. -/
def Need.Met (document : Document) : Need → Prop
  | .nothing => True
  | .target => ∃ given, suppliedFor? .target document = some given ∧ SpellsText given
  | .id => ∃ given, suppliedFor? .id document = some given ∧ (SpellsText given ∨ SpellsWord given)
  | .name => ∃ given, suppliedFor? .name document = some given ∧ SpellsText given
  | .time => ∃ given, suppliedFor? .timestamp document = some given ∧ SpellsTime given
  | .text => ∃ given, suppliedFor? .content document = some given ∧ SpellsText given

/-- Whether the kind of a record has a model and the record has what its kind needs. -/
def Complete (document : Document) : Prop :=
  ∃ need, (kindGiven document, need) ∈ modelled ∧ need.Met document

/-! ## Nodes of kinds -/

/-- Whether fields and content have what is needed. -/
def Need.MetBy (fields : Fields) (content : Content) : Need → Prop
  | .nothing => True
  | .target => (fields.text .target).isSome = true
  | .id => (fields.identifier .id).isSome = true
  | .name => (fields.text .name).isSome = true
  | .time => (fields.seconds .timestamp).isSome = true
  | .text => (Fields.typed content).isSome = true

namespace Fields

variable {fields : Fields} {kind : String} {content : Content}

theorem isSome_model?_iff :
    (fields.model? kind content).isSome = true ↔
      ∃ need, (kind, need) ∈ modelled ∧ need.MetBy fields content := by
  unfold model?
  -- One case for each name in the table, and one in which the kind has none of these names.
  split <;> simp_all [modelled, Need.MetBy, emoji]

theorem kind_of_model? {node : Node} (given : fields.model? kind content = some node) :
    node.kind = commonName kind ∧ ∀ other inner, node ≠ .unknown other inner := by
  unfold model? at given
  split at given <;>
    grind [Node.kind, Entity.kind, LinkForm.kind, InlineStyle.kind, Audience.keyword, commonName,
      Option.map_eq_some_iff]

end Fields

/-! ## Records of kinds -/

theorem ofEntries_zip (items : List Document) (keys : List Key) (key : Key) :
    Fields.ofEntries (keys.zip (items.map meaning)) key =
      ((keys.zip items).lookup key).map meaning := by
  induction keys generalizing items with
  | nil => rfl
  | cons own rest ih =>
      cases items with
      | nil => rfl
      | cons item items =>
          rw [List.map_cons, List.zip_cons_cons, List.zip_cons_cons, List.lookup_cons]
          by_cases same : key = own
          · subst same
            simp [Fields.ofEntries_cons_self]
          · have apart : (key == own) = false := beq_false_of_ne same
            rw [Fields.ofEntries_cons_of_ne _ _ same, ih, apart]

theorem fieldsGiven_eq (document : Document) (key : Key) :
    fieldsGiven document key = (suppliedFor? key document).map meaning := by
  cases document with
  | object members stop => exact fieldsGiven_object members stop key
  | array items stop => exact ofEntries_zip items Key.all key
  | null | boolean | number | string | cutNumber | missing => rfl

theorem text_meaning (document : Document) : (meaning document).text = text? document := by
  cases document with
  | string spelling => rw [meaning_string, text?]
  | number numeral =>
      rw [meaning_number]
      rfl
  | null | boolean | array | object | cutNumber | missing => rfl

theorem isSome_text_meaning_iff {document : Document} :
    (meaning document).text.isSome = true ↔ SpellsText document := by
  rw [text_meaning, Option.isSome_iff_exists, SpellsText]

theorem typed_meaning (document : Document) :
    (meaning document).content.bind Fields.typed = text? document := by
  cases document with
  | string spelling =>
      rw [meaning_string, text?]
      cases spelling.text.toOption <;> rfl
  | number numeral =>
      rw [meaning_number]
      rfl
  | array items stop =>
      rw [content_meaning_array]
      cases allNodes (items.map meaning) with
      | some nodes => rfl
      | none => cases (meaning (.array items stop)).node <;> rfl
  | object members stop =>
      rw [content_meaning_object]
      cases (meaning (.object members stop)).node <;> rfl
  | null | boolean | cutNumber | missing => rfl

theorem isSome_number_meaning_iff {document : Document} :
    (meaning document).number.isSome = true ↔ SpellsWord document := by
  cases document with
  | number numeral =>
      simp [Option.isSome_iff_exists, number_meaning_eq_some_iff, Numeral.number?_eq_integer_iff,
        SpellsWord]
  | string spelling =>
      rw [meaning_string]
      simp [SpellsWord]
  | null | boolean | array | object | cutNumber | missing =>
      simp [SpellsWord, meaning, Document.ideal, Field.ofValue, Field.unfit]

theorem isSome_fieldsGiven_iff {Result : Type} {document : Document} {key : Key}
    {use : Field → Option Result} :
    ((fieldsGiven document key).bind use).isSome = true ↔
      ∃ given, suppliedFor? key document = some given ∧ (use (meaning given)).isSome = true := by
  rw [fieldsGiven_eq]
  cases suppliedFor? key document <;> simp

theorem isSome_orElse_iff {Result : Type} {first second : Option Result} :
    (first <|> second).isSome = true ↔ first.isSome = true ∨ second.isSome = true := by
  cases first <;> simp

theorem isSome_text_iff {document : Document} {key : Key} :
    ((fieldsGiven document).text key).isSome = true ↔
      ∃ given, suppliedFor? key document = some given ∧ SpellsText given := by
  simp only [Fields.text, isSome_fieldsGiven_iff, isSome_text_meaning_iff]

theorem isSome_identifier_iff {document : Document} :
    ((fieldsGiven document).identifier .id).isSome = true ↔
      ∃ given, suppliedFor? .id document = some given ∧ (SpellsText given ∨ SpellsWord given) := by
  simp only [Fields.identifier, isSome_fieldsGiven_iff, isSome_orElse_iff, Option.isSome_map,
    isSome_text_meaning_iff, isSome_number_meaning_iff]

theorem isSome_seconds_iff {document : Document} :
    ((fieldsGiven document).seconds .timestamp).isSome = true ↔
      ∃ given, suppliedFor? .timestamp document = some given ∧ SpellsTime given := by
  simp only [Fields.seconds, isSome_fieldsGiven_iff, isSome_orElse_iff, isSome_number_meaning_iff,
    text_meaning]
  -- Whether there is a time does not depend on which of the two readings is tried first.
  refine exists_congr fun given => and_congr_right fun _ => or_comm.trans (or_congr_right ?_)
  simp only [Option.isSome_iff_exists, Option.bind_eq_some_iff, Text.signed?_trim_eq_some_iff]
  exact exists_comm.trans (by simp only [exists_and_left])

theorem contentOf_fieldsGiven (document : Document) :
    (fieldsGiven document).contentOf .content = contentGiven document := by
  rw [Fields.contentOf, fieldsGiven_eq, contentGiven]
  cases suppliedFor? .content document <;> rfl

theorem kind_fieldsGiven (document : Document) :
    ((fieldsGiven document).text .kind).getD "" = kindGiven document := by
  rw [Fields.text, fieldsGiven_eq, kindGiven]
  cases suppliedFor? .kind document with
  | none => rfl
  | some given => simp [text_meaning]

theorem isSome_typed_iff {document : Document} :
    (Fields.typed (contentGiven document)).isSome = true ↔
      ∃ given, suppliedFor? .content document = some given ∧ SpellsText given := by
  rw [contentGiven]
  cases suppliedFor? .content document with
  | none => simp [Content.empty, Fields.typed]
  | some given =>
      have typed : Fields.typed ((meaning given).content.getD .empty) = text? given := by
        rw [← typed_meaning]
        cases (meaning given).content <;> rfl
      simp [typed, Option.isSome_iff_exists, SpellsText]

theorem Need.met_iff {document : Document} {need : Need} :
    need.Met document ↔ need.MetBy (fieldsGiven document) (contentGiven document) := by
  cases need with
  | nothing => exact Iff.rfl
  | target | name => exact isSome_text_iff.symm
  | id => exact isSome_identifier_iff.symm
  | time => exact isSome_seconds_iff.symm
  | text => exact isSome_typed_iff.symm

theorem complete_iff {document : Document} :
    Complete document ↔
      ((fieldsGiven document).model? (kindGiven document) (contentGiven document)).isSome = true := by
  simp only [Complete, Need.met_iff, Fields.isSome_model?_iff]

/-- A record that lacks something becomes an unknown node, and every other record becomes a node
with a model. Both keep the kind, some under its common name, and the content, except for a line
break. An unknown node is shown as its content is. -/
theorem kind_and_content_kept {room : Nat} {document : Document} {node : Node}
    (read : readNode room document = .ok node) :
    (node = .unknown (kindGiven document) (contentGiven document) ↔ ¬ Complete document) ∧
      (¬ Complete document →
        node.kind = kindGiven document ∧
          ∀ (renderer : Renderer) (context : Context),
            renderer.render context [node] =
              Html.writeAll (renderer.content context (contentGiven document))) ∧
      (Complete document →
        node.kind = commonName (kindGiven document) ∧
          (∀ kind content, node ≠ .unknown kind content) ∧
          (node ≠ .lineBreak → node.held = contentGiven document)) := by
  have same : node = ((fieldsGiven document).model? (kindGiven document)
      (contentGiven document)).getD (.unknown (kindGiven document) (contentGiven document)) := by
    rw [eq_node_of_readNode read, Fields.node, kind_fieldsGiven, contentOf_fieldsGiven]
  rw [complete_iff]
  cases given : (fieldsGiven document).model? (kindGiven document) (contentGiven document) with
  | none =>
      rw [given, Option.getD_none] at same
      subst same
      refine ⟨by simp, fun _ => ⟨rfl, fun renderer context => ?_⟩, by simp⟩
      simp [Renderer.render, Renderer.nodes, Renderer.node]
  | some own =>
      rw [given, Option.getD_some] at same
      subst same
      obtain ⟨kind, known⟩ := Fields.kind_of_model? given
      refine ⟨by simpa using known _ _, by simp, fun _ => ⟨kind, known, fun solid => ?_⟩⟩
      exact (Fields.held_of_model? given).resolve_left solid

/-- A link has to have a target, also where it is the only thing that it lacks, and a picture is
known as an emoji. -/
theorem kept_without_target :
    let link := Document.object
      [(.plain "type", .string (.plain "link")), (.plain "content", .string (.plain "a"))] none
    let picture := Document.object
      [(.plain "name", .string (.plain "b")), (.plain "type", .string (.plain "twemoji"))] none
    (readNode (deepest - 1) link = .ok (.unknown "link" (.text "a")) ∧ ¬ Complete link ∧
        ∀ (renderer : Renderer) (context : Context),
          renderer.render context [.unknown "link" (.text "a")] = "a") ∧
      ∃ node, readNode (deepest - 1) picture = .ok node ∧ Complete picture ∧
        node.kind = "emoji" ∧ node.held = .empty := by
  intro link picture
  have readLink : readNode (deepest - 1) link = .ok (.unknown "link" (.text "a")) := by cbv
  have readPicture : readNode (deepest - 1) picture =
      .ok (.entity (.emoji ⟨none, "b", false⟩) .empty) := by cbv
  obtain ⟨unknown, shown, _⟩ := kind_and_content_kept readLink
  obtain ⟨_, _, known⟩ := kind_and_content_kept readPicture
  have kindLink : kindGiven link = "link" := rfl
  have contentLink : contentGiven link = .text "a" := rfl
  have kindPicture : kindGiven picture = "twemoji" := rfl
  have contentPicture : contentGiven picture = .empty := rfl
  have lacking : ¬ Complete link := by
    rw [← unknown, kindLink, contentLink]
  have complete : Complete picture := by
    refine ⟨.name, by rw [kindPicture]; decide, .string (.plain "b"), by rfl, "b", ?_⟩
    rw [text?, Spelling.text_plain]
    rfl
  obtain ⟨kind, _, held⟩ := known complete
  refine ⟨⟨readLink, lacking, fun renderer context => ?_⟩, _, readPicture, complete, ?_, ?_⟩
  · rw [(shown lacking).2 renderer context, contentLink]
    rfl
  · rw [kind, kindPicture, commonName]
  · rw [held (by simp), contentPicture]

end MessageMarkup.Message
