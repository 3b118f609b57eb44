import MessageMarkup.Proofs.Message.Acceptance
import MessageMarkup.Proofs.Message.Normal

/-!
# The objects that spell nodes

A node is spelled by an object with its kind, its content and the fields of its own, in any
order. A node in normal form is what its spelling is read as, so that the nodes in normal
form are exactly those that reading gives.
-/

set_option autoImplicit false

namespace MessageMarkup

open Json Message

/-! ## Spellings -/

/-- The members that spell what a node has beside its kind and its content. -/
def Node.own : Node → List (String × Value)
  | .link _ target _ => [("target", .string target)]
  | .codeBlock language _ => language.toList.map fun language => ("lang", .string language)
  | .entity (.channel id) _ => [("id", .string id)]
  | .entity (.role id) _ => [("id", .string id)]
  | .entity (.user id) _ => [("id", .string id)]
  | .entity (.emoji emoji) _ =>
      ("name", .string emoji.name) :: ("animated", .boolean emoji.animated) ::
        emoji.id.toList.map fun id => ("id", .string id)
  | .entity (.timestamp seconds style) _ =>
      ("timestamp", .number (.integer seconds)) ::
        style.toList.map fun style => ("format", .string style.code)
  | _ => []

/-- The objects that spell a node. Content that is empty may be left out. -/
inductive Node.SpelledAs : Node → Value → Prop where
  | bare {node : Node} {members : List (String × Value)} :
      node.held = .empty →
      members.Perm (("type", .string node.kind) :: node.own) →
      SpelledAs node (.object members)
  | typed {node : Node} {text : String} {members : List (String × Value)} :
      node.held = .text text →
      members.Perm (("content", .string text) :: ("type", .string node.kind) :: node.own) →
      SpelledAs node (.object members)
  | parent {node : Node} {children : List Node} {values : List Value}
      {members : List (String × Value)} :
      node.held = .nodes children → children.length = values.length →
      (∀ child value, (child, value) ∈ children.zip values → SpelledAs child value) →
      members.Perm (("content", .array values) :: ("type", .string node.kind) :: node.own) →
      SpelledAs node (.object members)

namespace Message

/-! ## The fields of a spelling -/

def fieldsOf (members : List (String × Value)) : List (Key × Field) :=
  Fields.entriesOf (Field.ofMembers members)

theorem fieldsOf_type (value : Value) (members : List (String × Value)) :
    fieldsOf (("type", value) :: members) = (.kind, .ofValue value) :: fieldsOf members := by
  have known : Key.ofSpelling? "type" = some .kind := rfl
  rw [fieldsOf, Field.ofMembers, Fields.entriesOf_field known, fieldsOf]

theorem fieldsOf_content (value : Value) (members : List (String × Value)) :
    fieldsOf (("content", value) :: members) = (.content, .ofValue value) :: fieldsOf members := by
  have known : Key.ofSpelling? "content" = some .content := rfl
  rw [fieldsOf, Field.ofMembers, Fields.entriesOf_field known, fieldsOf]

theorem node_of_perm {members given : List (String × Value)}
    (distinct : (keys (fieldsOf given)).Nodup) (arranged : members.Perm given) :
    (Field.ofValue (.object members)).node = some (Fields.ofEntries (fieldsOf given)).node := by
  have same : (fieldsOf members).Perm (fieldsOf given) := by
    rw [fieldsOf, fieldsOf, Field.ofMembers_eq, Field.ofMembers_eq]
    exact (arranged.map _).filterMap _
  have distinctOwn : (keys (fieldsOf members)).Nodup :=
    (same.map Prod.fst).nodup_iff.mpr distinct
  rw [Field.node_object, ← fieldsOf, if_pos distinctOwn, Fields.ofEntries_perm distinctOwn same]

/-- The fields that nodes have of their own, for all kinds of nodes. -/
def ownKeys : List (List Key) :=
  [[], [.target], [.language], [.id], [.name, .animated], [.name, .animated, .id], [.timestamp],
    [.timestamp, .format]]

theorem keys_own_mem (node : Node) : keys (fieldsOf node.own) ∈ ownKeys := by
  cases node with
  | link => exact (by decide : [Key.target] ∈ ownKeys)
  | codeBlock language code =>
      cases language with
      | none => exact (by decide : [] ∈ ownKeys)
      | some language => exact (by decide : [Key.language] ∈ ownKeys)
  | entity entity label =>
      cases entity with
      | channel | role | user => exact (by decide : [Key.id] ∈ ownKeys)
      | broadcast => exact (by decide : [] ∈ ownKeys)
      | emoji emoji =>
          obtain ⟨id, name, animated⟩ := emoji
          cases id with
          | none => exact (by decide : [Key.name, .animated] ∈ ownKeys)
          | some id => exact (by decide : [Key.name, .animated, .id] ∈ ownKeys)
      | timestamp seconds style =>
          cases style with
          | none => exact (by decide : [Key.timestamp] ∈ ownKeys)
          | some style => exact (by decide : [Key.timestamp, .format] ∈ ownKeys)
  | text | lineBreak | blockQuote | inlineCode | styled | emoticon | spoiler | unknown =>
      exact (by decide : [] ∈ ownKeys)

theorem own_keys (node : Node) :
    (keys (fieldsOf node.own)).Nodup ∧ Key.kind ∉ keys (fieldsOf node.own) ∧
      Key.content ∉ keys (fieldsOf node.own) := by
  have apart : ∀ listed ∈ ownKeys, listed.Nodup ∧ Key.kind ∉ listed ∧ Key.content ∉ listed := by
    decide
  exact apart _ (keys_own_mem node)

/-- Fields as a spelling of a node gives them. -/
structure Fields.Spell (fields : Fields) (node : Node) : Prop where
  kind : fields.text .kind = some node.kind
  content : fields.contentOf .content = node.held
  own : ∀ key, key ≠ .kind → key ≠ .content → fields key = ofEntries (fieldsOf node.own) key

namespace Fields.Spell

variable {fields : Fields} {node : Node}

theorem node_of_modelled (spell : fields.Spell node)
    (modelled : fields.model? node.kind node.held = some node) : fields.node = node := by
  simp [Fields.node, spell.kind, spell.content, modelled]

theorem text_own (spell : fields.Spell node) {key : Key} {value : Option String}
    (notKind : key ≠ .kind) (notContent : key ≠ .content)
    (given : ofEntries (fieldsOf node.own) key = value.map fun text => .ofValue (.string text)) :
    fields.text key = value := by
  rw [text, spell.own key notKind notContent, given]
  cases value <;> simp [Field.ofValue]

theorem identifier_own (spell : fields.Spell node) {key : Key} {value : Option String}
    (notKind : key ≠ .kind) (notContent : key ≠ .content)
    (given : ofEntries (fieldsOf node.own) key = value.map fun text => .ofValue (.string text)) :
    fields.identifier key = value := by
  rw [identifier, spell.own key notKind notContent, given]
  cases value <;> simp [Field.ofValue]

theorem filter_nonempty {value : Option String} (nonempty : value ≠ some "") :
    value.filter (fun own => !own.isEmpty) = value := by
  cases value with
  | none => rfl
  | some own =>
      have notEmpty : own ≠ "" := fun same => nonempty (congrArg some same)
      simp [Option.filter, notEmpty]

theorem modelled_emoji {emoji : Emoji} {label : Content}
    (spell : fields.Spell (.entity (.emoji emoji) label)) (normal : emoji.id ≠ some "") :
    fields.emoji = some emoji := by
  have name : fields.text .name = some emoji.name :=
    spell.text_own (by decide) (by decide) rfl
  have animated : fields.flag .animated = emoji.animated := by
    rw [flag, spell.own .animated (by decide) (by decide)]
    rfl
  have id : fields.identifier .id = emoji.id := by
    apply spell.identifier_own (by decide) (by decide)
    cases same : emoji.id <;> simp [Node.own, same] <;> rfl
  rw [Fields.emoji, name, id, animated, filter_nonempty normal]
  rfl

theorem modelled_timestamp {seconds : Int} {style : Option Timestamp.Style} {label : Content}
    (spell : fields.Spell (.entity (.timestamp seconds style) label))
    (normal : Text.fitsSigned 64 seconds = true) :
    fields.seconds .timestamp = some seconds ∧ fields.style = style := by
  constructor
  · have given : fields .timestamp = some (.ofValue (.number (.integer seconds))) :=
      spell.own .timestamp (by decide) (by decide)
    simp [Fields.seconds, given, Field.ofValue, normal]
  · have code : fields.text .format = style.map Timestamp.Style.code := by
      apply spell.text_own (by decide) (by decide)
      cases style <;> rfl
    rw [Fields.style, code]
    cases style with
    | none => rfl
    | some style => exact Timestamp.Style.ofCode?_code style

theorem modelled_entity {entity : Entity} {label : Content}
    (spell : fields.Spell (.entity entity label)) (normal : (Node.entity entity label).Normal) :
    fields.model? entity.kind label = some (.entity entity label) := by
  cases entity with
  | channel id | role id | user id =>
      have given : fields.identifier .id = some id :=
        spell.identifier_own (by decide) (by decide) rfl
      change (fields.identifier .id).map _ = _
      rw [given]
      rfl
  | broadcast audience => cases audience <;> rfl
  | emoji emoji =>
      change fields.emoji.map _ = _
      rw [spell.modelled_emoji normal]
      rfl
  | timestamp seconds style =>
      obtain ⟨sameSeconds, sameStyle⟩ := spell.modelled_timestamp normal
      change (fields.seconds .timestamp).map _ = _
      rw [sameSeconds, sameStyle]
      rfl

/-- An unknown node gives no field that a model could need. -/
theorem unmodelled {kind : String} {content : Content} (spell : fields.Spell (.unknown kind content))
    (normal : (Node.unknown kind content).Normal) : fields.model? kind content = Option.none := by
  obtain ⟨notFree, notTyped⟩ := normal
  have target : fields.text .target = Option.none := spell.text_own (by decide) (by decide) rfl
  have id : fields.identifier .id = Option.none := spell.identifier_own (by decide) (by decide) rfl
  have emoji : fields.emoji = Option.none := by
    have name : fields.text .name = Option.none := spell.text_own (by decide) (by decide) rfl
    rw [Fields.emoji, name]
    rfl
  have seconds : fields.seconds .timestamp = Option.none := by
    rw [Fields.seconds, spell.own .timestamp (by decide) (by decide)]
    rfl
  have untyped : kind ∈ typedKinds → typed content = Option.none := by
    intro listed
    cases content with
    | text own => exact absurd rfl (notTyped listed own)
    | nodes inner => rfl
  unfold model?
  split <;> simp_all [contentKinds, typedKinds]

theorem node_eq (spell : fields.Spell node) (normal : node.Normal) : fields.node = node := by
  cases node with
  | text | lineBreak | blockQuote | inlineCode | emoticon | spoiler =>
      exact spell.node_of_modelled rfl
  | link form target label =>
      have given : fields.text .target = some target :=
        spell.text_own (by decide) (by decide) rfl
      apply spell.node_of_modelled
      cases form
      all_goals
        change (fields.text .target).map _ = _
        rw [given]
        rfl
  | codeBlock language code =>
      have given : fields.text .language = language := by
        apply spell.text_own (by decide) (by decide)
        cases language <;> rfl
      apply spell.node_of_modelled
      change some (Node.codeBlock ((fields.text .language).filter _) code) = _
      rw [given, filter_nonempty normal]
  | styled style inner =>
      apply spell.node_of_modelled
      cases style <;> rfl
  | entity entity label => exact spell.node_of_modelled (spell.modelled_entity normal)
  | unknown kind inner =>
      simp [Fields.node, spell.kind, spell.content, Node.kind, Node.held, spell.unmodelled normal]

end Fields.Spell

/-! ## Reading what spells a node -/

theorem spell_bare {node : Node} (empty : node.held = .empty) :
    (Fields.ofEntries (fieldsOf (("type", .string node.kind) :: node.own))).Spell node := by
  rw [fieldsOf_type]
  constructor
  · rw [Fields.text, Fields.ofEntries_cons_self]
    simp [Field.ofValue]
  · have absent := Fields.ofEntries_eq_none_iff.mpr (own_keys node).2.2
    rw [Fields.contentOf, Fields.ofEntries_cons_of_ne _ _ (by decide), absent, empty]
    rfl
  · intro key notKind _
    exact Fields.ofEntries_cons_of_ne _ _ notKind

theorem spell_with {node : Node} {value : Value}
    (held : (Field.ofValue value).content = some node.held) :
    (Fields.ofEntries
      (fieldsOf (("content", value) :: ("type", .string node.kind) :: node.own))).Spell node := by
  rw [fieldsOf_content, fieldsOf_type]
  constructor
  · rw [Fields.text, Fields.ofEntries_cons_of_ne _ _ (by decide), Fields.ofEntries_cons_self]
    simp [Field.ofValue]
  · rw [Fields.contentOf, Fields.ofEntries_cons_self]
    simp [held]
  · intro key notKind notContent
    rw [Fields.ofEntries_cons_of_ne _ _ notContent, Fields.ofEntries_cons_of_ne _ _ notKind]

theorem distinct_bare (node : Node) :
    (keys (fieldsOf (("type", .string node.kind) :: node.own))).Nodup := by
  obtain ⟨distinct, noKind, _⟩ := own_keys node
  rw [fieldsOf_type, keys_cons]
  exact .cons noKind distinct

theorem distinct_with (node : Node) (value : Value) :
    (keys (fieldsOf (("content", value) :: ("type", .string node.kind) :: node.own))).Nodup := by
  have fresh : Key.content ∉ keys (fieldsOf (("type", .string node.kind) :: node.own)) := by
    simpa [fieldsOf_type] using (own_keys node).2.2
  rw [fieldsOf_content, keys_cons]
  exact .cons fresh (distinct_bare node)

theorem allNodes_of_spelled {children : List Node} {values : List Value}
    (paired : List.Forall₂ (fun child value => (Field.ofValue value).node = some child)
      children values) : allNodes (values.map Field.ofValue) = some children := by
  rw [allNodes_eq_some_iff]
  induction paired with
  | nil => rfl
  | cons first _ ih => simp [first, ih]

theorem content_of_nodes {children : List Node} {values : List Value}
    (length : children.length = values.length)
    (each : ∀ child value, (child, value) ∈ children.zip values →
      (Field.ofValue value).node = some child) :
    (Field.ofValue (.array values)).content = some (.nodes children) := by
  have all := allNodes_of_spelled
    (List.forall₂_iff_zip.mpr ⟨length, fun {child value} => each child value⟩)
  rw [Field.content_array, all]
  rfl

end Message

theorem Node.SpelledAs.node_eq {node : Node} {value : Value} (spelled : node.SpelledAs value)
    (normal : Node.AllNormal [node]) : (Field.ofValue value).node = some node := by
  -- Each rule fixes the fields up to their order; the children are read back before the parent.
  induction spelled with
  | @bare node members empty arranged =>
      rw [node_of_perm (distinct_bare node) arranged]
      exact congrArg some ((spell_bare empty).node_eq (Node.allNormal_singleton.mp normal).1)
  | @typed node text members held arranged =>
      have content : (Field.ofValue (.string text)).content = some node.held := by
        rw [held]
        rfl
      rw [node_of_perm (distinct_with node _) arranged]
      exact congrArg some ((spell_with content).node_eq (Node.allNormal_singleton.mp normal).1)
  | @parent node children values members held length _ arranged ih =>
      obtain ⟨own, inner⟩ := Node.allNormal_singleton.mp normal
      rw [held] at inner
      have content : (Field.ofValue (.array values)).content = some node.held := by
        rw [held]
        apply content_of_nodes length
        intro child value member
        exact ih child value member (inner.of_mem (List.of_mem_zip member).1)
      rw [node_of_perm (distinct_with node _) arranged]
      exact congrArg some ((spell_with content).node_eq own)

/-! ## Every node has a spelling -/

/-- What holds of a node whenever it holds of its children holds of every node. -/
@[elab_as_elim]
theorem Node.induct {motive : Node → Prop}
    (step : ∀ node, (∀ child ∈ node.held.children, motive child) → motive node) (node : Node) :
    motive node :=
  @Node.rec (fun content => ∀ child ∈ content.children, motive child) motive
    (fun nodes => ∀ child ∈ nodes, motive child)
    (fun _ _ member => nomatch member) (fun _ inner => inner)
    (fun _ => step _ fun _ member => nomatch member) (step _ fun _ member => nomatch member)
    (fun _ _ _ inner => step _ inner) (fun _ inner => step _ inner)
    (fun _ _ => step _ fun _ member => nomatch member)
    (fun _ => step _ fun _ member => nomatch member) (fun _ _ inner => step _ inner)
    (fun _ inner => step _ inner) (fun _ inner => step _ inner) (fun _ _ inner => step _ inner)
    (fun _ _ inner => step _ inner) (fun _ member => nomatch member)
    (fun _ _ first rest => List.forall_mem_cons.mpr ⟨first, rest⟩) node

theorem Node.exists_spelledAs (node : Node) : ∃ value, node.SpelledAs value := by
  induction node using Node.induct with
  | step node ih =>
      cases held : node.held with
      | text typed => exact ⟨_, .typed held (.refl _)⟩
      | nodes children =>
          rw [held] at ih
          obtain ⟨values, paired⟩ := exists_forall₂_iff.mpr ih
          obtain ⟨length, each⟩ := List.forall₂_iff_zip.mp paired
          exact ⟨_, .parent held length (fun _ _ member => each member) (.refl _)⟩

theorem Node.own_plain {node : Node} (normal : node.Normal) :
    ∀ member ∈ node.own, member.2.Plain := by
  cases node with
  | codeBlock language code => cases language <;> simp [own, Value.Plain.string]
  | entity entity label =>
      cases entity with
      | emoji emoji =>
          cases same : emoji.id <;> simp [own, same, Value.Plain.string, Value.Plain.boolean]
      | timestamp seconds style =>
          have number : (Value.number (.integer seconds)).Plain := .number normal
          cases style <;> simp [own, Value.Plain.string, number]
      | channel | role | user | broadcast => simp [own, Value.Plain.string]
  | text | lineBreak | link | blockQuote | inlineCode | styled | emoticon | spoiler | unknown =>
      simp [own, Value.Plain.string]

theorem plain_of_perm {members given : List (String × Value)} (arranged : members.Perm given)
    (each : ∀ member ∈ given, member.2.Plain) : (Value.object members).Plain :=
  .object fun member within => each member (arranged.mem_iff.mp within)

theorem plain_array {nodes : List Node} {values : List Value}
    (paired : List.Forall₂ (fun _ value => Value.Plain value) nodes values) :
    (Value.array values).Plain := by
  apply Value.Plain.array
  intro value member
  obtain ⟨_, plain⟩ := exists_of_mem_right paired member
  exact plain

theorem Node.SpelledAs.plain {node : Node} {value : Value} (spelled : node.SpelledAs value)
    (normal : Node.AllNormal [node]) : value.Plain := by
  induction spelled with
  | bare _ arranged =>
      apply plain_of_perm arranged
      simp only [List.forall_mem_cons]
      exact ⟨.string _, Node.own_plain (Node.allNormal_singleton.mp normal).1⟩
  | typed _ arranged =>
      apply plain_of_perm arranged
      simp only [List.forall_mem_cons]
      exact ⟨.string _, .string _, Node.own_plain (Node.allNormal_singleton.mp normal).1⟩
  | @parent _ children values _ held length _ arranged ih =>
      obtain ⟨own, inner⟩ := Node.allNormal_singleton.mp normal
      rw [held] at inner
      apply plain_of_perm arranged
      simp only [List.forall_mem_cons]
      have paired : List.Forall₂ (fun _ value => Value.Plain value) children values := by
        refine List.forall₂_iff_zip.mpr ⟨length, fun {child value} member => ?_⟩
        exact ih child value member (inner.of_mem (List.of_mem_zip member).1)
      exact ⟨plain_array paired, .string _, Node.own_plain own⟩

/-! ## Reading back -/

theorem Message.readNode_of_spelledAs {node : Node} {value : Value} {text : String}
    (spelled : node.SpelledAs value) (normal : Node.AllNormal [node])
    (written : value.SpelledBy text) (shallow : value.depth ≤ deepest) :
    readText readNode text = .ok node := by
  obtain ⟨document, own, kept⟩ := written
  rw [← Document.depth_of_keep kept] at shallow
  rw [readText_eq_ok own, readNode_of_keep (Document.keep_of_depth_le kept shallow)]
  exact spelled.node_eq normal

theorem Message.read_of_spelledAs {nodes : List Node} {values : List Value} {text : String}
    (spelled : List.Forall₂ Node.SpelledAs nodes values) (normal : Node.AllNormal nodes)
    (written : (Value.array values).SpelledBy text)
    (shallow : (Value.array values).depth ≤ deepest) : read text = .ok nodes := by
  obtain ⟨document, own, kept⟩ := written
  rw [← Document.depth_of_keep kept] at shallow
  have keptDeep := Document.keep_of_depth_le kept shallow
  obtain ⟨items, rfl⟩ := Document.form_of_keep_array kept
  obtain ⟨_, _, _, same, inner⟩ := Document.keep_array.mp keptDeep
  cases same
  rw [read_array own, ← allNodes_of_keep inner]
  apply allNodes_of_spelled
  refine forall₂_of_mem spelled fun node member value spelledNode => ?_
  exact spelledNode.node_eq (normal.of_mem member)

theorem Message.exists_text {nodes : List Node} (normal : Node.AllNormal nodes) :
    ∃ values text, List.Forall₂ Node.SpelledAs nodes values ∧
      (Value.array values).SpelledBy text := by
  obtain ⟨values, spelled⟩ := exists_forall₂_iff.mpr fun node (_ : node ∈ nodes) =>
    node.exists_spelledAs
  have plain : (Value.array values).Plain :=
    plain_array (forall₂_of_mem spelled fun node member value own => own.plain (normal.of_mem member))
  obtain ⟨text, written⟩ := plain.exists_text
  exact ⟨values, text, spelled, written⟩

/-- Reading gives nodes in normal form and no others: all that it gives are in normal form,
and each node in normal form has spellings, of which every text that is not nested too deep
is read as that node. -/
theorem Message.reads_normal_forms :
    (∀ text nodes, read text = .ok nodes → Node.AllNormal nodes) ∧
      ∀ nodes, Node.AllNormal nodes →
        (∃ values text, List.Forall₂ Node.SpelledAs nodes values ∧
          (Value.array values).SpelledBy text) ∧
        (∀ values text, List.Forall₂ Node.SpelledAs nodes values →
          (Value.array values).SpelledBy text → (Value.array values).depth ≤ deepest →
            read text = .ok nodes) ∧
        ∀ node ∈ nodes, ∀ value text, node.SpelledAs value → value.SpelledBy text →
          value.depth ≤ deepest → readText readNode text = .ok node := by
  refine ⟨fun text nodes => allNormal_of_read, fun nodes normal => ⟨exists_text normal, ?_, ?_⟩⟩
  · intro values text spelled written shallow
    exact read_of_spelledAs spelled normal written shallow
  · intro node member value text spelled written shallow
    exact readNode_of_spelledAs spelled (normal.of_mem member) written shallow

/-- A link without a target stays unknown and keeps what is in it. -/
theorem Message.reads_unknown_link :
    let emoji := Node.entity (.emoji { id := none, name := "a", animated := false }) .empty
    let link := Node.unknown "link" (.nodes [emoji])
    let text := "[\x7b\x22type\x22:\x22link\x22,\x22content\x22:[\x7b\x22type\x22:\x22emoji\x22," ++
      "\x22name\x22:\x22a\x22,\x22animated\x22:false\x7d]\x7d]"
    Node.AllNormal [link] ∧ read text = .ok [link] := by
  intro emoji link text
  have normal : Node.AllNormal [link] := by
    intro node member
    simp only [link, emoji, Node.reachedAll, Node.reached, Content.reached, Content.empty,
      List.append_nil, List.mem_cons, List.not_mem_nil, or_false, if_true] at member
    rcases member with rfl | rfl <;> simp [Node.Normal, contentKinds, typedKinds]
  have spelledEmoji : emoji.SpelledAs (.object
      [("type", .string "emoji"), ("name", .string "a"), ("animated", .boolean false)]) :=
    .bare rfl (.refl _)
  have spelledLink : link.SpelledAs (.object [("type", .string "link"), ("content", .array [.object
      [("type", .string "emoji"), ("name", .string "a"), ("animated", .boolean false)]])]) := by
    refine .parent rfl rfl ?_ (.swap _ _ _)
    intro child value member
    obtain ⟨rfl, rfl⟩ : child = emoji ∧ value = _ := by simpa using member
    exact spelledEmoji
  have own : SpellsDocument (.array [.object [(.plain "type", .string (.plain "link")),
      (.plain "content", .array [.object [(.plain "type", .string (.plain "emoji")),
        (.plain "name", .string (.plain "a")), (.plain "animated", .boolean false)] none] none)]
      none] none) _ :=
    .array space_nil (.last (.object space_nil
      (.more (spells_member (by decide) (spells_text (by decide))) space_nil space_nil
      (.last (spells_member (by decide) (.array space_nil (.last (.object space_nil
        (.more (spells_member (by decide) (spells_text (by decide))) space_nil space_nil
        (.more (spells_member (by decide) (spells_text (by decide))) space_nil space_nil
        (.last (spells_member (by decide) (.boolean false)) space_nil)))) space_nil)))
      space_nil))) space_nil)
  refine ⟨normal, ?_⟩
  refine (reads_normal_forms.2 [link] normal).2.1 _ text (.cons spelledLink .nil)
    ⟨_, ⟨[], _, [], space_nil, own, space_nil, by decide⟩, ?_⟩ (by decide)
  cbv

end MessageMarkup
