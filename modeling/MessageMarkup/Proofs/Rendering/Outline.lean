import MessageMarkup.Proofs.Message.Subnodes
import MessageMarkup.Proofs.Rendering.WellFormed

/-!
# Strings do not change the structure of markup

Two messages of the same shape are rendered to markup with the same tags, whatever
their strings are and whatever the services answer. The only places where a string or
a number decides about structure are labels, which may be empty, and timestamps, which
may be out of range.
-/

set_option autoImplicit false

namespace MessageMarkup

/-! ## Messages of the same shape -/

/-- Entities of the same kind. Timestamps are either both in range or both out of it. -/
inductive Entity.Alike : Entity → Entity → Prop where
  | channel (one other : String) : Alike (.channel one) (.channel other)
  | role (one other : String) : Alike (.role one) (.role other)
  | user (one other : String) : Alike (.user one) (.user other)
  | broadcast (one other : Audience) : Alike (.broadcast one) (.broadcast other)
  | emoji (one other : Emoji) : Alike (.emoji one) (.emoji other)
  | timestamp {one other : Int} (oneStyle otherStyle : Option Timestamp.Style) :
      (Timestamp.InRange one ↔ Timestamp.InRange other) →
      Alike (.timestamp one oneStyle) (.timestamp other otherStyle)

mutual

/-- Nodes of the same shape: the same constructors in the same positions. -/
inductive Node.Alike : Node → Node → Prop where
  | text (one other : String) : Node.Alike (.text one) (.text other)
  | lineBreak : Node.Alike .lineBreak .lineBreak
  | link (form : LinkForm) (oneTarget otherTarget : String) {one other : Content} :
      Content.Alike one other → Node.Alike (.link form oneTarget one) (.link form otherTarget other)
  | blockQuote {one other : Content} :
      Content.Alike one other → Node.Alike (.blockQuote one) (.blockQuote other)
  | codeBlock (oneLanguage otherLanguage : Option String) (one other : String) :
      Node.Alike (.codeBlock oneLanguage one) (.codeBlock otherLanguage other)
  | inlineCode (one other : String) : Node.Alike (.inlineCode one) (.inlineCode other)
  | styled (style : InlineStyle) {one other : Content} :
      Content.Alike one other → Node.Alike (.styled style one) (.styled style other)
  | emoticon {one other : Content} :
      Content.Alike one other → Node.Alike (.emoticon one) (.emoticon other)
  | spoiler {one other : Content} :
      Content.Alike one other → Node.Alike (.spoiler one) (.spoiler other)
  | entity {oneEntity otherEntity : Entity} {one other : Content} :
      oneEntity.Alike otherEntity → Content.Alike one other →
      Node.Alike (.entity oneEntity one) (.entity otherEntity other)
  | unknown (oneKind otherKind : String) {one other : Content} :
      Content.Alike one other → Node.Alike (.unknown oneKind one) (.unknown otherKind other)

/-- Content of the same shape. Typed text is empty on both sides or on none. -/
inductive Content.Alike : Content → Content → Prop where
  | text {one other : String} : (one = "" ↔ other = "") → Content.Alike (.text one) (.text other)
  | nodes {one other : List Node} :
      Node.AllAlike one other → Content.Alike (.nodes one) (.nodes other)

/-- As many nodes on both sides, each of the same shape as the other. -/
inductive Node.AllAlike : List Node → List Node → Prop where
  | nil : Node.AllAlike [] []
  | cons {one other : Node} {ones others : List Node} :
      Node.Alike one other → Node.AllAlike ones others →
      Node.AllAlike (one :: ones) (other :: others)

end

theorem Content.Alike.isEmpty_eq {one other : Content} (alike : one.Alike other) :
    one.isEmpty = other.isEmpty := by
  cases alike with
  | text same =>
      rw [Bool.eq_iff_iff]
      simp only [Content.isEmpty, String.isEmpty_iff]
      exact same
  | nodes same =>
      cases same with
      | nil => rfl
      | cons _ _ => rfl

/-! ## The tags of markup -/

namespace Markup

def Tag.outline : Tag → Tag
  | .opening name attributes slashed =>
      .opening name (attributes.map fun item => ⟨item.name, item.value.map fun _ => ""⟩) slashed
  | .closing name => .closing name

def Lexeme.outline? : Lexeme → Option Tag
  | .plain _ => none
  | .entity _ => none
  | .tag written => some written.outline

/-- The tags of markup in their order, if it can be read. -/
def outline? (markup : String) : Option (List Tag) :=
  (lex markup).map (·.filterMap Lexeme.outline?)

end Markup

namespace Html

def outlineAll (pieces : List Html) : List Markup.Tag :=
  (lexemesAll pieces).filterMap Markup.Lexeme.outline?

theorem outlineAll_append (left right : List Html) :
    outlineAll (left ++ right) = outlineAll left ++ outlineAll right := by
  simp [outlineAll, lexemesAll_append]

theorem outline_chars (text : String) :
    (text.toList.map Markup.Lexeme.ofChar).filterMap Markup.Lexeme.outline? = [] := by
  simp only [List.filterMap_eq_nil_iff, List.mem_map]
  rintro _ ⟨char, _, rfl⟩
  unfold Markup.Lexeme.ofChar
  split <;> rfl

theorem outlineAll_text (text : String) : outlineAll [.text text] = [] := by
  simp only [outlineAll, lexemesAll, lexemes, List.append_nil, outline_chars]

theorem outlineAll_source_escape (code : String) : outlineAll [.source (Text.escape code)] = [] := by
  simp only [outlineAll, lexemesAll, lexemes, Markup.lex_escape, Option.getD_some,
    List.append_nil, outline_chars]

theorem outlineAll_element (tag : Tag) (attributes : List Attribute) (children : List Html) :
    outlineAll [.element tag attributes children] =
      (opening tag attributes false).outline :: outlineAll children ++ [(closing tag).outline] := by
  simp [outlineAll, lexemesAll, lexemes, Markup.Lexeme.outline?]

theorem outlineAll_void (tag : Tag) (attributes : List Attribute) (slashed : Bool) :
    outlineAll [.void tag attributes slashed] = [(opening tag attributes slashed).outline] := by
  simp [outlineAll, lexemesAll, lexemes, Markup.Lexeme.outline?]

theorem outline_mention (one other : String) :
    outlineAll [mention one] = outlineAll [mention other] := by
  simp only [mention, outlineAll_element, outlineAll_text]

theorem outline_time (one other : String) : outlineAll [time one] = outlineAll [time other] := by
  simp only [time, outlineAll_element, outlineAll_text]

theorem outline_inlineCode (one other : String) :
    outlineAll [inlineCode one] = outlineAll [inlineCode other] := by
  simp only [inlineCode, outlineAll_element, outlineAll_text]

theorem outline_codeBlock (oneLanguage otherLanguage one other : String) :
    outlineAll [codeBlock oneLanguage (Text.escape one)] =
      outlineAll [codeBlock otherLanguage (Text.escape other)] := by
  simp only [codeBlock, outlineAll_element, outlineAll_source_escape]
  rfl

theorem outline_picture (one other oneAlternative otherAlternative : String) :
    outlineAll [picture one oneAlternative] = outlineAll [picture other otherAlternative] := by
  simp only [picture, outlineAll_void]
  rfl

theorem outline_link (form : LinkForm) (oneTarget otherTarget : String) {one other : List Html}
    (same : outlineAll one = outlineAll other) :
    outlineAll [.element .anchor (.quoted "href" oneTarget :: form.attributes) one] =
      outlineAll [.element .anchor (.quoted "href" otherTarget :: form.attributes) other] := by
  simp only [outlineAll_element, same]
  rfl

theorem outline_quotation {one other : List Html} (same : outlineAll one = outlineAll other) :
    outlineAll [quotation one] = outlineAll [quotation other] := by
  have apart : ∀ children : List Html,
      outlineAll [.element .span [] [], .element .division [] children] =
        outlineAll [.element .span [] []] ++ outlineAll [.element .division [] children] :=
    fun children => outlineAll_append [.element .span [] []] [.element .division [] children]
  simp only [quotation, outlineAll_element, apart, same]

end Html

/-! ## The same tags for the same shape -/

namespace Renderer

theorem outline_present (first second : Renderer) {one other : Entity} (alike : one.Alike other) :
    (first.present one).map (fun shown => Html.outlineAll [shown]) =
      (second.present other).map fun shown => Html.outlineAll [shown] := by
  cases alike with
  | channel | role | user | broadcast => exact congrArg some (Html.outline_mention _ _)
  | emoji => exact congrArg some (Html.outline_picture _ _ _ _)
  | @timestamp oneSeconds otherSeconds oneStyle otherStyle same =>
      simp only [present, Timestamp.format, Option.map_map]
      by_cases inRange : Timestamp.InRange otherSeconds
      · have alsoInRange := same.mpr inRange
        rw [Timestamp.InRange] at inRange alsoInRange
        simp only [alsoInRange, inRange, and_self, ↓reduceIte]
        exact congrArg some (Html.outline_time _ _)
      · have alsoOutside := mt same.mp inRange
        rw [Timestamp.InRange] at inRange alsoOutside
        simp only [alsoOutside, inRange, ↓reduceIte, Option.map_none]

theorem outline_presentIn (first second : Renderer) (context : Context) {one other : Entity}
    (alike : one.Alike other) :
    (first.presentIn context one).map (fun shown => Html.outlineAll [shown]) =
      (second.presentIn context other).map fun shown => Html.outlineAll [shown] := by
  cases context with
  | header => rfl
  | content | reply => exact outline_present first second alike

theorem outline_code {first second : Renderer} (onePlain : first.highlighter = .plain)
    (otherPlain : second.highlighter = .plain) (context : Context)
    (oneLanguage otherLanguage : Option String) (one other : String) :
    Html.outlineAll [first.code context oneLanguage one] =
      Html.outlineAll [second.code context otherLanguage other] := by
  cases context with
  | reply => exact Html.outline_inlineCode one other
  | content | header =>
      simp only [Renderer.code, onePlain, otherPlain]
      exact Html.outline_codeBlock _ _ one other

mutual

/-- Nodes of the same shape have the same tags, with any services. -/
theorem outline_node {first second : Renderer} (onePlain : first.highlighter = .plain)
    (otherPlain : second.highlighter = .plain) (context : Context) :
    ∀ {one other : Node}, one.Alike other →
      Html.outlineAll (first.node context one) = Html.outlineAll (second.node context other)
  | .text _, _, alike => by
      cases alike
      simp only [node, Html.outlineAll_text]
  | .lineBreak, _, alike => by
      cases alike
      simp only [node]
  | .link form target _, _, alike => by
      cases alike with
      | link _ _ otherTarget inner =>
          simp only [node]
          exact Html.outline_link form target otherTarget
            (outline_content onePlain otherPlain context inner)
  | .blockQuote _, _, alike => by
      cases alike with
      | blockQuote inner =>
          have same := outline_content onePlain otherPlain context inner
          cases context with
          | reply => simpa only [node] using same
          | content | header => simpa only [node] using Html.outline_quotation same
  | .codeBlock _ _, _, alike => by
      cases alike
      simp only [node]
      exact outline_code onePlain otherPlain context _ _ _ _
  | .inlineCode _, _, alike => by
      cases alike
      simp only [node]
      exact Html.outline_inlineCode _ _
  | .styled _ _, _, alike => by
      cases alike with
      | styled style inner =>
          simp only [node, Html.outlineAll_element,
            outline_content onePlain otherPlain context inner]
  | .emoticon _, _, alike => by
      cases alike with
      | emoticon inner =>
          simpa only [node] using outline_content onePlain otherPlain context inner
  | .spoiler _, _, alike => by
      cases alike with
      | spoiler inner =>
          simp only [node, Html.spoiler, Html.outlineAll_element,
            outline_content onePlain otherPlain context inner]
  | .entity entity _, _, alike => by
      cases alike with
      | @entity _ other _ _ same inner =>
          have presented := outline_presentIn first second context same
          simp only [node]
          -- The services present both or neither, in which case the labels decide.
          cases oneShown : first.presentIn context entity <;>
            cases otherShown : second.presentIn context other <;>
              simp only [oneShown, otherShown, Option.map_some, Option.map_none, reduceCtorEq,
                Option.some.injEq] at presented ⊢
          · rw [inner.isEmpty_eq]
            split
            · simp only [Html.outlineAll_text]
            · exact outline_content onePlain otherPlain .header inner
          · exact presented
  | .unknown _ _, _, alike => by
      cases alike with
      | unknown _ _ inner =>
          simpa only [node] using outline_content onePlain otherPlain context inner

theorem outline_content {first second : Renderer} (onePlain : first.highlighter = .plain)
    (otherPlain : second.highlighter = .plain) (context : Context) :
    ∀ {one other : Content}, one.Alike other →
      Html.outlineAll (first.content context one) = Html.outlineAll (second.content context other)
  | .text _, _, alike => by
      cases alike
      simp only [content, Html.outlineAll_text]
  | .nodes _, _, alike => by
      cases alike with
      | nodes inner => simpa only [content] using outline_nodes onePlain otherPlain context inner

theorem outline_nodes {first second : Renderer} (onePlain : first.highlighter = .plain)
    (otherPlain : second.highlighter = .plain) (context : Context) :
    ∀ {one other : List Node}, Node.AllAlike one other →
      Html.outlineAll (first.nodes context one) = Html.outlineAll (second.nodes context other)
  | [], _, alike => by
      cases alike
      simp only [nodes]
  | _ :: _, _, alike => by
      cases alike with
      | cons head tail =>
          simp only [nodes, Html.outlineAll_append, outline_node onePlain otherPlain context head,
            outline_nodes onePlain otherPlain context tail]

end

/-- Messages of the same shape are rendered to the same tags: the same elements opened
and closed in the same order, with the same attributes. Neither the strings of a message
nor the answers of the services can add, drop or move a tag. -/
theorem outline_render (first second : Renderer) (context : Context)
    {one other : List Node} (alike : Node.AllAlike one other) :
    ∃ tags, Markup.outline? (first.unhighlighted.render context one) = some tags ∧
      Markup.outline? (second.unhighlighted.render context other) = some tags := by
  have oneSafe : first.unhighlighted.highlighter.Safe := Highlighter.safe_plain
  have otherSafe : second.unhighlighted.highlighter.Safe := Highlighter.safe_plain
  refine ⟨Html.outlineAll (first.unhighlighted.nodes context one), ?_, ?_⟩
  · rw [Markup.outline?, lex_render context one oneSafe]
    rfl
  · have same : Html.outlineAll (first.unhighlighted.nodes context one) =
        Html.outlineAll (second.unhighlighted.nodes context other) :=
      outline_nodes rfl rfl context alike
    rw [Markup.outline?, lex_render context other otherSafe, same]
    rfl

/-- Hostile strings in the place of harmless ones, and hostile services. -/
theorem outline_render_hostile :
    Node.AllAlike
        [.link .labelled "https://a.example" (.nodes [.text "a"]),
          .entity (.timestamp 0 none) (.text "now"), .entity (.user "1") .empty]
        [.link .labelled "\"><script>" (.nodes [.text "</a>"]),
          .entity (.timestamp 60 (some .shortTime)) (.text "<br/>"), .entity (.user "2") .empty] ∧
      ∃ tags,
        Markup.outline? (standard.unhighlighted.render .content
          [.link .labelled "https://a.example" (.nodes [.text "a"]),
            .entity (.timestamp 0 none) (.text "now"), .entity (.user "1") .empty]) = some tags ∧
        Markup.outline? (({ standard with
            resolver := (Directory.empty.withUser "2" "</span>").resolver }).unhighlighted.render
              .content
          [.link .labelled "\"><script>" (.nodes [.text "</a>"]),
            .entity (.timestamp 60 (some .shortTime)) (.text "<br/>"),
            .entity (.user "2") .empty]) = some tags := by
  have sameRange : Timestamp.InRange 0 ↔ Timestamp.InRange 60 := by
    unfold Timestamp.InRange Timestamp.earliest Timestamp.latest
    omega
  have alike : Node.AllAlike
      [.link .labelled "https://a.example" (.nodes [.text "a"]),
        .entity (.timestamp 0 none) (.text "now"), .entity (.user "1") .empty]
      [.link .labelled "\"><script>" (.nodes [.text "</a>"]),
        .entity (.timestamp 60 (some .shortTime)) (.text "<br/>"), .entity (.user "2") .empty] :=
    .cons (.link _ _ _ (.nodes (.cons (.text _ _) .nil)))
      (.cons (.entity (.timestamp _ _ sameRange) (.text (by decide)))
        (.cons (.entity (.user _ _) (.nodes .nil)) .nil))
  exact ⟨alike, outline_render _ _ .content alike⟩

end Renderer

end MessageMarkup
