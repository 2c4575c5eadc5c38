import JuceBuild.Proofs.Xml.Reading
import Mathlib.Data.List.TakeWhile

/-!
# The tags of a tree

What an element is written as is read as the tags of its node, one after the other, and white space
and comments are read as nothing. Tags are put together to the node they come from.
-/

namespace JuceBuild.Xml

/-! ### Characters that a document may hold -/

def IsXmlText (text : List Char) : Prop := ∀ c ∈ text, isXmlChar c = true

theorem isXmlText_append {left right : List Char} (hleft : IsXmlText left)
    (hright : IsXmlText right) : IsXmlText (left ++ right) :=
  List.forall_mem_append.mpr ⟨hleft, hright⟩

theorem isXmlText_cons {c : Char} {text : List Char} (hc : isXmlChar c = true)
    (htext : IsXmlText text) : IsXmlText (c :: text) := List.forall_mem_cons.mpr ⟨hc, htext⟩

theorem isXmlText_whiteSpace {blank : List Char} (hblank : IsWhiteSpace blank) :
    IsXmlText blank := by
  intro c hc
  obtain rfl | rfl | rfl | rfl := eq_of_isSpace (hblank c hc) <;> decide

/-- The code points of a name lie between those of the hyphen and of the letter z. -/
theorem toNat_of_isPlainChar {c : Char} (hplain : isPlainChar c = true) :
    0x2D ≤ c.toNat ∧ c.toNat ≤ 0x7A := by
  simp only [isPlainChar, isPlainStart, Text.isAlpha_iff, Char.isDigit, Bool.or_eq_true,
    Bool.and_eq_true, decide_eq_true_eq, UInt32.le_iff_toNat_le, ge_iff_le] at hplain
  change (((((65 ≤ c.toNat ∧ c.toNat ≤ 90) ∨ (97 ≤ c.toNat ∧ c.toNat ≤ 122)) ∨ c = '_')
    ∨ (48 ≤ c.toNat ∧ c.toNat ≤ 57)) ∨ c = '-') ∨ c = '.' at hplain
  obtain ((((hupper | hlower) | rfl) | hdigit) | rfl) | rfl := hplain
  · omega
  · omega
  · decide
  · omega
  · decide
  · decide

theorem isXmlText_name {name : String} (hname : isPlainName name = true) :
    IsXmlText name.toList := by
  intro c hc
  have hcode := toNat_of_isPlainChar (isPlainChar_of_mem hname hc)
  have hlarge : ¬c.toNat < 0x20 := by omega
  rw [isXmlChar, if_neg hlarge]
  simp only [Bool.and_eq_true, decide_eq_true_eq]
  omega

theorem isXmlText_escaped {c : Char} (hc : isXmlChar c = true) : IsXmlText (escaped c) := by
  unfold escaped
  split
  case h_8 => exact fun d hd => List.mem_singleton.mp hd ▸ hc
  all_goals exact List.all_eq_true.mp rfl

theorem isXmlText_flatMap_escaped {value : List Char} (hvalue : IsXmlText value) :
    IsXmlText (value.flatMap escaped) := by
  intro d hd
  obtain ⟨c, hc, hd⟩ := List.mem_flatMap.mp hd
  exact isXmlText_escaped (hvalue c hc) d hd

theorem isXmlText_attributes {attributes : List (String × String)} {text : List Char}
    (htext : AttributesText attributes text)
    (hnames : ∀ entry ∈ attributes, isPlainName entry.1 = true)
    (hvalues : ∀ entry ∈ attributes, IsXmlText entry.2.toList) : IsXmlText text := by
  induction htext with
  | nil => exact fun c hc => absurd hc List.not_mem_nil
  | @cons name value attributes before left right text hne hbefore hleft hright _ ih =>
      have hname := isXmlText_name (hnames _ List.mem_cons_self)
      have hvalue := isXmlText_flatMap_escaped (hvalues _ List.mem_cons_self)
      have hrest := ih (fun entry hentry => hnames entry (List.mem_cons_of_mem _ hentry))
        fun entry hentry => hvalues entry (List.mem_cons_of_mem _ hentry)
      have hquoted := isXmlText_cons (c := '"') rfl (isXmlText_append hvalue
        (isXmlText_cons (c := '"') rfl hrest))
      have hequals := isXmlText_cons (c := '=') rfl
        (isXmlText_append (isXmlText_whiteSpace hright) hquoted)
      exact isXmlText_append (isXmlText_whiteSpace hbefore)
        (isXmlText_append hname (isXmlText_append (isXmlText_whiteSpace hleft) hequals))

/-! ### What a text is read as -/

/-- A text that is read as items of content, whatever follows it. -/
def Itemises (text : List Char) (items : List Markup) : Prop :=
  ∀ rest, content? .standard (text ++ rest) = (content? .standard rest).map (items ++ ·)

/-- Items that come to tags in a document without a type, whatever follows them. -/
def Completes (items : List Markup) (tags : List Tag) : Prop :=
  ∀ isStandalone rest, (Doctype.empty isStandalone).tags? [] (items ++ rest)
    = ((Doctype.empty isStandalone).tags? [] rest).map (tags ++ ·)

/-- A text of a document that is read as tags, whatever follows it. -/
structure Reads (text : List Char) (tags : List Tag) : Prop where
  characters : IsXmlText text
  content : ∃ items, Itemises text items ∧ Completes items tags

theorem map_append_map_append {α : Type} (left right : List α) (rest? : Option (List α)) :
    (rest?.map (right ++ ·)).map (left ++ ·) = rest?.map (left ++ right ++ ·) := by
  cases rest? <;> simp

theorem completes_nil : Completes [] [] := by
  intro isStandalone rest
  cases hrest : (Doctype.empty isStandalone).tags? [] rest <;> simp [hrest]

namespace Reads

variable {text text' : List Char} {tags tags' : List Tag}

theorem append (hleft : Reads text tags) (hright : Reads text' tags') :
    Reads (text ++ text') (tags ++ tags') := by
  obtain ⟨items, hitems, htags⟩ := hleft.content
  obtain ⟨items', hitems', htags'⟩ := hright.content
  refine ⟨isXmlText_append hleft.characters hright.characters, items ++ items', ?_, ?_⟩
  · intro rest
    rw [List.append_assoc, hitems, hitems', map_append_map_append]
  · intro isStandalone rest
    rw [List.append_assoc, htags, htags', map_append_map_append]

theorem nil : Reads [] [] := by
  refine ⟨fun c hc => absurd hc List.not_mem_nil, [], fun rest => ?_, completes_nil⟩
  cases hrest : content? .standard rest <;> simp [hrest]

/-- A text with nothing after it. -/
theorem exists_items (hreads : Reads text tags) :
    ∃ items, content? .standard text = some items
      ∧ ∀ isStandalone, (Doctype.empty isStandalone).tags? [] items = some tags := by
  obtain ⟨items, hitems, htags⟩ := hreads.content
  have hnil : content? .standard [] = some [] := by
    rw [content?, List.isEmpty_nil, if_pos rfl]
  refine ⟨items, ?_, fun isStandalone => ?_⟩
  · have hall := hitems []
    rwa [List.append_nil, hnil, Option.map_some, List.append_nil] at hall
  · have hall := htags isStandalone []
    rwa [List.append_nil, Doctype.tags?, Option.map_some, List.append_nil] at hall

theorem of_contentItem? (item : Option Markup) (hcharacters : IsXmlText text)
    (hitem : ∀ rest, contentItem? .standard (text ++ rest) = some (item, rest))
    (htags : Completes item.toList tags) : Reads text tags :=
  ⟨hcharacters, item.toList, fun rest => content?_of_contentItem? (hitem rest), htags⟩

end Reads

/-! ### White space and comments -/

theorem reads_space {c : Char} (hspace : isSpace c = true) : Reads [c] [] := by
  have hblank : IsWhiteSpace [c] := fun d hd => List.mem_singleton.mp hd ▸ hspace
  refine .of_contentItem? none (isXmlText_whiteSpace hblank) (fun rest => ?_)
    completes_nil
  rw [List.singleton_append, contentItem?, if_pos hspace]
  · rintro rfl
    cases hspace
  · rintro rfl
    cases hspace
  · rintro _ rfl
    cases hspace

theorem afterComment?_append {body : List Char} (hhyphens : ¬['-', '-'] <:+: body ++ ['-'])
    (rest : List Char) : afterComment? (body ++ '-' :: '-' :: '>' :: rest) = some rest := by
  induction body with
  | nil => rw [List.nil_append, afterComment?]
  | cons c body ih =>
      have hrest : ¬['-', '-'] <:+: body ++ ['-'] := fun hinner =>
        hhyphens (hinner.trans (List.suffix_cons c _).isInfix)
      -- A hyphen in front is not followed by another, be it the one that ends the comment.
      have hne : ∀ other, c = '-' → body ++ '-' :: '-' :: '>' :: rest ≠ '-' :: other := by
        rintro other rfl heq
        cases body with
        | nil => exact hhyphens (List.infix_refl _)
        | cons d body =>
            rw [List.cons_append, List.cons.injEq] at heq
            rw [heq.1] at hhyphens
            exact hhyphens ⟨[], body ++ ['-'], rfl⟩
      rw [List.cons_append, afterComment?, ih hrest]
      · exact fun other hc heq => hne _ hc heq
      · exact fun other hc heq => hne _ hc heq

theorem reads_comment {body : List Char} (hbody : IsComment body) :
    Reads ("<!--".toList ++ (body ++ "-->".toList)) [] := by
  have hopening : IsXmlText "<!--".toList := List.all_eq_true.mp rfl
  have hclosing : IsXmlText "-->".toList := List.all_eq_true.mp rfl
  refine .of_contentItem? none
    (isXmlText_append hopening (isXmlText_append hbody.characters hclosing)) (fun rest => ?_)
    completes_nil
  have htext : "<!--".toList ++ (body ++ "-->".toList) ++ rest
      = '<' :: '!' :: '-' :: '-' :: (body ++ '-' :: '-' :: '>' :: rest) := by simp
  rw [htext, contentItem?, afterLessThan?, afterComment?_append hbody.hyphens]
  rfl

theorem reads_gap {text : List Char} (hgap : Gap text) : Reads text [] := by
  induction hgap with
  | nil => exact .nil
  | space hspace _ ih => exact (reads_space hspace).append ih
  | @comment body rest hbody _ ih =>
      have hreads := (reads_comment hbody).append ih
      rwa [List.append_assoc, List.append_assoc] at hreads

/-! ### Tags -/

theorem admits_nil (names : List String) : EntityTable.admits [] names = true := by
  have hsum : names.foldl (fun total name => total + (List.lookup name
      (EntityTable.sizes [] 0)).getD 0) 0 = 0 := by
    induction names with
    | nil => rfl
    | cons name names ih => exact ih
  rw [EntityTable.admits, List.length_nil, hsum]
  rfl

theorem expandPieces?_of_predefined? {name : String} {c : Char}
    (hname : predefined? name = some c) (strict : Bool) (rest : List Piece) :
    expandPieces? strict [] (.entity name :: rest)
      = (expandPieces? strict [] rest).map (c :: ·) := by
  rw [expandPieces?, hname]

theorem expandPieces?_pieceOf (strict : Bool) (c : Char) (rest : List Piece) :
    expandPieces? strict [] (pieceOf c :: rest) = (expandPieces? strict [] rest).map (c :: ·) := by
  unfold pieceOf
  split
  case h_5 => rw [expandPieces?]
  all_goals exact expandPieces?_of_predefined? (by decide) strict rest

theorem expandPieces?_map_pieceOf (strict : Bool) (value : List Char) :
    expandPieces? strict [] (value.map pieceOf) = some value := by
  induction value with
  | nil => rw [List.map_nil, expandPieces?]
  | cons c value ih => rw [List.map_cons, expandPieces?_pieceOf, ih, Option.map_some]

theorem normalise?_map_pieceOf (isStandalone : Bool) (value : List Char) :
    (Doctype.empty isStandalone).normalise? [] true (value.map pieceOf) = some value := by
  rw [Doctype.normalise?, if_pos (admits_nil _), expandPieces?_map_pieceOf]
  rfl

/-- The attributes of a tag in a document without a type are the ones that are written. -/
theorem attributes?_map_rawOf (isStandalone : Bool) (tag : String)
    {attributes : List (String × String)} (hnodup : (attributes.map Prod.fst).Nodup) :
    (Doctype.empty isStandalone).attributes? [] tag (attributes.map rawOf) = some attributes := by
  have hnames : (attributes.map rawOf).map RawAttribute.name = attributes.map Prod.fst := by
    rw [List.map_map]
    rfl
  have hentry (entry : String × String) : ((Doctype.empty isStandalone).normalise? [] true
      (rawOf entry).value).map (fun value => ((rawOf entry).name, String.ofList value))
      = some entry := by
    rw [rawOf, normalise?_map_pieceOf, Option.map_some, String.ofList_toList]
  have hwritten : (attributes.map rawOf).mapM (fun raw =>
      ((Doctype.empty isStandalone).normalise? [] true raw.value).map
        fun value => (raw.name, String.ofList value)) = some attributes := by
    rw [List.mapM_map]
    exact (congrArg (attributes.mapM ·) (funext hentry)).trans (mapM_some attributes)
  have hdefaults : (Doctype.empty isStandalone).defaults tag attributes = [] := rfl
  rw [Doctype.attributes?, if_pos (hnames ▸ hnodup)]
  refine (congrArg (Option.map _) hwritten).trans ?_
  rw [Option.map_some, hdefaults, List.append_nil]

theorem stops_attributes {attributes : List (String × String)} {text tail : List Char}
    (hattributes : AttributesText attributes text) (htail : Stops tail) : Stops (text ++ tail) := by
  cases hattributes with
  | nil => exact htail
  | @cons name value attributes before left right text hne hbefore hleft hright hrest =>
      obtain ⟨c, before, rfl⟩ := List.exists_cons_of_ne_nil hne
      have hspace : isSpace c = true := hbefore c List.mem_cons_self
      exact stops_cons (by rw [isStop, hspace, Bool.true_or]) _

theorem contentItem?_tagText {tag : String} {attributes : List (String × String)}
    {ending text rest : List Char} {isEmpty : Bool} (htext : TagText tag attributes ending text)
    (htag : isPlainName tag = true) (hnames : ∀ entry ∈ attributes, isPlainName entry.1 = true)
    (hstops : Stops (ending ++ rest))
    (hending : tagEnd? (skipSpace (ending ++ rest)) = some (isEmpty, rest)) :
    contentItem? .standard (text ++ rest)
      = some (some (if isEmpty then .emptyTag tag (attributes.map rawOf)
        else .startTag tag (attributes.map rawOf)), rest) := by
  obtain ⟨hattributes, hblank⟩ := htext
  rename_i text blank
  have hskip : tagEnd? (skipSpace (blank ++ (ending ++ rest))) = some (isEmpty, rest) := by
    rw [skipSpace_append hblank, hending]
  have hname := qualifiedName?_append htag
    (stops_attributes hattributes (stops_append hblank hstops))
  simp only [List.cons_append, List.append_assoc]
  rw [contentItem?, afterLessThan?]
  · rw [startTag?, hname]
    simp only [tagRest?_append hattributes hnames hskip, Option.map_some, String.ofList_toList]
  all_goals exact fun other => name_append_ne htag rfl

theorem isXmlText_tagText {node : Node} {ending text : List Char} (hnode : node.IsPlain)
    (htext : TagText node.tag node.attributes ending text) (hending : IsXmlText ending) :
    IsXmlText text := by
  obtain ⟨hattributes, hblank⟩ := htext
  exact isXmlText_cons rfl (isXmlText_append (isXmlText_name hnode.tag)
    (isXmlText_append (isXmlText_attributes hattributes (fun entry hentry =>
      (hnode.names entry hentry).1) hnode.values)
    (isXmlText_append (isXmlText_whiteSpace hblank) hending)))

/-- A tag with attributes starts an element, and ends it too if it is empty. -/
theorem reads_tag {node : Node} {ending text : List Char} (isEmpty : Bool)
    (hnode : node.IsPlain) (htext : TagText node.tag node.attributes ending text)
    (hcharacters : IsXmlText ending)
    (hending : ∀ rest, Stops (ending ++ rest)
      ∧ tagEnd? (skipSpace (ending ++ rest)) = some (isEmpty, rest)) :
    Reads text (.start node.tag node.attributes :: if isEmpty then [.finish node.tag] else []) := by
  have hnames : ∀ entry ∈ node.attributes, isPlainName entry.1 = true :=
    fun entry hentry => (hnode.names entry hentry).1
  refine .of_contentItem? _ (isXmlText_tagText hnode htext hcharacters) (fun rest =>
    contentItem?_tagText htext hnode.tag hnames (hending rest).1 (hending rest).2) ?_
  intro isStandalone rest
  have hattributes := attributes?_map_rawOf isStandalone node.tag hnode.nodup
  cases isEmpty with
  | false =>
      rw [if_neg Bool.false_ne_true, Option.toList_some, List.singleton_append, Doctype.tags?,
        hattributes]
      rfl
  | true =>
      rw [if_pos rfl, Option.toList_some, List.singleton_append, Doctype.tags?, hattributes]
      rfl

theorem reads_startTag {node : Node} {text : List Char} (hnode : node.IsPlain)
    (htext : TagText node.tag node.attributes ['>'] text) :
    Reads text [.start node.tag node.attributes] :=
  reads_tag false hnode htext (List.all_eq_true.mp rfl) fun rest =>
    ⟨stops_cons rfl rest, by rw [List.singleton_append, skipSpace_cons rfl, tagEnd?]⟩

theorem reads_emptyTag {node : Node} {text : List Char} (hnode : node.IsPlain)
    (htext : TagText node.tag node.attributes ['/', '>'] text) :
    Reads text [.start node.tag node.attributes, .finish node.tag] :=
  reads_tag true hnode htext (List.all_eq_true.mp rfl) fun rest =>
    ⟨stops_cons rfl _, by rw [List.cons_append, skipSpace_cons rfl, List.singleton_append, tagEnd?]⟩

theorem reads_endTag {tag : String} {blank : List Char} (htag : isPlainName tag = true)
    (hblank : IsWhiteSpace blank) : Reads (endTagText tag blank) [.finish tag] := by
  have hcharacters : IsXmlText (endTagText tag blank) :=
    isXmlText_cons rfl (isXmlText_cons rfl (isXmlText_append (isXmlText_name htag)
      (isXmlText_append (isXmlText_whiteSpace hblank) (List.all_eq_true.mp rfl))))
  refine .of_contentItem? (some (.endTag tag)) hcharacters (fun rest => ?_) ?_
  · have hname := qualifiedName?_append htag (stops_append hblank (stops_cons (c := '>') rfl rest))
    have hclose : skipSpace (blank ++ '>' :: rest) = '>' :: rest := by
      rw [skipSpace_append hblank, skipSpace_cons rfl]
    simp only [endTagText, List.cons_append, List.append_assoc, List.nil_append]
    rw [contentItem?, afterLessThan?, endTag?, hname]
    simp only [hclose, Option.map_some, String.ofList_toList]
  · intro isStandalone rest
    rw [Option.toList_some, List.singleton_append, Doctype.tags?]
    rfl

/-! ### Elements -/

mutual

/-- The tags of a node with those of its children between them. -/
def Node.tags : Node → List Tag
  | ⟨tag, attributes, children⟩ => .start tag attributes :: (Node.tagsOf children ++ [.finish tag])

def Node.tagsOf : List Node → List Tag
  | [] => []
  | child :: children => child.tags ++ Node.tagsOf children

end

theorem Node.IsStorable.of_mem {tree child : Node} (htree : tree.IsStorable)
    (hchild : child ∈ tree.children) : child.IsStorable :=
  fun node hwithin => htree node (.child hchild hwithin)

theorem Node.IsStorable.isPlain {tree : Node} (htree : tree.IsStorable) : tree.IsPlain :=
  htree tree (.root tree)

mutual

theorem reads_element {node : Node} {text : List Char} (htext : ElementText node text)
    (hnode : node.IsStorable) : Reads text node.tags := by
  cases htext with
  | empty htag => exact reads_emptyTag hnode.isPlain htag
  | full htag hinner hblank =>
      have hchildren := reads_content hinner fun child hchild => hnode.of_mem hchild
      exact (reads_startTag hnode.isPlain htag).append
        (hchildren.append (reads_endTag hnode.isPlain.tag hblank))

theorem reads_content {nodes : List Node} {text : List Char} (htext : ContentText nodes text)
    (hnodes : ∀ node ∈ nodes, node.IsStorable) : Reads text (Node.tagsOf nodes) := by
  cases htext with
  | nil hgap => exact reads_gap hgap
  | cons hgap hchild hrest =>
      have hchild := reads_element hchild (hnodes _ List.mem_cons_self)
      have hrest := reads_content hrest fun node hnode => hnodes node (List.mem_cons_of_mem _ hnode)
      exact (reads_gap hgap).append (hchild.append hrest)

end

/-! ### Nodes from tags -/

theorem splitName_of_isPlainName {name : String} (hname : isPlainName name = true) :
    splitName name = ("", name) := by
  have hcolon : name.toList.dropWhile (· ≠ ':') = [] := by
    rw [List.dropWhile_eq_nil_iff]
    intro c hc
    rw [decide_eq_true_eq]
    rintro rfl
    exact absurd (isPlainChar_of_mem hname hc) (by decide)
  rw [splitName, hcolon]

theorem boundPrefix?_of_isPlainName {name : String} (hname : isPlainName name = true)
    (hne : name ≠ "xmlns") : boundPrefix? name = none := by
  rw [boundPrefix?, splitName_of_isPlainName hname]
  exact if_neg hne

theorem inside?_document {attributes : List (String × String)}
    (hnames : ∀ entry ∈ attributes, isPlainName entry.1 = true ∧ entry.1 ≠ "xmlns") :
    Scope.document.inside? attributes = some .document := by
  induction attributes with
  | nil => rfl
  | cons entry attributes ih =>
      obtain ⟨hname, hne⟩ := hnames entry List.mem_cons_self
      have ih := ih fun other hother => hnames other (List.mem_cons_of_mem entry hother)
      rw [Scope.inside?] at ih ⊢
      simp only [List.foldlM_cons, boundPrefix?_of_isPlainName hname hne]
      exact ih

theorem elementName?_document {name : String} (hname : isPlainName name = true) :
    Scope.document.elementName? name = some name := by
  rw [Scope.elementName?, splitName_of_isPlainName hname]
  rfl

theorem attributes?_document {attributes : List (String × String)}
    (hnames : ∀ entry ∈ attributes, isPlainName entry.1 = true ∧ entry.1 ≠ "xmlns")
    (hnodup : (attributes.map Prod.fst).Nodup) :
    Scope.document.attributes? attributes = some attributes := by
  have hfilter : (attributes.filter fun entry => (boundPrefix? entry.1).isNone) = attributes := by
    rw [List.filter_eq_self]
    intro entry hentry
    obtain ⟨hname, hne⟩ := hnames entry hentry
    rw [boundPrefix?_of_isPlainName hname hne, Option.isNone_none]
  have hnamed : attributes.mapM (fun entry =>
      (Scope.document.attributeName? entry.1).map (·, entry.2)) = some attributes := by
    refine (mapM_congr ?_).trans (mapM_some attributes)
    intro entry hentry
    rw [Scope.attributeName?, splitName_of_isPlainName (hnames entry hentry).1]
    rfl
  rw [Scope.attributes?, hfilter]
  simp only [hnamed, if_pos hnodup]

/-- Elements start with the names they are written with. -/
theorem start?_of_isPlain {node : Node} {elements : List OpenElement} (hnode : node.IsPlain)
    (hscope : OpenElement.scopeOf elements = .document) :
    OpenElement.start? elements node.tag node.attributes
      = some ⟨node.tag, node.tag, node.attributes, .document, []⟩ := by
  rw [OpenElement.start?, hscope, inside?_document hnode.names]
  simp only [elementName?_document hnode.tag, attributes?_document hnode.names hnode.nodup]

mutual

/-- Inside an open element the tags of a node come to one more child, and leave the rest open. -/
theorem ofTags?_tags {node : Node} (hnode : node.IsStorable) (outer : OpenElement)
    (houter : outer.scope = .document) (elements : List OpenElement) (root : Option Node)
    (rest : List Tag) :
    Node.ofTags? (outer :: elements) root (node.tags ++ rest)
      = Node.ofTags? ({ outer with children := node :: outer.children } :: elements) root rest := by
  match node with
  | ⟨tag, attributes, children⟩ =>
    have hchildren : ∀ child ∈ children, child.IsStorable := fun child hchild => hnode.of_mem hchild
    have hstart : OpenElement.start? (outer :: elements) tag attributes = _ :=
      start?_of_isPlain hnode.isPlain houter
    rw [Node.tags, List.cons_append, List.append_assoc, Node.ofTags?, hstart]
    · dsimp only
      -- The element is open for its children, which turn up in reverse, and closed after them.
      rw [ofTags?_tagsOf hchildren _ rfl, List.singleton_append, Node.ofTags?, if_pos rfl]
      simp only [OpenElement.node, List.append_nil, List.reverse_reverse]
    · exact fun _ hnil => absurd hnil (List.cons_ne_nil outer elements)

theorem ofTags?_tagsOf {nodes : List Node} (hnodes : ∀ node ∈ nodes, node.IsStorable)
    (outer : OpenElement) (houter : outer.scope = .document) (elements : List OpenElement)
    (root : Option Node) (rest : List Tag) :
    Node.ofTags? (outer :: elements) root (Node.tagsOf nodes ++ rest)
      = Node.ofTags? ({ outer with children := nodes.reverse ++ outer.children } :: elements) root
        rest := by
  match nodes with
  | [] => rfl
  | node :: nodes =>
    have hnode := hnodes node List.mem_cons_self
    have hrest : ∀ other ∈ nodes, other.IsStorable :=
      fun other hother => hnodes other (List.mem_cons_of_mem node hother)
    rw [Node.tagsOf, List.append_assoc, ofTags?_tags hnode outer houter,
      ofTags?_tagsOf hrest { outer with children := node :: outer.children } houter]
    simp only [List.reverse_cons, List.append_assoc, List.singleton_append]

end

/-- The tags of a tree are put together to it. -/
theorem ofTags?_root {tree : Node} (htree : tree.IsStorable) :
    Node.ofTags? [] none tree.tags = some tree := by
  match tree with
  | ⟨tag, attributes, children⟩ =>
    have hchildren : ∀ child ∈ children, child.IsStorable := fun child hchild => htree.of_mem hchild
    have hstart : OpenElement.start? [] tag attributes = _ := start?_of_isPlain htree.isPlain rfl
    rw [Node.tags, Node.ofTags?, hstart]
    · dsimp only
      rw [ofTags?_tagsOf hchildren _ rfl, Node.ofTags?, if_pos rfl]
      simp only [OpenElement.node, List.append_nil, List.reverse_reverse]
      rfl
    · exact fun _ _ hnone => absurd hnone nofun

end JuceBuild.Xml
