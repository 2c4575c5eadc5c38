import JuceBuild.Proofs.Xml.Declared

/-!
# Trees are read back from documents

A tree with plain names and values of any characters that a document may hold can be stored: every
way to write it in UTF-8 is read back as the tree, and looking things up in its nodes gives the
first match.
-/

namespace JuceBuild.Xml

/-! ### How documents begin -/

theorem exists_of_tagText {node : Node} {ending text : List Char} (hnode : node.IsPlain)
    (htext : TagText node.tag node.attributes ending text) :
    ∃ c rest, text = '<' :: c :: rest ∧ isPlainStart c = true := by
  obtain ⟨-, -⟩ := htext
  obtain ⟨c, more, hchars, hstart, -⟩ := exists_of_isPlainName hnode.tag
  rw [hchars]
  exact ⟨c, _, rfl, hstart⟩

theorem exists_of_elementText {node : Node} {text : List Char} (hnode : node.IsPlain)
    (htext : ElementText node text) :
    ∃ c rest, text = '<' :: c :: rest ∧ isPlainStart c = true := by
  cases htext with
  | empty htext => exact exists_of_tagText hnode htext
  | full htext =>
      obtain ⟨c, rest, rfl, hstart⟩ := exists_of_tagText hnode htext
      exact ⟨c, _, rfl, hstart⟩

/-- A character that takes one octet, and not the octet zero. -/
def IsLow (c : Char) : Prop := 0 < c.toNat ∧ c.toNat < 128

theorem isLow_of_isPlainStart {c : Char} (hstart : isPlainStart c = true) : IsLow c := by
  have hplain : isPlainChar c = true := by
    rw [isPlainChar, hstart, Bool.true_or, Bool.true_or, Bool.true_or]
  have hcode := toNat_of_isPlainChar hplain
  exact ⟨by omega, by omega⟩

theorem exists_of_gap {before rest : List Char} (hgap : Gap before) :
    ∃ c more, before ++ '<' :: rest = c :: more ∧ IsLow c := by
  cases hgap with
  | nil => exact ⟨'<', rest, rfl, by decide, by decide⟩
  | space hspace => exact ⟨_, _, rfl, toNat_of_isSpace hspace⟩
  | comment => exact ⟨'<', _, rfl, by decide, by decide⟩

/-- Two characters show that a document has no declaration, and that it is in UTF-8. -/
theorem exists_of_body {tree : Node} {body : List Char} (htree : tree.IsPlain)
    (hbody : BodyText tree body) :
    ∃ a b rest, body = a :: b :: rest ∧ IsLow a ∧ IsLow b ∧ ¬(a = '<' ∧ b = '?') := by
  obtain ⟨hgap, htext, -⟩ := hbody
  obtain ⟨c, rest, rfl, hstart⟩ := exists_of_elementText htree htext
  cases hgap with
  | nil =>
      refine ⟨'<', c, _, rfl, ⟨by decide, by decide⟩, isLow_of_isPlainStart hstart, ?_⟩
      rintro ⟨-, rfl⟩
      exact absurd hstart (by decide)
  | @space d before hspace hrest =>
      obtain ⟨e, more, heq, hlow⟩ := exists_of_gap hrest
      refine ⟨d, e, more, congrArg (d :: ·) heq, toNat_of_isSpace hspace, hlow, ?_⟩
      rintro ⟨rfl, -⟩
      exact absurd hspace (by decide)
  | comment =>
      exact ⟨'<', '!', _, rfl, ⟨by decide, by decide⟩, ⟨by decide, by decide⟩,
        fun ⟨_, hne⟩ => absurd hne (by decide)⟩

/-! ### From the characters -/

theorem skipMisc?_comment {text body rest : List Char} (hbody : IsComment body)
    (hskip : skipSpace text = '<' :: '!' :: '-' :: '-' :: (body ++ '-' :: '-' :: '>' :: rest)) :
    skipMisc? .standard text = skipMisc? .standard rest := by
  rw [skipMisc?]
  split
  · rename_i heq
    rw [hskip] at heq
    cases heq
    split
    · rename_i hafter
      rw [afterComment?_append hbody.hyphens] at hafter
      cases hafter
    · rename_i hafter
      rw [afterComment?_append hbody.hyphens] at hafter
      cases hafter
      rfl
  · rename_i heq
    rw [hskip] at heq
    cases heq
  · rename_i hne _
    exact absurd hskip (hne _)

theorem skipMisc?_element {text rest : List Char} {c : Char} (hstart : isPlainStart c = true)
    (hskip : skipSpace text = '<' :: c :: rest) :
    skipMisc? .standard text = some ('<' :: c :: rest) := by
  rw [skipMisc?]
  split
  · rename_i heq
    rw [hskip] at heq
    cases heq
    exact absurd hstart (by decide)
  · rename_i heq
    rw [hskip] at heq
    cases heq
    exact absurd hstart (by decide)
  · rw [hskip]

/-- White space is skipped with what comes after it. -/
theorem skipMisc?_gap {before rest text : List Char} {c : Char} (hgap : Gap before)
    (hstart : isPlainStart c = true)
    (hskip : skipSpace text = skipSpace (before ++ '<' :: c :: rest)) :
    skipMisc? .standard text = some ('<' :: c :: rest) := by
  induction hgap generalizing text with
  | nil => exact skipMisc?_element hstart (hskip.trans (skipSpace_cons rfl _))
  | @space d before hspace _ ih =>
      have hblank : IsWhiteSpace [d] := fun e he => List.mem_singleton.mp he ▸ hspace
      exact ih (hskip.trans (skipSpace_append hblank _))
  | @comment body before hbody _ ih =>
      have htext : skipSpace text = '<' :: '!' :: '-' :: '-' :: (body ++ '-' :: '-' :: '>' ::
          (before ++ '<' :: c :: rest)) := by
        rw [hskip]
        simp only [List.append_assoc]
        exact skipSpace_cons rfl _
      rw [skipMisc?_comment hbody htext, ih rfl]

/-- The root is read from what stands after a declaration. -/
theorem ofText?_body {tree : Node} {body : List Char} (htree : tree.IsStorable)
    (hbody : BodyText tree body) (isStandalone : Bool) :
    Node.ofText? .standard isStandalone body = some tree := by
  obtain ⟨hbefore, htext, hafter⟩ := hbody
  rename_i before text after
  have hreads := (reads_element htext htree).append (reads_gap hafter)
  rw [List.append_nil] at hreads
  have hcharacters : IsXmlText (before ++ (text ++ after)) :=
    isXmlText_append (reads_gap hbefore).characters hreads.characters
  obtain ⟨items, hitems, htags⟩ := hreads.exists_items
  obtain ⟨c, rest, rfl, hstart⟩ := exists_of_elementText htree.isPlain htext
  have hdoctype : dropStart? "<!DOCTYPE".toList ('<' :: c :: rest ++ after) = none := by
    have hne : '!' ≠ c := by
      rintro rfl
      exact absurd hstart (by decide)
    simp [dropStart?, hne]
  rw [ofText?_of_content? (List.all_eq_true.mpr hcharacters) (skipMisc?_gap hbefore hstart rfl)
    hdoctype hitems (admits_nil _) (htags isStandalone), ofTags?_root htree]

/-! ### From the octets -/

theorem detect_cons_cons {a b : UInt8} (hpositive : 0 < a.toNat) (hsmall : a.toNat < 128)
    (hsecond : 0 < b.toNat) (rest : List UInt8) :
    Encoding.detect (a :: b :: rest) = (.utf8, a :: b :: rest) := by
  unfold Encoding.detect
  split
  case h_6 => rfl
  all_goals
    rename_i heq
    cases heq
    contradiction

theorem detect_encode {mark : List UInt8} (hmark : mark = [] ∨ mark = byteOrderMark) {a b : Char}
    (ha : IsLow a) (hb : IsLow b) (rest : List Char) :
    Encoding.detect (mark ++ Text.Utf8.encode (a :: b :: rest))
      = (.utf8, Text.Utf8.encode (a :: b :: rest)) := by
  have hoctet {c : Char} (hc : IsLow c) :
      0 < (UInt8.ofNat c.toNat).toNat ∧ (UInt8.ofNat c.toNat).toNat < 128 := by
    rw [UInt8.toNat_ofNat_of_lt' (Nat.lt_trans hc.2 (by decide))]
    exact hc
  obtain rfl | rfl := hmark
  · rw [List.nil_append, encode_cons_ascii ha.2, encode_cons_ascii hb.2]
    exact detect_cons_cons (hoctet ha).1 (hoctet ha).2 (hoctet hb).1 _
  · rfl

theorem leadingAscii_encode {a b : Char} (ha : IsLow a) (hb : IsLow b) (rest : List Char) :
    ∃ more, Encoding.utf8.leadingAscii (Text.Utf8.encode (a :: b :: rest)) = a :: b :: more :=
  ⟨_, leadingAscii_encode_append (isAscii_cons ha.2 (isAscii_cons hb.2 isAscii_nil)) rest⟩

theorem ofOctets_bare {tree : Node} {mark : List UInt8} {body : List Char}
    (htree : tree.IsStorable) (hmark : mark = [] ∨ mark = byteOrderMark)
    (hbody : BodyText tree body) :
    Node.ofOctets (mark ++ Text.Utf8.encode body) = .ok (some tree) := by
  obtain ⟨a, b, rest, heq, ha, hb, hne⟩ := exists_of_body htree.isPlain hbody
  have hdetect := detect_encode hmark ha hb rest
  obtain ⟨more, hascii⟩ := leadingAscii_encode ha hb rest
  have hnone : dropStart? "<?xml".toList (a :: b :: more) = none := by
    refine if_neg fun hstart => ?_
    obtain ⟨tail, heq⟩ := List.isPrefixOf_iff_prefix.mp hstart
    cases heq
    exact hne ⟨rfl, rfl⟩
  rw [← heq] at hdetect hascii
  rw [Node.ofOctets, hdetect]
  simp only [hascii, hnone, Encoding.decode?, Text.Utf8.decode?_encode, Option.bind_some]
  exact congrArg _ (ofText?_body htree hbody false)

theorem ofOctets_declared {tree : Node} {mark : List UInt8} {declaration body : List Char}
    (htree : tree.IsStorable) (hmark : mark = [] ∨ mark = byteOrderMark)
    (hdeclaration : DeclarationText declaration) (hbody : BodyText tree body) :
    Node.ofOctets (mark ++ Text.Utf8.encode ("<?xml".toList ++ (declaration ++ body)))
      = .ok (some tree) := by
  have hopening : IsAscii "<?xml".toList := by simp [IsAscii]
  have hdetect : Encoding.detect
      (mark ++ Text.Utf8.encode ("<?xml".toList ++ (declaration ++ body)))
        = (.utf8, Text.Utf8.encode ("<?xml".toList ++ (declaration ++ body))) :=
    detect_encode hmark ⟨by decide, by decide⟩ ⟨by decide, by decide⟩ _
  have hall := isAscii_append hopening (XmlDeclaration.isAscii_declaration hdeclaration)
  have hascii := leadingAscii_encode_append hall body
  have hoctets := drop_encode_append hall body
  rw [List.append_assoc, List.append_assoc] at hascii hoctets
  obtain ⟨encoding?, isStandalone, hread, hname⟩ := XmlDeclaration.read?_append hdeclaration
    (Encoding.utf8.leadingAscii (Text.Utf8.encode body))
  have hspace := XmlDeclaration.head?_declaration hdeclaration
    (Encoding.utf8.leadingAscii (Text.Utf8.encode body))
  have hroot : (Encoding.utf8.decode? (Text.Utf8.encode body)).bind
      (Node.ofText? .standard isStandalone) = some tree := by
    rw [Encoding.decode?, Text.Utf8.decode?_encode, Option.bind_some,
      ofText?_body htree hbody isStandalone]
  rw [Node.ofOctets, hdetect]
  simp only [hascii, dropStart?_append, hspace, if_true, hread, hoctets]
  -- A declaration may leave the encoding open; it is the one that was detected then.
  cases encoding? with
  | none => exact congrArg Except.ok hroot
  | some name =>
      dsimp only
      rw [Encoding.declared_utf8 (hname name rfl)]
      exact congrArg Except.ok hroot

theorem ofOctets_of_stores {tree : Node} {octets : List UInt8} (htree : tree.IsStorable)
    (hstores : Stores tree octets) : Node.ofOctets octets = .ok (some tree) := by
  obtain ⟨hmark, htext⟩ := hstores
  cases htext with
  | bare hbody => exact ofOctets_bare htree hmark hbody
  | declared hdeclaration hbody => exact ofOctets_declared htree hmark hdeclaration hbody

theorem ofOctets_bareProject :
    Node.ofOctets bareProject.data.toList = .ok (some ⟨"JUCERPROJECT", [], []⟩) := by
  have hplain : Node.IsPlain ⟨"JUCERPROJECT", [], []⟩ :=
    ⟨by decide, by simp, List.nodup_nil, by simp⟩
  have hstorable : Node.IsStorable ⟨"JUCERPROJECT", [], []⟩ := by
    intro node hwithin
    cases hwithin with
    | root => exact hplain
    | child hchild => cases hchild
  have htag : TagText "JUCERPROJECT" [] ['/', '>'] "<JUCERPROJECT/>".toList :=
    .mk .nil isWhiteSpace_nil
  have hstores : Stores ⟨"JUCERPROJECT", [], []⟩ ([] ++ Text.Utf8.encode ([] ++
      ("<JUCERPROJECT/>".toList ++ []))) := .mk (.inl rfl) (.bare (.mk .nil (.empty htag) .nil))
  exact ofOctets_of_stores hstorable hstores

/-! ### Every tree has a document -/

theorem exists_attributesText (attributes : List (String × String)) :
    ∃ text, AttributesText attributes text := by
  induction attributes with
  | nil => exact ⟨[], .nil⟩
  | cons entry attributes ih =>
      obtain ⟨rest, hrest⟩ := ih
      have hblank : IsWhiteSpace [' '] := fun c hc => List.mem_singleton.mp hc ▸ rfl
      exact ⟨_, .cons (List.cons_ne_nil ' ' []) hblank isWhiteSpace_nil isWhiteSpace_nil hrest⟩

mutual

theorem exists_elementText (node : Node) : ∃ text, ElementText node text := by
  match node with
  | ⟨tag, attributes, children⟩ =>
    obtain ⟨text, htext⟩ := exists_attributesText attributes
    obtain ⟨inner, hinner⟩ := exists_contentText children
    exact ⟨_, .full (.mk htext isWhiteSpace_nil) hinner isWhiteSpace_nil⟩

theorem exists_contentText (nodes : List Node) : ∃ text, ContentText nodes text := by
  match nodes with
  | [] => exact ⟨[], .nil .nil⟩
  | node :: nodes =>
    obtain ⟨text, htext⟩ := exists_elementText node
    obtain ⟨rest, hrest⟩ := exists_contentText nodes
    exact ⟨_, .cons .nil htext hrest⟩

end

theorem exists_stores (tree : Node) : ∃ octets, Stores tree octets := by
  obtain ⟨text, htext⟩ := exists_elementText tree
  exact ⟨_, .mk (.inl rfl) (.bare (.mk .nil htext .nil))⟩

/-! ### Looking things up -/

/-- The first of some items with a property, if one has it. -/
def IsFirst {α : Type} (P : α → Prop) (items : List α) : Option α → Prop
  | none => ∀ item ∈ items, ¬P item
  | some item =>
    P item ∧ ∃ before after, items = before ++ item :: after ∧ ∀ other ∈ before, ¬P other

/-- What is looked up in a node is the first match. Children are looked up by names; a text that is
none may be a path to something else. -/
structure Node.LooksUp (node : Node) : Prop where
  attribute? : ∀ name, IsFirst (·.1 = name) node.attributes ((node.attribute? name).map (name, ·))
  hasAttribute : ∀ name, node.hasAttribute name = true ↔ name ∈ node.attributes.map Prod.fst
  child? : ∀ tag, isPlainName tag = true → IsFirst (·.tag = tag) node.children (node.child? tag)
  childWith? : ∀ name value, IsFirst (fun child => (name, value) ∈ child.attributes) node.children
    (node.childWith? name value)

theorem isFirst_find? {α : Type} {P : α → Prop} [DecidablePred P] (items : List α) :
    IsFirst P items (items.find? fun item => P item) := by
  cases hfound : items.find? fun item => P item with
  | none => simpa [IsFirst] using hfound
  | some item =>
      obtain ⟨hitem, before, after, heq, hbefore⟩ := List.find?_eq_some_iff_append.mp hfound
      exact ⟨of_decide_eq_true hitem, before, after, heq, fun other hother => by
        simpa using hbefore other hother⟩

theorem IsFirst.congr {α : Type} {P Q : α → Prop} {items : List α} {found? : Option α}
    (hiff : ∀ item ∈ items, P item ↔ Q item) (hfirst : IsFirst P items found?) :
    IsFirst Q items found? := by
  cases found? with
  | none => exact fun item hitem hQ => hfirst item hitem ((hiff item hitem).mpr hQ)
  | some item =>
      obtain ⟨hitem, before, after, rfl, hbefore⟩ := hfirst
      refine ⟨(hiff item (by simp)).mp hitem, before, after, rfl, fun other hother hQ => ?_⟩
      exact hbefore other hother ((hiff other (by simp [hother])).mpr hQ)

theorem isFirst_lookup (name : String) (entries : List (String × String)) :
    IsFirst (·.1 = name) entries ((entries.lookup name).map (name, ·)) := by
  cases hvalue : entries.lookup name with
  | none =>
      rintro entry hentry rfl
      have hne := List.lookup_eq_none_iff.mp hvalue entry hentry
      rw [bne_self_eq_false] at hne
      cases hne
  | some value =>
      obtain ⟨before, after, heq, hbefore⟩ := List.lookup_eq_some_iff.mp hvalue
      exact ⟨rfl, before, after, heq, fun other hother => Ne.symm (by
        simpa using hbefore other hother)⟩

namespace Node

theorem hasAttribute_iff (node : Node) (name : String) :
    node.hasAttribute name = true ↔ name ∈ node.attributes.map Prod.fst := by
  rw [hasAttribute, attribute?, List.lookup_isSome_iff, List.mem_map]
  refine exists_congr fun entry => and_congr_right fun _ => ?_
  rw [beq_iff_eq, eq_comm]

theorem attribute?_eq_some_iff {node : Node} (hnodup : (node.attributes.map Prod.fst).Nodup)
    {name value : String} :
    node.attribute? name = some value ↔ (name, value) ∈ node.attributes := by
  rw [attribute?, List.lookup_eq_some_iff]
  constructor
  · rintro ⟨before, after, heq, -⟩
    rw [heq]
    simp
  · intro hmem
    obtain ⟨before, after, heq⟩ := List.append_of_mem hmem
    refine ⟨before, after, heq, fun entry hentry => bne_iff_ne.mpr ?_⟩
    rintro rfl
    rw [heq, List.map_append, List.map_cons, List.nodup_append] at hnodup
    exact hnodup.2.2 _ (List.mem_map_of_mem hentry) _ List.mem_cons_self rfl

theorem IsStorable.of_within {tree node : Node} (htree : tree.IsStorable)
    (hwithin : Within node tree) : node.IsStorable := by
  induction hwithin with
  | root => exact htree
  | child hchild _ ih => exact ih (htree.of_mem hchild)

theorem IsStorable.looksUp {node : Node} (hnode : node.IsStorable) : node.LooksUp where
  attribute? name := isFirst_lookup name node.attributes
  hasAttribute := node.hasAttribute_iff
  child? _ _ := isFirst_find? node.children
  childWith? name value := by
    have hfirst : IsFirst (fun child : Node => child.attribute? name = some value) node.children
        (node.childWith? name value) := isFirst_find? node.children
    exact hfirst.congr fun child hchild =>
      attribute?_eq_some_iff (hnode.of_mem hchild).isPlain.nodup

end Node

/-- **Every tree can be stored and read back.** There is a document for it, each document for it is
read as the tree, and in each node of it the first match is what is looked up. -/
theorem ofOctets_eq_of_isStorable {tree : Node} (htree : tree.IsStorable) :
    (∃ octets, Stores tree octets)
      ∧ (∀ octets, Stores tree octets → Node.ofOctets octets = .ok (some tree))
      ∧ ∀ node, Node.Within node tree → node.LooksUp :=
  ⟨exists_stores tree, fun _ => ofOctets_of_stores htree,
    fun _ hwithin => (htree.of_within hwithin).looksUp⟩

/-- A tree with values that cannot be written as they are. -/
def sampleTree : Node :=
  ⟨"JUCERPROJECT", [("name", "A & B\t\"<x>\"\n"), ("defines", "X=1\r\nY=é")],
    [⟨"MAINGROUP", [("id", "")], []⟩]⟩

theorem ofOctets_eq_of_isStorable_sampleTree :
    sampleTree.IsStorable
      ∧ ∃ octets, Stores sampleTree octets ∧ Node.ofOctets octets = .ok (some sampleTree) := by
  have hstorable : sampleTree.IsStorable := by
    intro node hwithin
    cases hwithin with
    | root => exact ⟨by decide, by decide, by decide, by simp [sampleTree, isXmlChar]⟩
    | child hchild hwithin =>
        rw [sampleTree, List.mem_singleton] at hchild
        subst hchild
        cases hwithin with
        | root => exact ⟨by decide, by decide, by decide, by simp⟩
        | child hchild => cases hchild
  obtain ⟨⟨octets, hstores⟩, hread, -⟩ := ofOctets_eq_of_isStorable hstorable
  exact ⟨hstorable, octets, hstores, hread octets hstores⟩

end JuceBuild.Xml
