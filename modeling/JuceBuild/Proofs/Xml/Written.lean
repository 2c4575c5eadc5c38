import JuceBuild.Proofs.Text.Utf8
import JuceBuild.Xml.Document

/-!
# Documents as they are written

The ways to write a tree: names as they are, values between double quotes with references for the
characters that have a meaning of their own, white space and comments between elements, an element
without children as one tag or as two. What may stand before the root is a byte order mark and a
declaration for UTF-8.
-/

namespace JuceBuild.Xml

/-! ### Trees that can be written -/

def isPlainStart (c : Char) : Bool := c.isAlpha || c = '_'

def isPlainChar (c : Char) : Bool := isPlainStart c || c.isDigit || c = '-' || c = '.'

/-- A name of ASCII characters without a prefix. -/
def isPlainName (name : String) : Bool :=
  match name.toList with
  | [] => false
  | c :: rest => isPlainStart c && rest.all isPlainChar

namespace Node

/-- A node is within a tree if it is the root or within a child. -/
inductive Within : Node → Node → Prop where
  | root (tree : Node) : Within tree tree
  | child {node child tree : Node} (hchild : child ∈ tree.children) (hwithin : Within node child) :
    Within node tree

/-- A node with plain names, each attribute once, and values that a document may hold. -/
structure IsPlain (node : Node) : Prop where
  tag : isPlainName node.tag = true
  names : ∀ entry ∈ node.attributes, isPlainName entry.1 = true ∧ entry.1 ≠ "xmlns"
  nodup : (node.attributes.map Prod.fst).Nodup
  values : ∀ entry ∈ node.attributes, ∀ c ∈ entry.2.toList, isXmlChar c = true

def IsStorable (tree : Node) : Prop := ∀ node, Within node tree → node.IsPlain

end Node

/-! ### Values, white space and comments -/

/-- A character as it is written between double quotes. -/
def escaped : Char → List Char
  | '&' => "&amp;".toList
  | '<' => "&lt;".toList
  | '>' => "&gt;".toList
  | '"' => "&quot;".toList
  | '\t' => "&#9;".toList
  | '\n' => "&#10;".toList
  | '\r' => "&#13;".toList
  | c => [c]

def IsWhiteSpace (text : List Char) : Prop := ∀ c ∈ text, isSpace c = true

/-- What may stand inside a comment: no two hyphens, and no hyphen at the end. -/
structure IsComment (body : List Char) : Prop where
  characters : ∀ c ∈ body, isXmlChar c = true
  hyphens : ¬['-', '-'] <:+: body ++ ['-']

/-- White space and comments. -/
inductive Gap : List Char → Prop where
  | nil : Gap []
  | space {c : Char} {rest : List Char} (hspace : isSpace c = true) (hrest : Gap rest) :
    Gap (c :: rest)
  | comment {body rest : List Char} (hbody : IsComment body) (hrest : Gap rest) :
    Gap ("<!--".toList ++ (body ++ ("-->".toList ++ rest)))

/-! ### Elements -/

/-- Attributes with white space before each and values between double quotes. -/
inductive AttributesText : List (String × String) → List Char → Prop where
  | nil : AttributesText [] []
  | cons {name value : String} {attributes : List (String × String)}
    {before left right rest : List Char} (hne : before ≠ []) (hbefore : IsWhiteSpace before)
    (hleft : IsWhiteSpace left) (hright : IsWhiteSpace right)
    (hrest : AttributesText attributes rest) :
    AttributesText ((name, value) :: attributes)
      (before ++ (name.toList ++ (left ++ '=' :: (right ++
        '"' :: (value.toList.flatMap escaped ++ '"' :: rest)))))

/-- A tag with attributes, up to what ends it. -/
inductive TagText (tag : String) (attributes : List (String × String)) (ending : List Char) :
    List Char → Prop where
  | mk {text blank : List Char} (hattributes : AttributesText attributes text)
    (hblank : IsWhiteSpace blank) :
    TagText tag attributes ending ('<' :: (tag.toList ++ (text ++ (blank ++ ending))))

def endTagText (tag : String) (blank : List Char) : List Char :=
  '<' :: '/' :: (tag.toList ++ (blank ++ ['>']))

mutual

/-- A text that a node is written as. -/
inductive ElementText : Node → List Char → Prop where
  | empty {tag : String} {attributes : List (String × String)} {text : List Char}
    (htag : TagText tag attributes ['/', '>'] text) : ElementText ⟨tag, attributes, []⟩ text
  | full {tag : String} {attributes : List (String × String)} {children : List Node}
    {text inner blank : List Char} (htag : TagText tag attributes ['>'] text)
    (hinner : ContentText children inner) (hblank : IsWhiteSpace blank) :
    ElementText ⟨tag, attributes, children⟩ (text ++ (inner ++ endTagText tag blank))

/-- A text that nodes are written as inside an element. -/
inductive ContentText : List Node → List Char → Prop where
  | nil {text : List Char} (hgap : Gap text) : ContentText [] text
  | cons {child : Node} {children : List Node} {before text rest : List Char} (hgap : Gap before)
    (hchild : ElementText child text) (hrest : ContentText children rest) :
    ContentText (child :: children) (before ++ (text ++ rest))

end

/-! ### Documents -/

/-- A setting in a declaration, with white space before it and its value between quotes. -/
inductive SettingText (name value : String) : List Char → Prop where
  | mk {before left right : List Char} {quote : Char} (hne : before ≠ [])
    (hbefore : IsWhiteSpace before) (hleft : IsWhiteSpace left) (hright : IsWhiteSpace right)
    (hquote : quote = '"' ∨ quote = '\'') :
    SettingText name value (before ++ (name.toList ++ (left ++ '=' :: (right ++
      quote :: (value.toList ++ [quote])))))

/-- A setting that may be left out. -/
def OptionalText (name : String) (IsValue : String → Prop) (text : List Char) : Prop :=
  text = [] ∨ ∃ value, IsValue value ∧ SettingText name value text

/-- A declaration, from behind its opening, of a document in UTF-8. -/
inductive DeclarationText : List Char → Prop where
  | mk {version encoding standalone blank : List Char}
    (hversion : SettingText "version" "1.0" version)
    (hencoding : OptionalText "encoding" (·.toLower = "utf-8") encoding)
    (hstandalone : OptionalText "standalone" (· ∈ ["yes", "no"]) standalone)
    (hblank : IsWhiteSpace blank) :
    DeclarationText (version ++ (encoding ++ (standalone ++ (blank ++ ['?', '>']))))

/-- The root of a document with what stands around it. -/
inductive BodyText (tree : Node) : List Char → Prop where
  | mk {before text after : List Char} (hbefore : Gap before) (htree : ElementText tree text)
    (hafter : Gap after) : BodyText tree (before ++ (text ++ after))

/-- The characters of a document. -/
inductive DocumentText (tree : Node) : List Char → Prop where
  | bare {body : List Char} (hbody : BodyText tree body) : DocumentText tree body
  | declared {declaration body : List Char} (hdeclaration : DeclarationText declaration)
    (hbody : BodyText tree body) :
    DocumentText tree ("<?xml".toList ++ (declaration ++ body))

def byteOrderMark : List UInt8 := [0xEF, 0xBB, 0xBF]

/-- The octets of a document. -/
inductive Stores (tree : Node) : List UInt8 → Prop where
  | mk {mark : List UInt8} {text : List Char} (hmark : mark = [] ∨ mark = byteOrderMark)
    (htext : DocumentText tree text) : Stores tree (mark ++ Text.Utf8.encode text)

end JuceBuild.Xml
