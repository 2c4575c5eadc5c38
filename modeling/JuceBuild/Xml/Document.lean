import JuceBuild.Xml.Namespace
import JuceBuild.Xml.Node
import JuceBuild.Xml.Prolog

/-!
# Documents

From octets to a tree of nodes: octets are decoded, characters are cut into content, content is
completed to tags, and tags are put together to nodes. What is not a well-formed document gives no
node.
-/

namespace JuceBuild.Xml

/-- An element whose end has not come yet, with the children so far, the last one first. -/
structure OpenElement where
  name : String
  tag : String
  attributes : List (String × String)
  scope : Scope
  children : List Node

namespace OpenElement

/-- The scope inside the innermost of open elements. -/
def scopeOf : List OpenElement → Scope
  | [] => .document
  | element :: _ => element.scope

/-- An element that starts inside open elements. -/
def start? (elements : List OpenElement) (name : String) (attributes : List (String × String)) :
    Option OpenElement :=
  match (scopeOf elements).inside? attributes with
  | none => none
  | some scope =>
    match scope.elementName? name, scope.attributes? attributes with
    | some tag, some attributes => some ⟨name, tag, attributes, scope, []⟩
    | _, _ => none

def node (element : OpenElement) : Node :=
  ⟨element.tag, element.attributes, element.children.reverse⟩

end OpenElement

namespace Node

/-- The root that tags are put together to, inside open elements, the innermost first, and after
the root if it has been closed. -/
def ofTags? : List OpenElement → Option Node → List Tag → Option Node
  | [], root, [] => root
  | _ :: _, _, [] => none
  | [], some _, .start _ _ :: _ => none
  | elements, root, .start name attributes :: rest =>
    match OpenElement.start? elements name attributes with
    | none => none
    | some element => ofTags? (element :: elements) root rest
  | [], _, .finish _ :: _ => none
  | element :: elements, root, .finish name :: rest =>
    if element.name = name then
      match elements with
      | [] => ofTags? [] (some element.node) rest
      | outer :: elements =>
        ofTags? ({ outer with children := element.node :: outer.children } :: elements) root rest
    else none
  | [], _, .text :: _ => none
  | element :: elements, root, .text :: rest => ofTags? (element :: elements) root rest

end Node

/-- What comes after the comments, processing instructions and white space that a text begins
with. -/
def skipMisc? (alphabet : Alphabet) (text : List Char) : Option (List Char) :=
  match _h : skipSpace text with
  | '<' :: '!' :: '-' :: '-' :: rest =>
    match _h' : afterComment? rest with
    | none => none
    | some rest => skipMisc? alphabet rest
  | '<' :: '?' :: rest =>
    match _h' : afterInstruction? alphabet rest with
    | none => none
    | some rest => skipMisc? alphabet rest
  | rest => some rest
termination_by text.length
decreasing_by
  · have := skipSpace_length_le text
    have := afterComment?_length_lt _h'
    simp only [_h, List.length_cons] at *
    omega
  · have := skipSpace_length_le text
    have := afterInstruction?_length_lt _h'
    simp only [_h, List.length_cons] at *
    omega

/-- The root of a document, from its characters after the declaration. -/
def Node.ofText? (alphabet : Alphabet) (isStandalone : Bool) (text : List Char) : Option Node := do
  guard (text.all isXmlChar)
  let text ← skipMisc? alphabet text
  let (doctype, text) ←
    if (dropStart? "<!DOCTYPE".toList text).isSome then Doctype.read? alphabet isStandalone text
    else some (.empty isStandalone, text)
  let items ← content? alphabet text
  guard (doctype.entities.admits (Markup.entityNames items))
  let tags ← doctype.tags? doctype.entities items
  Node.ofTags? [] none tags

/-- The root of a document, from its octets. There is none if the document is not well formed or
names an encoding that is not known. -/
def Node.ofOctets (octets : List UInt8) : Except RefusedEncoding (Option Node) :=
  let (detected, octets) := Encoding.detect octets
  let ascii := detected.leadingAscii octets
  match dropStart? "<?xml".toList ascii with
  | some rest =>
    if rest.head?.any isSpace then
      match XmlDeclaration.read? rest with
      | none => .ok none
      | some (declaration, rest) =>
        let octets := octets.drop ((ascii.length - rest.length) * detected.unitSize)
        let encoding? : Except RefusedEncoding (Option Encoding) :=
          match declaration.encoding? with
          | none => .ok (some detected)
          | some name => detected.declared name
        encoding?.map fun encoding? => do
          let encoding ← encoding?
          let text ← encoding.decode? octets
          Node.ofText? encoding.alphabet declaration.isStandalone text
    else .ok ((detected.decode? octets).bind (Node.ofText? detected.alphabet false))
  | none => .ok ((detected.decode? octets).bind (Node.ofText? detected.alphabet false))

end JuceBuild.Xml
