import JuceBuild.Xml.Tag

/-!
# Namespaces

A name with a prefix belongs to the namespace that the prefix is bound to where the name stands, an
element without one to the default namespace. Such a name is written with the namespace in braces
before it, and the attributes that bind prefixes are not among an element's attributes.
-/

namespace JuceBuild.Xml

/-- The namespace of the prefix `xml`, which is bound in every document. -/
def xmlNamespace : String := "http://www.w3.org/XML/1998/namespace"

/-- The namespace of namespace declarations, to which nothing may be bound. -/
def xmlnsNamespace : String := "http://www.w3.org/2000/xmlns/"

/-- Prefixes and the namespaces they are bound to, the innermost binding first. The empty prefix
stands for the default namespace, and the empty namespace for none. -/
abbrev Scope := List (String × String)

/-- The prefix of a qualified name, empty if it has none, and the name after it. -/
def splitName (name : String) : String × String :=
  match name.toList.dropWhile (· ≠ ':') with
  | [] => ("", name)
  | _ :: rest => (String.ofList (name.toList.takeWhile (· ≠ ':')), String.ofList rest)

/-- A name that belongs to a namespace. -/
def universalName (uri name : String) : String := "\x7b" ++ uri ++ "\x7d" ++ name

/-- The prefix that an attribute binds; none if it is no namespace declaration. -/
def boundPrefix? (attributeName : String) : Option String :=
  match splitName attributeName with
  | ("", name) => if name = "xmlns" then some "" else none
  | ("xmlns", name) => some name
  | _ => none

namespace Scope

def document : Scope := [("xml", xmlNamespace)]

/-- The scope with a prefix bound. The prefix `xml` goes with its own namespace only, `xmlns` with
none, and a prefix cannot be unbound. -/
def bind? (scope : Scope) (name uri : String) : Option Scope :=
  if uri = "" ∧ name ≠ "" then none
  else if name = "xmlns" then none
  else if (name == "xml") != (uri == xmlNamespace) then none
  else if uri = xmlnsNamespace then none
  else if '\x7d' ∈ uri.toList then none
  else some ((name, uri) :: scope)

/-- The scope inside an element with the given attributes. -/
def inside? (scope : Scope) (attributes : List (String × String)) : Option Scope :=
  attributes.foldlM (fun scope (name, uri) =>
    match boundPrefix? name with
    | none => some scope
    | some bound => scope.bind? bound uri) scope

/-- The namespace of a prefix; none if it is not bound. -/
def namespace? (scope : Scope) (name : String) : Option String :=
  (scope.lookup name).filter (· ≠ "")

/-- An element's name in a scope. -/
def elementName? (scope : Scope) (name : String) : Option String :=
  match splitName name with
  | ("", plain) =>
    match scope.namespace? "" with
    | none => some plain
    | some uri => some (universalName uri plain)
  | (before, plain) => (scope.namespace? before).map (universalName · plain)

/-- An attribute's name in a scope; the default namespace does not concern attributes. -/
def attributeName? (scope : Scope) (name : String) : Option String :=
  match splitName name with
  | ("", plain) => some plain
  | (before, plain) => (scope.namespace? before).map (universalName · plain)

/-- The attributes of an element in the scope inside it. No two may come to the same name. -/
def attributes? (scope : Scope) (attributes : List (String × String)) :
    Option (List (String × String)) :=
  match (attributes.filter fun entry => (boundPrefix? entry.1).isNone).mapM
      fun (name, value) => (scope.attributeName? name).map (·, value) with
  | none => none
  | some named => if (named.map Prod.fst).Nodup then some named else none

end Scope

end JuceBuild.Xml
