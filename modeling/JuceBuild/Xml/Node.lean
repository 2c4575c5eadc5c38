/-!
# Nodes

A document as a tree: an element's tag, its attributes in the order they are written, and the
elements directly inside it.
-/

namespace JuceBuild.Xml

/-- An element of a document. -/
structure Node where
  tag : String
  attributes : List (String × String)
  children : List Node
  deriving BEq, Repr, Inhabited

namespace Node

def attribute? (node : Node) (name : String) : Option String := node.attributes.lookup name

/-- The value of an attribute, empty if the node does not have it. -/
def attributeD (node : Node) (name : String) : String := (node.attribute? name).getD ""

def hasAttribute (node : Node) (name : String) : Bool := (node.attribute? name).isSome

/-- The first child with a tag. The tag that is asked for is a name, without the signs of a path. -/
def child? (node : Node) (tag : String) : Option Node := node.children.find? (·.tag = tag)

/-- The children of the first child with a tag; none if there is no such child. -/
def childrenOf (node : Node) (tag : String) : List Node :=
  match node.child? tag with
  | none => []
  | some child => child.children

def childWith? (node : Node) (name value : String) : Option Node :=
  node.children.find? (·.attribute? name = some value)

def summary (node : Node) : String := s!"Node({node.tag}, {node.children.length} children)"

end Node

end JuceBuild.Xml
