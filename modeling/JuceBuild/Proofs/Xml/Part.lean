import JuceBuild.Xml.Node
import Mathlib.Data.List.Basic

/-!
# Parts of a node

A reader looks at some attributes of a node and at some of its children. What it looks at is a part
of the node: the attributes of some names, and the children that are chosen, each cut down in its
turn. A lookup that stays within a part finds in it what it finds in the whole node.
-/

namespace JuceBuild.Xml

variable {name tag : String}

/-- Entries whose keys are left out are not missed by a key that is kept. -/
theorem lookup_filter {α : Type} {p : String → Bool} (hname : p name = true)
    (entries : List (String × α)) :
    (entries.filter (p ·.1)).lookup name = entries.lookup name := by
  induction entries with
  | nil => rfl
  | cons entry entries ih =>
      rw [List.filter_cons]
      split
      · rw [List.lookup_cons, List.lookup_cons, ih]
      · rename_i hentry
        have hne : name ≠ entry.1 := fun heq => hentry (heq ▸ hname)
        rw [ih, List.lookup_cons, beq_false_of_ne hne]

/-- What is kept of a node: the attributes of some names, and what a choice leaves of its
children. -/
structure Part where
  keeps : String → Bool
  children : List Node → List Node

namespace Part

/-- The part of a node that has nothing inside. -/
def leaf (names : List String) : Part := ⟨fun name => names.contains name, fun _ => []⟩

/-- The part that is nothing but a list, with a part of each item. -/
def list (item : Node → Node) : Part := ⟨fun _ => false, List.map item⟩

/-- A node cut down to a part. -/
def of (part : Part) (node : Node) : Node :=
  ⟨node.tag, node.attributes.filter (part.keeps ·.1), part.children node.children⟩

variable (part : Part) (node : Node)

theorem tag_of : (part.of node).tag = node.tag := rfl

theorem children_of : (part.of node).children = part.children node.children := rfl

variable {part}

theorem attribute?_of (hname : part.keeps name = true) :
    (part.of node).attribute? name = node.attribute? name :=
  lookup_filter hname node.attributes

theorem attributeD_of (hname : part.keeps name = true) :
    (part.of node).attributeD name = node.attributeD name := by
  rw [Node.attributeD, Node.attributeD, attribute?_of node hname]

theorem attribute?_leaf {names : List String} (hname : name ∈ names) :
    ((leaf names).of node).attribute? name = node.attribute? name :=
  attribute?_of node (List.contains_iff_mem.mpr hname)

theorem attributeD_leaf {names : List String} (hname : name ∈ names) :
    ((leaf names).of node).attributeD name = node.attributeD name :=
  attributeD_of node (List.contains_iff_mem.mpr hname)

end Part

/-- The first child for each of some tags, cut down to the part that goes with the tag; all other
children are left out. -/
def firsts (parts : List (String × Part)) : List Node → List Node
  | [] => []
  | node :: rest =>
    match parts.lookup node.tag with
    | none => firsts parts rest
    | some part => part.of node :: firsts (parts.filter (·.1 ≠ node.tag)) rest

/-- The first child with a tag is found among the first children for several tags. -/
theorem find?_firsts {parts : List (String × Part)} {part : Part}
    (hpart : parts.lookup tag = some part) (nodes : List Node) :
    (firsts parts nodes).find? (·.tag = tag) = (nodes.find? (·.tag = tag)).map part.of := by
  induction nodes generalizing parts with
  | nil => rfl
  | cons node nodes ih =>
      rw [firsts, List.find?_cons]
      by_cases htag : node.tag = tag
      · rw [htag, hpart]
        simp only [List.find?_cons, Part.tag_of, htag, decide_true, Option.map_some]
      · simp only [htag, decide_false]
        cases hnode : parts.lookup node.tag with
        | none => exact ih hpart
        | some other =>
            have hkept : decide (tag ≠ node.tag) = true := decide_eq_true (Ne.symm htag)
            have hparts : (parts.filter (·.1 ≠ node.tag)).lookup tag = some part :=
              (lookup_filter (p := fun name => name ≠ node.tag) hkept parts).trans hpart
            simp only [List.find?_cons, Part.tag_of, htag, decide_false]
            exact ih hparts

namespace Node

variable {node : Node} {whole part : Part} {parts : List (String × Part)}

theorem child?_of (hchildren : whole.children = firsts parts)
    (hpart : parts.lookup tag = some part) :
    (whole.of node).child? tag = (node.child? tag).map part.of := by
  rw [child?, child?, Part.children_of, hchildren]
  exact find?_firsts hpart node.children

theorem childrenOf_of (hchildren : whole.children = firsts parts)
    (hpart : parts.lookup tag = some part) (hnil : part.children [] = []) :
    (whole.of node).childrenOf tag = part.children (node.childrenOf tag) := by
  rw [childrenOf, childrenOf, child?_of hchildren hpart]
  cases node.child? tag with
  | none => exact hnil.symm
  | some child => rfl

end Node

end JuceBuild.Xml
