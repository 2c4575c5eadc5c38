import JuceBuild.Project.FileEntry

/-!
# Groups of files

The files of a project form a tree: a group holds files and further groups in the order of the
document.
-/

namespace JuceBuild

open Text (OversizedNumeral)

/-- A member of a group. -/
inductive GroupItem where
  | file (entry : FileEntry)
  | group (name : String) (items : List GroupItem)
  deriving Repr

/-- A named group and its members. -/
structure Group where
  name : String
  items : List GroupItem
  deriving Repr

mutual

/-- The member that a node describes: every node but a file is a group. -/
def GroupItem.ofNode : Xml.Node → Except OversizedNumeral GroupItem
  | ⟨tag, attributes, children⟩ =>
    if tag = "FILE" then (FileEntry.ofNode ⟨tag, attributes, children⟩).map .file
    else
      (GroupItem.ofNodes children).map
        (.group (Xml.Node.attributeD ⟨tag, attributes, children⟩ "name"))

def GroupItem.ofNodes : List Xml.Node → Except OversizedNumeral (List GroupItem)
  | [] => .ok []
  | node :: rest => do
    let item ← GroupItem.ofNode node
    let items ← GroupItem.ofNodes rest
    return item :: items

end

/-- The group that a node describes, whatever its tag. -/
def Group.ofNode (node : Xml.Node) : Except OversizedNumeral Group :=
  (GroupItem.ofNodes node.children).map (⟨node.attributeD "name", ·⟩)

end JuceBuild
