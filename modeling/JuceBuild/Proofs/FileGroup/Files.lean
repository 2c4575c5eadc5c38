import JuceBuild.Proofs.FileGroup.Runs
import JuceBuild.Proofs.Project.Numbers

/-!
# The files of a document

A document nests the files of a project in groups, and what is not a file is a group, whatever its
tag. The runs of the tree that is read from it have the same files in the same order, under the same
names, unless a flag of one of them is too long a number to be read.
-/

namespace JuceBuild

namespace Xml.Node

mutual

/-- The files in a node, each with the names of the groups around it. What is not a file is a group,
and what is inside a file does not count. -/
def filesOf (names : List String) : Node → List (List String × Node)
  | ⟨tag, attributes, children⟩ =>
    if tag = "FILE" then [(names, ⟨tag, attributes, children⟩)]
    else filesIn (names ++ [attributeD ⟨tag, attributes, children⟩ "name"]) children

def filesIn (names : List String) : List Node → List (List String × Node)
  | [] => []
  | node :: rest => filesOf names node ++ filesIn names rest

end

/-- The files of a main group. -/
def files (main : Node) : List (List String × Node) :=
  filesIn [main.attributeD "name"] main.children

def isResource (file : Node) : Bool :=
  match Text.leadingInt (file.attributeD "resource") with
  | .ok flag => flag = 1
  | .error _ => false

/-- A file that is not to be compiled. -/
def isHeaderOnly (file : Node) : Bool :=
  match FileEntry.ofNode file with
  | .ok entry => entry.isHeaderOnly
  | .error _ => false

end Xml.Node

open Xml.Node (HasOversized filesIn filesOf)

theorem FileEntry.of_ofNode_eq_ok {file : Xml.Node} {entry : FileEntry}
    (hentry : ofNode file = .ok entry) :
    entry.path = file.attributeD "file" ∧ entry.isResource = file.isResource
      ∧ entry.isHeaderOnly = file.isHeaderOnly := by
  have hheaderOnly : file.isHeaderOnly = entry.isHeaderOnly := by
    rw [Xml.Node.isHeaderOnly, hentry]
  obtain ⟨flag, compileFlag?, hflag, -, rfl⟩ := ofNode_eq_ok_iff.mp hentry
  refine ⟨rfl, ?_, hheaderOnly.symm⟩
  rw [Xml.Node.isResource, hflag]

/-- A file of the tree is the reading of a file of the document, under the same names. -/
def Placed (placed : List String × FileEntry) (found : List String × Xml.Node) : Prop :=
  placed.1 = found.1 ∧ FileEntry.ofNode found.2 = .ok placed.2

namespace FileGroup

/-- The files in members of a group, each with the names of the groups around it. -/
def entriesIn (names : List String) (items : List GroupItem) : List (List String × FileEntry) :=
  (runs names items).flatMap fun run => run.entries.map (run.names, ·)

variable {names : List String} {items : List GroupItem}

theorem entriesIn_nil : entriesIn names [] = [] := by
  rw [entriesIn, runs_nil]
  rfl

theorem entriesIn_file (entry : FileEntry) :
    entriesIn names (.file entry :: items) = (names, entry) :: entriesIn names items := by
  obtain ⟨entries, more, hruns⟩ : ∃ entries more, runs names items = ⟨names, entries⟩ :: more := by
    rw [runs]
    exact ⟨_, _, rfl⟩
  rw [entriesIn, entriesIn, runs_file, hruns]
  rfl

theorem entriesIn_group (name : String) (members : List GroupItem) :
    entriesIn names (.group name members :: items)
      = entriesIn (names ++ [name]) members ++ entriesIn names items := by
  rw [entriesIn, runs_group, List.flatMap_cons, List.flatMap_append]
  rfl

-- The recursion is that of the reader: into the children of a group, and on to the next node.
theorem exists_ofNodes_placed (names : List String) (nodes : List Xml.Node)
    (hnumerals : ∀ found ∈ filesIn names nodes, ¬HasOversized FileEntry.flags found.2) :
    ∃ items, GroupItem.ofNodes nodes = .ok items
      ∧ List.Forall₂ Placed (entriesIn names items) (filesIn names nodes) := by
  match nodes with
  | [] =>
      refine ⟨[], rfl, ?_⟩
      rw [entriesIn_nil, filesIn]
      exact .nil
  | ⟨tag, attributes, children⟩ :: rest =>
      rw [filesIn, filesOf, List.forall_mem_append] at hnumerals
      obtain ⟨hfirst, hrest⟩ := hnumerals
      obtain ⟨items, hitems, hplaced⟩ := exists_ofNodes_placed names rest hrest
      rw [GroupItem.ofNodes, GroupItem.ofNode, filesIn, filesOf, hitems]
      by_cases htag : tag = "FILE"
      · rw [if_pos htag] at hfirst ⊢
        rw [if_pos htag]
        rw [List.forall_mem_singleton, ← FileEntry.exists_ofNode_eq_error_iff] at hfirst
        cases hentry : FileEntry.ofNode ⟨tag, attributes, children⟩ with
        | error numeral => exact absurd ⟨numeral, hentry⟩ hfirst
        | ok entry =>
            refine ⟨.file entry :: items, rfl, ?_⟩
            rw [entriesIn_file, List.singleton_append]
            exact .cons ⟨rfl, hentry⟩ hplaced
      · rw [if_neg htag] at hfirst ⊢
        rw [if_neg htag]
        obtain ⟨members, hmembers, hinside⟩ := exists_ofNodes_placed _ children hfirst
        rw [hmembers]
        refine ⟨_, rfl, ?_⟩
        rw [entriesIn_group]
        exact List.rel_append hinside hplaced

theorem exists_ofNode_placed {main : Xml.Node}
    (hnumerals : ∀ found ∈ main.files, ¬HasOversized FileEntry.flags found.2) :
    ∃ group, Group.ofNode main = .ok group
      ∧ List.Forall₂ Placed (entriesIn [group.name] group.items) main.files := by
  obtain ⟨items, hitems, hplaced⟩ := exists_ofNodes_placed _ main.children hnumerals
  refine ⟨⟨main.attributeD "name", items⟩, ?_, hplaced⟩
  rw [Group.ofNode, hitems]
  rfl

end FileGroup

end JuceBuild
