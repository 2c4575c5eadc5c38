import JuceBuild.Proofs.Outcome
import JuceBuild.Proofs.Text.LeadingInt
import JuceBuild.Script.Reprojucer

/-!
# The numbers of a project

Only some attributes are read as numbers: the two flags of a file, wherever the file stands in the
tree of groups, and the switches of an audio plug-in. Each is read whether or not the script needs
its value, so an overlong numeral in any one of them keeps the project from being read.
-/

namespace JuceBuild

open Text (BeginsOversized leadingInt exists_leadingInt_eq_error_iff)

namespace Xml.Node

/-- A node with an overlong numeral in one of some attributes. -/
def HasOversized (names : List String) (node : Node) : Prop :=
  ∃ name ∈ names, ∃ value, node.attribute? name = some value ∧ BeginsOversized value.toList

/-- The files of a tree of groups: a node that is no file is a group, and holds the files of its
children. -/
inductive IsFileOf (file : Node) : Node → Prop where
  | self (htag : file.tag = "FILE") : IsFileOf file file
  | inside {group child : Node} (htag : group.tag ≠ "FILE") (hchild : child ∈ group.children)
    (hfile : IsFileOf file child) : IsFileOf file group

theorem isFileOf_iff {file : Node} (node : Node) :
    IsFileOf file node
      ↔ if node.tag = "FILE" then file = node
        else ∃ child ∈ node.children, IsFileOf file child := by
  constructor
  · intro hfile
    cases hfile with
    | self htag => rw [if_pos htag]
    | inside htag hchild hfile =>
        rw [if_neg htag]
        exact ⟨_, hchild, hfile⟩
  · intro hfile
    split at hfile
    · rename_i htag
      cases hfile
      exact .self htag
    · rename_i htag
      obtain ⟨child, hchild, hfile⟩ := hfile
      exact .inside htag hchild hfile

end Xml.Node

open Xml.Node (HasOversized IsFileOf isFileOf_iff)

/-! ### Files -/

/-- The attributes of a file that are read as numbers. -/
def FileEntry.flags : List String := ["resource", "compile"]

theorem FileEntry.ofNode_eq_ok_iff {node : Xml.Node} {entry : FileEntry} :
    ofNode node = .ok entry
      ↔ ∃ flag compileFlag?, leadingInt (node.attributeD "resource") = .ok flag
        ∧ (node.attribute? "compile").mapM leadingInt = .ok compileFlag?
        ∧ ⟨node.attributeD "file", flag = 1, compileFlag?⟩ = entry := by
  rw [ofNode, bind_eq_ok_iff]
  constructor
  · rintro ⟨flag, hflag, hentry⟩
    obtain ⟨compileFlag?, hcompile, hentry⟩ := bind_eq_ok_iff.mp hentry
    exact ⟨flag, compileFlag?, hflag, hcompile, Except.ok.inj hentry⟩
  · rintro ⟨flag, compileFlag?, hflag, hcompile, rfl⟩
    exact ⟨flag, hflag, bind_eq_ok_iff.mpr ⟨compileFlag?, hcompile, rfl⟩⟩

theorem FileEntry.exists_ofNode_eq_error_iff {node : Xml.Node} :
    (∃ e, ofNode node = .error e) ↔ HasOversized flags node := by
  have hresource : (∃ e, leadingInt (node.attributeD "resource") = .error e)
      ↔ ∃ value, node.attribute? "resource" = some value ∧ BeginsOversized value.toList := by
    rw [Xml.Node.attributeD]
    cases node.attribute? "resource" with
    | none =>
        have hempty : leadingInt "" = .ok 0 := rfl
        simp [hempty]
    | some value => simp [exists_leadingInt_eq_error_iff]
  have hcompile : (∃ e, (node.attribute? "compile").mapM leadingInt = .error e)
      ↔ ∃ value, node.attribute? "compile" = some value ∧ BeginsOversized value.toList := by
    cases node.attribute? "compile" with
    | none => simp [Pure.pure, Except.pure]
    | some value =>
        simp only [← exists_leadingInt_eq_error_iff, Option.some.injEq, exists_eq_left']
        exact exists_congr fun e => map_eq_error_iff
  rw [HasOversized, flags, List.exists_mem_cons_iff, List.exists_mem_cons_iff, ← hresource,
    ← hcompile, ofNode]
  simp only [List.not_mem_nil, false_and, exists_false, or_false]
  exact exists_bind_eq_error_iff fun flag => exists_congr fun e => bind_pure_eq_error_iff

mutual

theorem GroupItem.exists_ofNode_eq_error_iff : (node : Xml.Node) →
    ((∃ e, GroupItem.ofNode node = .error e)
      ↔ ∃ file, IsFileOf file node ∧ HasOversized FileEntry.flags file)
  | ⟨tag, attributes, children⟩ => by
      rw [GroupItem.ofNode]
      simp only [isFileOf_iff ⟨tag, attributes, children⟩]
      split
      · simp [map_eq_error_iff, FileEntry.exists_ofNode_eq_error_iff]
      · simp only [map_eq_error_iff, GroupItem.exists_ofNodes_eq_error_iff children]
        grind

theorem GroupItem.exists_ofNodes_eq_error_iff : (nodes : List Xml.Node) →
    ((∃ e, GroupItem.ofNodes nodes = .error e)
      ↔ ∃ node ∈ nodes, ∃ file, IsFileOf file node ∧ HasOversized FileEntry.flags file)
  | [] => by simp [GroupItem.ofNodes]
  | node :: rest => by
      rw [GroupItem.ofNodes, List.exists_mem_cons_iff, ← GroupItem.exists_ofNode_eq_error_iff node,
        ← GroupItem.exists_ofNodes_eq_error_iff rest]
      exact exists_bind_eq_error_iff fun item => exists_congr fun e => bind_pure_eq_error_iff

end

theorem Group.exists_ofNode_eq_error_iff {node : Xml.Node} (htag : node.tag ≠ "FILE") :
    (∃ e, Group.ofNode node = .error e)
      ↔ ∃ file, IsFileOf file node ∧ HasOversized FileEntry.flags file := by
  obtain ⟨tag, attributes, children⟩ := node
  rw [← GroupItem.exists_ofNode_eq_error_iff, Group.ofNode, GroupItem.ofNode, if_neg htag]
  simp only [map_eq_error_iff]

theorem Project.exists_mainGroup?_eq_error_iff {project : Project} :
    (∃ e, project.mainGroup? = .error e)
      ↔ ∃ group, project.root.child? "MAINGROUP" = some group
        ∧ ∃ file, IsFileOf file group ∧ HasOversized FileEntry.flags file := by
  rw [mainGroup?]
  cases hgroup : project.root.child? "MAINGROUP" with
  | none => simp
  | some group =>
      have htag : group.tag = "MAINGROUP" := by simpa using List.find?_some hgroup
      have hfile : group.tag ≠ "FILE" := by
        rw [htag]
        decide
      simp only [map_eq_error_iff, Group.exists_ofNode_eq_error_iff hfile, Option.some.injEq,
        exists_eq_left']

/-! ### Plug-ins -/

namespace ReprojucerScript

/-- The attributes of an audio plug-in that are read as numbers. -/
def pluginSwitches : List String :=
  ["buildVST", "buildAU", "pluginIsSynth", "pluginWantsMidiIn", "pluginProducesMidiOut",
    "pluginIsMidiEffectPlugin", "pluginEditorRequiresKeys"]

theorem exists_pluginLine_eq_error_iff {node : Xml.Node} {tag name : String} {form : SettingForm} :
    (∃ e, pluginLine node (tag, name, form) = .error e)
      ↔ form = .switch ∧ ∃ value, node.attribute? name = some value
        ∧ BeginsOversized value.toList := by
  cases form with
  | text => simp [pluginLine]
  | switch =>
      rw [pluginLine, Setting.ofSwitch]
      cases node.attribute? name with
      | none => simp [Setting.switchLine]
      | some value => simp [Setting.switchLine, map_eq_error_iff, exists_leadingInt_eq_error_iff]

theorem mem_pluginSwitches_iff {name : String} :
    name ∈ pluginSwitches ↔ ∃ tag, (tag, name, SettingForm.switch) ∈ pluginSettings := by
  simp [pluginSwitches, pluginSettings, exists_or]

theorem exists_pluginCalls_eq_error_iff {project : Project} :
    (∃ e, pluginCalls project = .error e)
      ↔ project.kind? = some .audioPlugin ∧ HasOversized pluginSwitches project.root := by
  rw [pluginCalls]
  split
  · rename_i hkind
    simp only [map_eq_error_iff, exists_mapM_eq_error_iff, Prod.exists,
      exists_pluginLine_eq_error_iff, HasOversized, mem_pluginSwitches_iff, hkind, true_and]
    constructor
    · rintro ⟨tag, name, form, hmem, rfl, hvalue⟩
      exact ⟨name, ⟨tag, hmem⟩, hvalue⟩
    · rintro ⟨name, ⟨tag, hmem⟩, hvalue⟩
      exact ⟨tag, name, .switch, hmem, rfl, hvalue⟩
  · rename_i hkind
    simp [hkind]

end ReprojucerScript

end JuceBuild
