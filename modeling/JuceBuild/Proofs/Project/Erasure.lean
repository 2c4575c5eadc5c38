import JuceBuild.Conversion
import JuceBuild.Proofs.Exporter.Calls
import JuceBuild.Proofs.Script.Parts
import JuceBuild.Proofs.Xml.Part

/-!
# What a project is read from

A document may hold anything, and only some of it is ever looked at: four children of the root, the
files in one of them and the exporters in another, and of each node some attributes. The erasure of
a document is what is left when all the rest is deleted. Every reader of a project reads the same
from a document and from its erasure, and fails on both in the same way.
-/

namespace JuceBuild

open Xml (Node Part firsts)

/-! ### The erasure of a document -/

namespace Xml.Node

mutual

/-- A member of a group: of a file the path and the two flags, of a group the name and its
members. -/
def eraseMember : Node → Node
  | ⟨tag, attributes, children⟩ =>
    if tag = "FILE" then (Part.leaf ["file", "resource", "compile"]).of ⟨tag, attributes, children⟩
    else ⟨tag, attributes.filter (·.1 = "name"), eraseMembers children⟩

def eraseMembers : List Node → List Node
  | [] => []
  | node :: rest => eraseMember node :: eraseMembers rest

end

end Xml.Node

namespace Project

def mainGroupPart : Part := ⟨fun name => name = "name", Node.eraseMembers⟩

def modulesPart : Part := .list (Part.leaf ["id"]).of

/-- All attributes are options. -/
def optionsPart : Part := ⟨fun _ => true, fun _ => []⟩

def modulePathsPart : Part := .list (Part.leaf ["id", "path"]).of

def configurationAttributes : List String :=
  ["name", "headerPath", "defines", "osxSDK", "osxCompatibility"]

def configurationsPart : Part := .list (Part.leaf configurationAttributes).of

/-- An exporter: only the first one tells where modules are. -/
def exporterPart (isFirst : Bool) : Part where
  keeps name := ["targetFolder", "vst3Folder", "extraDefs", "extraCompilerFlags"].contains name
  children := firsts (("CONFIGURATIONS", configurationsPart) ::
    if isFirst then [("MODULEPATHS", modulePathsPart)] else [])

def eraseExporters : List Node → List Node
  | [] => []
  | first :: rest => (exporterPart true).of first :: rest.map (exporterPart false).of

def exportersPart : Part := ⟨fun _ => false, eraseExporters⟩

/-- The attributes of a project that are read whatever it builds. -/
def rootAttributes : List String :=
  ["id", "name", "version", "companyName", "companyWebsite", "companyEmail", "projectType",
    "bundleIdentifier", "binaryDataNamespace", "defines"]

def pluginAttributes : List String := ReprojucerScript.pluginSettings.map (·.2.1)

def rootPart (isPlugin : Bool) : Part where
  keeps name := (rootAttributes ++ if isPlugin then pluginAttributes else []).contains name
  children := firsts [("MAINGROUP", mainGroupPart), ("MODULES", modulesPart),
    ("EXPORTFORMATS", exportersPart), ("JUCEOPTIONS", optionsPart)]

/-- The project with all deleted from its document that it is not read from. -/
def erase (project : Project) : Project :=
  { project with root := (rootPart (project.kind? = some .audioPlugin)).of project.root }

end Project

variable (project : Project)

namespace Project

/-! ### The root -/

theorem keeps_rootPart {name : String} (isPlugin : Bool) (hname : name ∈ rootAttributes) :
    (rootPart isPlugin).keeps name = true := by
  simp [rootPart, hname]

theorem attribute?_erase {name : String} (hname : name ∈ rootAttributes) :
    project.erase.root.attribute? name = project.root.attribute? name :=
  Part.attribute?_of _ (keeps_rootPart _ hname)

theorem attributeD_erase {name : String} (hname : name ∈ rootAttributes) :
    project.erase.root.attributeD name = project.root.attributeD name :=
  Part.attributeD_of _ (keeps_rootPart _ hname)

theorem kindName_erase : project.erase.kindName = project.kindName :=
  attributeD_erase project (by decide)

theorem kind?_erase : project.erase.kind? = project.kind? := by
  rw [kind?, kind?, kindName_erase]

theorem attribute?_erase_plugin (hkind : project.kind? = some .audioPlugin) {name : String}
    (hname : name ∈ pluginAttributes) :
    project.erase.root.attribute? name = project.root.attribute? name := by
  refine Part.attribute?_of _ ?_
  simp [rootPart, hkind, hname]

/-! ### Modules and options -/

theorem modules_erase :
    project.erase.root.childrenOf "MODULES"
      = (project.root.childrenOf "MODULES").map (Part.leaf ["id"]).of := by
  have hmodules : project.erase.root.childrenOf "MODULES"
      = modulesPart.children (project.root.childrenOf "MODULES") := Node.childrenOf_of rfl rfl rfl
  exact hmodules

theorem moduleIds_erase : project.erase.moduleIds = project.moduleIds := by
  rw [moduleIds, moduleIds, modules_erase, List.map_map]
  exact List.map_congr_left fun node _ => Part.attributeD_leaf node (by decide)

theorem hasModule_erase (id : String) : project.erase.hasModule id = project.hasModule id := by
  rw [hasModule, hasModule, modules_erase, List.any_map]
  congr 1
  funext node
  rw [Function.comp_apply, Part.attribute?_leaf node (by decide)]

theorem options_erase : project.erase.options = project.options := by
  have hchild : project.erase.root.child? "JUCEOPTIONS"
      = (project.root.child? "JUCEOPTIONS").map optionsPart.of := Node.child?_of rfl rfl
  rw [options, options, hchild]
  cases project.root.child? "JUCEOPTIONS" with
  | none => rfl
  | some node => exact List.filter_true node.attributes

theorem hostsVst3_erase :
    ExportTarget.hostsVst3 project.erase = ExportTarget.hostsVst3 project := by
  rw [ExportTarget.hostsVst3, ExportTarget.hostsVst3, hasModule_erase, options_erase]

end Project

/-! ### Files -/

theorem FileEntry.ofNode_leaf (node : Node) :
    ofNode ((Part.leaf ["file", "resource", "compile"]).of node) = ofNode node := by
  rw [ofNode, ofNode, Part.attributeD_leaf node (by decide), Part.attribute?_leaf node (by decide),
    Part.attributeD_leaf node (by decide)]

theorem attributeD_members (children : List Node → List Node) (node : Node) :
    ((⟨fun name => name = "name", children⟩ : Part).of node).attributeD "name"
      = node.attributeD "name" :=
  Part.attributeD_of node rfl

mutual

theorem GroupItem.ofNode_eraseMember : (node : Node) →
    GroupItem.ofNode node.eraseMember = GroupItem.ofNode node
  | ⟨tag, attributes, children⟩ => by
      rw [Node.eraseMember]
      split
      · rename_i htag
        have hentry := FileEntry.ofNode_leaf ⟨tag, attributes, children⟩
        rw [Part.of] at hentry ⊢
        rw [GroupItem.ofNode, GroupItem.ofNode, if_pos htag, if_pos htag, hentry]
      · rename_i htag
        have hname : Node.attributeD
            ⟨tag, attributes.filter (·.1 = "name"), Node.eraseMembers children⟩ "name"
              = Node.attributeD ⟨tag, attributes, children⟩ "name" :=
          attributeD_members (fun _ => Node.eraseMembers children) ⟨tag, attributes, children⟩
        rw [GroupItem.ofNode, GroupItem.ofNode, if_neg htag, if_neg htag, hname,
          GroupItem.ofNodes_eraseMembers children]

theorem GroupItem.ofNodes_eraseMembers : (nodes : List Node) →
    GroupItem.ofNodes (Node.eraseMembers nodes) = GroupItem.ofNodes nodes
  | [] => by rw [Node.eraseMembers]
  | node :: rest => by
      rw [Node.eraseMembers, GroupItem.ofNodes, GroupItem.ofNodes,
        GroupItem.ofNode_eraseMember node, GroupItem.ofNodes_eraseMembers rest]

end

namespace Project

theorem mainGroup?_erase : project.erase.mainGroup? = project.mainGroup? := by
  have hchild : project.erase.root.child? "MAINGROUP"
      = (project.root.child? "MAINGROUP").map mainGroupPart.of := Node.child?_of rfl rfl
  rw [mainGroup?, mainGroup?, hchild]
  cases project.root.child? "MAINGROUP" with
  | none => rfl
  | some node =>
      have hname : (mainGroupPart.of node).attributeD "name" = node.attributeD "name" :=
        Part.attributeD_of node rfl
      simp only [Option.map_some, Group.ofNode, hname]
      rw [Part.children_of, mainGroupPart, GroupItem.ofNodes_eraseMembers]

/-! ### Exporters -/

theorem exporterNodes_erase :
    project.erase.root.childrenOf "EXPORTFORMATS"
      = eraseExporters (project.root.childrenOf "EXPORTFORMATS") := by
  have hexporters : project.erase.root.childrenOf "EXPORTFORMATS"
      = exportersPart.children (project.root.childrenOf "EXPORTFORMATS") :=
    Node.childrenOf_of rfl rfl rfl
  exact hexporters

theorem map_tag_eraseExporters (nodes : List Node) :
    (eraseExporters nodes).map Node.tag = nodes.map Node.tag := by
  cases nodes with
  | nil => rfl
  | cons first rest =>
      rw [eraseExporters, List.map_cons, List.map_cons, List.map_map]
      rfl

theorem find?_eraseExporters (nodes : List Node) (tag : String) :
    ∃ isFirst, (eraseExporters nodes).find? (·.tag = tag)
      = (nodes.find? (·.tag = tag)).map (exporterPart isFirst).of := by
  cases nodes with
  | nil => exact ⟨true, rfl⟩
  | cons first rest =>
      rw [eraseExporters, List.find?_cons, List.find?_cons, Part.tag_of]
      by_cases htag : first.tag = tag
      · simp only [htag, decide_true]
        exact ⟨true, rfl⟩
      · simp only [htag, decide_false]
        refine ⟨false, ?_⟩
        rw [List.find?_map]
        rfl

theorem skippedExporters_erase : project.erase.skippedExporters = project.skippedExporters := by
  rw [skippedExporters_eq_filter, skippedExporters_eq_filter, exporterNodes_erase,
    map_tag_eraseExporters]

theorem declaredPaths_map_leaf (nodes : List Node) :
    Exporter.declaredPaths (nodes.map (Part.leaf ["id", "path"]).of)
      = Exporter.declaredPaths nodes := by
  rw [Exporter.declaredPaths, Exporter.declaredPaths, List.foldl_map]
  congr 1
  funext paths node
  rw [Part.attribute?_leaf node (by decide), Part.attributeD_leaf node (by decide)]

theorem modulePaths_erase : project.erase.modulePaths = project.modulePaths := by
  rw [modulePaths, modulePaths, exporters, exporters, exporterNodes_erase]
  cases project.root.childrenOf "EXPORTFORMATS" with
  | nil => rfl
  | cons first rest =>
      have hpaths : ((exporterPart true).of first).childrenOf "MODULEPATHS"
          = modulePathsPart.children (first.childrenOf "MODULEPATHS") :=
        Node.childrenOf_of rfl rfl rfl
      simp only [eraseExporters, List.map_cons, Exporter.modulePaths, hpaths]
      exact declaredPaths_map_leaf _

end Project

namespace ExportTarget

variable (isFirst : Bool) (target : ExportTarget) (cwd : Place) (node : Node)

theorem targetCall_of :
    target.targetCall project ⟨(Project.exporterPart isFirst).of node⟩
      = target.targetCall project ⟨node⟩ := by
  have hvst3 : ((Project.exporterPart isFirst).of node).attributeD "vst3Folder"
      = node.attributeD "vst3Folder" := Part.attributeD_of node rfl
  have hdefs : ((Project.exporterPart isFirst).of node).attribute? "extraDefs"
      = node.attribute? "extraDefs" := Part.attribute?_of node rfl
  have hflags : ((Project.exporterPart isFirst).of node).attribute? "extraCompilerFlags"
      = node.attribute? "extraCompilerFlags" := Part.attribute?_of node rfl
  have hfolder : target.vst3Folder ⟨(Project.exporterPart isFirst).of node⟩
      = target.vst3Folder ⟨node⟩ := by
    rw [vst3Folder, vst3Folder, Exporter.vst3Folder, Exporter.vst3Folder, hvst3]
  rw [targetCall, targetCall, hfolder, Setting.ofText, Setting.ofText, Setting.ofText,
    Setting.ofText, hdefs, hflags]

theorem configurationCall_leaf (configuration : Node) :
    target.configurationCall cwd project ⟨(Project.exporterPart isFirst).of node⟩
        ⟨(Part.leaf Project.configurationAttributes).of configuration⟩
      = target.configurationCall cwd project ⟨node⟩ ⟨configuration⟩ := by
  have hfolder : ((Project.exporterPart isFirst).of node).attributeD "targetFolder"
      = node.attributeD "targetFolder" := Part.attributeD_of node rfl
  have hattribute {name : String} (hname : name ∈ Project.configurationAttributes) :
      ((Part.leaf Project.configurationAttributes).of configuration).attribute? name
        = configuration.attribute? name := Part.attribute?_leaf configuration hname
  have htext {name : String} (hname : name ∈ Project.configurationAttributes) :
      ((Part.leaf Project.configurationAttributes).of configuration).attributeD name
        = configuration.attributeD name := Part.attributeD_leaf configuration hname
  have hpaths : searchPathLine cwd project ⟨(Project.exporterPart isFirst).of node⟩
      ⟨(Part.leaf Project.configurationAttributes).of configuration⟩
        = searchPathLine cwd project ⟨node⟩ ⟨configuration⟩ := by
    rw [searchPathLine, searchPathLine, Configuration.headerPath, Configuration.headerPath,
      htext (by decide), Exporter.targetFolder, Exporter.targetFolder, hfolder]
  have hsdks : target.osxSdkLines ⟨(Part.leaf Project.configurationAttributes).of configuration⟩
      = target.osxSdkLines ⟨configuration⟩ := by
    rw [osxSdkLines, osxSdkLines, Configuration.osxSdk, Configuration.osxSdk, htext (by decide),
      Configuration.osxCompatibility, Configuration.osxCompatibility, htext (by decide)]
  rw [configurationCall, configurationCall, hpaths, hsdks, Configuration.name, Configuration.name,
    htext (by decide), Setting.ofText, Setting.ofText, hattribute (by decide)]

theorem calls_of :
    target.calls cwd project ⟨(Project.exporterPart isFirst).of node⟩
      = target.calls cwd project ⟨node⟩ := by
  have hnodes : ((Project.exporterPart isFirst).of node).childrenOf "CONFIGURATIONS"
      = Project.configurationsPart.children (node.childrenOf "CONFIGURATIONS") :=
    Node.childrenOf_of rfl rfl rfl
  rw [calls, calls, targetCall_of, Exporter.configurations, Exporter.configurations, hnodes,
    Project.configurationsPart, Part.list, List.map_map, List.map_map, List.map_map]
  congr 1
  exact List.map_congr_left fun configuration _ =>
    configurationCall_leaf project isFirst target cwd node configuration

end ExportTarget

namespace Project

/-- The calls for the exporters of a project, environment by environment. -/
theorem exporterCalls_eq (cwd : Place) :
    project.exporterCalls cwd = ExportTarget.all.flatMap fun target =>
      ((project.exporterNode? target.tag).map fun node =>
        target.calls cwd project ⟨node⟩).getD [] := by
  rw [exporterCalls, presentExporters, List.filterMap_eq_flatMap_toList, List.flatMap_assoc]
  refine List.flatMap_congr fun target _ => ?_
  rw [exporter?_eq_map]
  cases project.exporterNode? target.tag with
  | none => rfl
  | some node => exact List.flatMap_singleton ..

theorem exporterNode?_erase (tag : String) :
    ∃ isFirst, project.erase.exporterNode? tag
      = (project.exporterNode? tag).map (exporterPart isFirst).of := by
  rw [exporterNode?, exporterNode?, exporterNodes_erase]
  exact find?_eraseExporters _ tag

theorem exporterCalls_erase (cwd : Place) :
    project.erase.exporterCalls cwd = project.exporterCalls cwd := by
  have hcalls (target : ExportTarget) (exporter : Exporter) :
      target.calls cwd project.erase exporter = target.calls cwd project exporter :=
    ExportTarget.calls_congr (hostsVst3_erase project) (fun _ _ => rfl) target exporter
  rw [exporterCalls_eq, exporterCalls_eq]
  refine List.flatMap_congr fun target _ => ?_
  obtain ⟨isFirst, hnode⟩ := exporterNode?_erase project target.tag
  rw [hnode]
  cases project.exporterNode? target.tag with
  | none => rfl
  | some node =>
      simp only [Option.map_some, hcalls, ExportTarget.calls_of]

theorem displayNames_erase :
    project.erase.presentExporters.map (·.1.displayName)
      = project.presentExporters.map (·.1.displayName) := by
  have htargets : project.erase.presentExporters.map (·.1)
      = project.presentExporters.map (·.1) := by
    rw [map_fst_presentExporters, map_fst_presentExporters]
    refine List.filter_congr fun target _ => ?_
    obtain ⟨isFirst, hnode⟩ := exporterNode?_erase project target.tag
    rw [hnode, Option.isSome_map]
  have hnames (found : List (ExportTarget × Exporter)) :
      found.map (·.1.displayName) = (found.map (·.1)).map (·.displayName) := by
    rw [List.map_map]
    rfl
  rw [hnames, hnames, htargets]

end Project

/-! ### Scripts -/

namespace ReprojucerScript

theorem pluginCalls_erase : pluginCalls project.erase = pluginCalls project := by
  rw [pluginCalls, pluginCalls, Project.kind?_erase]
  by_cases hkind : project.kind? = some .audioPlugin
  · have hline (setting : String × String × SettingForm) (hsetting : setting ∈ pluginSettings) :
        pluginLine project.erase.root setting = pluginLine project.root setting := by
      obtain ⟨tag, name, form⟩ := setting
      have hname : name ∈ Project.pluginAttributes := List.mem_map.mpr ⟨_, hsetting, rfl⟩
      have hattribute := Project.attribute?_erase_plugin project hkind hname
      cases form with
      | text => rw [pluginLine, pluginLine, Setting.ofText, Setting.ofText, hattribute]
      | switch => rw [pluginLine, pluginLine, Setting.ofSwitch, Setting.ofSwitch, hattribute]
    rw [if_pos hkind, if_pos hkind, mapM_congr hline]
  · rw [if_neg hkind, if_neg hkind]

theorem settingsCall_erase : settingsCall project.erase = settingsCall project := by
  have htext {name : String} (hname : name ∈ Project.rootAttributes) (tag : String) :
      Setting.ofText project.erase.root tag name = Setting.ofText project.root tag name := by
    rw [Setting.ofText, Setting.ofText, Project.attribute?_erase project hname]
  have hdescription : project.erase.kindDescription = project.kindDescription := by
    rw [Project.kindDescription, Project.kindDescription, Project.kind?_erase]
  rw [settingsCall, settingsCall, hdescription]
  simp (disch := decide) only [htext]

theorem beginCall_erase : beginCall project.erase = beginCall project := by
  have hid : project.erase.root.attribute? "id" = project.root.attribute? "id" :=
    Project.attribute?_erase project (by decide)
  rw [beginCall, beginCall, Setting.ofText, Setting.ofText, hid]
  rfl

theorem ofParts_erase (cwd : Place) (directory : String) (mainGroup? : Option Group)
    (modules : List ModuleReference) (pluginCalls : List Block) :
    ofParts project.erase cwd directory mainGroup? modules pluginCalls
      = ofParts project cwd directory mainGroup? modules pluginCalls := by
  rw [ofParts, ofParts, beginCall_erase, settingsCall_erase, Project.exporterCalls_erase,
    Project.displayNames_erase, Project.options_erase]
  rfl

theorem ofProject_erase (store : FileStore) (reprojucer : Path) (outputDirectory? : Option Path) :
    ofProject store project.erase reprojucer outputDirectory?
      = ofProject store project reprojucer outputDirectory? := by
  have hdirectory : project.erase.directory = project.directory := rfl
  rw [ofProject_eq, ofProject_eq, Project.mainGroup?_erase, Project.moduleIds_erase,
    Project.modulePaths_erase, hdirectory, pluginCalls_erase]
  simp only [ofParts_erase]

end ReprojucerScript

theorem Juce6Script.ofProject_erase : ofProject project.erase = ofProject project := by
  have hname : project.erase.name = project.name := Project.attributeD_erase project (by decide)
  have hversion : project.erase.version = project.version :=
    Project.attributeD_erase project (by decide)
  have hlines (addCommand : String) :
      lines project.erase addCommand = lines project addCommand := by
    rw [lines, lines, minimumVersion, minimumVersion, versionOf, versionOf, formatLines,
      formatLines, Project.kind?_erase, hname, hversion]
  rw [ofProject, ofProject, Project.kind?_erase, Project.kindName_erase]
  simp only [hlines]

namespace ConversionSettings

/-- **A script is made from the erasure of a document.** The lines of the script, the parts they are
made from, what is reported of them and what keeps a script from being made are the same for a
project and for its erasure. -/
theorem script_erase (store : FileStore) :
    (∀ reprojucer outputDirectory?,
        ReprojucerScript.ofProject store project.erase reprojucer outputDirectory?
          = ReprojucerScript.ofProject store project reprojucer outputDirectory?)
      ∧ Juce6Script.ofProject project.erase = Juce6Script.ofProject project
      ∧ ∀ settings : ConversionSettings,
        settings.script store project.erase = settings.script store project := by
  refine ⟨ReprojucerScript.ofProject_erase project store, Juce6Script.ofProject_erase project, ?_⟩
  intro settings
  rw [script, script, Juce6Script.ofProject_erase, Project.skippedExporters_erase]
  simp only [ReprojucerScript.ofProject_erase]

end ConversionSettings

/-- A document with a part that is read and much that is not. -/
example : Project.erase ⟨⟨.root, ["App.jucer"]⟩, ⟨"JUCERPROJECT",
      [("name", "App"), ("pluginName", "Unread"), ("projectType", "guiapp")],
      [⟨"NOTES", [], []⟩,
        ⟨"MAINGROUP", [("id", "x"), ("name", "App")],
          [⟨"FILE", [("file", "Main.cpp"), ("id", "y")], [⟨"FILE", [], []⟩]⟩]⟩,
        ⟨"MAINGROUP", [("name", "Second")], []⟩,
        ⟨"EXPORTFORMATS", [],
          [⟨"LINUX_MAKE", [], []⟩,
            ⟨"XCODE_MAC", [("extraDefs", "A=1")], [⟨"MODULEPATHS", [], []⟩]⟩]⟩]⟩⟩
    = ⟨⟨.root, ["App.jucer"]⟩, ⟨"JUCERPROJECT",
      [("name", "App"), ("projectType", "guiapp")],
      [⟨"MAINGROUP", [("name", "App")], [⟨"FILE", [("file", "Main.cpp")], []⟩]⟩,
        ⟨"EXPORTFORMATS", [],
          [⟨"LINUX_MAKE", [], []⟩, ⟨"XCODE_MAC", [("extraDefs", "A=1")], []⟩]⟩]⟩⟩ := by
  rfl

end JuceBuild
