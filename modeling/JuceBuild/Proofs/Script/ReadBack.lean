import JuceBuild.Proofs.Script.PartCommands

/-!
# Scripts are read back

A reader of the script of a project finds the commands that the project stands for and nothing else.
The sections of the script do not depend on each other: each is read as its own commands, whatever
comes after it, so their number and sizes do not matter. A quote too many anywhere would move the
meaning of everything behind it, which is why every text that goes into the script has to be one
that can stand where it goes.
-/

namespace JuceBuild.ReprojucerScript

open Script

/-! ### The sections before the first call -/

theorem readsCommands_preamble {project : Project} (hfileName : '\n' ∉ project.fileName.toList) :
    ReadsCommands (preamble project) [⟨"cmake_minimum_required", ["VERSION", "3.4"]⟩] := by
  have hcomment : "# This file was generated by Jucer2CMake from " ++ project.fileName
      = Setting.placeholder
        ("This file was generated by Jucer2CMake from " ++ project.fileName) := by
    rw [Setting.placeholder, ← String.append_assoc]
    rfl
  have hversion : ReadsArguments "VERSION 3.4" ["VERSION", "3.4"] := by
    have htext : "VERSION 3.4" = "VERSION" ++ " " ++ "3.4" := rfl
    rw [htext]
    exact (readsArguments_word (by decide)).space (readsArguments_word (by decide))
  rw [preamble, hcomment]
  refine ReadsCommands.skip (reads_placeholder ?_) (.blank (.call rfl (by decide) hversion ?_))
  · rw [String.toList_append, List.mem_append, not_or]
    exact ⟨by decide, hfileName⟩
  · exact readsCommands_nil.blank.blank

theorem readsCommands_inclusion {directory : String} (hdirectory : Text.Unescaped directory) :
    ReadsCommands (inclusion directory)
      [⟨"list", ["APPEND", "CMAKE_MODULE_PATH",
          variableReference "CMAKE_CURRENT_LIST_DIR" ++ "/" ++ directory]⟩,
        ⟨"include", ["Reprojucer"]⟩] := by
  have hpath : Text.Unescaped (variableReference "CMAKE_CURRENT_LIST_DIR" ++ "/" ++ directory) :=
    ((unescaped_variableReference (by decide)).append (by decide)).append hdirectory
  have happend : ReadsArguments "APPEND" ["APPEND"] := readsArguments_word (by decide)
  have hmodulePath := readsArguments_tagged rfl (show IsWord "CMAKE_MODULE_PATH" by decide)
    (quotes_of_unescaped hpath)
  have hinclude : ReadsArguments "Reprojucer" ["Reprojucer"] := readsArguments_word (by decide)
  refine .call ?_ (by decide) (happend.space hmodulePath) (.call rfl (by decide) hinclude ?_)
  · apply String.toList_injective
    simp
  · exact readsCommands_nil.blank.blank

/-- The call that makes the path of the project's file absolute, as a block. -/
def absoluteFile (name : String) : Block where
  opening := "get_filename_component(" ++ name
  body :=
    ["\"" ++ variableReference name ++ "\" ABSOLUTE",
      "BASE_DIR \"" ++ variableReference "CMAKE_BINARY_DIR" ++ "\""]

theorem fileCheck_eq (name : String) :
    fileCheck name
      = ["if(NOT DEFINED " ++ name ++ ")",
          "  " ++ ("message(FATAL_ERROR \"" ++ name ++ " must be defined\")"), "endif()", ""]
        ++ ((absoluteFile name).call ++ ["", ""]) := by
  have hmessage : "  message(FATAL_ERROR \"" ++ name ++ " must be defined\")"
      = "  " ++ ("message(FATAL_ERROR \"" ++ name ++ " must be defined\")") := by
    apply String.toList_injective
    simp
  have hfile (reference : String) :
      "  \"" ++ reference ++ "\" ABSOLUTE" = "  " ++ ("\"" ++ reference ++ "\" ABSOLUTE") := by
    apply String.toList_injective
    simp
  have hdirectory (reference : String) :
      "  BASE_DIR \"" ++ reference ++ "\"" = "  " ++ ("BASE_DIR \"" ++ reference ++ "\"") := by
    apply String.toList_injective
    simp
  rw [fileCheck, hmessage, hfile, hdirectory]
  rfl

theorem readsBlock_absoluteFile {name : String} (hname : IsWord name) :
    ReadsBlock (absoluteFile name)
      ⟨"get_filename_component", [name] ++ [[variableReference name, "ABSOLUTE"],
        ["BASE_DIR", variableReference "CMAKE_BINARY_DIR"]].flatten⟩ := by
  have hfile := quotes_of_unescaped (unescaped_variableReference hname)
  have hdirectory : Text.Unescaped (variableReference "CMAKE_BINARY_DIR") :=
    unescaped_variableReference (by decide)
  have habsolute : ReadsArguments "ABSOLUTE" ["ABSOLUTE"] := readsArguments_word (by decide)
  have htext : "\"" ++ variableReference name ++ "\" ABSOLUTE"
      = "\"" ++ variableReference name ++ "\"" ++ " " ++ "ABSOLUTE" := by
    apply String.toList_injective
    simp
  refine readsBlock_of_opening rfl (by decide) (readsArguments_word hname)
    (.cons ?_ (.cons ?_ .nil))
  · rw [htext]
    exact ((readsArguments_quoted hfile).space habsolute).line
  · exact (readsArguments_tagged rfl (by decide) (quotes_of_unescaped hdirectory)).line

theorem readsCommands_fileCheck {name : String} (hname : IsWord name) :
    ReadsCommands (fileCheck name)
      [⟨"if", ["NOT", "DEFINED", name]⟩,
        ⟨"message", ["FATAL_ERROR", name ++ " must be defined"]⟩,
        ⟨"endif", []⟩,
        ⟨"get_filename_component", [name, variableReference name, "ABSOLUTE", "BASE_DIR",
          variableReference "CMAKE_BINARY_DIR"]⟩] := by
  have hnot : ReadsArguments "NOT" ["NOT"] := readsArguments_word (by decide)
  have hdefined : ReadsArguments "DEFINED" ["DEFINED"] := readsArguments_word (by decide)
  have hcondition := (hnot.space hdefined).space (readsArguments_word hname)
  have hmessage : Text.Unescaped (name ++ " must be defined") := hname.unescaped.append (by decide)
  have herror := readsArguments_tagged rfl (show IsWord "FATAL_ERROR" by decide)
    (quotes_of_unescaped hmessage)
  have hfile : ReadsCommands (absoluteFile name).call _ := readsBlock_absoluteFile hname
  have hrest := hfile.append readsCommands_nil.blank.blank
  rw [fileCheck_eq]
  refine .call ?_ (by decide) hcondition (.indent (.call ?_ (by decide) herror ?_))
  · apply String.toList_injective
    simp
  · apply String.toList_injective
    simp
  · exact .call rfl (by decide) readsArguments_empty hrest.blank

/-! ### Whole scripts -/

/-- The texts of a project that its script holds without escaping can stand there: what is quoted
has no quote and no backslash in it unless it is a path whose backslashes are escaped, module ids
are words, and the name of the project's file, which stands in a comment, keeps to one line. -/
structure Readable (store : FileStore) (project : Project) (reprojucer : Path)
    (outputDirectory? : Option Path) : Prop where
  fileName : '\n' ∉ project.fileName.toList
  directory : '"' ∉ (includeDirectory store.cwd reprojucer outputDirectory?).toList
  groups : ∀ group, project.mainGroup? = .ok (some group) → group.All Text.Unescaped
  moduleIds : ∀ id ∈ project.moduleIds, IsWord id
  modulePaths : ∀ entry ∈ project.modulePaths, Text.Unescaped entry.2
  exporters : ∀ found ∈ project.presentExporters, found.1.Readable store.cwd project found.2

/-- The commands of a project: what its script is meant to say. -/
def commands (project : Project) (cwd : Place) (directory : String) (fileGroups : List FileGroup)
    (modules : List ModuleReference) : List Command :=
  [⟨"cmake_minimum_required", ["VERSION", "3.4"]⟩,
    ⟨"list", ["APPEND", "CMAKE_MODULE_PATH",
      variableReference "CMAKE_CURRENT_LIST_DIR" ++ "/" ++ directory]⟩,
    ⟨"include", ["Reprojucer"]⟩,
    ⟨"if", ["NOT", "DEFINED", fileVariable project]⟩,
    ⟨"message", ["FATAL_ERROR", fileVariable project ++ " must be defined"]⟩,
    ⟨"endif", []⟩,
    ⟨"get_filename_component", [fileVariable project, variableReference (fileVariable project),
      "ABSOLUTE", "BASE_DIR", variableReference "CMAKE_BINARY_DIR"]⟩,
    beginCommand project,
    settingsCommand project] ++
  pluginCommands project ++
  fileGroups.flatMap FileGroup.commands ++
  modules.map (·.command project.options) ++
  project.presentExporters.flatMap (fun found => found.1.commands cwd project found.2) ++
  [⟨"jucer_project_end", []⟩]

variable {store : FileStore} {project : Project} {reprojucer : Path}
  {outputDirectory? : Option Path}

/-- The way to the Reprojucer file is written with slashes. -/
theorem Readable.unescaped_directory
    (hreadable : Readable store project reprojucer outputDirectory?) :
    Text.Unescaped (includeDirectory store.cwd reprojucer outputDirectory?) := by
  refine ⟨hreadable.directory, ?_⟩
  unfold includeDirectory
  rw [String.toList_ofList, List.mem_map]
  rintro ⟨c, -, hc⟩
  split at hc
  · cases hc
  · rename_i hslash
    exact hslash hc

theorem Readable.unescaped_fileGroup
    (hreadable : Readable store project reprojucer outputDirectory?) {mainGroup? : Option Group}
    (hmainGroup : project.mainGroup? = .ok mainGroup?) :
    ∀ fileGroup ∈ FileGroup.ofGroup? mainGroup?, fileGroup.Unescaped := by
  cases mainGroup? with
  | none => exact nofun
  | some group =>
      intro fileGroup hmem
      exact FileGroup.unescaped_of_mem_ofGroup (hreadable.groups group hmainGroup) hmem

theorem Readable.readable_module
    (hreadable : Readable store project reprojucer outputDirectory?)
    {modules : List ModuleReference}
    (hmodules : ModuleReference.resolveAll store project.moduleIds project.modulePaths
      project.directory = .ok modules) :
    ∀ reference ∈ modules, reference.Readable := by
  have hall : List.Forall₂ (fun (reference : ModuleReference) _ => reference.Readable ∧ True)
      modules project.moduleIds := by
    refine forall₂_of_mapM_eq_ok (fun id hid reference hresolve => ⟨?_, trivial⟩) hmodules
    exact ModuleReference.readable_of_resolve (hreadable.moduleIds id hid) hreadable.modulePaths
      hresolve
  exact ((List.forall₂_and_left _ _).mp hall).1

theorem mem_all_of_mem_presentExporters :
    ∀ found ∈ project.presentExporters, found.1 ∈ ExportTarget.all := by
  intro found hfound
  obtain ⟨target, htarget, hsome⟩ := List.mem_filterMap.mp hfound
  obtain ⟨exporter, -, rfl⟩ := Option.map_eq_some_iff.mp hsome
  exact htarget

/-- **A script is read back.** The reader finds the commands of the project, from the file groups of
its tree and the modules with the options of their headers, and nothing else. -/
theorem commands?_text {script : ReprojucerScript}
    (hreadable : Readable store project reprojucer outputDirectory?)
    (hscript : ofProject store project reprojucer outputDirectory? = .ok script) :
    ∃ mainGroup? modules, project.mainGroup? = .ok mainGroup?
      ∧ ModuleReference.resolveAll store project.moduleIds project.modulePaths project.directory
        = .ok modules
      ∧ Script.commands? script.text
        = some (commands project store.cwd
          (includeDirectory store.cwd reprojucer outputDirectory?)
          (FileGroup.ofGroup? mainGroup?) modules) := by
  rw [ofProject] at hscript
  obtain ⟨mainGroup?, hmainGroup, hscript⟩ := bind_eq_ok_iff.mp hscript
  obtain ⟨modules, hmodules, hscript⟩ := bind_eq_ok_iff.mp hscript
  obtain ⟨pluginBlocks, hpluginBlocks, hscript⟩ := bind_eq_ok_iff.mp hscript
  have hmainGroup := mapError_eq_ok_iff.mp hmainGroup
  have hpluginBlocks := mapError_eq_ok_iff.mp hpluginBlocks
  cases hscript
  refine ⟨mainGroup?, modules, hmainGroup, hmodules, ?_⟩
  -- Every section is read on its own; the script is one behind the other.
  have hpreamble := readsCommands_preamble hreadable.fileName
  have hinclusion := readsCommands_inclusion hreadable.unescaped_directory
  have hfileCheck := readsCommands_fileCheck (isWord_fileVariable project)
  have hfirst := readsCommands_lines
    (.cons (readsBlock_beginCall project)
      (.cons (readsBlock_settingsCall project) (readsBlock_pluginCalls hpluginBlocks)))
  have hgroups := ReadsCommands.flatMap fun fileGroup hmem =>
    FileGroup.readsCommands_lines (hreadable.unescaped_fileGroup hmainGroup fileGroup hmem)
  have hlast := readsCommands_lines (List.rel_append
    (forall₂_map_map fun reference hmem =>
      ModuleReference.readsBlock_call (hreadable.readable_module hmodules reference hmem)
        project.options)
    (forall₂_flatMap_flatMap fun found hmem =>
      ExportTarget.readsBlock_calls (mem_all_of_mem_presentExporters found hmem)
        (hreadable.exporters found hmem)))
  have hend : ReadsCommands ["jucer_project_end()"] [⟨"jucer_project_end", []⟩] :=
    .call rfl (by decide) readsArguments_empty readsCommands_nil
  have hscript := (((((hpreamble.append hinclusion).append hfileCheck).append hfirst).append
    hgroups).append hlast).append hend
  have hcommands := hscript.commands?_eq
    (List.append_ne_nil_of_right_ne_nil _ (List.cons_ne_nil _ _))
  rw [text]
  refine hcommands.trans ?_
  simp only [commands, List.append_assoc, List.cons_append, List.nil_append]

/-! ### A script that is read back -/

/-- A module header and nothing else. -/
def sampleStore : FileStore where
  entries := [
    (["work"], .directory),
    (["work", "juce"], .directory),
    (["work", "juce", "juce_core"], .directory),
    (["work", "juce", "juce_core", "juce_core.h"],
      .file "/** Config: JUCE_FORCE_DEBUG\n".toUTF8)]
  cwd := ["work"]

def sampleExporter : Exporter where
  node := ⟨"VS2015", [("targetFolder", "Builds")],
    [⟨"MODULEPATHS", [], [⟨"MODULEPATH", [("id", "juce_core"), ("path", "juce")], []⟩]⟩,
      ⟨"CONFIGURATIONS", [],
        [⟨"CONFIGURATION", [("name", "Debug"), ("headerPath", "include")], []⟩]⟩]⟩

/-- A plug-in with a quote in its name, a source that is not compiled, a module and an exporter. -/
def sampleProject : Project where
  file := ⟨.root, ["work", "App.jucer"]⟩
  root := ⟨"JUCERPROJECT",
    [("name", "The \"App\""), ("projectType", "audioplug"), ("buildVST", "1")],
    [⟨"MAINGROUP", [("name", "App")],
        [⟨"GROUP", [("name", "Source")],
          [⟨"FILE", [("file", "Main.cpp"), ("compile", "0")], []⟩]⟩]⟩,
      ⟨"MODULES", [], [⟨"MODULE", [("id", "juce_core")], []⟩]⟩,
      ⟨"EXPORTFORMATS", [], [sampleExporter.node]⟩]⟩

def sampleReprojucer : Path := ⟨.root, ["cmake", "Reprojucer.cmake"]⟩

theorem modulePaths_sample : sampleProject.modulePaths = [("juce_core", "juce")] := by
  decide +kernel

theorem moduleIds_sample : sampleProject.moduleIds = ["juce_core"] := by decide +kernel

theorem mainGroup?_sample :
    sampleProject.mainGroup?
      = .ok (some ⟨"App", [.group "Source" [.file ⟨"Main.cpp", false, some 0⟩]]⟩) := rfl

theorem exists_modules_sample :
    ∃ modules, ModuleReference.resolveAll sampleStore sampleProject.moduleIds
      sampleProject.modulePaths sampleProject.directory = .ok modules := by
  have hread : ∃ content, sampleStore.read
      (ModuleReference.headerPath "juce_core" "juce" sampleProject.directory) = .ok content :=
    ⟨"/** Config: JUCE_FORCE_DEBUG\n".toUTF8, by decide +kernel⟩
  obtain ⟨content, hread⟩ := hread
  have hresolve : ModuleReference.resolve sampleStore [("juce_core", "juce")]
      sampleProject.directory "juce_core"
        = .ok ⟨"juce_core", "juce", ModuleHeader.options content⟩ := by
    simp only [ModuleReference.resolve, List.lookup_cons_self, ModuleReference.scanHeader, hread]
    rfl
  rw [modulePaths_sample, moduleIds_sample, ModuleReference.resolveAll, List.mapM_cons, hresolve]
  exact ⟨_, rfl⟩

theorem exists_pluginCalls_sample : ∃ blocks, pluginCalls sampleProject = .ok blocks := by
  have hok : (pluginCalls sampleProject).isOk = true := by decide +kernel
  cases hcalls : pluginCalls sampleProject with
  | error numeral =>
      rw [hcalls] at hok
      cases hok
  | ok blocks => exact ⟨blocks, rfl⟩

theorem exists_sample :
    ∃ script, ofProject sampleStore sampleProject sampleReprojucer none = .ok script := by
  obtain ⟨modules, hmodules⟩ := exists_modules_sample
  obtain ⟨blocks, hblocks⟩ := exists_pluginCalls_sample
  rw [ofProject, mainGroup?_sample, hmodules, hblocks]
  exact ⟨_, rfl⟩

theorem readable_sample : Readable sampleStore sampleProject sampleReprojucer none where
  fileName := by decide
  directory := by
    have hdirectory : includeDirectory sampleStore.cwd sampleReprojucer none = "../cmake" := by
      decide +kernel
    rw [hdirectory]
    decide
  groups := by
    intro group hgroup
    cases mainGroup?_sample.symm.trans hgroup
    refine ⟨by decide, ⟨by decide, ?_⟩, trivial⟩
    exact ⟨(by decide : Text.Unescaped "Main.cpp"), trivial⟩
  moduleIds := by
    rw [moduleIds_sample]
    decide
  modulePaths := by
    rw [modulePaths_sample]
    decide
  exporters := by
    have hfound : sampleProject.presentExporters
        = [(ExportTarget.visualStudio2015, sampleExporter)] := rfl
    rw [hfound, List.forall_mem_singleton]
    have hconfigurations : sampleExporter.configurations
        = [⟨⟨"CONFIGURATION", [("name", "Debug"), ("headerPath", "include")], []⟩⟩] := rfl
    constructor
    · have hfolder : ExportTarget.visualStudio2015.vst3Folder sampleExporter
          = "c:\\SDKs\\VST_SDK\\VST3_SDK" := by decide +kernel
      rw [hfolder]
      decide
    · rw [hconfigurations, List.forall_mem_singleton]
      decide
    · rw [hconfigurations, List.forall_mem_singleton]
      have hpaths : SearchPath.fromDirectory sampleStore.cwd "include" sampleProject.directory
          sampleExporter.targetFolder = ["Builds/include"] := by decide +kernel
      intro path hpath
      have hpath : path ∈ ["Builds/include"] := hpaths ▸ hpath
      rw [List.mem_singleton.mp hpath]
      decide

theorem commands?_text_sample :
    ∃ script, ofProject sampleStore sampleProject sampleReprojucer none = .ok script
      ∧ ∃ mainGroup? modules, sampleProject.mainGroup? = .ok mainGroup?
        ∧ ModuleReference.resolveAll sampleStore sampleProject.moduleIds sampleProject.modulePaths
          sampleProject.directory = .ok modules
        ∧ Script.commands? script.text
          = some (commands sampleProject sampleStore.cwd
            (includeDirectory sampleStore.cwd sampleReprojucer none)
            (FileGroup.ofGroup? mainGroup?) modules) := by
  obtain ⟨script, hscript⟩ := exists_sample
  exact ⟨script, hscript, commands?_text readable_sample hscript⟩

end JuceBuild.ReprojucerScript
