import JuceBuild.Proofs.Exporter.Calls
import JuceBuild.Proofs.Module.Reference
import JuceBuild.Proofs.Script.Layout

/-!
# Hosting VST3 plug-ins

A project that hosts VST3 plug-ins uses the module for plug-ins and enables its option for VST3.
This shows in two parts of a script. A module lists the options that its header declares, and the
one for VST3 is on there; and every environment names the folder of the VST3 SDK. The two parts are
written from different sources, the first one from a header and the second one from the document
alone, so that they agree has to be proved: both follow one decision. A header need not declare the
option. Then the module is silent, and the environments are not.
-/

namespace JuceBuild

open Script

namespace Script

variable {tag : String}

theorem tagOf_quoted (htag : IsWord tag) (value : String) :
    tagOf (tag ++ " \"" ++ value ++ "\"") = tag := by
  obtain ⟨more, hmore⟩ := exists_quoted tag value
  rw [hmore, tagOf_append htag]

theorem tagOf_ofText (htag : IsWord tag) (node : Xml.Node) (name : String) :
    tagOf (Setting.ofText node tag name) = tag := by
  rw [← tagOf_indent]
  exact (writes_text htag name).1

end Script

namespace ModuleReference

/-- The module for plug-ins. -/
def hostModule : String := "juce_audio_processors"

/-- The option that lets a project host VST3 plug-ins. -/
def hostOption : String := "JUCE_PLUGINHOST_VST3"

variable {reference : ModuleReference} {options : List (String × String)} {option : String}

theorem tagOf_optionLine (hoption : IsWord option) (value? : Option String) :
    tagOf (optionLine option value?) = option := by
  rw [optionLine.eq_def]
  split
  · rw [append_on, tagOf_append hoption]
  · rw [append_off, tagOf_append hoption]
  · exact tagOf_placeholder hoption

theorem optionLine_eq_on_iff (hoption : IsWord option) (value? : Option String) :
    optionLine option value? = option ++ " ON" ↔ value? = some "enabled" := by
  constructor
  · intro hline
    by_contra hvalue
    by_cases hdisabled : value? = some "disabled"
    · rw [hdisabled] at hline
      have hlist := congrArg String.toList hline
      rw [optionLine, String.toList_append, String.toList_append,
        List.append_cancel_left_eq] at hlist
      cases hlist
    · rw [optionLine.eq_3 option value? hvalue hdisabled, append_on] at hline
      exact append_ne_placeholder hoption "ON" hline.symm
  · rintro rfl
    rfl

/-- The lines for an option in the call for a module: one for each time that the header declares
it, and all of them say the same. -/
theorem filter_tagOf_call (hoptions : ∀ option ∈ reference.options, IsWord option)
    (hid : tagOf reference.id ≠ option) (hpath : "PATH" ≠ option) :
    (indented (reference.call options)).filter (tagOf · = option)
      = List.replicate (reference.options.count option)
        ("  " ++ optionLine option (options.lookup option)) := by
  have hpathTag : tagOf ("PATH \"" ++ reference.path ++ "\"") = "PATH" :=
    tagOf_quoted (show IsWord "PATH" by decide) reference.path
  have htags : reference.options.filter
        (fun declared => tagOf ("  " ++ optionLine declared (options.lookup declared)) = option)
      = reference.options.filter (· = option) := by
    refine List.filter_congr fun declared hdeclared => ?_
    rw [tagOf_indent, tagOf_optionLine (hoptions declared hdeclared)]
  rw [indented, call, List.map_cons, List.map_cons, List.map_map,
    List.filter_cons_of_neg (by simpa [tagOf_indent] using hid),
    List.filter_cons_of_neg (by simpa [tagOf_indent, hpathTag] using hpath), List.filter_map]
  simp only [Function.comp_def]
  rw [htags, List.filter_eq, List.map_replicate]

theorem isWord_of_mem_options_of_resolveAll {store : FileStore} {ids : List String}
    {paths : List (String × String)} {directory : Path} {modules : List ModuleReference}
    (hmodules : resolveAll store ids paths directory = .ok modules) :
    ∀ reference ∈ modules, ∀ option ∈ reference.options, IsWord option := by
  intro reference hreference option hoption
  obtain ⟨id, -, hresolve⟩ := exists_of_mem_of_mapM_eq_ok hmodules hreference
  obtain ⟨path, content, -, -, rfl⟩ := resolve_eq_ok_iff.mp hresolve
  exact isWord_of_mem_options hoption

end ModuleReference

/-! ### The decision -/

theorem Project.hasModule_iff {project : Project} {id : String} (hid : id ≠ "") :
    project.hasModule id ↔ id ∈ project.moduleIds := by
  rw [hasModule, moduleIds, List.any_eq_true, List.mem_map]
  refine exists_congr fun node => and_congr_right fun _ => ?_
  rw [decide_eq_true_eq, Xml.Node.attributeD]
  cases node.attribute? "id" with
  | none => simpa using hid.symm
  | some other => simp

theorem ExportTarget.hostsVst3_iff {project : Project} :
    hostsVst3 project ↔ ModuleReference.hostModule ∈ project.moduleIds
      ∧ project.options.lookup ModuleReference.hostOption = some "enabled" := by
  rw [hostsVst3, Bool.and_eq_true, decide_eq_true_eq, Project.hasModule_iff (by decide)]
  rfl

/-! ### The module for plug-ins -/

namespace ModuleReference

variable {reference : ModuleReference} {project : Project}

/-- The body of a call switches the hosting of VST3 plug-ins on. -/
structure SwitchesOn (body : List String) : Prop where
  head?_eq : body.head? = some ("  " ++ hostModule)
  mem : "  " ++ (hostOption ++ " ON") ∈ body

/-- The body of the call for a module has the option for VST3 on, as often as the header of the
module for plug-ins declares it. -/
structure HasOptionOn (reference : ModuleReference) (body : List String) : Prop where
  head?_eq : body.head? = some ("  " ++ reference.id)
  filter_eq : reference.id = hostModule →
    body.filter (tagOf · = hostOption)
      = List.replicate (reference.options.count hostOption) ("  " ++ (hostOption ++ " ON"))

theorem head?_call (reference : ModuleReference) (options : List (String × String)) :
    (indented (reference.call options)).head? = some ("  " ++ reference.id) :=
  rfl

/-- The option is no part of the first two lines, with the id and the path of the module. -/
theorem filter_hostOption_call (hoptions : ∀ option ∈ reference.options, IsWord option)
    (hid : reference.id = hostModule) (options : List (String × String)) :
    (indented (reference.call options)).filter (tagOf · = hostOption)
      = List.replicate (reference.options.count hostOption)
        ("  " ++ optionLine hostOption (options.lookup hostOption)) := by
  refine filter_tagOf_call hoptions ?_ (by decide)
  rw [hid]
  decide

/-- A line that is on is on because the document enables the option. -/
theorem lookup_of_switchesOn (hoptions : ∀ option ∈ reference.options, IsWord option)
    {options : List (String × String)}
    (hon : SwitchesOn (indented (reference.call options))) :
    reference.id = hostModule ∧ options.lookup hostOption = some "enabled" := by
  have hword : IsWord hostOption := by decide
  have hid : reference.id = hostModule :=
    indent_inj.mp (Option.some.inj ((head?_call reference options).symm.trans hon.head?_eq))
  have htag : tagOf ("  " ++ (hostOption ++ " ON")) = hostOption := by decide
  have hmem : "  " ++ (hostOption ++ " ON")
      ∈ (indented (reference.call options)).filter (tagOf · = hostOption) :=
    List.mem_filter.mpr ⟨hon.mem, decide_eq_true htag⟩
  rw [filter_hostOption_call hoptions hid] at hmem
  have hline := indent_inj.mp (List.eq_of_mem_replicate hmem)
  exact ⟨hid, (optionLine_eq_on_iff hword _).mp hline.symm⟩

theorem hasOptionOn_call (hoptions : ∀ option ∈ reference.options, IsWord option)
    {options : List (String × String)} (henabled : options.lookup hostOption = some "enabled") :
    HasOptionOn reference (indented (reference.call options)) := by
  refine ⟨head?_call reference options, fun hid => ?_⟩
  rw [filter_hostOption_call hoptions hid, henabled]
  rfl

end ModuleReference

/-! ### The environments -/

namespace ExportTarget

/-- The body of a call has a line for the folder of the VST3 SDK. -/
def HasSdkLine (body : List String) : Prop := ∃ line ∈ body, tagOf line = "VST3_SDK_FOLDER"

/-- The body of the call for an environment names one folder of the VST3 SDK, that of the exporter,
or that of the environment if the exporter has none. -/
structure NamesSdk (found : ExportTarget × Exporter) (body : List String) : Prop where
  head?_eq : body.head? = some ("  " ++ ("\"" ++ found.1.displayName ++ "\""))
  exists_folder : ∃ folder, folder ≠ ""
    ∧ folder = (if found.2.vst3Folder = "" then found.1.defaultVst3Folder else found.2.vst3Folder)
    ∧ body.filter (tagOf · = "VST3_SDK_FOLDER")
      = ["  " ++ ("VST3_SDK_FOLDER \"" ++ Text.escapePath folder ++ "\"")]

variable {project : Project} {target : ExportTarget}

theorem titleTag_ne_sdk : ∀ target ∈ all, target.titleTag ≠ "VST3_SDK_FOLDER" := by decide

theorem defaultVst3Folder_ne_empty : ∀ target ∈ all, target.defaultVst3Folder ≠ "" := by decide

theorem vst3Folder_ne_empty (htarget : target ∈ all) (exporter : Exporter) :
    target.vst3Folder exporter ≠ "" := by
  rw [vst3Folder]
  split
  · exact defaultVst3Folder_ne_empty target htarget
  · assumption

theorem hasSdkLine_targetCall_iff (htarget : target ∈ all) (exporter : Exporter) :
    HasSdkLine (indented (target.targetCall project exporter)) ↔ hostsVst3 project := by
  have hmem : HasSdkLine (indented (target.targetCall project exporter))
      ↔ "VST3_SDK_FOLDER" ∈ (indented (target.targetCall project exporter)).map tagOf :=
    List.mem_map.symm
  have htitle := (titleTag_ne_sdk target htarget).symm
  rw [hmem, (follows_targetCall target exporter).tags_eq, targetLayout]
  cases hostsVst3 project <;> simp [htitle]

theorem namesSdk_targetCall (hhosts : hostsVst3 project) (htarget : target ∈ all)
    (exporter : Exporter) :
    NamesSdk (target, exporter) (indented (target.targetCall project exporter)) := by
  refine ⟨rfl, target.vst3Folder exporter, vst3Folder_ne_empty htarget exporter, rfl, ?_⟩
  have htitle : tagOf ("\"" ++ target.displayName ++ "\"") ≠ "VST3_SDK_FOLDER" :=
    titleTag_ne_sdk target htarget
  have hsdk : tagOf ("VST3_SDK_FOLDER \"" ++ Text.escapePath (target.vst3Folder exporter) ++ "\"")
      = "VST3_SDK_FOLDER" := tagOf_quoted (show IsWord "VST3_SDK_FOLDER" by decide) _
  have hsettings : ∀ tag name, IsWord tag → tag ≠ "VST3_SDK_FOLDER" →
      tagOf (Setting.ofText exporter.node tag name) ≠ "VST3_SDK_FOLDER" := by
    intro tag name htag hne
    rwa [tagOf_ofText htag]
  have hdefs := hsettings "EXTRA_PREPROCESSOR_DEFINITIONS" "extraDefs" (by decide) (by decide)
  have hflags := hsettings "EXTRA_COMPILER_FLAGS" "extraCompilerFlags" (by decide) (by decide)
  rw [indented, targetCall, hhosts]
  simp [tagOf_indent, htitle, hsdk, hdefs, hflags]

end ExportTarget

namespace ReprojucerScript

variable {store : FileStore} {project : Project} {reprojucer : Path}
  {outputDirectory? : Option Path} {script : ReprojucerScript}

open ExportTarget ModuleReference

/-- **Modules and environments agree on hosting.** If the module for plug-ins has its option for
VST3 on, then every environment names one folder of the VST3 SDK. If an environment names one, then
all of them do, the module for plug-ins is among the modules, and its option is on wherever its
header declares it. -/
theorem hosting_agrees
    (hscript : ofProject store project reprojucer outputDirectory? = .ok script) :
    ((∃ body ∈ bodies "jucer_project_module(" script.lines, SwitchesOn body)
        → List.Forall₂ NamesSdk project.presentExporters
          (bodies "jucer_export_target(" script.lines))
      ∧ ((∃ body ∈ bodies "jucer_export_target(" script.lines, HasSdkLine body)
        → (∀ body ∈ bodies "jucer_export_target(" script.lines, HasSdkLine body)
          ∧ (∃ reference ∈ script.modules, reference.id = hostModule)
          ∧ List.Forall₂ HasOptionOn script.modules
            (bodies "jucer_project_module(" script.lines)) := by
  obtain ⟨mainGroup?, modules, calls, -, hmodules, hcalls, rfl⟩ := ofProject_eq_ok_iff.mp hscript
  have hoptions := isWord_of_mem_options_of_resolveAll hmodules
  have hids := map_id_of_resolveAll hmodules
  rw [bodies_modules _ _ _ _ hcalls, bodies_targets _ _ _ _ hcalls]
  constructor
  -- The line is on only if the document enables the option, and the id is one of the document's.
  · rintro ⟨body, hbody, hon⟩
    obtain ⟨reference, hreference, rfl⟩ := List.mem_map.mp hbody
    obtain ⟨hid, henabled⟩ := lookup_of_switchesOn (hoptions reference hreference) hon
    have hmodule : hostModule ∈ project.moduleIds := by
      rw [← hids, ← hid]
      exact List.mem_map_of_mem hreference
    have hhosts := hostsVst3_iff.mpr ⟨hmodule, henabled⟩
    rw [List.forall₂_map_right_iff, List.forall₂_same]
    exact fun found hfound =>
      namesSdk_targetCall hhosts (mem_all_of_mem_presentExporters found hfound) found.2
  · rintro ⟨body, hbody, hsdk⟩
    obtain ⟨found, hfound, rfl⟩ := List.mem_map.mp hbody
    have hhosts : hostsVst3 project :=
      (hasSdkLine_targetCall_iff (mem_all_of_mem_presentExporters found hfound) found.2).mp hsdk
    obtain ⟨hmodule, henabled⟩ := hostsVst3_iff.mp hhosts
    refine ⟨?_, ?_, ?_⟩
    · rw [List.forall_mem_map]
      exact fun other hother => (hasSdkLine_targetCall_iff
        (mem_all_of_mem_presentExporters other hother) other.2).mpr hhosts
    · rw [← hids] at hmodule
      exact List.mem_map.mp hmodule
    · change List.Forall₂ HasOptionOn modules _
      rw [List.forall₂_map_right_iff, List.forall₂_same]
      exact fun reference hreference => hasOptionOn_call (hoptions reference hreference) henabled

/-- A module for plug-ins that declares its option. -/
def hostStore : FileStore where
  entries := [
    (["work"], .directory),
    (["work", "juce"], .directory),
    (["work", "juce", "juce_audio_processors"], .directory),
    (["work", "juce", "juce_audio_processors", "juce_audio_processors.h"],
      .file ("/** Config: " ++ "JUCE_PLUGINHOST_VST3").toUTF8)]
  cwd := ["work"]

/-- A project that hosts plug-ins, for an environment without a folder for the VST3 SDK and for one
with a folder. -/
def pluginHost : Project := Project.hostProject "Host" [
  ⟨"VS2015", [("vst3Folder", "d:\\vst3")],
    [⟨"MODULEPATHS", [],
      [⟨"MODULEPATH", [("id", "juce_audio_processors"), ("path", "juce")], []⟩]⟩]⟩,
  ⟨"XCODE_MAC", [], []⟩]

theorem resolveAll_pluginHost :
    resolveAll hostStore pluginHost.moduleIds pluginHost.modulePaths pluginHost.directory
      = .ok [⟨hostModule, "juce", [hostOption]⟩] := by
  have hids : pluginHost.moduleIds = [hostModule] := by decide +kernel
  have hoptions : ModuleHeader.options ("/** Config: " ++ "JUCE_PLUGINHOST_VST3").toUTF8
      = [hostOption] := by decide +kernel
  have hresolve : resolve hostStore pluginHost.modulePaths pluginHost.directory hostModule
      = .ok ⟨hostModule, "juce", [hostOption]⟩ := by
    refine resolve_eq_ok_iff.mpr
      ⟨"juce", ("/** Config: " ++ "JUCE_PLUGINHOST_VST3").toUTF8, by decide +kernel, ?_, ?_⟩
    · decide +kernel
    · rw [hoptions]
  rw [hids, resolveAll, List.mapM_cons, hresolve]
  rfl

theorem exists_pluginHost :
    ∃ script, ofProject hostStore pluginHost sampleReprojucer none = .ok script
      ∧ bodies "jucer_project_module(" script.lines
        = [indented (call ⟨hostModule, "juce", [hostOption]⟩ pluginHost.options)]
      ∧ bodies "jucer_export_target(" script.lines
        = pluginHost.presentExporters.map fun found =>
          indented (found.1.targetCall pluginHost found.2) := by
  have hgroup : pluginHost.mainGroup? = .ok none := rfl
  have hcalls : pluginCalls pluginHost = .ok [] := by decide +kernel
  refine ⟨_, ofProject_eq_ok_iff.mpr
    ⟨none, _, [], hgroup, resolveAll_pluginHost, hcalls, rfl⟩, ?_, ?_⟩
  · rw [bodies_modules _ _ _ _ hcalls, List.map_singleton]
  · rw [bodies_targets _ _ _ _ hcalls]

theorem hosting_agrees_pluginHost :
    ∃ script, ofProject hostStore pluginHost sampleReprojucer none = .ok script
      ∧ (∃ body ∈ bodies "jucer_project_module(" script.lines, SwitchesOn body)
      ∧ List.Forall₂ NamesSdk pluginHost.presentExporters
        (bodies "jucer_export_target(" script.lines)
      ∧ (∃ body ∈ bodies "jucer_export_target(" script.lines, HasSdkLine body)
      ∧ List.Forall₂ HasOptionOn script.modules (bodies "jucer_project_module(" script.lines) := by
  obtain ⟨script, hscript, hmodules, htargets⟩ := exists_pluginHost
  have hon : ∃ body ∈ bodies "jucer_project_module(" script.lines, SwitchesOn body := by
    rw [hmodules]
    exact ⟨_, List.mem_singleton_self _, rfl, by decide⟩
  have hsdk : ∃ body ∈ bodies "jucer_export_target(" script.lines, HasSdkLine body := by
    have hfound : (xcodeMac, ⟨⟨"XCODE_MAC", [], []⟩⟩) ∈ pluginHost.presentExporters :=
      List.mem_of_mem_head? rfl
    rw [htargets]
    refine ⟨_, List.mem_map_of_mem hfound, ?_⟩
    exact (hasSdkLine_targetCall_iff (by decide) _).mpr (by decide)
  obtain ⟨htargetsNamed, hmodulesOn⟩ := hosting_agrees hscript
  exact ⟨script, hscript, hon, htargetsNamed hon, hsdk, (hmodulesOn hsdk).2.2⟩

end ReprojucerScript

end JuceBuild
