import JuceBuild.Proofs.FileGroup.Texts
import JuceBuild.Proofs.Script.Commands
import JuceBuild.Proofs.Text.Split
import Mathlib.Data.List.TakeWhile

/-!
# The commands of files, modules and exporters

The parts of a project that there may be any number of. A path or a name goes into the script as it
is, so it is read as it is only if it has neither a quote nor a backslash in it; search paths and
SDK folders have their backslashes escaped and may not have quotes. Options are words because a
module header can declare no others.
-/

namespace JuceBuild

open Script

/-! ### File groups -/

namespace FileGroup

/-- The texts of a file group stand in a script as they are. -/
structure Unescaped (group : FileGroup) : Prop where
  fullName : Text.Unescaped group.fullName
  files : ∀ path ∈ group.files, Text.Unescaped path
  headerOnly : ∀ path ∈ group.headerOnly, Text.Unescaped path
  resources : ∀ path ∈ group.resources, Text.Unescaped path

/-- The command that lists the sources, and the one that keeps some of them from being compiled. -/
def sourceCommands (group : FileGroup) : List Command :=
  ⟨"jucer_project_files", group.fullName :: group.files⟩ ::
    if group.headerOnly.isEmpty then []
    else
      [⟨"set_source_files_properties",
        group.headerOnly.map ("$\x7bJUCER_PROJECT_DIR\x7d/" ++ ·) ++
          ["PROPERTIES", "HEADER_FILE_ONLY", "TRUE"]⟩]

/-- The commands that list the files of a group. -/
def commands (group : FileGroup) : List Command :=
  (if group.files.isEmpty then [] else group.sourceCommands) ++
    if group.resources.isEmpty then []
    else [⟨"jucer_project_resources", group.fullName :: group.resources⟩]

theorem unescaped_of_mem_ofGroup {group : Group} (hgroup : group.All Text.Unescaped)
    {fileGroup : FileGroup} (hmem : fileGroup ∈ ofGroup group) : fileGroup.Unescaped := by
  obtain ⟨run, hrun, rfl⟩ := exists_run_of_mem_ofGroup hgroup hmem
  constructor
  · have hslash : Text.Unescaped "/" := by decide
    exact ⟨Text.notMem_join hslash.1 fun name hname => (hrun.1 name hname).1,
      Text.notMem_join hslash.2 fun name hname => (hrun.1 name hname).2⟩
  · exact path_of_mem_map_filter hrun
  · rw [Run.fileGroup, List.filter_filter]
    exact path_of_mem_map_filter hrun
  · exact path_of_mem_map_filter hrun

theorem readsArguments_quotedPath {path : String} (hpath : Text.Unescaped path) :
    ReadsArguments (quotedPath path) [path] :=
  readsArguments_quoted (quotes_of_unescaped hpath)

theorem readsLine_quotedPaths {paths : List String} (hpaths : ∀ path ∈ paths, Text.Unescaped path) :
    List.Forall₂ ReadsLine (paths.map quotedPath) (paths.map ([·])) :=
  forall₂_map_map fun path hpath => (readsArguments_quotedPath (hpaths path hpath)).line

/-- A list of paths under the name of a group. -/
theorem readsBlock_listing {name fullName : String} {paths : List String} {block : Block}
    (hopening : block.opening = name ++ "(" ++ quotedPath fullName)
    (hbody : block.body = paths.map quotedPath) (hname : IsWord name)
    (hfullName : Text.Unescaped fullName) (hpaths : ∀ path ∈ paths, Text.Unescaped path) :
    ReadsBlock block ⟨name, fullName :: paths⟩ := by
  have hlines := readsLine_quotedPaths hpaths
  rw [← hbody] at hlines
  have hblock := readsBlock_of_opening hopening hname (readsArguments_quotedPath hfullName) hlines
  rwa [flatten_map_singleton] at hblock

theorem readsLine_headerOnlyProperty :
    ReadsLine "PROPERTIES HEADER_FILE_ONLY TRUE" ["PROPERTIES", "HEADER_FILE_ONLY", "TRUE"] := by
  have htext : "PROPERTIES HEADER_FILE_ONLY TRUE"
      = "PROPERTIES" ++ " " ++ "HEADER_FILE_ONLY" ++ " " ++ "TRUE" := rfl
  have hproperties : ReadsArguments "PROPERTIES" ["PROPERTIES"] := readsArguments_word (by decide)
  have hheaderOnly : ReadsArguments "HEADER_FILE_ONLY" ["HEADER_FILE_ONLY"] :=
    readsArguments_word (by decide)
  have htrue : ReadsArguments "TRUE" ["TRUE"] := readsArguments_word (by decide)
  rw [htext]
  exact ((hproperties.space hheaderOnly).space htrue).line

/-- The call that keeps sources from being compiled names them from the project's directory. -/
theorem readsBlock_headerOnlyCall {group : FileGroup}
    (hheaderOnly : ∀ path ∈ group.headerOnly, Text.Unescaped path) :
    ReadsBlock
      ⟨"set_source_files_properties(",
        group.headerOnly.map (fun path => quotedPath ("$\x7bJUCER_PROJECT_DIR\x7d/" ++ path)) ++
          ["PROPERTIES HEADER_FILE_ONLY TRUE"]⟩
      ⟨"set_source_files_properties",
        group.headerOnly.map ("$\x7bJUCER_PROJECT_DIR\x7d/" ++ ·) ++
          ["PROPERTIES", "HEADER_FILE_ONLY", "TRUE"]⟩ := by
  have hdirectory : Text.Unescaped "$\x7bJUCER_PROJECT_DIR\x7d/" := by decide
  have hpaths : List.Forall₂ ReadsLine
      (group.headerOnly.map fun path => quotedPath ("$\x7bJUCER_PROJECT_DIR\x7d/" ++ path))
      ((group.headerOnly.map ("$\x7bJUCER_PROJECT_DIR\x7d/" ++ ·)).map ([·])) := by
    rw [List.map_map]
    refine forall₂_map_map fun path hpath => ?_
    exact (readsArguments_quotedPath (hdirectory.append (hheaderOnly path hpath))).line
  have hbody := List.rel_append hpaths (.cons readsLine_headerOnlyProperty .nil)
  have hblock : ReadsBlock ⟨"set_source_files_properties(", _⟩ ⟨"set_source_files_properties", _⟩ :=
    readsBlock_of_body rfl (by decide) hbody
  rwa [List.flatten_append, flatten_map_singleton] at hblock

theorem readsBlock_sourceCalls {group : FileGroup} (hgroup : group.Unescaped) :
    List.Forall₂ ReadsBlock group.sourceCalls group.sourceCommands := by
  rw [sourceCalls, sourceCommands]
  refine .cons ?_ ?_
  · exact readsBlock_listing rfl rfl (by decide) hgroup.fullName hgroup.files
  · split
    · exact .nil
    · exact .cons (readsBlock_headerOnlyCall hgroup.headerOnly) .nil

theorem readsCommands_lines {group : FileGroup} (hgroup : group.Unescaped) :
    ReadsCommands group.lines group.commands := by
  rw [lines, commands]
  refine ReadsCommands.append ?_ ?_
  · split
    · exact readsCommands_nil
    · exact readsCommands_linesTogether (readsBlock_sourceCalls hgroup)
  · split
    · exact readsCommands_nil
    · refine readsCommands_linesTogether (.cons ?_ .nil)
      exact readsBlock_listing rfl rfl (by decide) hgroup.fullName hgroup.resources

end FileGroup

/-! ### Modules -/

namespace ModuleReference

/-- The texts of a module stand in a script as they are. -/
structure Readable (reference : ModuleReference) : Prop where
  id : IsWord reference.id
  path : Text.Unescaped reference.path
  options : ∀ option ∈ reference.options, IsWord option

/-- The arguments of an option: it is on or off, or left to the module. -/
def optionArguments (option : String) (value? : Option String) : List String :=
  match value? with
  | some "enabled" => [option, "ON"]
  | some "disabled" => [option, "OFF"]
  | _ => []

def command (reference : ModuleReference) (options : List (String × String)) : Command where
  name := "jucer_project_module"
  arguments := ([reference.id] :: ["PATH", reference.path] ::
    reference.options.map fun option => optionArguments option (options.lookup option)).flatten

theorem readsLine_optionLine {option : String} (hoption : IsWord option) (value? : Option String) :
    ReadsLine (optionLine option value?) (optionArguments option value?) := by
  have hon := (readsArguments_word hoption).space (readsArguments_word (show IsWord "ON" by decide))
  have hoff :=
    (readsArguments_word hoption).space (readsArguments_word (show IsWord "OFF" by decide))
  rw [String.append_assoc] at hon hoff
  by_cases henabled : value? = some "enabled"
  · rw [henabled]
    exact hon.line
  · by_cases hdisabled : value? = some "disabled"
    · rw [hdisabled]
      exact hoff.line
    · rw [optionLine.eq_3 option value? henabled hdisabled,
        optionArguments.eq_3 option value? henabled hdisabled]
      exact readsLine_placeholder hoption.notMem_newline

theorem readsBlock_call {reference : ModuleReference} (hreference : reference.Readable)
    (options : List (String × String)) :
    ReadsBlock (reference.call options) (reference.command options) := by
  have hpath := quotes_of_unescaped hreference.path
  have hoptions : List.Forall₂ ReadsLine
      (reference.options.map fun option => optionLine option (options.lookup option))
      (reference.options.map fun option => optionArguments option (options.lookup option)) :=
    forall₂_map_map fun option hoption => readsLine_optionLine (hreference.options option hoption) _
  refine readsBlock_of_body rfl (by decide) (.cons ?_ (.cons ?_ hoptions))
  · exact (readsArguments_word hreference.id).line
  · exact (readsArguments_tagged rfl (by decide) hpath).line

/-- A module header declares words, whatever it holds. -/
theorem isWord_of_mem_options {content : ByteArray} {option : String}
    (hoption : option ∈ ModuleHeader.options content) : IsWord option := by
  rw [ModuleHeader.options, ModuleHeader.optionsOf, List.mem_filterMap] at hoption
  obtain ⟨line, -, hline⟩ := hoption
  rw [ModuleHeader.optionOf?] at hline
  split at hline
  · split at hline
    · cases hline
    · rename_i hne
      cases hline
      refine ⟨?_, fun c hc => ?_⟩
      · simpa using hne
      · rw [String.toList_ofList] at hc
        exact isPlain_of_special (p := Text.isWordChar) (by decide +kernel)
          (List.mem_takeWhile_imp hc)
  · cases hline

theorem readable_of_resolve {store : FileStore} {paths : List (String × String)} {directory : Path}
    {id : String} {reference : ModuleReference} (hid : IsWord id)
    (hpaths : ∀ entry ∈ paths, Text.Unescaped entry.2)
    (hresolve : resolve store paths directory id = .ok reference) : reference.Readable := by
  rw [resolve] at hresolve
  split at hresolve
  · cases hresolve
  · rename_i path hpath
    obtain ⟨options, hoptions, rfl⟩ := map_eq_ok_iff.mp hresolve
    obtain ⟨before, after, hentries, -⟩ := List.lookup_eq_some_iff.mp hpath
    refine ⟨hid, ?_, ?_⟩
    · refine hpaths (id, path) ?_
      rw [hentries]
      exact List.mem_append_right _ List.mem_cons_self
    · rw [scanHeader] at hoptions
      split at hoptions
      · cases hoptions
      · cases hoptions
        exact fun option hoption => isWord_of_mem_options hoption

end ModuleReference

/-! ### Exporters -/

namespace ExportTarget

/-- The texts of an exporter stand in a script as they are, or with backslashes escaped. -/
structure Readable (target : ExportTarget) (cwd : Place) (project : Project) (exporter : Exporter) :
    Prop where
  vst3Folder : '"' ∉ (target.vst3Folder exporter).toList
  names : ∀ configuration ∈ exporter.configurations, Text.Unescaped configuration.name
  searchPaths : ∀ configuration ∈ exporter.configurations,
    ∀ path ∈ SearchPath.fromDirectory cwd configuration.headerPath project.directory
      exporter.targetFolder, '"' ∉ path.toList

/-- The arguments that select a macOS SDK, by its name or by its version alone. -/
def osxSdkArguments (tag value : String) (versionOnly : Bool) : List String :=
  if value = "default" then [tag, "Use Default"]
  else if value ∈ osxSdks then [tag, if versionOnly then sdkVersion value else value]
  else []

def searchPathArguments (cwd : Place) (project : Project) (exporter : Exporter)
    (configuration : Configuration) : List String :=
  if configuration.headerPath = "" then []
  else
    ["HEADER_SEARCH_PATHS",
      Text.join "\n" (SearchPath.fromDirectory cwd configuration.headerPath project.directory
        exporter.targetFolder)]

def targetCommand (target : ExportTarget) (project : Project) (exporter : Exporter) : Command where
  name := "jucer_export_target"
  arguments := ([target.displayName] ::
    ((if hostsVst3 project then [["VST3_SDK_FOLDER", target.vst3Folder exporter]] else []) ++
      [Setting.textArguments "EXTRA_PREPROCESSOR_DEFINITIONS"
          (exporter.node.attribute? "extraDefs"),
        Setting.textArguments "EXTRA_COMPILER_FLAGS"
          (exporter.node.attribute? "extraCompilerFlags")])).flatten

def configurationCommand (target : ExportTarget) (cwd : Place) (project : Project)
    (exporter : Exporter) (configuration : Configuration) : Command where
  name := "jucer_export_target_configuration"
  arguments := ([target.displayName] :: ["NAME", configuration.name] ::
    searchPathArguments cwd project exporter configuration ::
    Setting.textArguments "PREPROCESSOR_DEFINITIONS" (configuration.node.attribute? "defines") ::
    if target.selectsOsxSdk then
      [osxSdkArguments "OSX_BASE_SDK_VERSION" configuration.osxSdk false,
        osxSdkArguments "OSX_DEPLOYMENT_TARGET" configuration.osxCompatibility true]
    else []).flatten

/-- The commands that describe a project for an environment. -/
def commands (target : ExportTarget) (cwd : Place) (project : Project) (exporter : Exporter) :
    List Command :=
  target.targetCommand project exporter ::
    exporter.configurations.map (target.configurationCommand cwd project exporter)

theorem unescaped_of_mem_osxSdks :
    ∀ sdk ∈ osxSdks, Text.Unescaped sdk ∧ Text.Unescaped (sdkVersion sdk) := by decide

theorem readsLine_osxSdkLine {tag : String} (htag : IsWord tag) (value : String)
    (versionOnly : Bool) :
    ReadsLine (osxSdkLine tag value versionOnly) (osxSdkArguments tag value versionOnly) := by
  rw [osxSdkLine, osxSdkArguments]
  split
  · have hdefault : Quotes "Use Default" "Use Default" := quotes_of_unescaped (by decide)
    refine (readsArguments_tagged ?_ htag hdefault).line
    rw [String.append_assoc, String.append_assoc]
    rfl
  · split
    · rename_i hsdk
      obtain ⟨hname, hversion⟩ := unescaped_of_mem_osxSdks value hsdk
      have hquoted : Text.Unescaped (if versionOnly then sdkVersion value else value) := by
        split
        · exact hversion
        · exact hname
      exact (readsArguments_tagged rfl htag (quotes_of_unescaped hquoted)).line
    · exact readsLine_placeholder htag.notMem_newline

variable {target : ExportTarget} {cwd : Place} {project : Project} {exporter : Exporter}
  {configuration : Configuration}

theorem readsLine_searchPathLine (hreadable : target.Readable cwd project exporter)
    (hconfiguration : configuration ∈ exporter.configurations) :
    ReadsLine (searchPathLine cwd project exporter configuration)
      (searchPathArguments cwd project exporter configuration) := by
  rw [searchPathLine, searchPathArguments]
  split
  · exact readsLine_placeholder (by decide)
  · have hpaths := Text.notMem_join (show '"' ∉ "\n".toList by decide)
      (hreadable.searchPaths configuration hconfiguration)
    exact (readsArguments_tagged rfl (by decide) (quotes_escapePath hpaths)).line

/-- The name of an environment stands in a script as it is. -/
theorem readsLine_displayName (htarget : target ∈ all) :
    ReadsLine ("\"" ++ target.displayName ++ "\"") [target.displayName] := by
  have hnames : ∀ target ∈ all, Text.Unescaped target.displayName := by decide
  exact (readsArguments_quoted (quotes_of_unescaped (hnames target htarget))).line

theorem readsBlock_targetCall (htarget : target ∈ all)
    (hreadable : target.Readable cwd project exporter) :
    ReadsBlock (target.targetCall project exporter) (target.targetCommand project exporter) := by
  have hfolder := quotes_escapePath hreadable.vst3Folder
  refine readsBlock_of_body rfl (by decide) (.cons (readsLine_displayName htarget) ?_)
  refine List.rel_append ?_ (.cons ?_ (.cons ?_ .nil))
  · split
    · exact .cons (readsArguments_tagged rfl (by decide) hfolder).line .nil
    · exact .nil
  · exact Setting.readsLine_ofText exporter.node (by decide) "extraDefs"
  · exact Setting.readsLine_ofText exporter.node (by decide) "extraCompilerFlags"

theorem readsBlock_configurationCall (htarget : target ∈ all)
    (hreadable : target.Readable cwd project exporter)
    (hconfiguration : configuration ∈ exporter.configurations) :
    ReadsBlock (target.configurationCall cwd project exporter configuration)
      (target.configurationCommand cwd project exporter configuration) := by
  have hname := quotes_of_unescaped (hreadable.names configuration hconfiguration)
  refine readsBlock_of_body rfl (by decide) (.cons (readsLine_displayName htarget) ?_)
  refine .cons ?_ (.cons (readsLine_searchPathLine hreadable hconfiguration) (.cons ?_ ?_))
  · exact (readsArguments_tagged rfl (by decide) hname).line
  · exact Setting.readsLine_ofText configuration.node (by decide) "defines"
  · rw [osxSdkLines]
    split
    · exact .cons (readsLine_osxSdkLine (by decide) _ _)
        (.cons (readsLine_osxSdkLine (by decide) _ _) .nil)
    · exact .nil

theorem readsBlock_calls (htarget : target ∈ all)
    (hreadable : target.Readable cwd project exporter) :
    List.Forall₂ ReadsBlock (target.calls cwd project exporter)
      (target.commands cwd project exporter) := by
  refine .cons (readsBlock_targetCall htarget hreadable) (forall₂_map_map ?_)
  exact fun configuration hconfiguration =>
    readsBlock_configurationCall htarget hreadable hconfiguration

end ExportTarget

end JuceBuild
