import JuceBuild.Proofs.FileGroup.Stanzas
import JuceBuild.Proofs.Script.Parts
import JuceBuild.Proofs.Script.ReadBack

/-!
# The outline of a script

What a script says about a project can be told from the opening lines of its calls: the project, its
settings, a call or two for every file group, one for every module, and one for every environment
with one for each of its configurations. The lists that come with a script name the same file
groups, modules and environments in the same order. None of this depends on what names and paths a
project uses, so it is said of lines, before they are joined to a text.
-/

namespace JuceBuild

open Script (IsStanza Opens isStanza_singleton stanzas?)

/-- The calls of a script by what they are about, those that stand together in one list. -/
structure Outline where
  project : List (List Block)
  fileGroups : List (List Block)
  modules : List (List Block)
  exporters : List (List Block)

namespace Outline

def stanzas (outline : Outline) : List (List Block) :=
  outline.project ++ outline.fileGroups ++ outline.modules ++ outline.exporters

/-- The opening line of a call and the line after it. -/
def title (block : Block) : String × Option String := (block.opening, block.body.head?)

/-- The calls that describe a project for an environment, by their titles. -/
def exporterTitles (target : ExportTarget) (exporter : Exporter) :
    List (List (String × Option String)) :=
  let name := "\"" ++ target.displayName ++ "\""
  [("jucer_export_target(", some name)] ::
    exporter.configurations.map fun _ => [("jucer_export_target_configuration(", some name)]

/-- The calls are those of a project, in the order of the lists that come with its script. -/
structure Follows (outline : Outline) (project : Project) (script : ReprojucerScript) : Prop where
  project_eq : outline.project.map (·.map Block.opening)
    = ["jucer_project_begin("] :: ["jucer_project_settings("] ::
      if project.kindName = "audioplug" then [["jucer_audio_plugin_settings("]] else []
  fileGroups_eq : outline.fileGroups.map (·.map Block.opening)
    = script.fileGroups.flatMap FileGroup.openings
  openings_ne_nil : ∀ group ∈ script.fileGroups, group.openings ≠ []
  modules_eq : outline.modules.map (·.map title)
    = script.modules.map fun reference => [("jucer_project_module(", some reference.id)]
  exporters_eq : outline.exporters.map (·.map title)
    = project.presentExporters.flatMap fun found => exporterTitles found.1 found.2
  names_eq : script.exporters = project.presentExporters.map (·.1.displayName)

end Outline

namespace ReprojucerScript

/-- The sections before the first call. -/
def sections (project : Project) (directory : String) : List (List String) :=
  [preamble project, inclusion directory, fileCheck (fileVariable project)]

/-- The last line of every section before the first call has two empty lines after it. -/
theorem exists_last_of_mem_sections {project : Project} {directory : String} :
    ∀ lines ∈ sections project directory,
      ∃ before last, lines = before ++ [last, "", ""] ∧ last ≠ "" := by
  rw [sections, List.forall_mem_cons, List.forall_mem_cons, List.forall_mem_singleton]
  refine ⟨⟨[_, _], _, rfl, by decide⟩, ⟨[_], _, rfl, by decide⟩,
    ⟨[_, _, _, _, _, _, _], _, rfl, ?_⟩⟩
  decide

theorem kind?_eq_audioPlugin_iff {project : Project} :
    project.kind? = some .audioPlugin ↔ project.kindName = "audioplug" := by
  rw [Project.kind?]
  unfold ProjectKind.ofName?
  split <;> simp_all

/-- Calls that stand by themselves. -/
theorem flatMap_lines_eq (blocks : List Block) :
    blocks.flatMap Block.lines = (blocks.map ([·])).flatMap Block.linesTogether := by
  rw [List.flatMap_map]
  rfl

theorem isStanza_of_mem_map {blocks : List Block}
    (hblocks : ∀ block ∈ blocks, Opens block.opening) :
    ∀ stanza ∈ blocks.map ([·]), IsStanza stanza := by
  intro stanza hstanza
  obtain ⟨block, hblock, rfl⟩ := List.mem_map.mp hstanza
  exact isStanza_singleton (hblocks block hblock)

/-- The calls of a script whose parts have been read. -/
def outlineOfParts (project : Project) (cwd : Place) (mainGroup? : Option Group)
    (modules : List ModuleReference) (pluginCalls : List Block) : Outline where
  project := (beginCall project :: settingsCall project :: pluginCalls).map ([·])
  fileGroups := (FileGroup.ofGroup? mainGroup?).flatMap FileGroup.stanzas
  modules := (modules.map (·.call project.options)).map ([·])
  exporters := (project.exporterCalls cwd).map ([·])

variable {store : FileStore} {project : Project} {reprojucer : Path}
  {outputDirectory? : Option Path} {cwd : Place} {mainGroup? : Option Group}
  {modules : List ModuleReference} {calls : List Block}

theorem lines_ofParts (directory : String) :
    (ofParts project cwd directory mainGroup? modules calls).lines
      = (sections project directory).flatten
        ++ (outlineOfParts project cwd mainGroup? modules calls).stanzas.flatMap Block.linesTogether
        ++ ["jucer_project_end()"] := by
  simp only [ofParts, sections, outlineOfParts, Outline.stanzas, FileGroup.flatMap_lines,
    flatMap_lines_eq, List.flatMap_append, List.flatten_cons, List.flatten_nil, List.append_assoc,
    List.append_nil]

theorem opening_of_pluginCalls (hcalls : pluginCalls project = .ok calls) :
    calls.map Block.opening
      = if project.kindName = "audioplug" then ["jucer_audio_plugin_settings("] else [] := by
  rw [pluginCalls] at hcalls
  by_cases hkind : project.kind? = some .audioPlugin
  · rw [if_pos hkind] at hcalls
    obtain ⟨lines, -, rfl⟩ := map_eq_ok_iff.mp hcalls
    rw [if_pos (kind?_eq_audioPlugin_iff.mp hkind)]
    rfl
  · rw [if_neg hkind] at hcalls
    cases hcalls
    rw [if_neg fun hname => hkind (kind?_eq_audioPlugin_iff.mpr hname)]
    rfl

theorem map_title_calls (target : ExportTarget) (exporter : Exporter) :
    (target.calls cwd project exporter).map (fun block => [Outline.title block])
      = Outline.exporterTitles target exporter := by
  rw [ExportTarget.calls, List.map_cons, List.map_map]
  rfl

theorem opens_of_mem_exporterCalls :
    ∀ block ∈ project.exporterCalls cwd, Opens block.opening := by
  have htarget : Opens "jucer_export_target(" := by decide
  have hconfiguration : Opens "jucer_export_target_configuration(" := by decide
  intro block hblock
  obtain ⟨⟨target, exporter⟩, -, hblock⟩ := List.mem_flatMap.mp hblock
  obtain rfl | hblock := List.mem_cons.mp hblock
  · exact htarget
  · obtain ⟨configuration, -, rfl⟩ := List.mem_map.mp hblock
    exact hconfiguration

theorem isStanza_outlineOfParts (hcalls : pluginCalls project = .ok calls) :
    ∀ stanza ∈ (outlineOfParts project cwd mainGroup? modules calls).stanzas, IsStanza stanza := by
  have hbegin : Opens "jucer_project_begin(" := by decide
  have hsettings : Opens "jucer_project_settings(" := by decide
  have hplugin : Opens "jucer_audio_plugin_settings(" := by decide
  have hmodule : Opens "jucer_project_module(" := by decide
  have hpluginCalls : ∀ block ∈ calls, Opens block.opening := by
    intro block hblock
    have hopening := List.mem_map_of_mem (f := Block.opening) hblock
    rw [opening_of_pluginCalls hcalls] at hopening
    split at hopening
    · rw [List.mem_singleton.mp hopening]
      exact hplugin
    · cases hopening
  rw [Outline.stanzas, List.forall_mem_append, List.forall_mem_append, List.forall_mem_append]
  refine ⟨⟨⟨isStanza_of_mem_map ?_, ?_⟩, isStanza_of_mem_map ?_⟩, isStanza_of_mem_map ?_⟩
  · rw [List.forall_mem_cons, List.forall_mem_cons]
    exact ⟨hbegin, hsettings, hpluginCalls⟩
  · exact FileGroup.isStanza_of_mem_flatMap_stanzas
  · intro block hblock
    obtain ⟨reference, -, rfl⟩ := List.mem_map.mp hblock
    exact hmodule
  · exact opens_of_mem_exporterCalls

theorem follows_outlineOfParts (directory : String) (hcalls : pluginCalls project = .ok calls) :
    (outlineOfParts project cwd mainGroup? modules calls).Follows project
      (ofParts project cwd directory mainGroup? modules calls) where
  project_eq := by
    have hplugin := congrArg (List.map ([·])) (opening_of_pluginCalls hcalls)
    rw [List.map_map] at hplugin
    simp only [outlineOfParts, List.map_cons, List.map_map]
    refine congrArg (_ :: _ :: ·) (hplugin.trans ?_)
    split <;> rfl
  fileGroups_eq := by
    simp only [outlineOfParts, ofParts, List.map_flatMap, FileGroup.map_opening_stanzas]
  openings_ne_nil := by
    cases mainGroup? with
    | none => exact List.forall_mem_nil _
    | some group => exact fun fileGroup hmem => FileGroup.openings_ne_nil_of_mem_ofGroup hmem
  modules_eq := by
    simp only [outlineOfParts, ofParts, List.map_map]
    rfl
  exporters_eq := by
    simp only [outlineOfParts, Project.exporterCalls, List.map_flatMap, List.map_map]
    exact List.flatMap_congr fun found _ => map_title_calls found.1 found.2
  names_eq := rfl

/-- **The outline of a script.** The lines of a script are the sections before the first call, each
with two empty lines after it, calls that can be told from each other by how their lines begin, each
stanza of them with one empty line after it, and the line that ends the project. The calls are those
of the project and of the lists that come with the script, in this order and no others. -/
theorem exists_outline {script : ReprojucerScript}
    (hscript : ofProject store project reprojucer outputDirectory? = .ok script) :
    ∃ outline : Outline, outline.Follows project script
      ∧ script.lines
        = (sections project (includeDirectory store.cwd reprojucer outputDirectory?)).flatten
          ++ outline.stanzas.flatMap Block.linesTogether ++ ["jucer_project_end()"]
      ∧ (∀ lines ∈ sections project (includeDirectory store.cwd reprojucer outputDirectory?),
        ∃ before last, lines = before ++ [last, "", ""] ∧ last ≠ "")
      ∧ (∀ stanza ∈ outline.stanzas, IsStanza stanza)
      ∧ stanzas? (outline.stanzas.flatMap Block.linesTogether) = some outline.stanzas := by
  obtain ⟨mainGroup?, modules, calls, -, -, hcalls, rfl⟩ := ofProject_eq_ok_iff.mp hscript
  have hstanzas : ∀ stanza ∈ (outlineOfParts project store.cwd mainGroup? modules calls).stanzas,
      IsStanza stanza := isStanza_outlineOfParts hcalls
  exact ⟨outlineOfParts project store.cwd mainGroup? modules calls,
    follows_outlineOfParts _ hcalls, lines_ofParts _, exists_last_of_mem_sections, hstanzas,
    Script.stanzas?_flatMap_linesTogether hstanzas⟩

theorem exists_outline_sample :
    ∃ script, ofProject sampleStore sampleProject sampleReprojucer none = .ok script
      ∧ ∃ outline : Outline, outline.Follows sampleProject script
        ∧ script.lines
          = (sections sampleProject
              (includeDirectory sampleStore.cwd sampleReprojucer none)).flatten
            ++ outline.stanzas.flatMap Block.linesTogether ++ ["jucer_project_end()"]
        ∧ (∀ lines ∈ sections sampleProject
            (includeDirectory sampleStore.cwd sampleReprojucer none),
          ∃ before last, lines = before ++ [last, "", ""] ∧ last ≠ "")
        ∧ (∀ stanza ∈ outline.stanzas, IsStanza stanza)
        ∧ stanzas? (outline.stanzas.flatMap Block.linesTogether) = some outline.stanzas := by
  obtain ⟨script, hscript⟩ := exists_sample
  exact ⟨script, hscript, exists_outline hscript⟩

end ReprojucerScript

end JuceBuild
