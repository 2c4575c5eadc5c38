import JuceBuild.Exporter.Target
import Mathlib.Data.List.Basic

/-!
# The calls for exporters

An environment takes the first exporter that it has in a project, and the calls for it are taken
from this exporter, from where the project is, from its modules and from its options. So the other
exporters do not matter, nor does the order of the exporters: the calls come in the order of the
environments. The exporters without an environment are named in the order of the document, and all
that can be said of them is that each is named as often as it occurs.
-/

namespace JuceBuild

variable {cwd₁ cwd₂ : Place} {project₁ project₂ : Project}

/-- The calls of an environment depend on a project by whether it hosts plug-ins and by how its
search paths are read. -/
theorem ExportTarget.calls_congr (hhosts : hostsVst3 project₁ = hostsVst3 project₂)
    (hpaths : ∀ headerPath targetFolder,
      SearchPath.fromDirectory cwd₁ headerPath project₁.directory targetFolder
        = SearchPath.fromDirectory cwd₂ headerPath project₂.directory targetFolder)
    (target : ExportTarget) (exporter : Exporter) :
    target.calls cwd₁ project₁ exporter = target.calls cwd₂ project₂ exporter := by
  have hconfigurations : target.configurationCall cwd₁ project₁ exporter
      = target.configurationCall cwd₂ project₂ exporter := by
    funext configuration
    rw [configurationCall, configurationCall, searchPathLine, searchPathLine, hpaths]
  rw [calls, calls, hconfigurations, targetCall, targetCall, hhosts]

namespace Project

theorem exporterCalls_congr (hpresent : project₁.presentExporters = project₂.presentExporters)
    (hcalls : ∀ target exporter, ExportTarget.calls target cwd₁ project₁ exporter
      = target.calls cwd₂ project₂ exporter) :
    project₁.exporterCalls cwd₁ = project₂.exporterCalls cwd₂ := by
  rw [exporterCalls, exporterCalls, hpresent]
  exact List.flatMap_congr fun found _ => hcalls found.1 found.2

/-- The first exporter with a tag, as a node of the document. -/
def exporterNode? (project : Project) (tag : String) : Option Xml.Node :=
  (project.root.childrenOf "EXPORTFORMATS").find? (·.tag = tag)

theorem exporter?_eq_map (project : Project) (tag : String) :
    project.exporter? tag = (project.exporterNode? tag).map (⟨·⟩) := by
  rw [exporter?, exporters, List.find?_map]
  rfl

/-- Two projects at one place, with the same modules and options, and with the same first exporter
for every environment. -/
structure SameTargets (project₁ project₂ : Project) : Prop where
  file_eq : project₁.file = project₂.file
  modules_eq : project₁.root.child? "MODULES" = project₂.root.child? "MODULES"
  options_eq : project₁.root.child? "JUCEOPTIONS" = project₂.root.child? "JUCEOPTIONS"
  exporterNode?_eq : ∀ target ∈ ExportTarget.all,
    project₁.exporterNode? target.tag = project₂.exporterNode? target.tag

theorem SameTargets.hostsVst3_eq (hsame : SameTargets project₁ project₂) :
    ExportTarget.hostsVst3 project₁ = ExportTarget.hostsVst3 project₂ := by
  have hmodules : project₁.root.childrenOf "MODULES" = project₂.root.childrenOf "MODULES" := by
    rw [Xml.Node.childrenOf, Xml.Node.childrenOf, hsame.modules_eq]
  rw [ExportTarget.hostsVst3, ExportTarget.hostsVst3, hasModule, hasModule, options, options,
    hmodules, hsame.options_eq]

theorem SameTargets.presentExporters_eq (hsame : SameTargets project₁ project₂) :
    project₁.presentExporters = project₂.presentExporters := by
  rw [presentExporters, presentExporters]
  refine List.filterMap_congr fun target htarget => ?_
  rw [exporter?_eq_map, exporter?_eq_map, hsame.exporterNode?_eq target htarget]

theorem SameTargets.exporterCalls_eq (hsame : SameTargets project₁ project₂) (cwd : Place) :
    project₁.exporterCalls cwd = project₂.exporterCalls cwd := by
  have hdirectory : project₁.directory = project₂.directory := by
    rw [directory, directory, hsame.file_eq]
  refine exporterCalls_congr hsame.presentExporters_eq ?_
  refine ExportTarget.calls_congr hsame.hostsVst3_eq fun headerPath targetFolder => ?_
  rw [hdirectory]

/-- The calls are those of each environment with its exporter: one for the environment itself, and
one for each configuration. -/
theorem exporterCalls_eq_flatMap (project : Project) (cwd : Place) :
    project.exporterCalls cwd = project.presentExporters.flatMap fun (target, exporter) =>
      target.targetCall project exporter
        :: exporter.configurations.map (target.configurationCall cwd project exporter) := by
  rw [exporterCalls]
  simp only [ExportTarget.calls]

/-- The environments that a project has an exporter for come in the order of the environments. -/
theorem map_fst_presentExporters (project : Project) :
    project.presentExporters.map (·.1)
      = ExportTarget.all.filter fun target => (project.exporterNode? target.tag).isSome := by
  rw [presentExporters, List.map_filterMap, ← List.filterMap_eq_filter]
  refine List.filterMap_congr fun target _ => ?_
  rw [exporter?_eq_map, Option.guard]
  cases project.exporterNode? target.tag <;> rfl

/-- The exporters without an environment are told by their tags alone. -/
theorem skippedExporters_eq_filter (project : Project) :
    project.skippedExporters
      = ((project.root.childrenOf "EXPORTFORMATS").map Xml.Node.tag).filter fun tag =>
        (ExportTarget.find? tag).isNone := by
  rw [skippedExporters, exporters, List.filter_map, List.filter_map, List.map_map]
  rfl

theorem skippedExporters_perm
    (hperm : (project₁.root.childrenOf "EXPORTFORMATS").Perm
      (project₂.root.childrenOf "EXPORTFORMATS")) :
    project₁.skippedExporters.Perm project₂.skippedExporters := by
  rw [skippedExporters_eq_filter, skippedExporters_eq_filter]
  exact (hperm.map _).filter _

/-- **The order of exporters does not matter.** Projects with the same first exporter for every
environment have the same pairs of environments and exporters, in the order of the environments, and
the same lines for them, whatever exporters they have besides and wherever these stand. The lines
are those of the calls for each pair. If the exporters of one are those of the other in another
order, then so are the ones without an environment. -/
theorem exporters_eq_of_sameTargets (hsame : SameTargets project₁ project₂) :
    project₁.presentExporters = project₂.presentExporters
      ∧ (∀ cwd, (project₁.exporterCalls cwd).flatMap Block.lines
        = (project₂.exporterCalls cwd).flatMap Block.lines)
      ∧ (∀ project ∈ [project₁, project₂],
        project.presentExporters.map (·.1)
            = ExportTarget.all.filter (fun target => (project.exporterNode? target.tag).isSome)
          ∧ ∀ cwd, project.exporterCalls cwd
            = project.presentExporters.flatMap fun (target, exporter) =>
              target.targetCall project exporter
                :: exporter.configurations.map (target.configurationCall cwd project exporter))
      ∧ ((project₁.root.childrenOf "EXPORTFORMATS").Perm (project₂.root.childrenOf "EXPORTFORMATS")
        → project₁.skippedExporters.Perm project₂.skippedExporters) := by
  refine ⟨hsame.presentExporters_eq, fun cwd => ?_, fun project _ => ?_, skippedExporters_perm⟩
  · rw [hsame.exporterCalls_eq cwd]
  · exact ⟨map_fst_presentExporters project, exporterCalls_eq_flatMap project⟩

/-- A project that hosts plug-ins, with some exporters. -/
def hostProject (name : String) (exporters : List Xml.Node) : Project where
  file := ⟨.root, ["work", "Host.jucer"]⟩
  root := ⟨"JUCERPROJECT", [("name", name)],
    [⟨"MODULES", [], [⟨"MODULE", [("id", "juce_audio_processors")], []⟩]⟩,
      ⟨"JUCEOPTIONS", [("JUCE_PLUGINHOST_VST3", "enabled")], []⟩,
      ⟨"EXPORTFORMATS", [], exporters⟩]⟩

def appleExporters : List Xml.Node :=
  [⟨"IOS", [], []⟩,
    ⟨"XCODE_MAC", [("targetFolder", "Builds/Mac")],
      [⟨"CONFIGURATIONS", [],
        [⟨"CONFIGURATION", [("name", "Debug"), ("headerPath", "../../include")], []⟩]⟩]⟩]

/-- Exporters among which one environment has two. -/
def otherExporters : List Xml.Node :=
  [⟨"VS2015", [("vst3Folder", "c:\\vst3")], []⟩, ⟨"LINUX_MAKE", [], []⟩,
    ⟨"VS2015", [("vst3Folder", "d:\\vst3")], []⟩]

theorem exporters_eq_of_sameTargets_host :
    SameTargets (hostProject "Host" (appleExporters ++ otherExporters))
        (hostProject "Other" (otherExporters ++ appleExporters))
      ∧ (hostProject "Host" (appleExporters ++ otherExporters)).skippedExporters
        = ["IOS", "LINUX_MAKE"]
      ∧ (hostProject "Other" (otherExporters ++ appleExporters)).skippedExporters
        = ["LINUX_MAKE", "IOS"]
      ∧ ((hostProject "Host" (appleExporters ++ otherExporters)).exporterCalls ["work"]).flatMap
          Block.lines
        = ((hostProject "Other" (otherExporters ++ appleExporters)).exporterCalls ["work"]).flatMap
          Block.lines
      ∧ (hostProject "Host" (appleExporters ++ otherExporters)).skippedExporters.Perm
        (hostProject "Other" (otherExporters ++ appleExporters)).skippedExporters := by
  have hsame : SameTargets (hostProject "Host" (appleExporters ++ otherExporters))
      (hostProject "Other" (otherExporters ++ appleExporters)) := by
    refine ⟨rfl, rfl, rfl, fun target htarget => ?_⟩
    simp only [ExportTarget.all, List.mem_cons, List.not_mem_nil, or_false] at htarget
    rcases htarget with rfl | rfl | rfl <;> rfl
  obtain ⟨-, hlines, -, hskipped⟩ := exporters_eq_of_sameTargets hsame
  exact ⟨hsame, by decide, by decide, hlines _, hskipped List.perm_append_comm⟩

end Project

end JuceBuild
