import JuceBuild.Proofs.Outcome
import JuceBuild.Script.Reprojucer

/-!
# The parts of a script

Three things are read before a script is put together: the tree of files, the headers of the modules
and the settings of a plug-in. What is put together then is a function of them.
-/

namespace JuceBuild.ReprojucerScript

/-- The script of a project whose parts have been read. -/
def ofParts (project : Project) (cwd : Place) (directory : String) (mainGroup? : Option Group)
    (modules : List ModuleReference) (pluginCalls : List Block) : ReprojucerScript where
  fileGroups := FileGroup.ofGroup? mainGroup?
  modules := modules
  exporters := project.presentExporters.map (·.1.displayName)
  lines :=
    preamble project ++ inclusion directory ++ fileCheck (fileVariable project) ++
      (beginCall project :: settingsCall project :: pluginCalls).flatMap Block.lines ++
      (FileGroup.ofGroup? mainGroup?).flatMap FileGroup.lines ++
      (modules.map (·.call project.options) ++ project.exporterCalls cwd).flatMap Block.lines ++
      ["jucer_project_end()"]

variable {store : FileStore} {project : Project} {reprojucer : Path}
  {outputDirectory? : Option Path}

theorem ofProject_eq :
    ofProject store project reprojucer outputDirectory? = (do
      let mainGroup? ← project.mainGroup?.mapError .oversizedNumeral
      let modules ←
        ModuleReference.resolveAll store project.moduleIds project.modulePaths project.directory
      let pluginCalls ← (pluginCalls project).mapError .oversizedNumeral
      return ofParts project store.cwd (includeDirectory store.cwd reprojucer outputDirectory?)
        mainGroup? modules pluginCalls) :=
  rfl

/-- A script is returned exactly if all of its parts can be read. -/
theorem ofProject_eq_ok_iff {script : ReprojucerScript} :
    ofProject store project reprojucer outputDirectory? = .ok script
      ↔ ∃ mainGroup? modules calls, project.mainGroup? = .ok mainGroup?
        ∧ ModuleReference.resolveAll store project.moduleIds project.modulePaths project.directory
          = .ok modules
        ∧ pluginCalls project = .ok calls
        ∧ ofParts project store.cwd (includeDirectory store.cwd reprojucer outputDirectory?)
          mainGroup? modules calls = script := by
  rw [ofProject_eq]
  simp only [bind_eq_ok_iff, mapError_eq_ok_iff, exists_and_left]
  simp only [Pure.pure, Except.pure, Except.ok.injEq]

end JuceBuild.ReprojucerScript
