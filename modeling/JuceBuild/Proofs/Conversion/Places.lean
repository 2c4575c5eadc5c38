import JuceBuild.Proofs.Conversion.Plan
import JuceBuild.Proofs.FileStore.Base

/-!
# The places of a run

A run with valid settings has an output directory: the one it is given, or the current directory.
The script's file stands one step below it, and the script names the Reprojucer file's directory by
the way from it.
-/

namespace JuceBuild.ConversionSettings

variable {settings : ConversionSettings} {store : FileStore} {place : Place}

/-- The way to the Reprojucer file is the one between the places that the two directories are led
to. -/
theorem includeDirectory_eq_route (hstore : store.WellFormed) {reprojucer : Path}
    {directory : Place}
    (houtput : store.walk (settings.outputDirectory?.getD store.cwd.path) = .ok place)
    (hdirectory : store.walk reprojucer.parent = .ok directory) :
    ReprojucerScript.includeDirectory store.cwd reprojucer settings.outputDirectory?
      = String.ofList ((routeText (place.route directory)).toList.map
        fun c => if c = '\\' then '/' else c) := by
  unfold ReprojucerScript.includeDirectory
  rw [FileStore.collapse_eq_of_walk hdirectory]
  cases hgiven : settings.outputDirectory? with
  | none =>
      rw [hgiven, Option.getD_none, hstore.walk_cwd] at houtput
      cases houtput
      rfl
  | some path =>
      rw [hgiven, Option.getD_some] at houtput
      rw [← FileStore.collapse_eq_of_walk houtput]

theorem exists_output (hstore : store.WellFormed) (hproblems : settings.problems store = []) :
    ∃ place, store.walk (settings.outputDirectory?.getD store.cwd.path) = .ok place
      ∧ store.entryAt? place = some .directory := by
  cases houtput : settings.outputDirectory? with
  | none => exact ⟨store.cwd, hstore.walk_cwd, hstore.cwd_directory⟩
  | some path =>
      have hdirectory := (problems_eq_nil_iff.mp hproblems).2.2 path houtput
      exact FileStore.isDirectory_eq_true_iff.mp hdirectory

/-- The script's file is one step from the output directory. -/
theorem walk_outputPath (settings : ConversionSettings) (store : FileStore) :
    store.walk (settings.outputPath store.cwd)
      = store.walk (settings.outputDirectory?.getD store.cwd.path)
        >>= fun place => store.step place scriptName := by
  have hrelative : ¬Path.isAbsolute ⟨.relative, [scriptName]⟩ = true := by decide
  rw [outputPath, Path.join_of_not_isAbsolute _ hrelative, FileStore.walk_eq_descend,
    FileStore.descend_append]
  refine congrArg _ (funext fun place => ?_)
  rw [FileStore.descend, List.foldlM_cons]
  cases store.step place scriptName <;> rfl

/-- The script's file is named by the last component of its place. -/
theorem exists_directory_of_walk_outputPath
    (hwalk : store.walk (settings.outputPath store.cwd) = .ok place) :
    ∃ directory, place = directory ++ [scriptName] := by
  rw [walk_outputPath] at hwalk
  obtain ⟨directory, -, hstep⟩ := bind_eq_ok_iff.mp hwalk
  exact ⟨directory, (FileStore.step_eq_ok_iff.mp hstep).2.symm⟩

end JuceBuild.ConversionSettings
