import JuceBuild.Proofs.Conversion.Places
import JuceBuild.Proofs.Module.Reference
import JuceBuild.Proofs.Script.Parts
import JuceBuild.Proofs.Xml.ReadBack

/-!
# A second run does nothing

The second run finds a script where the first may have found nothing, so everything it reads has to
be shown to be what the first run read. The script's file is no directory, hence it turns no walk
aside that succeeds. It is not the project's file, which is asked for, and it is no module header,
since it does not have a header's name. Whether there is a Reprojucer file is all that is asked
about that one, and so it may even be the script's file.
-/

namespace JuceBuild

/-- The script's file is no module header, whatever module ids and module paths a project has. -/
theorem ModuleReference.walk_headerPath_ne {settings : ConversionSettings} {store : FileStore}
    {place : Place} (hplace : store.walk (settings.outputPath store.cwd) = .ok place)
    (other : FileStore) (id path : String) (directory : Path) :
    other.walk (headerPath id path directory) ≠ .ok place := by
  intro hwalk
  obtain ⟨output, rfl⟩ := ConversionSettings.exists_directory_of_walk_outputPath hplace
  obtain ⟨above, name, hheader, hname⟩ := exists_name_of_walk_headerPath hwalk
  obtain ⟨-, hname'⟩ := List.append_inj' hheader rfl
  cases hname'
  exact absurd hname (by decide)

namespace ConversionSettings

variable {settings : ConversionSettings} {store after : FileStore} {place : Place}
  {written : ByteArray}

/-- A store that differs by a file where the output path leads to, and a project elsewhere. -/
structure Rewritten (settings : ConversionSettings) (store : FileStore) (place : Place)
    (written : ByteArray) (after : FileStore) : Prop where
  writablePlace_eq : store.writablePlace (settings.outputPath store.cwd) = .ok place
  project_ne : store.walk settings.project ≠ .ok place
  after_eq : after = store.insert place (.file written)

namespace Rewritten

theorem cwd_eq (hafter : Rewritten settings store place written after) : after.cwd = store.cwd := by
  rw [hafter.after_eq]
  rfl

theorem walk_eq (hafter : Rewritten settings store place written after) :
    store.walk (settings.outputPath store.cwd) = .ok place :=
  (FileStore.writablePlace_eq_ok_iff.mp hafter.writablePlace_eq).1

theorem entryAt?_ne (hafter : Rewritten settings store place written after) :
    store.entryAt? place ≠ some .directory :=
  (FileStore.writablePlace_eq_ok_iff.mp hafter.writablePlace_eq).2

theorem read_headerPath_iff (hafter : Rewritten settings store place written after)
    (id path : String) (directory : Path) (content : ByteArray) :
    after.read (ModuleReference.headerPath id path directory) = .ok content
      ↔ store.read (ModuleReference.headerPath id path directory) = .ok content := by
  rw [hafter.after_eq]
  refine FileStore.read_insert_file_eq_ok_iff hafter.entryAt?_ne ?_
  exact ModuleReference.walk_headerPath_ne hafter.walk_eq store id path directory

theorem read_project_iff (hafter : Rewritten settings store place written after)
    (content : ByteArray) :
    after.read settings.project = .ok content ↔ store.read settings.project = .ok content := by
  rw [hafter.after_eq]
  exact FileStore.read_insert_file_eq_ok_iff hafter.entryAt?_ne hafter.project_ne

/-! ### What the second run finds -/

theorem isFile (hafter : Rewritten settings store place written after) {path : Path}
    (hfile : store.isFile path = true) : after.isFile path = true := by
  obtain ⟨content, hread⟩ := FileStore.isFile_eq_true_iff.mp hfile
  rw [hafter.after_eq]
  -- Only here may the path lead to the script's file: a Reprojucer file is asked for, never read.
  by_cases hpath : store.walk path = .ok place
  · have hplace := FileStore.writablePlace_eq_ok_iff.mpr ⟨hpath, hafter.entryAt?_ne⟩
    exact FileStore.isFile_eq_true_iff.mpr ⟨written, FileStore.read_insert_file hplace written⟩
  · refine FileStore.isFile_eq_true_iff.mpr ⟨content, ?_⟩
    exact (FileStore.read_insert_file_eq_ok_iff hafter.entryAt?_ne hpath).mpr hread

theorem isDirectory (hafter : Rewritten settings store place written after) {path : Path}
    (hdirectory : store.isDirectory path = true) : after.isDirectory path = true := by
  obtain ⟨target, hwalk, hentry⟩ := FileStore.isDirectory_eq_true_iff.mp hdirectory
  rw [hafter.after_eq, FileStore.isDirectory_eq_true_iff]
  refine ⟨target, (FileStore.walk_insert_file_eq_ok_iff hafter.entryAt?_ne written).mpr hwalk, ?_⟩
  exact (FileStore.entryAt?_insert_file_eq_directory_iff hafter.entryAt?_ne written).mpr hentry

theorem problems_eq_nil (hafter : Rewritten settings store place written after)
    (hproblems : settings.problems store = []) : settings.problems after = [] := by
  obtain ⟨hproject, hreprojucer, hdirectory⟩ := problems_eq_nil_iff.mp hproblems
  refine problems_eq_nil_iff.mpr ⟨hafter.isFile hproject, fun hjuce6 => ?_, fun path hpath => ?_⟩
  · obtain ⟨reprojucer, hgiven, hfile⟩ := hreprojucer hjuce6
    exact ⟨reprojucer, hgiven, hafter.isFile hfile⟩
  · exact hafter.isDirectory (hdirectory path hpath)

theorem load_eq (hafter : Rewritten settings store place written after)
    (hpath : settings.project.WellFormed) {project : Project}
    (hload : Project.load store settings.project.toString = .ok project)
    (hproject : store.isFile settings.project = true) :
    Project.load after settings.project.toString = .ok project := by
  obtain ⟨content, hread⟩ := FileStore.isFile_eq_true_iff.mp hproject
  have hread' := (hafter.read_project_iff content).mpr hread
  rw [Project.load, Path.ofString_toString hpath, Project.readDocument, hread] at hload
  rw [Project.load, Path.ofString_toString hpath, Project.readDocument, hread', hafter.cwd_eq]
  exact hload

theorem resolveAll_eq (hafter : Rewritten settings store place written after) {ids : List String}
    {paths : List (String × String)} {directory : Path} {modules : List ModuleReference}
    (hmodules : ModuleReference.resolveAll store ids paths directory = .ok modules) :
    ModuleReference.resolveAll after ids paths directory = .ok modules := by
  refine mapM_eq_ok_of_forall (fun id _ reference hresolve => ?_) hmodules
  obtain ⟨path, content, hpath, hread, hreference⟩ :=
    ModuleReference.resolve_eq_ok_iff.mp hresolve
  have hread' := (hafter.read_headerPath_iff id path directory content).mpr hread
  exact ModuleReference.resolve_eq_ok_iff.mpr ⟨path, content, hpath, hread', hreference⟩

theorem ofProject_eq (hafter : Rewritten settings store place written after) {project : Project}
    {reprojucer : Path} {outputDirectory? : Option Path} {script : ReprojucerScript}
    (hscript : ReprojucerScript.ofProject store project reprojucer outputDirectory? = .ok script) :
    ReprojucerScript.ofProject after project reprojucer outputDirectory? = .ok script := by
  obtain ⟨mainGroup?, modules, calls, hmainGroup, hmodules, hcalls, hparts⟩ :=
    ReprojucerScript.ofProject_eq_ok_iff.mp hscript
  rw [ReprojucerScript.ofProject_eq_ok_iff, hafter.cwd_eq]
  exact ⟨mainGroup?, modules, calls, hmainGroup, hafter.resolveAll_eq hmodules, hcalls, hparts⟩

theorem script_eq (hafter : Rewritten settings store place written after) {project : Project}
    {output : String × ConversionResult} (hscript : settings.script store project = .ok output) :
    settings.script after project = .ok output := by
  rw [script] at hscript ⊢
  rw [hafter.cwd_eq]
  cases hjuce6 : settings.forJuce6 with
  | true =>
      rw [hjuce6, if_pos rfl] at hscript
      rw [if_pos rfl]
      exact hscript
  | false =>
      rw [hjuce6, if_neg Bool.false_ne_true] at hscript
      obtain ⟨made, hmade, hscript⟩ := bind_eq_ok_iff.mp hscript
      rw [if_neg Bool.false_ne_true]
      exact bind_eq_ok_iff.mpr ⟨made, hafter.ofProject_eq hmade, hscript⟩

theorem writablePlace_after_eq (hafter : Rewritten settings store place written after) :
    after.writablePlace (settings.outputPath store.cwd) = .ok place := by
  rw [FileStore.writablePlace_eq_ok_iff, hafter.after_eq,
    FileStore.walk_insert_file_eq_ok_iff hafter.entryAt?_ne, ne_eq,
    FileStore.entryAt?_insert_file_eq_directory_iff hafter.entryAt?_ne]
  exact ⟨hafter.walk_eq, hafter.entryAt?_ne⟩

theorem plan_eq (hafter : Rewritten settings store place written after)
    (hpath : settings.project.WellFormed) {plan : Plan} (hplan : settings.plan store = .ok plan)
    (hplace : plan.place = place) : settings.plan after = .ok plan := by
  obtain ⟨hproblems, project, hload, hscript, -⟩ := exists_of_plan hplan
  obtain ⟨-, houtput⟩ := isScript_of_script hproblems hload hscript
  have hproject := (problems_eq_nil_iff.mp hproblems).1
  refine plan_eq_ok (hafter.problems_eq_nil hproblems) (hafter.load_eq hpath hload hproject)
    (hafter.script_eq hscript) ?_
  rw [houtput, hplace]
  exact hafter.writablePlace_after_eq

end Rewritten

theorem exists_plan_of_run {result : ConversionResult}
    (hrun : settings.perform.run store = .ok result after) :
    ∃ plan, settings.plan store = .ok plan ∧ plan.result = result
      ∧ after = store.insert plan.place (.file plan.text.toUTF8) := by
  rw [run_perform] at hrun
  split at hrun
  · rename_i plan hplan
    cases hrun
    exact ⟨plan, hplan, rfl, rfl⟩
  · cases hrun

/-- **A second run does nothing.** Unless the script is written over the project's own file, a run
on the files that a run has left returns the same and leaves them as they are. The file that was
written is no module header, and project and headers are read as they were before. -/
theorem perform_again (hpath : settings.project.WellFormed)
    (houtput : store.walk (settings.outputPath store.cwd) ≠ store.walk settings.project)
    {result : ConversionResult} (hrun : settings.perform.run store = .ok result after) :
    settings.perform.run after = .ok result after
      ∧ ∃ place, store.walk (settings.outputPath store.cwd) = .ok place
        ∧ ∀ id path directory,
          after.walk (ModuleReference.headerPath id path directory) ≠ .ok place
          ∧ ∀ content, (after.read (ModuleReference.headerPath id path directory) = .ok content
              ↔ store.read (ModuleReference.headerPath id path directory) = .ok content)
            ∧ (after.read settings.project = .ok content
              ↔ store.read settings.project = .ok content) := by
  obtain ⟨plan, hplan, rfl, rfl⟩ := exists_plan_of_run hrun
  obtain ⟨hproblems, project, hload, hscript, hplace⟩ := exists_of_plan hplan
  rw [(isScript_of_script hproblems hload hscript).2] at hplace
  have hwalk := (FileStore.writablePlace_eq_ok_iff.mp hplace).1
  have hafter : Rewritten settings store plan.place plan.text.toUTF8
      (store.insert plan.place (.file plan.text.toUTF8)) :=
    ⟨hplace, fun hproject => houtput (hwalk.trans hproject.symm), rfl⟩
  refine ⟨?_, plan.place, hwalk, fun id path directory => ⟨?_, fun content => ⟨?_, ?_⟩⟩⟩
  · rw [run_perform, hafter.plan_eq hpath hplan rfl]
    simp only [FileStore.insert_insert]
  · exact ModuleReference.walk_headerPath_ne hwalk _ id path directory
  · exact hafter.read_headerPath_iff id path directory content
  · exact hafter.read_project_iff content

/-- A project whose Reprojucer file is the file that its script is going to be written over. -/
def sharedStore : FileStore where
  entries := [
    (["work"], .directory),
    (["work", "App.jucer"], .file Xml.bareProject),
    (["work", "CMakeLists.txt"], .file .empty)]
  cwd := ["work"]

def sharedSettings : ConversionSettings where
  project := .ofString "App.jucer"
  reprojucer? := some (.ofString "./CMakeLists.txt")
  outputDirectory? := none
  forJuce6 := false

theorem exists_run_shared :
    ∃ result after, sharedSettings.perform.run sharedStore = .ok result after := by
  have hproblems : sharedSettings.problems sharedStore = [] := by decide +kernel
  have hread : sharedStore.read (Path.ofString sharedSettings.project.toString)
      = .ok Xml.bareProject := by decide +kernel
  have hfile : (Path.ofString sharedSettings.project.toString).absolute sharedStore.cwd
      = ⟨.root, ["work", "App.jucer"]⟩ := by decide +kernel
  have hload : Project.load sharedStore sharedSettings.project.toString
      = .ok ⟨⟨.root, ["work", "App.jucer"]⟩, ⟨"JUCERPROJECT", [], []⟩⟩ := by
    rw [Project.load, Project.readDocument, hread]
    simp only [Xml.ofOctets_bareProject]
    rw [Project.rootTag, if_pos rfl, hfile]
  obtain ⟨⟨text, result⟩, hscript⟩ : ∃ output, sharedSettings.script sharedStore
      ⟨⟨.root, ["work", "App.jucer"]⟩, ⟨"JUCERPROJECT", [], []⟩⟩ = .ok output := ⟨_, rfl⟩
  have hpath := (isScript_of_script hproblems hload hscript).2
  have hplace : sharedStore.writablePlace (sharedSettings.outputPath sharedStore.cwd)
      = .ok ["work", "CMakeLists.txt"] := by decide +kernel
  rw [← hpath] at hplace
  have hplan : sharedSettings.plan sharedStore = .ok ⟨result, ["work", "CMakeLists.txt"], text⟩ :=
    plan_eq_ok hproblems hload hscript hplace
  refine ⟨result, sharedStore.insert ["work", "CMakeLists.txt"] (.file text.toUTF8), ?_⟩
  rw [run_perform, hplan]

theorem perform_again_shared :
    sharedSettings.project.WellFormed
      ∧ sharedStore.walk (sharedSettings.outputPath sharedStore.cwd)
        ≠ sharedStore.walk sharedSettings.project
      ∧ ∃ result after, sharedSettings.perform.run sharedStore = .ok result after
        ∧ sharedSettings.perform.run after = .ok result after
        ∧ ∃ place, sharedStore.walk (sharedSettings.outputPath sharedStore.cwd) = .ok place
          ∧ ∀ id path directory,
            after.walk (ModuleReference.headerPath id path directory) ≠ .ok place
            ∧ ∀ content, (after.read (ModuleReference.headerPath id path directory) = .ok content
                ↔ sharedStore.read (ModuleReference.headerPath id path directory) = .ok content)
              ∧ (after.read sharedSettings.project = .ok content
                ↔ sharedStore.read sharedSettings.project = .ok content) := by
  have hpath := Path.wellFormed_ofString "App.jucer"
  have houtput : sharedStore.walk (sharedSettings.outputPath sharedStore.cwd)
      ≠ sharedStore.walk sharedSettings.project := by
    have hscript : sharedStore.walk (sharedSettings.outputPath sharedStore.cwd)
        = .ok ["work", "CMakeLists.txt"] := by decide +kernel
    have hproject : sharedStore.walk sharedSettings.project = .ok ["work", "App.jucer"] := by
      decide +kernel
    rw [hscript, hproject]
    decide
  obtain ⟨result, after, hrun⟩ := exists_run_shared
  exact ⟨hpath, houtput, result, after, hrun, perform_again hpath houtput hrun⟩

end ConversionSettings

end JuceBuild
