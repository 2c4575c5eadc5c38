import JuceBuild.Conversion
import JuceBuild.Proofs.FileStore.Write

/-!
# What a conversion writes is settled before it writes

A conversion can stop for its settings, while it reads the project or a module header, for the kind
of the project, for a number in the document, or when the script's file cannot be opened. All of
this is decided by the files as they are before the run: the plan below makes every one of these
checks and touches nothing, and the run either stops where the plan stops or puts the planned file
into the store. So a run that fails leaves no trace, and one that succeeds leaves one file.
-/

namespace JuceBuild.ConversionSettings

/-- What a conversion is going to write, and where. -/
structure Plan where
  result : ConversionResult
  place : Place
  text : String

/-- The plan of a conversion, found by looking at the files only. -/
def plan (settings : ConversionSettings) (store : FileStore) : Except Failure Plan := do
  match settings.problems store with
  | [] =>
    let project ← Project.load store settings.project.toString
    let (text, result) ← settings.script store project
    let place ←
      (store.writablePlace result.outputPath).mapError (.unwritableScript result.outputPath)
    return ⟨result, place, text⟩
  | problems => .error (.invalidSettings problems)

variable {settings : ConversionSettings} {store : FileStore}

/-- **A run follows its plan.** -/
theorem run_perform (settings : ConversionSettings) (store : FileStore) :
    settings.perform.run store
      = match settings.plan store with
        | .ok plan => .ok plan.result (store.insert plan.place (.file plan.text.toUTF8))
        | .error failure => .error failure store := by
  rw [perform, plan, EStateM.run_bind, EStateM.run_get]
  cases hproblems : settings.problems store with
  | cons problem problems =>
      simp only [hproblems]
      rfl
  | nil =>
      simp only [hproblems, EStateM.run_bind, FileStore.run_liftExcept]
      cases Project.load store settings.project.toString with
      | error failure => rfl
      | ok project =>
          simp only [ok_bind]
          cases settings.script store project with
          | error failure => rfl
          | ok output =>
              simp only [ok_bind, EStateM.run_adaptExcept, FileStore.run_write]
              cases store.writablePlace output.2.outputPath with
              | error reason => rfl
              | ok place => rfl

/-! ### What the plan writes -/

/-- The text is the script of the project, made by the writer that the settings choose from the
files of the store. -/
def IsScript (settings : ConversionSettings) (store : FileStore) (text : String) : Prop :=
  ∃ project, Project.load store settings.project.toString = .ok project
    ∧ if settings.forJuce6 then Juce6Script.ofProject project = .ok text
      else ∃ reprojucer script, settings.reprojucer? = some reprojucer
        ∧ ReprojucerScript.ofProject store project reprojucer settings.outputDirectory?
          = .ok script
        ∧ script.text = text

/-- Settings without a problem: the paths they need are given, and lead to what they should. -/
theorem problems_eq_nil_iff :
    settings.problems store = []
      ↔ store.isFile settings.project = true
        ∧ (settings.forJuce6 = false → ∃ reprojucer, settings.reprojucer? = some reprojucer
          ∧ store.isFile reprojucer = true)
        ∧ ∀ directory, settings.outputDirectory? = some directory
          → store.isDirectory directory = true := by
  rw [problems, List.append_eq_nil_iff, List.append_eq_nil_iff, and_assoc]
  refine and_congr ?_ (and_congr ?_ ?_)
  · simp
  · cases settings.forJuce6 <;> cases settings.reprojucer? <;> simp
  · cases settings.outputDirectory? <;> simp

theorem exists_of_plan {plan : Plan} (hplan : settings.plan store = .ok plan) :
    settings.problems store = [] ∧ ∃ project,
      Project.load store settings.project.toString = .ok project
        ∧ settings.script store project = .ok (plan.text, plan.result)
        ∧ store.writablePlace plan.result.outputPath = .ok plan.place := by
  rw [ConversionSettings.plan] at hplan
  cases hproblems : settings.problems store with
  | cons problem problems =>
      rw [hproblems] at hplan
      cases hplan
  | nil =>
      rw [hproblems] at hplan
      obtain ⟨project, hload, hplan⟩ := bind_eq_ok_iff.mp hplan
      obtain ⟨output, hscript, hplan⟩ := bind_eq_ok_iff.mp hplan
      obtain ⟨place, hplace, hplan⟩ := bind_eq_ok_iff.mp hplan
      cases hplan
      exact ⟨rfl, project, hload, hscript, mapError_eq_ok_iff.mp hplace⟩

theorem plan_eq_ok {plan : Plan} {project : Project} (hproblems : settings.problems store = [])
    (hload : Project.load store settings.project.toString = .ok project)
    (hscript : settings.script store project = .ok (plan.text, plan.result))
    (hplace : store.writablePlace plan.result.outputPath = .ok plan.place) :
    settings.plan store = .ok plan := by
  rw [ConversionSettings.plan, hproblems]
  simp only [hload, ok_bind, hscript, hplace]
  rfl

theorem walk_of_plan {plan : Plan} (hplan : settings.plan store = .ok plan) :
    store.walk plan.result.outputPath = .ok plan.place := by
  obtain ⟨-, project, -, -, hplace⟩ := exists_of_plan hplan
  exact (FileStore.writablePlace_eq_ok_iff.mp hplace).1

theorem isScript_of_script {project : Project} {text : String} {result : ConversionResult}
    (hproblems : settings.problems store = [])
    (hload : Project.load store settings.project.toString = .ok project)
    (hscript : settings.script store project = .ok (text, result)) :
    settings.IsScript store text ∧ result.outputPath = settings.outputPath store.cwd := by
  rw [IsScript]
  cases hjuce6 : settings.forJuce6 with
  | true =>
      rw [script, hjuce6, if_pos rfl] at hscript
      obtain ⟨made, hmade, hscript⟩ := map_eq_ok_iff.mp hscript
      cases hscript
      exact ⟨⟨project, hload, hmade⟩, rfl⟩
  | false =>
      obtain ⟨reprojucer, hreprojucer, -⟩ := (problems_eq_nil_iff.mp hproblems).2.1 hjuce6
      rw [script, hjuce6, if_neg Bool.false_ne_true, hreprojucer] at hscript
      obtain ⟨made, hmade, hscript⟩ := bind_eq_ok_iff.mp hscript
      cases hscript
      exact ⟨⟨project, hload, reprojucer, made, hreprojucer, hmade, rfl⟩, rfl⟩

/-- **All or nothing.** A run that fails, at whatever stage, leaves the files as they were. One that
returns has put the script into the file its output path leads to, and nothing else is changed. -/
theorem perform_writes_all_or_nothing (settings : ConversionSettings) (store : FileStore) :
    match settings.perform.run store with
    | .error _ after => after = store
    | .ok result after =>
      result.outputPath = settings.outputPath store.cwd
        ∧ ∃ place text, settings.IsScript store text
          ∧ store.walk (settings.outputPath store.cwd) = .ok place
          ∧ after.entryAt? place = some (.file text.toUTF8)
          ∧ after.read (settings.outputPath store.cwd) = .ok text.toUTF8
          ∧ after.cwd = store.cwd
          ∧ ∀ other, other ≠ place → after.entryAt? other = store.entryAt? other := by
  rw [run_perform]
  cases hplan : settings.plan store with
  | error failure => rfl
  | ok plan =>
      obtain ⟨hproblems, project, hload, hscript, hplace⟩ := exists_of_plan hplan
      obtain ⟨hisScript, hpath⟩ := isScript_of_script hproblems hload hscript
      rw [hpath] at hplace
      obtain ⟨hwalk, hentry⟩ := FileStore.writablePlace_eq_ok_iff.mp hplace
      have hnil := store.ne_nil_of_entryAt?_ne_directory hentry
      refine ⟨hpath, plan.place, plan.text, hisScript, hwalk, ?_, ?_, rfl, ?_⟩
      · exact store.entryAt?_insert_self _ hnil
      · exact FileStore.read_insert_file hplace _
      · intro other hother
        exact store.entryAt?_insert_of_ne _ hother

end JuceBuild.ConversionSettings
