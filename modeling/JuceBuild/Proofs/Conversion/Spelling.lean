import JuceBuild.Proofs.Conversion.Places
import JuceBuild.Proofs.Conversion.SameProject

/-!
# The spelling of paths does not matter

Two runs are given the project, the Reprojucer file and the output directory in different words,
from different current directories, and the paths lead to the same places. The runs then do the
same. What they may differ in is the wording of what they say about paths: the output path of a
result and the paths named in a failure.
-/

namespace JuceBuild.ConversionSettings

/-- Two runs on the same files, both with valid settings, whose paths lead to the same places. The
Reprojucer file is not looked at for JUCE 6. -/
structure SamePlaces (settings₁ settings₂ : ConversionSettings) (store₁ store₂ : FileStore) :
    Prop where
  entries_eq : store₁.entries = store₂.entries
  wellFormed₁ : store₁.WellFormed
  wellFormed₂ : store₂.WellFormed
  project_wellFormed₁ : settings₁.project.WellFormed
  project_wellFormed₂ : settings₂.project.WellFormed
  forJuce6_eq : settings₁.forJuce6 = settings₂.forJuce6
  problems₁ : settings₁.problems store₁ = []
  problems₂ : settings₂.problems store₂ = []
  project_eq : store₁.walk settings₁.project = store₂.walk settings₂.project
  reprojucer_eq : settings₁.forJuce6 = false →
    settings₁.reprojucer?.map store₁.walk = settings₂.reprojucer?.map store₂.walk
  output_eq : store₁.walk (settings₁.outputDirectory?.getD store₁.cwd.path)
    = store₂.walk (settings₂.outputDirectory?.getD store₂.cwd.path)

/-! ### Two runs -/

namespace SamePlaces

variable {settings₁ settings₂ : ConversionSettings} {store₁ store₂ : FileStore}

theorem load_alike (hsame : SamePlaces settings₁ settings₂ store₁ store₂) :
    Alike (SameProject store₁ store₂) (Project.load store₁ settings₁.project.toString)
      (Project.load store₂ settings₂.project.toString) := by
  have hfile := (problems_eq_nil_iff.mp hsame.problems₁).1
  obtain ⟨content, hread⟩ := FileStore.isFile_eq_true_iff.mp hfile
  obtain ⟨place, hwalk₁, hentry⟩ := FileStore.read_eq_ok_iff.mp hread
  have hwalk₂ := hsame.project_eq ▸ hwalk₁
  exact Project.load_alike hsame.entries_eq hsame.wellFormed₁ hsame.wellFormed₂
    hsame.project_wellFormed₁ hsame.project_wellFormed₂ hwalk₁ hwalk₂ hentry

theorem includeDirectory_eq (hsame : SamePlaces settings₁ settings₂ store₁ store₂)
    (hjuce6 : settings₁.forJuce6 = false) :
    ReprojucerScript.includeDirectory store₁.cwd (settings₁.reprojucer?.getD ⟨.relative, []⟩)
        settings₁.outputDirectory?
      = ReprojucerScript.includeDirectory store₂.cwd (settings₂.reprojucer?.getD ⟨.relative, []⟩)
        settings₂.outputDirectory? := by
  obtain ⟨output, houtput₁, -⟩ := exists_output hsame.wellFormed₁ hsame.problems₁
  have houtput₂ := hsame.output_eq ▸ houtput₁
  have hrequired := (problems_eq_nil_iff.mp hsame.problems₁).2.1
  obtain ⟨reprojucer₁, hreprojucer₁, hfile⟩ := hrequired hjuce6
  obtain ⟨content, hread⟩ := FileStore.isFile_eq_true_iff.mp hfile
  obtain ⟨place, hwalk₁, hentry⟩ := FileStore.read_eq_ok_iff.mp hread
  have hreprojucer := hsame.reprojucer_eq hjuce6
  rw [hreprojucer₁, Option.map_some, hwalk₁] at hreprojucer
  obtain ⟨reprojucer₂, hreprojucer₂, hwalk₂⟩ := Option.map_eq_some_iff.mp hreprojucer.symm
  obtain ⟨directory, name, rfl, -, hparent₁⟩ := hsame.wellFormed₁.exists_of_walk_file hwalk₁ hentry
  rw [FileStore.entryAt?_eq hsame.entries_eq] at hentry
  obtain ⟨directory₂, name₂, hplace, -, hparent₂⟩ :=
    hsame.wellFormed₂.exists_of_walk_file hwalk₂ hentry
  obtain ⟨rfl, -⟩ := List.append_inj' hplace rfl
  rw [hreprojucer₁, hreprojucer₂, Option.getD_some, Option.getD_some,
    includeDirectory_eq_route hsame.wellFormed₁ houtput₁ hparent₁,
    includeDirectory_eq_route hsame.wellFormed₂ houtput₂ hparent₂]

/-- The two texts are the same, and so are the two results but for the output path. -/
theorem script_alike (hsame : SamePlaces settings₁ settings₂ store₁ store₂)
    {project₁ project₂ : Project} (hproject : SameProject store₁ store₂ project₁ project₂) :
    Alike
      (fun output₁ output₂ => output₁.1 = output₂.1
        ∧ output₁.2.outputPath = settings₁.outputPath store₁.cwd
        ∧ output₂.2 = { output₁.2 with outputPath := settings₂.outputPath store₂.cwd })
      (settings₁.script store₁ project₁) (settings₂.script store₂ project₂) := by
  have hjuce6₂ := hsame.forJuce6_eq
  rw [script, script]
  cases hjuce6 : settings₁.forJuce6 with
  | true =>
      rw [hjuce6] at hjuce6₂
      rw [← hjuce6₂, if_pos rfl, if_pos rfl]
      refine (hproject.juce6_alike).map fun text₁ text₂ htext => ?_
      exact ⟨htext, rfl, rfl⟩
  | false =>
      rw [hjuce6] at hjuce6₂
      rw [← hjuce6₂, if_neg Bool.false_ne_true, if_neg Bool.false_ne_true]
      refine (hproject.ofProject_alike hsame.entries_eq (hsame.includeDirectory_eq hjuce6)).bind
        fun script₁ script₂ hscript => ?_
      subst hscript
      refine .ok ⟨rfl, rfl, ?_⟩
      rw [hproject.skippedExporters_eq]

theorem writablePlace_eq (hsame : SamePlaces settings₁ settings₂ store₁ store₂) :
    store₁.writablePlace (settings₁.outputPath store₁.cwd)
      = store₂.writablePlace (settings₂.outputPath store₂.cwd) := by
  have hentry := FileStore.entryAt?_eq hsame.entries_eq
  have hstep : store₁.step = store₂.step := by
    funext place part
    rw [FileStore.step, FileStore.step, hentry]
  rw [FileStore.writablePlace, FileStore.writablePlace, walk_outputPath, walk_outputPath,
    hsame.output_eq, hstep]
  simp only [hentry]

theorem plan_alike (hsame : SamePlaces settings₁ settings₂ store₁ store₂) :
    Alike
      (fun plan₁ plan₂ => plan₁.place = plan₂.place ∧ plan₁.text = plan₂.text
        ∧ plan₂.result = { plan₁.result with outputPath := plan₂.result.outputPath })
      (settings₁.plan store₁) (settings₂.plan store₂) := by
  rw [plan, plan, hsame.problems₁, hsame.problems₂]
  refine hsame.load_alike.bind fun project₁ project₂ hproject => ?_
  refine (hsame.script_alike hproject).bind fun output₁ output₂ houtput => ?_
  obtain ⟨text, result⟩ := output₁
  obtain ⟨text₂, result₂⟩ := output₂
  obtain ⟨rfl, hpath, rfl⟩ := houtput
  dsimp only at hpath ⊢
  rw [hpath, hsame.writablePlace_eq]
  cases store₂.writablePlace (settings₂.outputPath store₂.cwd) with
  | error reason =>
      refine .error ?_
      rw [Failure.kind, Failure.kind]
  | ok place => exact .ok ⟨rfl, rfl, rfl⟩

end SamePlaces

/-- How two runs end alike: both have put the same content into the same file and return the same
but for the wording of the output path, or both have failed for reasons of one kind. -/
def EndAlike (store₁ store₂ : FileStore) :
    EStateM.Result Failure FileStore ConversionResult →
      EStateM.Result Failure FileStore ConversionResult → Prop
  | .ok result₁ after₁, .ok result₂ after₂ =>
    result₂ = { result₁ with outputPath := result₂.outputPath }
      ∧ ∃ place content, store₁.walk result₁.outputPath = .ok place
        ∧ store₂.walk result₂.outputPath = .ok place
        ∧ after₁ = store₁.insert place (.file content)
        ∧ after₂ = store₂.insert place (.file content)
  | .error failure₁ _, .error failure₂ _ => failure₁.kind = failure₂.kind
  | _, _ => False

/-- **The spelling of paths does not matter.** Two valid runs on the same files whose paths lead to
the same places end alike. -/
theorem perform_alike_of_samePlaces {settings₁ settings₂ : ConversionSettings}
    {store₁ store₂ : FileStore} (hsame : SamePlaces settings₁ settings₂ store₁ store₂) :
    EndAlike store₁ store₂ (settings₁.perform.run store₁) (settings₂.perform.run store₂) := by
  have hplan := hsame.plan_alike
  generalize hplan₁ : settings₁.plan store₁ = outcome₁ at hplan
  generalize hplan₂ : settings₂.plan store₂ = outcome₂ at hplan
  rw [run_perform, run_perform, hplan₁, hplan₂]
  cases hplan with
  | error hkind => exact hkind
  | ok hvalue =>
      rename_i plan₁ plan₂
      obtain ⟨hplace, htext, hresult⟩ := hvalue
      refine ⟨hresult, plan₁.place, plan₁.text.toUTF8, ?_, ?_, rfl, ?_⟩
      · exact walk_of_plan hplan₁
      · exact hplace ▸ walk_of_plan hplan₂
      · rw [hplace, htext]

/-- A project without parts, with a Reprojucer file and an empty directory next to it. -/
def sampleStore (cwd : Place) : FileStore where
  entries := [
    (["work"], .directory),
    (["work", "build"], .directory),
    (["work", "App.jucer"], .file "<JUCERPROJECT name=\"App\"/>".toUTF8),
    (["work", "Reprojucer.cmake"], .file .empty)]
  cwd

/-- Relative paths with a detour, seen from the project's directory. -/
def detourSettings : ConversionSettings where
  project := .ofString "build/../App.jucer"
  reprojucer? := some (.ofString "./Reprojucer.cmake")
  outputDirectory? := none
  forJuce6 := false

/-- Absolute paths, one of them with two leading slashes, and a detour to the output directory. -/
def absoluteSettings : ConversionSettings where
  project := .ofString "//work/App.jucer"
  reprojucer? := some (.ofString "/work/Reprojucer.cmake")
  outputDirectory? := some (.ofString "/work//build/..")
  forJuce6 := false

theorem samePlaces_detour_absolute :
    SamePlaces detourSettings absoluteSettings (sampleStore ["work"]) (sampleStore []) where
  entries_eq := rfl
  wellFormed₁ := by
    refine FileStore.wellFormed_of_entries ?_ rfl (by decide)
    simp [sampleStore, FileStore.entryAt?]
  wellFormed₂ := by
    refine FileStore.wellFormed_of_entries ?_ rfl (by decide)
    simp [sampleStore, FileStore.entryAt?]
  project_wellFormed₁ := Path.wellFormed_ofString _
  project_wellFormed₂ := Path.wellFormed_ofString _
  forJuce6_eq := rfl
  problems₁ := by decide +kernel
  problems₂ := by decide +kernel
  project_eq := by decide +kernel
  reprojucer_eq := fun _ => by decide +kernel
  output_eq := by decide +kernel

theorem perform_alike_detour_absolute :
    SamePlaces detourSettings absoluteSettings (sampleStore ["work"]) (sampleStore [])
      ∧ EndAlike (sampleStore ["work"]) (sampleStore [])
        (detourSettings.perform.run (sampleStore ["work"]))
        (absoluteSettings.perform.run (sampleStore [])) :=
  ⟨samePlaces_detour_absolute, perform_alike_of_samePlaces samePlaces_detour_absolute⟩

end JuceBuild.ConversionSettings
