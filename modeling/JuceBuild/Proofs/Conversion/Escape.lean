import JuceBuild.Proofs.Conversion.Plan
import JuceBuild.Proofs.Module.Reference
import JuceBuild.Proofs.Project.Numbers
import JuceBuild.Proofs.Script.Parts
import JuceBuild.Proofs.Xml.Document

/-!
# Failures that values cause

A conversion is expected to fail for its settings, its document, a module header or its output. A
failure that a value causes is of none of these kinds. It has two sources: a document that declares
an encoding which is known and refused, and an overlong numeral in an attribute that is read as a
number. The second takes a document that could be read, and then everything the conversion asks for
before it comes to the numeral.
-/

namespace JuceBuild

open Xml (DeclaresRefused)
open Xml.Node (HasOversized IsFileOf)

/-- The outcome is a failure that a value causes. -/
def Escapes {α : Type} (outcome : Except Failure α) : Prop :=
  ∃ failure, outcome = .error failure ∧ failure.kind = .value

variable {α β ε : Type} {store : FileStore} {settings : ConversionSettings}

/-! ### Steps -/

theorem not_escapes_ok (value : α) : ¬Escapes (.ok value) := by
  rintro ⟨failure, hfailure, -⟩
  cases hfailure

theorem escapes_error_iff {failure : Failure} :
    Escapes (.error failure : Except Failure α) ↔ failure.kind = .value := by
  simp [Escapes]

theorem escapes_bind_iff {outcome : Except Failure α} {next : α → Except Failure β} :
    Escapes (outcome >>= next)
      ↔ Escapes outcome ∨ ∃ value, outcome = .ok value ∧ Escapes (next value) := by
  cases outcome with
  | error failure => simp [Escapes, bind_eq_error_iff]
  | ok value => simp [Escapes, ok_bind]

theorem escapes_map_iff {outcome : Except Failure α} {f : α → β} :
    Escapes (outcome.map f) ↔ Escapes outcome := by
  simp only [Escapes, map_eq_error_iff]

theorem escapes_mapError_iff {outcome : Except ε α} {f : ε → Failure}
    (hkind : ∀ reason, (f reason).kind = .value) :
    Escapes (outcome.mapError f) ↔ ∃ reason, outcome = .error reason := by
  cases outcome with
  | error reason => simp [Except.mapError, escapes_error_iff, hkind]
  | ok value => simp [Except.mapError, not_escapes_ok]

theorem not_escapes_mapError {outcome : Except ε α} {f : ε → Failure}
    (hkind : ∀ reason, (f reason).kind ≠ .value) : ¬Escapes (outcome.mapError f) := by
  cases outcome with
  | error reason => exact fun hescapes => hkind reason (escapes_error_iff.mp hescapes)
  | ok value => exact not_escapes_ok value

/-! ### Parts of a conversion -/

theorem Project.escapes_readDocument_iff {path : Path} :
    Escapes (readDocument store path)
      ↔ ∃ content, store.read path = .ok content ∧ DeclaresRefused content.data.toList := by
  simp only [← Xml.exists_ofOctets_eq_error_iff, readDocument]
  cases store.read path with
  | error reason => simp [escapes_error_iff, Failure.kind]
  | ok content =>
      simp only [Except.ok.injEq, exists_eq_left']
      cases Xml.Node.ofOctets content.data.toList with
      | error encoding => simp [escapes_error_iff, Failure.kind]
      | ok root? => simp [not_escapes_ok]

theorem Project.escapes_load_iff {location : String} :
    Escapes (load store location)
      ↔ ∃ content, store.read (Path.ofString location) = .ok content
        ∧ DeclaresRefused content.data.toList := by
  rw [← escapes_readDocument_iff, load]
  cases readDocument store (Path.ofString location) with
  | error failure => rw [escapes_error_iff, escapes_error_iff]
  | ok root? =>
      cases root? with
      | none => simp [not_escapes_ok, escapes_error_iff, Failure.kind]
      | some root =>
          dsimp only
          split <;> simp [not_escapes_ok, escapes_error_iff, Failure.kind]

theorem ModuleReference.not_escapes_resolveAll {ids : List String} {paths : List (String × String)}
    {directory : Path} : ¬Escapes (resolveAll store ids paths directory) := by
  rintro ⟨failure, hfailure, hkind⟩
  rw [kind_of_resolveAll_eq_error hfailure] at hkind
  cases hkind

theorem Juce6Script.not_escapes_ofProject {project : Project} : ¬Escapes (ofProject project) := by
  rw [ofProject]
  split
  · simp [escapes_error_iff, Failure.kind]
  · exact not_escapes_ok _

/-- A file with an overlong numeral in a flag, somewhere in the tree of the main group. -/
def Project.HasOversizedFile (project : Project) : Prop :=
  ∃ group, project.root.child? "MAINGROUP" = some group
    ∧ ∃ file, IsFileOf file group ∧ HasOversized FileEntry.flags file

/-- An audio plug-in with an overlong numeral in a switch. -/
def Project.HasOversizedPlugin (project : Project) : Prop :=
  project.kind? = some .audioPlugin ∧ HasOversized ReprojucerScript.pluginSwitches project.root

theorem ReprojucerScript.escapes_ofProject_iff {project : Project} {reprojucer : Path}
    {outputDirectory? : Option Path} :
    Escapes (ofProject store project reprojucer outputDirectory?)
      ↔ project.HasOversizedFile
        ∨ (∃ modules, ModuleReference.resolveAll store project.moduleIds project.modulePaths
            project.directory = .ok modules) ∧ project.HasOversizedPlugin := by
  rw [Project.HasOversizedFile, ← Project.exists_mainGroup?_eq_error_iff,
    Project.HasOversizedPlugin, ← exists_pluginCalls_eq_error_iff, ofProject_eq]
  have hkind : ∀ numeral, (Failure.oversizedNumeral numeral).kind = .value := fun _ => rfl
  rw [escapes_bind_iff, escapes_mapError_iff hkind]
  simp only [mapError_eq_ok_iff]
  -- The tree is read first: once it cannot be, neither the modules nor the plug-in matter.
  cases project.mainGroup? with
  | error numeral => simp
  | ok mainGroup? =>
      simp only [reduceCtorEq, exists_false, false_or, Except.ok.injEq, exists_eq_left']
      rw [escapes_bind_iff, or_iff_right ModuleReference.not_escapes_resolveAll,
        ← exists_and_right]
      refine exists_congr fun modules => and_congr_right fun _ => ?_
      rw [escapes_bind_iff, escapes_mapError_iff hkind, or_iff_left]
      rintro ⟨calls, -, hescapes⟩
      exact not_escapes_ok _ hescapes

namespace ConversionSettings

theorem escapes_script_iff {project : Project} :
    Escapes (settings.script store project)
      ↔ settings.forJuce6 = false
        ∧ (project.HasOversizedFile
          ∨ (∃ modules, ModuleReference.resolveAll store project.moduleIds project.modulePaths
              project.directory = .ok modules) ∧ project.HasOversizedPlugin) := by
  rw [script]
  cases settings.forJuce6 with
  | true =>
      rw [if_pos rfl, escapes_map_iff]
      simp [Juce6Script.not_escapes_ofProject]
  | false =>
      rw [if_neg Bool.false_ne_true, escapes_bind_iff, ReprojucerScript.escapes_ofProject_iff]
      simp only [true_and]
      refine or_iff_left ?_
      rintro ⟨made, -, hescapes⟩
      exact not_escapes_ok _ hescapes

/-- What makes a conversion without a problem in its settings fail for a value. -/
inductive Stumbles (settings : ConversionSettings) (store : FileStore) : Prop where
  | encoding {content : ByteArray}
    (hread : store.read (Path.ofString settings.project.toString) = .ok content)
    (hencoding : DeclaresRefused content.data.toList)
  | file {project : Project} (hjuce6 : settings.forJuce6 = false)
    (hload : Project.load store settings.project.toString = .ok project)
    (hfile : project.HasOversizedFile)
  | plugin {project : Project} {modules : List ModuleReference}
    (hjuce6 : settings.forJuce6 = false)
    (hload : Project.load store settings.project.toString = .ok project)
    (hmodules : ModuleReference.resolveAll store project.moduleIds project.modulePaths
      project.directory = .ok modules)
    (hplugin : project.HasOversizedPlugin)

theorem stumbles_iff :
    Stumbles settings store
      ↔ Escapes (Project.load store settings.project.toString)
        ∨ ∃ project, Project.load store settings.project.toString = .ok project
          ∧ Escapes (settings.script store project) := by
  rw [Project.escapes_load_iff]
  simp only [escapes_script_iff]
  constructor
  · intro hstumbles
    cases hstumbles with
    | encoding hread hencoding => exact .inl ⟨_, hread, hencoding⟩
    | file hjuce6 hload hfile => exact .inr ⟨_, hload, hjuce6, .inl hfile⟩
    | plugin hjuce6 hload hmodules hplugin =>
        exact .inr ⟨_, hload, hjuce6, .inr ⟨⟨_, hmodules⟩, hplugin⟩⟩
  · rintro (⟨content, hread, hencoding⟩
      | ⟨project, hload, hjuce6, hfile | ⟨⟨modules, hmodules⟩, hplugin⟩⟩)
    · exact .encoding hread hencoding
    · exact .file hjuce6 hload hfile
    · exact .plugin hjuce6 hload hmodules hplugin

theorem escapes_plan_iff :
    Escapes (settings.plan store) ↔ settings.problems store = [] ∧ settings.Stumbles store := by
  rw [plan]
  cases hproblems : settings.problems store with
  | cons problem problems => simp [escapes_error_iff, Failure.kind]
  | nil =>
      simp only [true_and, stumbles_iff]
      rw [escapes_bind_iff]
      refine or_congr_right (exists_congr fun project => and_congr_right fun _ => ?_)
      rw [escapes_bind_iff, or_iff_left]
      rintro ⟨⟨text, result⟩, -, hescapes⟩
      have hwritten : ∀ path reason, (Failure.unwritableScript path reason).kind ≠ .value := by
        intro path reason hkind
        cases hkind
      rw [escapes_bind_iff, or_iff_right (not_escapes_mapError (hwritten _))] at hescapes
      obtain ⟨place, -, hescapes⟩ := hescapes
      exact not_escapes_ok _ hescapes

theorem convert_eq :
    convert store settings
      = (settings.plan store).map fun plan =>
          (plan.result, store.insert plan.place (.file plan.text.toUTF8)) := by
  rw [convert, run_perform]
  cases settings.plan store <;> rfl

theorem escapes_convert_iff :
    Escapes (convert store settings)
      ↔ settings.problems store = [] ∧ settings.Stumbles store := by
  rw [convert_eq, escapes_map_iff, escapes_plan_iff]

end ConversionSettings

/-! ### A project in an encoding -/

/-- The document of a project without parts, with the name of its encoding. -/
def encodedDocument (encoding : String) : ByteArray :=
  s!"<?xml version=\"1.0\" encoding=\"{encoding}\"?><JUCERPROJECT/>".toUTF8

def encodedStore (encoding : String) : FileStore where
  entries := [(["work"], .directory), (["work", "App.jucer"], .file (encodedDocument encoding))]
  cwd := ["work"]

def encodedSettings : ConversionSettings := ⟨.ofString "App.jucer", none, none, true⟩

theorem problems_encodedStore (encoding : String) :
    encodedSettings.problems (encodedStore encoding) = [] := by
  have hproject : encodedSettings.project = ⟨.relative, ["App.jucer"]⟩ := by decide +kernel
  rw [ConversionSettings.problems, hproject]
  rfl

theorem escapes_convert_encodedStore {encoding : String}
    (hrefused : DeclaresRefused (encodedDocument encoding).data.toList) :
    Escapes (convert (encodedStore encoding) encodedSettings) := by
  have hpath : Path.ofString encodedSettings.project.toString = ⟨.relative, ["App.jucer"]⟩ := by
    decide +kernel
  have hread : (encodedStore encoding).read (Path.ofString encodedSettings.project.toString)
      = .ok (encodedDocument encoding) := by
    rw [hpath]
    rfl
  exact ConversionSettings.escapes_convert_iff.mpr
    ⟨problems_encodedStore encoding, .encoding hread hrefused⟩

end JuceBuild
