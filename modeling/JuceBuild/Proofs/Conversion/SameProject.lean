import JuceBuild.Proofs.Exporter.Calls
import JuceBuild.Proofs.FileStore.Base
import JuceBuild.Proofs.Path.Text
import JuceBuild.Script.Juce6
import JuceBuild.Script.Reprojucer

/-!
# One project read by different paths

The path that a project was read by is used in three ways: module headers are read by walking from
the project's directory, header search paths are found lexically from it, and the script names the
project's file. Walks and lexical paths from a directory depend on the place that the directory is
led to, and the name of a file is the last component of every path that leads to it. So projects
that were read from one file by different paths have the same script.
-/

namespace JuceBuild

variable {store₁ store₂ : FileStore}

/-- Two projects with the same document, the same file name and the same directory. -/
structure SameProject (store₁ store₂ : FileStore) (project₁ project₂ : Project) : Prop where
  root_eq : project₁.root = project₂.root
  fileName_eq : project₁.fileName = project₂.fileName
  directory : ∃ place, store₁.Leads project₁.directory place ∧ store₂.Leads project₂.directory place

variable {project₁ project₂ : Project}

theorem FileStore.inDirectory_eq (hentries : store₁.entries = store₂.entries) (place : Place) :
    store₁.inDirectory place = store₂.inDirectory place := by
  rw [inDirectory, inDirectory, hentries]

theorem FileStore.entryAt?_eq (hentries : store₁.entries = store₂.entries) (place : Place) :
    store₁.entryAt? place = store₂.entryAt? place := by
  rw [entryAt?, entryAt?, hentries]

/-- Modules are found by walking from the project's directory. -/
theorem SameProject.resolve_alike (hentries : store₁.entries = store₂.entries)
    (hproject : SameProject store₁ store₂ project₁ project₂) (paths : List (String × String))
    (id : String) :
    Alike Eq (ModuleReference.resolve store₁ paths project₁.directory id)
      (ModuleReference.resolve store₂ paths project₂.directory id) := by
  obtain ⟨place, hleads₁, hleads₂⟩ := hproject.directory
  rw [ModuleReference.resolve, ModuleReference.resolve]
  cases paths.lookup id with
  | none => exact .same _
  | some path =>
      have hscan : Alike Eq
          (ModuleReference.scanHeader store₁
            (ModuleReference.headerPath id path project₁.directory))
          (ModuleReference.scanHeader store₂
            (ModuleReference.headerPath id path project₂.directory)) := by
        rw [ModuleReference.scanHeader, ModuleReference.scanHeader, ModuleReference.headerPath,
          ModuleReference.headerPath, Path.join_assoc, Path.join_assoc, Path.join_assoc,
          Path.join_assoc, hleads₁.read_join, hleads₂.read_join, FileStore.inDirectory_eq hentries]
        split
        · refine .error ?_
          rw [Failure.kind, Failure.kind]
        · exact .ok rfl
      refine hscan.map fun options options' hoptions => ?_
      rw [hoptions]

/-- Search paths are found lexically from the project's directory. -/
theorem SameProject.fromDirectory_eq (hproject : SameProject store₁ store₂ project₁ project₂)
    (headerPath targetFolder : String) :
    SearchPath.fromDirectory store₁.cwd headerPath project₁.directory targetFolder
      = SearchPath.fromDirectory store₂.cwd headerPath project₂.directory targetFolder := by
  obtain ⟨place, hleads₁, hleads₂⟩ := hproject.directory
  rw [SearchPath.fromDirectory, SearchPath.fromDirectory,
    FileStore.collapse_eq_of_walk hleads₁.walk_eq, FileStore.collapse_eq_of_walk hleads₂.walk_eq]
  refine List.map_congr_left fun entry _ => ?_
  rw [SearchPath.place, SearchPath.place, Path.join_assoc, Path.join_assoc, hleads₁.collapse_join,
    hleads₂.collapse_join]

theorem SameProject.exporterCalls_eq (hproject : SameProject store₁ store₂ project₁ project₂) :
    project₁.exporterCalls store₁.cwd = project₂.exporterCalls store₂.cwd := by
  have hhosts : ExportTarget.hostsVst3 project₁ = ExportTarget.hostsVst3 project₂ := by
    obtain ⟨file₁, root⟩ := project₁
    obtain ⟨file₂, root₂⟩ := project₂
    obtain rfl : root = root₂ := hproject.root_eq
    rfl
  have hpresent : project₁.presentExporters = project₂.presentExporters := by
    rw [Project.presentExporters, Project.presentExporters]
    simp only [Project.exporter?, Project.exporters, hproject.root_eq]
  exact Project.exporterCalls_congr hpresent
    (ExportTarget.calls_congr hhosts hproject.fromDirectory_eq)

/-! ### Reading the project -/

variable {path₁ path₂ : Path} {place : Place} {content : ByteArray}

theorem Project.load_alike (hentries : store₁.entries = store₂.entries)
    (hstore₁ : store₁.WellFormed) (hstore₂ : store₂.WellFormed)
    (hpath₁ : path₁.WellFormed) (hpath₂ : path₂.WellFormed)
    (hwalk₁ : store₁.walk path₁ = .ok place) (hwalk₂ : store₂.walk path₂ = .ok place)
    (hentry : store₁.entryAt? place = some (.file content)) :
    Alike (SameProject store₁ store₂) (Project.load store₁ path₁.toString)
      (Project.load store₂ path₂.toString) := by
  have hentry₂ := hentry
  rw [FileStore.entryAt?_eq hentries] at hentry₂
  rw [Project.load, Project.load, Path.ofString_toString hpath₁, Path.ofString_toString hpath₂,
    Project.readDocument, Project.readDocument,
    FileStore.read_eq_ok_iff.mpr ⟨place, hwalk₁, hentry⟩,
    FileStore.read_eq_ok_iff.mpr ⟨place, hwalk₂, hentry₂⟩]
  dsimp only
  cases Xml.Node.ofOctets content.data.toList with
  | error encoding => exact .error rfl
  | ok root? =>
      cases root? with
      | none => exact .error rfl
      | some root =>
          dsimp only
          by_cases htag : root.tag = Project.rootTag
          · rw [if_pos htag, if_pos htag]
            obtain ⟨directory, name, rfl, hname₁, hleads₁⟩ :=
              hstore₁.leads_parent_absolute hwalk₁ hentry
            obtain ⟨directory₂, name₂, hplace, hname₂, hleads₂⟩ :=
              hstore₂.leads_parent_absolute hwalk₂ hentry₂
            obtain ⟨rfl, hname⟩ := List.append_inj' hplace rfl
            cases hname
            exact .ok ⟨rfl, hname₁.trans hname₂.symm, directory, hleads₁, hleads₂⟩
          · rw [if_neg htag, if_neg htag]
            exact .error rfl

/-! ### The script -/

theorem SameProject.juce6_alike (hproject : SameProject store₁ store₂ project₁ project₂) :
    Alike Eq (Juce6Script.ofProject project₁) (Juce6Script.ofProject project₂) := by
  obtain ⟨file₁, root⟩ := project₁
  obtain ⟨file₂, root₂⟩ := project₂
  obtain rfl : root = root₂ := hproject.root_eq
  exact .same _

theorem SameProject.skippedExporters_eq (hproject : SameProject store₁ store₂ project₁ project₂) :
    project₁.skippedExporters = project₂.skippedExporters := by
  rw [Project.skippedExporters, Project.skippedExporters, Project.exporters, Project.exporters,
    hproject.root_eq]

theorem SameProject.ofProject_alike (hentries : store₁.entries = store₂.entries)
    (hproject : SameProject store₁ store₂ project₁ project₂) {reprojucer₁ reprojucer₂ : Path}
    {outputDirectory₁? outputDirectory₂? : Option Path}
    (hdirectory : ReprojucerScript.includeDirectory store₁.cwd reprojucer₁ outputDirectory₁?
      = ReprojucerScript.includeDirectory store₂.cwd reprojucer₂ outputDirectory₂?) :
    Alike Eq (ReprojucerScript.ofProject store₁ project₁ reprojucer₁ outputDirectory₁?)
      (ReprojucerScript.ofProject store₂ project₂ reprojucer₂ outputDirectory₂?) := by
  have hmodules (ids : List String) (paths : List (String × String)) :
      Alike Eq (ModuleReference.resolveAll store₁ ids paths project₁.directory)
        (ModuleReference.resolveAll store₂ ids paths project₂.directory) :=
    .mapM (hproject.resolve_alike hentries paths)
  have hexporters := hproject.exporterCalls_eq
  have hname := hproject.fileName_eq
  obtain ⟨file₁, root⟩ := project₁
  obtain ⟨file₂, root₂⟩ := project₂
  obtain rfl : root = root₂ := hproject.root_eq
  rw [ReprojucerScript.ofProject, ReprojucerScript.ofProject]
  refine (Alike.same _).bind fun mainGroup? mainGroup₂? hmainGroup => ?_
  refine (hmodules _ _).bind fun modules modules₂ hmodules => ?_
  refine (Alike.same _).bind fun pluginCalls pluginCalls₂ hpluginCalls => ?_
  refine .ok ?_
  subst hmainGroup hmodules hpluginCalls
  rw [hexporters, hdirectory]
  -- The project's own path comes in by its last component only.
  simp only [ReprojucerScript.preamble, ReprojucerScript.beginCall, ReprojucerScript.fileVariable,
    hname]
  rfl

end JuceBuild
