import JuceBuild.Proofs.Conversion.Escape
import JuceBuild.Proofs.Conversion.Places
import JuceBuild.Proofs.Path.Text
import JuceBuild.Proofs.Xml.ReadBack

/-!
# What stops a conversion

A conversion goes through its settings, the project's document, what the script asks of the project,
and the output, in this order. Each of them can be in its way, and the first that is decides the
failure. Nothing else stops it: a project's file that is there can be read, the tree of files and
the settings of a plug-in can be read once their numerals have a bearable length, and an output
directory that is there takes a file unless a directory has the file's name.
-/

namespace JuceBuild

/-! ### Kinds of projects -/

theorem ProjectKind.addCommand?_eq_none_iff {name : String} :
    (ofName? name).bind addCommand? = none ↔ name ∉ supportedNames := by
  unfold ofName?
  split <;> simp_all [addCommand?, supportedNames]

theorem Juce6Script.ofProject_eq_error {project : Project}
    (hkind : project.kindName ∉ ProjectKind.supportedNames) :
    ofProject project = .error (.unsupportedKind project.kindName) := by
  rw [ofProject, Project.kind?, ProjectKind.addCommand?_eq_none_iff.mpr hkind]

theorem Juce6Script.exists_ofProject {project : Project}
    (hkind : project.kindName ∈ ProjectKind.supportedNames) :
    ∃ text, ofProject project = .ok text := by
  have hcommand : project.kind?.bind ProjectKind.addCommand? ≠ none := by
    intro hnone
    exact ProjectKind.addCommand?_eq_none_iff.mp hnone hkind
  obtain ⟨addCommand, hsome⟩ := Option.ne_none_iff_exists'.mp hcommand
  rw [ofProject, hsome]
  exact ⟨_, rfl⟩

/-! ### Documents -/

/-- Octets that are no document, or the document of something else. -/
def Project.Missing (octets : List UInt8) : Prop :=
  Xml.Node.ofOctets octets = .ok none
    ∨ ∃ root, Xml.Node.ofOctets octets = .ok (some root) ∧ root.tag ≠ Project.rootTag

variable {store : FileStore} {settings : ConversionSettings} {project : Project}
  {content : ByteArray}

theorem Project.load_eq_error {path : Path} (hpath : path.WellFormed)
    (hread : store.read path = .ok content) (hmissing : Missing content.data.toList) :
    load store path.toString = .error (.notAProject path.toString) := by
  rw [load, Path.ofString_toString hpath, readDocument, hread]
  obtain hnone | ⟨root, hroot, htag⟩ := hmissing
  · simp only [hnone]
  · simp only [hroot, if_neg htag]

theorem Project.load_eq_ok {path : Path} (hpath : path.WellFormed)
    (hread : store.read path = .ok content) {root : Xml.Node}
    (hroot : Xml.Node.ofOctets content.data.toList = .ok (some root))
    (htag : root.tag = rootTag) :
    load store path.toString = .ok ⟨path.absolute store.cwd, root⟩ := by
  rw [load, Path.ofString_toString hpath, readDocument, hread]
  simp only [hroot, if_pos htag]

namespace ConversionSettings

/-- The project's file holds a project. -/
def Holds (settings : ConversionSettings) (store : FileStore) (project : Project) : Prop :=
  ∃ content root, store.read settings.project = .ok content
    ∧ Xml.Node.ofOctets content.data.toList = .ok (some root)
    ∧ root.tag = Project.rootTag
    ∧ ⟨settings.project.absolute store.cwd, root⟩ = project

/-- A project has what its script asks for: a kind that JUCE 6 has a command for, or modules that
can all be found. -/
inductive Scriptable (settings : ConversionSettings) (store : FileStore) (project : Project) :
    Prop where
  | juce6 (hjuce6 : settings.forJuce6 = true)
    (hkind : project.kindName ∈ ProjectKind.supportedNames)
  | reprojucer {modules : List ModuleReference} (hjuce6 : settings.forJuce6 = false)
    (hmodules : ModuleReference.resolveAll store project.moduleIds project.modulePaths
      project.directory = .ok modules)

/-- What stands in the way of a conversion, with the failure that it is reported as and what that is
about. Each case takes the ones above it to be out of the way. -/
inductive Obstacle (settings : ConversionSettings) (store : FileStore) :
    Failure.Kind → Failure → Prop where
  | problems (hproblems : settings.problems store ≠ []) :
    Obstacle settings store .settings (.invalidSettings (settings.problems store))
  | document {content : ByteArray} (hproblems : settings.problems store = [])
    (hread : store.read settings.project = .ok content)
    (hmissing : Project.Missing content.data.toList) :
    Obstacle settings store .document (.notAProject settings.project.toString)
  | kind {project : Project} (hproblems : settings.problems store = [])
    (hproject : settings.Holds store project) (hjuce6 : settings.forJuce6 = true)
    (hkind : project.kindName ∉ ProjectKind.supportedNames) :
    Obstacle settings store .settings (.unsupportedKind project.kindName)
  | modules {project : Project} {failure : Failure} (hproblems : settings.problems store = [])
    (hproject : settings.Holds store project) (hjuce6 : settings.forJuce6 = false)
    (hmodules : ModuleReference.resolveAll store project.moduleIds project.modulePaths
      project.directory = .error failure) :
    Obstacle settings store .moduleHeader failure
  | output {project : Project} (hproblems : settings.problems store = [])
    (hproject : settings.Holds store project) (hscript : settings.Scriptable store project)
    (hdirectory : store.isDirectory (settings.outputPath store.cwd) = true) :
    Obstacle settings store .output
      (.unwritableScript (settings.outputPath store.cwd) .isDirectory)

theorem Obstacle.kind_eq {kind : Failure.Kind} {failure : Failure}
    (hobstacle : Obstacle settings store kind failure) : failure.kind = kind := by
  cases hobstacle with
  | modules _ _ _ hmodules => exact ModuleReference.kind_of_resolveAll_eq_error hmodules
  | problems | document | kind | output => rfl

theorem load_of_holds (hpath : settings.project.WellFormed)
    (hproject : settings.Holds store project) :
    Project.load store settings.project.toString = .ok project := by
  obtain ⟨content, root, hread, hroot, htag, rfl⟩ := hproject
  exact Project.load_eq_ok hpath hread hroot htag

/-- A file that is there and declares no refused encoding either holds a project or does not. -/
theorem missing_or_holds (hproblems : settings.problems store = [])
    (hpath : settings.project.WellFormed) (hvalues : ¬settings.Stumbles store) :
    (∃ content, store.read settings.project = .ok content
        ∧ Project.Missing content.data.toList)
      ∨ ∃ project, settings.Holds store project := by
  have hfile := (problems_eq_nil_iff.mp hproblems).1
  obtain ⟨content, hread⟩ := FileStore.isFile_eq_true_iff.mp hfile
  cases hdocument : Xml.Node.ofOctets content.data.toList with
  | error encoding =>
      have hencoding := Xml.exists_ofOctets_eq_error_iff.mp ⟨encoding, hdocument⟩
      rw [← Path.ofString_toString hpath] at hread
      exact absurd (.encoding hread hencoding) hvalues
  | ok root? =>
      cases root? with
      | none => exact .inl ⟨content, hread, .inl hdocument⟩
      | some root =>
          by_cases htag : root.tag = Project.rootTag
          · exact .inr ⟨_, content, root, hread, hdocument, htag, rfl⟩
          · exact .inl ⟨content, hread, .inr ⟨root, hdocument, htag⟩⟩

/-! ### Scripts -/

/-- The tree of files can be read unless a numeral in it is overlong. -/
theorem exists_mainGroup? (hpath : settings.project.WellFormed)
    (hproject : settings.Holds store project) (hjuce6 : settings.forJuce6 = false)
    (hvalues : ¬settings.Stumbles store) : ∃ mainGroup?, project.mainGroup? = .ok mainGroup? := by
  cases hmainGroup : project.mainGroup? with
  | ok mainGroup? => exact ⟨mainGroup?, rfl⟩
  | error numeral =>
      exfalso
      refine hvalues (.file hjuce6 (load_of_holds hpath hproject) ?_)
      exact Project.exists_mainGroup?_eq_error_iff.mp ⟨numeral, hmainGroup⟩

theorem script_of_modules_eq_error (hpath : settings.project.WellFormed)
    (hvalues : ¬settings.Stumbles store) (hproject : settings.Holds store project)
    (hjuce6 : settings.forJuce6 = false) {failure : Failure}
    (hmodules : ModuleReference.resolveAll store project.moduleIds project.modulePaths
      project.directory = .error failure) :
    settings.script store project = .error failure := by
  obtain ⟨mainGroup?, hmainGroup⟩ := exists_mainGroup? hpath hproject hjuce6 hvalues
  have hmade (reprojucer : Path) : ReprojucerScript.ofProject store project reprojucer
      settings.outputDirectory? = .error failure := by
    rw [ReprojucerScript.ofProject_eq, hmainGroup, hmodules]
    rfl
  rw [script, hjuce6, if_neg Bool.false_ne_true]
  simp only [hmade]
  rfl

theorem exists_script (hpath : settings.project.WellFormed) (hvalues : ¬settings.Stumbles store)
    (hproject : settings.Holds store project) (hscript : settings.Scriptable store project) :
    ∃ output, settings.script store project = .ok output := by
  rw [script]
  cases hscript with
  | juce6 hjuce6 hkind =>
      obtain ⟨text, htext⟩ := Juce6Script.exists_ofProject hkind
      rw [if_pos hjuce6, htext]
      exact ⟨_, rfl⟩
  | reprojucer hjuce6 hmodules =>
      obtain ⟨mainGroup?, hmainGroup⟩ := exists_mainGroup? hpath hproject hjuce6 hvalues
      obtain ⟨calls, hcalls⟩ : ∃ calls, ReprojucerScript.pluginCalls project = .ok calls := by
        cases hcalls : ReprojucerScript.pluginCalls project with
        | ok calls => exact ⟨calls, rfl⟩
        | error numeral =>
            exfalso
            refine hvalues (.plugin hjuce6 (load_of_holds hpath hproject) hmodules ?_)
            exact ReprojucerScript.exists_pluginCalls_eq_error_iff.mp ⟨numeral, hcalls⟩
      obtain ⟨made, hmade⟩ : ∃ made, ReprojucerScript.ofProject store project
          (settings.reprojucer?.getD ⟨.relative, []⟩) settings.outputDirectory? = .ok made :=
        ⟨_, ReprojucerScript.ofProject_eq_ok_iff.mpr
          ⟨mainGroup?, _, calls, hmainGroup, hmodules, hcalls, rfl⟩⟩
      rw [hjuce6, if_neg Bool.false_ne_true]
      simp only [hmade]
      exact ⟨_, rfl⟩

/-! ### The output -/

/-- In an output directory that is there, only a directory of the script's name is in the way. -/
theorem writablePlace_outputPath (hstore : store.WellFormed)
    (hproblems : settings.problems store = []) :
    if store.isDirectory (settings.outputPath store.cwd) then
      store.writablePlace (settings.outputPath store.cwd) = .error .isDirectory
    else ∃ place, store.writablePlace (settings.outputPath store.cwd) = .ok place := by
  obtain ⟨output, houtput, hdirectory⟩ := exists_output hstore hproblems
  have hwalk : store.walk (settings.outputPath store.cwd) = .ok (output.step scriptName) := by
    rw [walk_outputPath, houtput, ok_bind]
    exact FileStore.step_eq_ok_iff.mpr ⟨hdirectory, rfl⟩
  split
  · rename_i hblocked
    obtain ⟨place, hplace, hentry⟩ := FileStore.isDirectory_eq_true_iff.mp hblocked
    rw [FileStore.writablePlace, hplace]
    simp only [hentry]
  · rename_i hfree
    refine ⟨_, FileStore.writablePlace_eq_ok_iff.mpr ⟨hwalk, fun hentry => hfree ?_⟩⟩
    exact FileStore.isDirectory_eq_true_iff.mpr ⟨_, hwalk, hentry⟩

/-! ### Stages -/

theorem plan_eq_of_load {outcome : Except Failure Project}
    (hproblems : settings.problems store = [])
    (hload : Project.load store settings.project.toString = outcome) :
    settings.plan store = outcome >>= fun project =>
      settings.script store project >>= fun output =>
        (store.writablePlace output.2.outputPath).mapError (.unwritableScript output.2.outputPath)
          >>= fun place => .ok ⟨output.2, place, output.1⟩ := by
  rw [plan, hproblems, ← hload]
  rfl

/-- An obstacle is what the conversion fails for. -/
theorem convert_of_obstacle (hstore : store.WellFormed) (hpath : settings.project.WellFormed)
    (hvalues : ¬settings.Stumbles store) {kind : Failure.Kind} {failure : Failure}
    (hobstacle : settings.Obstacle store kind failure) :
    convert store settings = .error failure := by
  rw [convert_eq, map_eq_error_iff]
  cases hobstacle with
  | problems hproblems =>
      rw [plan]
      split
      · rename_i hnil
        exact absurd hnil hproblems
      · rfl
  | document hproblems hread hmissing =>
      rw [plan_eq_of_load hproblems (Project.load_eq_error hpath hread hmissing)]
      rfl
  | kind hproblems hproject hjuce6 hkind =>
      rw [plan_eq_of_load hproblems (load_of_holds hpath hproject), ok_bind, script, if_pos hjuce6,
        Juce6Script.ofProject_eq_error hkind]
      rfl
  | modules hproblems hproject hjuce6 hmodules =>
      rw [plan_eq_of_load hproblems (load_of_holds hpath hproject), ok_bind,
        script_of_modules_eq_error hpath hvalues hproject hjuce6 hmodules]
      rfl
  | output hproblems hproject hscript hdirectory =>
      have hload := load_of_holds hpath hproject
      obtain ⟨⟨text, result⟩, hmade⟩ := exists_script hpath hvalues hproject hscript
      have houtput := (isScript_of_script hproblems hload hmade).2
      have hplace := writablePlace_outputPath hstore hproblems
      rw [if_pos hdirectory, ← houtput] at hplace
      rw [plan_eq_of_load hproblems hload, ok_bind, hmade, ok_bind, hplace, ← houtput]
      rfl

/-- Nothing is in the way: the conversion goes through all stages. -/
def Unobstructed (settings : ConversionSettings) (store : FileStore) : Prop :=
  ∃ project, settings.problems store = [] ∧ settings.Holds store project
    ∧ settings.Scriptable store project
    ∧ ¬store.isDirectory (settings.outputPath store.cwd) = true

theorem exists_convert_of_unobstructed (hstore : store.WellFormed)
    (hpath : settings.project.WellFormed) (hvalues : ¬settings.Stumbles store)
    (hclear : settings.Unobstructed store) : ∃ output, convert store settings = .ok output := by
  obtain ⟨project, hproblems, hproject, hscript, hdirectory⟩ := hclear
  have hload := load_of_holds hpath hproject
  obtain ⟨⟨text, result⟩, hmade⟩ := exists_script hpath hvalues hproject hscript
  have hplace := writablePlace_outputPath hstore hproblems
  rw [if_neg hdirectory, ← (isScript_of_script hproblems hload hmade).2] at hplace
  obtain ⟨place, hplace⟩ := hplace
  have hplan : settings.plan store = .ok ⟨result, place, text⟩ :=
    plan_eq_ok hproblems hload hmade hplace
  rw [convert_eq, hplan]
  exact ⟨_, rfl⟩

theorem exists_obstacle_or_unobstructed (hpath : settings.project.WellFormed)
    (hvalues : ¬settings.Stumbles store) :
    (∃ kind failure, settings.Obstacle store kind failure) ∨ settings.Unobstructed store := by
  by_cases hproblems : settings.problems store = []
  case neg => exact .inl ⟨_, _, .problems hproblems⟩
  obtain ⟨content, hread, hmissing⟩ | ⟨project, hproject⟩ :=
    missing_or_holds hproblems hpath hvalues
  · exact .inl ⟨_, _, .document hproblems hread hmissing⟩
  by_cases hscript : settings.Scriptable store project
  case neg =>
    left
    cases hjuce6 : settings.forJuce6 with
    | true =>
        refine ⟨_, _, .kind hproblems hproject hjuce6 fun hkind => ?_⟩
        exact hscript (.juce6 hjuce6 hkind)
    | false =>
        cases hmodules : ModuleReference.resolveAll store project.moduleIds project.modulePaths
            project.directory with
        | ok modules => exact absurd (.reprojucer hjuce6 hmodules) hscript
        | error failure => exact ⟨_, _, .modules hproblems hproject hjuce6 hmodules⟩
  by_cases hdirectory : store.isDirectory (settings.outputPath store.cwd) = true
  · exact .inl ⟨_, _, .output hproblems hproject hscript hdirectory⟩
  · exact .inr ⟨project, hproblems, hproject, hscript, hdirectory⟩

/-- **The first obstacle decides.** A conversion that no value makes fail ends with a failure
exactly if that is the one of its first obstacle, and returns exactly if nothing is in its way. So
it never complains about a project's file that cannot be read. -/
theorem convert_eq_error_iff_obstacle (hstore : store.WellFormed)
    (hpath : settings.project.WellFormed) (hvalues : ¬settings.Stumbles store) :
    (∀ kind failure, convert store settings = .error failure ∧ failure.kind = kind
        ↔ settings.Obstacle store kind failure)
      ∧ ((∃ output, convert store settings = .ok output) ↔ settings.Unobstructed store)
      ∧ (∀ problems, (Failure.invalidSettings problems).message
        = "Configuration errors:\n" ++ Text.join "\n" (problems.map ("  - " ++ ·.message)))
      ∧ (∀ location, (Failure.notAProject location).message
        = location ++ " is not a valid Jucer project.")
      ∧ ∀ path reason, convert store settings ≠ .error (.unreadableProject path reason) := by
  have hobstacle : ∀ kind failure, convert store settings = .error failure ∧ failure.kind = kind
      ↔ settings.Obstacle store kind failure := by
    intro kind failure
    constructor
    · rintro ⟨hconvert, rfl⟩
      obtain ⟨kind, first, hfirst⟩ | hclear := exists_obstacle_or_unobstructed hpath hvalues
      · cases hconvert.symm.trans (convert_of_obstacle hstore hpath hvalues hfirst)
        rw [hfirst.kind_eq]
        exact hfirst
      · obtain ⟨output, houtput⟩ := exists_convert_of_unobstructed hstore hpath hvalues hclear
        cases hconvert.symm.trans houtput
    · intro hfirst
      exact ⟨convert_of_obstacle hstore hpath hvalues hfirst, hfirst.kind_eq⟩
  refine ⟨hobstacle, ⟨?_, exists_convert_of_unobstructed hstore hpath hvalues⟩, ?_, ?_, ?_⟩
  · rintro ⟨output, houtput⟩
    obtain ⟨kind, failure, hfirst⟩ | hclear := exists_obstacle_or_unobstructed hpath hvalues
    · cases houtput.symm.trans (convert_of_obstacle hstore hpath hvalues hfirst)
    · exact hclear
  · intro problems
    rfl
  · intro location
    rfl
  · intro path reason hconvert
    cases (hobstacle .document _).mp ⟨hconvert, rfl⟩

/-- A project without parts, next to a directory that has the name of the script's file. -/
def blockedStore : FileStore where
  entries := [
    (["work"], .directory),
    (["work", "App.jucer"], .file Xml.bareProject),
    (["work", "Reprojucer.cmake"], .file .empty),
    (["work", "CMakeLists.txt"], .directory)]
  cwd := ["work"]

def blockedSettings : ConversionSettings where
  project := .ofString "./App.jucer"
  reprojucer? := some (.ofString "Reprojucer.cmake")
  outputDirectory? := none
  forJuce6 := false

def blockedProject : Project := ⟨⟨.root, ["work", "App.jucer"]⟩, ⟨"JUCERPROJECT", [], []⟩⟩

theorem holds_blocked : blockedSettings.Holds blockedStore blockedProject := by
  have hread : blockedStore.read blockedSettings.project = .ok Xml.bareProject := by decide +kernel
  have hfile : blockedSettings.project.absolute blockedStore.cwd
      = ⟨.root, ["work", "App.jucer"]⟩ := by decide +kernel
  refine ⟨_, _, hread, Xml.ofOctets_bareProject, rfl, ?_⟩
  rw [hfile]
  rfl

theorem not_stumbles_blocked : ¬blockedSettings.Stumbles blockedStore := by
  have hload := load_of_holds (Path.wellFormed_ofString _) holds_blocked
  have hread : blockedStore.read (Path.ofString blockedSettings.project.toString)
      = .ok Xml.bareProject := by decide +kernel
  intro hstumbles
  cases hstumbles with
  | encoding hcontent hencoding =>
      cases hread.symm.trans hcontent
      obtain ⟨encoding, hrefused⟩ := Xml.exists_ofOctets_eq_error_iff.mpr hencoding
      cases Xml.ofOctets_bareProject.symm.trans hrefused
  | file _ hproject hfile =>
      cases hload.symm.trans hproject
      obtain ⟨group, hgroup, -⟩ := hfile
      cases hgroup
  | plugin _ hproject _ hplugin =>
      cases hload.symm.trans hproject
      exact absurd hplugin.1 (by decide)

theorem convert_eq_error_iff_obstacle_blocked :
    blockedStore.WellFormed ∧ blockedSettings.project.WellFormed
      ∧ ¬blockedSettings.Stumbles blockedStore
      ∧ convert blockedStore blockedSettings
        = .error (.unwritableScript ⟨.root, ["work", "CMakeLists.txt"]⟩ .isDirectory) := by
  have hstore : blockedStore.WellFormed := by
    refine FileStore.wellFormed_of_entries ?_ rfl (by decide)
    simp [blockedStore, FileStore.entryAt?, List.lookup_cons]
  have hpath : blockedSettings.project.WellFormed := Path.wellFormed_ofString _
  have hproblems : blockedSettings.problems blockedStore = [] := by decide +kernel
  have hmodules : ModuleReference.resolveAll blockedStore blockedProject.moduleIds
      blockedProject.modulePaths blockedProject.directory = .ok [] := rfl
  have hdirectory : blockedStore.isDirectory (blockedSettings.outputPath blockedStore.cwd)
      = true := by decide +kernel
  have hobstacle : blockedSettings.Obstacle blockedStore .output _ :=
    .output hproblems holds_blocked (.reprojucer rfl hmodules) hdirectory
  have hexact := convert_eq_error_iff_obstacle hstore hpath not_stumbles_blocked
  exact ⟨hstore, hpath, not_stumbles_blocked, ((hexact.1 _ _).mpr hobstacle).1⟩

/-- An encoding of one octet for a character can be in the way too: a document that declares the one
that decodes nothing is neither a project nor none. -/
theorem convert_encodedStore_undefined :
    (encodedStore "undefined").WellFormed ∧ encodedSettings.project.WellFormed
      ∧ encodedSettings.problems (encodedStore "undefined") = []
      ∧ Xml.declaration? (encodedDocument "undefined").data.toList = some ⟨some "undefined", false⟩
      ∧ Xml.CodePage.isMultiByte "undefined" = false
      ∧ ∃ failure, convert (encodedStore "undefined") encodedSettings = .error failure
        ∧ failure.kind = .value
        ∧ ∀ location, failure ≠ .notAProject location := by
  have hstore : (encodedStore "undefined").WellFormed := by
    refine FileStore.wellFormed_of_entries ?_ rfl (by decide)
    simp [encodedStore, FileStore.entryAt?, List.lookup_cons]
  have hdeclaration : Xml.declaration? (encodedDocument "undefined").data.toList
      = some ⟨some "undefined", false⟩ := by decide +kernel
  have hrefused : Xml.DeclaresRefused (encodedDocument "undefined").data.toList := by
    have hlower : "undefined".toLower = "undefined" := by decide +kernel
    have hname : Xml.CodePage.normalisedName "undefined" = "undefined" := by decide +kernel
    refine ⟨_, "undefined", hdeclaration, rfl, ?_, .inr ?_⟩
    · rw [hlower]
      decide
    · rw [hname]
      decide
  obtain ⟨failure, hfailure, hkind⟩ := escapes_convert_encodedStore hrefused
  refine ⟨hstore, Path.wellFormed_ofString _, problems_encodedStore _, hdeclaration,
    by decide +kernel, failure, hfailure, hkind, ?_⟩
  rintro location rfl
  cases hkind

end ConversionSettings

end JuceBuild
