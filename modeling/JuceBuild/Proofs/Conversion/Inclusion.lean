import JuceBuild.Proofs.Conversion.Places
import JuceBuild.Proofs.Path.Route
import JuceBuild.Proofs.Script.Parts

/-!
# The way to the Reprojucer file

A script finds the Reprojucer functions by a way that starts in its own directory. The way is found
on the two paths alone, yet whoever follows it looks at every directory on it. They are all there:
the way climbs from the output directory, below which nothing is left out, and descends to a
directory that the Reprojucer file stands in, so each stop is a directory above one of the two.
-/

namespace JuceBuild

namespace FileStore

/-- Everything in the store has a name that a path text can hold, and so has everything above it. -/
def Named (store : FileStore) : Prop :=
  ∀ place, store.entryAt? place ≠ none → place.Canonical

variable {store : FileStore} {source target : Place}

theorem named_of_entries (hentries : ∀ entry ∈ store.entries, entry.1.Canonical) : store.Named := by
  intro place hentry
  rw [entryAt?] at hentry
  split at hentry
  · rename_i hroot
    rw [hroot]
    exact List.forall_mem_nil _
  · rw [Option.ne_none_iff_isSome, List.lookup_isSome_iff] at hentry
    obtain ⟨entry, hmem, hkey⟩ := hentry
    exact eq_of_beq hkey ▸ hentries entry hmem

/-- **A route between two directories can be walked.** -/
theorem WellFormed.descend_route (hstore : store.WellFormed)
    (hsource : store.entryAt? source = some .directory)
    (htarget : store.entryAt? target = some .directory) (hnames : ".." ∉ target) :
    store.descend source (source.route target) = .ok target := by
  obtain ⟨shared, up, down, rfl, rfl, -, hroute⟩ := Place.exists_parting source target
  obtain ⟨hclimb, -⟩ := hstore.descend_climb hsource
  rw [List.mem_append, not_or] at hnames
  rw [hroute, descend_append, hclimb, ok_bind]
  refine hstore.descend_names hnames.2 ?_
  rw [htarget]
  exact Option.some_ne_none _

end FileStore

namespace ReprojucerScript

/-- The line of a script that says where the functions are stands behind the preamble. -/
theorem exists_lines_of_ofProject {store : FileStore} {project : Project} {reprojucer : Path}
    {outputDirectory? : Option Path} {script : ReprojucerScript}
    (hscript : ofProject store project reprojucer outputDirectory? = .ok script) :
    ∃ later, script.lines
      = preamble project
        ++ ("list(APPEND CMAKE_MODULE_PATH \"$\x7bCMAKE_CURRENT_LIST_DIR\x7d/"
          ++ includeDirectory store.cwd reprojucer outputDirectory? ++ "\")")
        :: later := by
  obtain ⟨mainGroup?, modules, calls, -, -, -, rfl⟩ := ofProject_eq_ok_iff.mp hscript
  have hopening : "list(APPEND CMAKE_MODULE_PATH \""
      ++ variableReference "CMAKE_CURRENT_LIST_DIR" ++ "/"
      = "list(APPEND CMAKE_MODULE_PATH \"$\x7bCMAKE_CURRENT_LIST_DIR\x7d/" := rfl
  simp only [ofParts, inclusion, hopening, List.append_assoc, List.cons_append]
  exact ⟨_, rfl⟩

end ReprojucerScript

namespace ConversionSettings

variable {settings : ConversionSettings} {store : FileStore} {output directory : Place}
  {reprojucer : Path}

/-- Without a backslash in its names the route is written as it is. -/
theorem includeDirectory_eq_routeText (hstore : store.WellFormed)
    (houtput : store.walk (settings.outputDirectory?.getD store.cwd.path) = .ok output)
    (hdirectory : store.walk reprojucer.parent = .ok directory)
    (hbackslash : ∀ part ∈ directory, '\\' ∉ part.toList) :
    ReprojucerScript.includeDirectory store.cwd reprojucer settings.outputDirectory?
      = routeText (output.route directory) := by
  have hroute : '\\' ∉ (routeText (output.route directory)).toList := by
    refine notMem_routeText (by decide) (by decide) fun part hpart => ?_
    rcases Place.mem_route hpart with rfl | hpart
    · decide
    · exact hbackslash part hpart
  have hkept : (routeText (output.route directory)).toList.map
      (fun c => if c = '\\' then '/' else c) = (routeText (output.route directory)).toList := by
    refine (List.map_congr_left fun c hc => ?_).trans (List.map_id' _)
    have hne : c ≠ '\\' := fun hback => hroute (hback ▸ hc)
    exact if_neg hne
  rw [includeDirectory_eq_route hstore houtput hdirectory, hkept, String.ofList_toList]

/-- **The way to the Reprojucer file is there.** A script of valid settings names a way that can be
walked from the output directory, stop by stop, and that ends in the directory of the Reprojucer
file that was given. -/
theorem exists_way_to_reprojucer (hstore : store.WellFormed) (hnamed : store.Named)
    (hjuce6 : settings.forJuce6 = false) (hproblems : settings.problems store = [])
    (hreprojucer : settings.reprojucer? = some reprojucer)
    (hbackslash : ∀ part ∈ reprojucer.parent.collapse store.cwd, '\\' ∉ part.toList)
    {project : Project} {script : ReprojucerScript}
    (hscript : ReprojucerScript.ofProject store project reprojucer settings.outputDirectory?
      = .ok script) :
    ∃ output directory name content way later,
      store.walk (settings.outputDirectory?.getD store.cwd.path) = .ok output
        ∧ store.walk reprojucer = .ok (directory ++ [name])
        ∧ store.entryAt? (directory ++ [name]) = some (.file content)
        ∧ script.lines = ReprojucerScript.preamble project
          ++ ("list(APPEND CMAKE_MODULE_PATH \"$\x7bCMAKE_CURRENT_LIST_DIR\x7d/" ++ way ++ "\")")
          :: later
        ∧ store.descend output (Path.partsOf way.toList) = .ok directory
        ∧ store.entryAt? directory = some .directory := by
  obtain ⟨output, houtput, houtputDirectory⟩ := exists_output hstore hproblems
  obtain ⟨given, hgiven, hfile⟩ := (problems_eq_nil_iff.mp hproblems).2.1 hjuce6
  obtain rfl : reprojucer = given := by rw [← Option.some.injEq, ← hreprojucer, hgiven]
  obtain ⟨content, hread⟩ := FileStore.isFile_eq_true_iff.mp hfile
  obtain ⟨place, hwalk, hentry⟩ := FileStore.read_eq_ok_iff.mp hread
  obtain ⟨directory, name, rfl, -, hparent⟩ := hstore.exists_of_walk_file hwalk hentry
  have hdirectory : store.entryAt? directory = some .directory := by
    refine hstore.directory_above directory name ?_
    rw [hentry]
    exact Option.some_ne_none _
  have hcanonical : directory.Canonical := by
    refine hnamed directory ?_
    rw [hdirectory]
    exact Option.some_ne_none _
  rw [FileStore.collapse_eq_of_walk hparent] at hbackslash
  obtain ⟨later, hlines⟩ := ReprojucerScript.exists_lines_of_ofProject hscript
  refine ⟨output, directory, name, content, _, later, houtput, hwalk, hentry, hlines, ?_,
    hdirectory⟩
  rw [includeDirectory_eq_routeText hstore houtput hparent hbackslash,
    Path.partsOf_route hcanonical]
  exact hstore.descend_route houtputDirectory hdirectory hcanonical.notMem_up

/-- A project with an output directory below it, and a Reprojucer file in a directory next to the
project's. -/
def siblingStore : FileStore where
  entries := [
    (["work"], .directory),
    (["work", "build"], .directory),
    (["work", "App.jucer"], .file .empty),
    (["cmake"], .directory),
    (["cmake", "Reprojucer.cmake"], .file .empty)]
  cwd := ["work"]

def siblingReprojucer : Path := .ofString "build/../../cmake//Reprojucer.cmake"

def siblingSettings : ConversionSettings where
  project := .ofString "App.jucer"
  reprojucer? := some siblingReprojucer
  outputDirectory? := some (.ofString "./build")
  forJuce6 := false

def siblingProject : Project := ⟨⟨.root, ["work", "App.jucer"]⟩, ⟨"JUCERPROJECT", [], []⟩⟩

theorem wellFormed_siblingStore : siblingStore.WellFormed := by
  refine FileStore.wellFormed_of_entries ?_ rfl (by decide)
  simp [siblingStore, FileStore.entryAt?, List.lookup_cons]

theorem named_siblingStore : siblingStore.Named := by
  refine FileStore.named_of_entries ?_
  simp [siblingStore, Place.Canonical, IsName]

theorem exists_way_to_reprojucer_sibling :
    siblingStore.WellFormed ∧ siblingStore.Named
      ∧ siblingSettings.forJuce6 = false ∧ siblingSettings.problems siblingStore = []
      ∧ siblingSettings.reprojucer? = some siblingReprojucer
      ∧ (∀ part ∈ siblingReprojucer.parent.collapse siblingStore.cwd, '\\' ∉ part.toList)
      ∧ ∃ script, ReprojucerScript.ofProject siblingStore siblingProject siblingReprojucer
          siblingSettings.outputDirectory? = .ok script
        ∧ ∃ output directory name content way later,
          siblingStore.walk (siblingSettings.outputDirectory?.getD siblingStore.cwd.path)
            = .ok output
          ∧ siblingStore.walk siblingReprojucer = .ok (directory ++ [name])
          ∧ siblingStore.entryAt? (directory ++ [name]) = some (.file content)
          ∧ script.lines = ReprojucerScript.preamble siblingProject
            ++ ("list(APPEND CMAKE_MODULE_PATH \"$\x7bCMAKE_CURRENT_LIST_DIR\x7d/" ++ way ++ "\")")
            :: later
          ∧ siblingStore.descend output (Path.partsOf way.toList) = .ok directory
          ∧ siblingStore.entryAt? directory = some .directory := by
  have hproblems : siblingSettings.problems siblingStore = [] := by decide +kernel
  have hdirectory : siblingReprojucer.parent.collapse siblingStore.cwd
      = ["cmake"] := by decide +kernel
  have hbackslash : ∀ part ∈ siblingReprojucer.parent.collapse siblingStore.cwd,
      '\\' ∉ part.toList := by
    rw [hdirectory]
    decide
  obtain ⟨script, hscript⟩ : ∃ script, ReprojucerScript.ofProject siblingStore siblingProject
      siblingReprojucer siblingSettings.outputDirectory? = .ok script := ⟨_, rfl⟩
  exact ⟨wellFormed_siblingStore, named_siblingStore, rfl, hproblems, rfl, hbackslash, script,
    hscript, exists_way_to_reprojucer wellFormed_siblingStore named_siblingStore rfl hproblems rfl
      hbackslash hscript⟩

end ConversionSettings

end JuceBuild
