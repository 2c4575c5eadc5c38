import JuceBuild.Exporter.SearchPath
import JuceBuild.Proofs.Path.Join
import JuceBuild.Proofs.Path.Route
import Mathlib.Data.List.Forall2

/-!
# Search paths keep their meaning

A search path is written from an exporter's target folder, and a script wants it from the project's
directory. What is put into the script is a path in normal form that denotes the same place from
there, and it climbs no further than it has to. All of this is about texts: nothing has to exist,
the target folder or the search path may be absolute, and both may climb above the project's
directory or above the root.
-/

namespace JuceBuild.SearchPath

/-- A relative path text in normal form: a number of `..` with names behind them, with slashes
between them all. The text of no component is a full stop. -/
structure NormalForm (text : String) (ups : Nat) (names : List String) : Prop where
  isName : ∀ part ∈ names, IsName part
  text_eq : text
    = if ups = 0 ∧ names = [] then "." else Text.join "/" (List.replicate ups ".." ++ names)

/-- The place that a text denotes when it is written behind a place and a slash. -/
def placeBehind (base : Place) (text : String) : Place :=
  (Path.ofString (base.path.toString ++ "/" ++ text)).collapse []

/-- A text in normal form that denotes one place from another, with the fewest `..` there can be. -/
structure SeenFrom (base target : Place) (text : String) : Prop where
  placeBehind_eq : placeBehind base text = target
  exists_normalForm : ∃ ups names, NormalForm text ups names
    ∧ ∀ other count others, NormalForm other count others → count < ups
      → placeBehind base other ≠ target

variable {base target : Place} {text : String} {ups : Nat} {names : List String}

theorem NormalForm.eq_routeText (htext : NormalForm text ups names) :
    text = routeText (List.replicate ups ".." ++ names) := by
  rw [htext.text_eq]
  cases ups with
  | zero => cases names <;> rfl
  | succ ups =>
      rw [if_neg (fun hnone => Nat.succ_ne_zero ups hnone.1)]
      rfl

theorem normalForm_routeText (hnames : ∀ part ∈ names, IsName part) :
    NormalForm (routeText (List.replicate ups ".." ++ names)) ups names := by
  refine ⟨hnames, ?_⟩
  cases ups with
  | zero => cases names <;> rfl
  | succ ups =>
      rw [if_neg (fun hnone => Nat.succ_ne_zero ups hnone.1)]
      rfl

theorem NormalForm.partsOf_eq (htext : NormalForm text ups names) :
    Path.partsOf text.toList = List.replicate ups ".." ++ names := by
  rw [htext.eq_routeText]
  refine Path.partsOf_routeText fun part hpart => ?_
  rcases List.mem_append.mp hpart with hpart | hpart
  · rw [List.eq_of_mem_replicate hpart]
    decide
  · exact (htext.isName part hpart).component

/-- What is written behind a canonical place is followed from there. -/
theorem placeBehind_eq_foldl (hbase : base.Canonical) (text : String) :
    placeBehind base text = (Path.partsOf text.toList).foldl Place.step base := by
  have hchars : (base.path.toString ++ "/" ++ text).toList
      = '/' :: (Text.join "/" base).toList ++ '/' :: text.toList := by
    simp [Place.path, Path.toString, Anchor.text]
  have hread : Path.partsOf (Text.join "/" base).toList = base :=
    Path.partsOf_join hbase.wellFormed_path
  have hparts : Path.partsOf (base.path.toString ++ "/" ++ text).toList
      = base ++ Path.partsOf text.toList := by
    rw [hchars, Path.partsOf_append_slash, Path.partsOf_slash, hread]
  rw [placeBehind, Path.collapse, Path.ofString, hparts, Path.start, ite_self, List.foldl_append,
    Place.foldl_step_descend [] hbase.notMem_up]
  rfl

theorem NormalForm.placeBehind_eq (htext : NormalForm text ups names) (hbase : base.Canonical) :
    placeBehind base text = (List.replicate ups ".." ++ names).foldl Place.step base := by
  rw [placeBehind_eq_foldl hbase, htext.partsOf_eq]

/-- **The text of a route is what one place is seen as from the other.** -/
theorem seenFrom_routeText (hbase : base.Canonical) (htarget : target.Canonical) :
    SeenFrom base target (routeText (base.route target)) := by
  obtain ⟨shared, up, down, hparting⟩ := Place.exists_parting base target
  have hdown : ∀ part ∈ down, IsName part := fun part hpart =>
    htarget part (hparting.target_eq ▸ List.mem_append_right shared hpart)
  have hroute : NormalForm (routeText (base.route target)) up.length down := by
    rw [hparting.route_eq]
    exact normalForm_routeText hdown
  refine ⟨?_, up.length, down, hroute, fun other count others hother hcount => ?_⟩
  · rw [hroute.placeBehind_eq hbase]
    exact hparting.foldl_step htarget.notMem_up
  · rw [hother.placeBehind_eq hbase]
    exact hparting.foldl_step_ne hcount (Place.Canonical.notMem_up hother.isName)

/-- The place of a search path is denoted by the three texts put together. -/
theorem place_eq_collapse_joinText (cwd : Place) {directory : Path}
    (hdirectory : directory.WellFormed) (targetFolder entry : String) :
    place cwd directory targetFolder entry
      = (Path.ofString
          (Path.joinText (Path.joinText directory.toString targetFolder) entry)).collapse cwd := by
  rw [Path.ofString_joinText, Path.ofString_joinText, Path.ofString_toString hdirectory, place]

theorem entries_eq (headerPath : String) :
    Text.entries headerPath = (headerPath.toList.splitOn '\n').map String.ofList := by
  rw [Text.entries, Text.pieces_singleton]

/-- **Search paths keep their meaning.** There is one path for each line that is not empty, in the
order of the lines. It is what the place that the project's directory, the target folder and the
line denote together is seen as from the project's directory. -/
theorem forall₂_seenFrom {cwd : Place} (hcwd : cwd.Canonical) {directory : Path}
    (hdirectory : directory.WellFormed) (headerPath targetFolder : String) :
    List.Forall₂
      (fun result line => SeenFrom (directory.collapse cwd)
        ((Path.ofString
          (Path.joinText (Path.joinText directory.toString targetFolder) line)).collapse cwd)
        result)
      (fromDirectory cwd headerPath directory targetFolder)
      (((headerPath.toList.splitOn '\n').map String.ofList).filter (· ≠ "")) := by
  rw [fromDirectory, entries_eq, List.forall₂_map_left_iff, List.forall₂_same]
  intro line _
  rw [← place_eq_collapse_joinText cwd hdirectory]
  refine seenFrom_routeText (hdirectory.canonical_collapse hcwd) ?_
  have htarget := hdirectory.join (Path.wellFormed_ofString targetFolder)
  exact (htarget.join (Path.wellFormed_ofString line)).canonical_collapse hcwd

/-- Search paths that climb above the current directory, start at the root, stay below the project's
directory and end at it. -/
def sampleHeaderPath : String := "../../../../../../usr/include\n\n/opt//sdk/\n./../Source\n../.."

theorem forall₂_seenFrom_sample :
    Place.Canonical ["home", "ci"] ∧ (Path.ofString "../dev/./app").WellFormed
      ∧ fromDirectory ["home", "ci"] sampleHeaderPath (Path.ofString "../dev/./app") "Builds/MacOSX"
        = ["../../../usr/include", "../../../opt/sdk", "Builds/Source", "."]
      ∧ List.Forall₂
        (fun result line => SeenFrom (Path.collapse (Path.ofString "../dev/./app") ["home", "ci"])
          ((Path.ofString (Path.joinText
            (Path.joinText (Path.ofString "../dev/./app").toString "Builds/MacOSX") line)).collapse
              ["home", "ci"])
          result)
        (fromDirectory ["home", "ci"] sampleHeaderPath (Path.ofString "../dev/./app")
          "Builds/MacOSX")
        (((sampleHeaderPath.toList.splitOn '\n').map String.ofList).filter (· ≠ "")) := by
  have hcwd : Place.Canonical ["home", "ci"] := by simp [Place.Canonical, IsName]
  have hdirectory := Path.wellFormed_ofString "../dev/./app"
  refine ⟨hcwd, hdirectory, ?_, forall₂_seenFrom hcwd hdirectory sampleHeaderPath "Builds/MacOSX"⟩
  decide +kernel

end JuceBuild.SearchPath
