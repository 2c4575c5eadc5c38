import JuceBuild.Proofs.Outcome
import Mathlib.Data.List.Basic
import Mathlib.Data.List.Induction

/-!
# Walks and lexical paths

A walk looks at every directory on its way, a lexical path looks at none, and both take the same
step for a component. So a walk that succeeds ends where the path collapses to. What a walk has on
top is that directories are there, and in a store whose entries all stand in directories this
settles the last component of a path that leads to a file: it is the file's name, and without it the
path leads to the file's directory.
-/

namespace JuceBuild

namespace FileStore

/-- The place that components lead to from a place. -/
def descend (store : FileStore) (place : Place) (parts : List String) : Except FileError Place :=
  parts.foldlM store.step place

variable {store : FileStore} {place target : Place} {parts : List String} {path : Path}

theorem walk_eq_descend : store.walk path = store.descend (path.start store.cwd) path.parts := rfl

theorem descend_append (earlier later : List String) :
    store.descend place (earlier ++ later)
      = store.descend place earlier >>= fun next => store.descend next later :=
  List.foldlM_append

theorem descend_cons_eq_ok_iff {part : String} :
    store.descend place (part :: parts) = .ok target
      ↔ ∃ next, store.step place part = .ok next ∧ store.descend next parts = .ok target := by
  rw [descend, List.foldlM_cons, bind_eq_ok_iff]
  rfl

theorem descend_concat_eq_ok_iff {part : String} :
    store.descend place (parts ++ [part]) = .ok target
      ↔ ∃ next, store.descend place parts = .ok next ∧ store.step next part = .ok target := by
  rw [descend_append, bind_eq_ok_iff]
  refine exists_congr fun next => and_congr_right fun _ => ?_
  rw [descend_cons_eq_ok_iff]
  constructor
  · rintro ⟨last, hstep, hlast⟩
    cases hlast
    exact hstep
  · intro hstep
    exact ⟨target, hstep, rfl⟩

theorem step_eq_ok_iff {part : String} :
    store.step place part = .ok target
      ↔ store.entryAt? place = some .directory ∧ place.step part = target := by
  rw [step]
  split <;> simp_all

/-- A step of a walk is the lexical step. -/
theorem foldl_step_of_descend (hdescend : store.descend place parts = .ok target) :
    parts.foldl Place.step place = target := by
  induction parts generalizing place with
  | nil =>
      cases hdescend
      rfl
  | cons part parts ih =>
      obtain ⟨next, hstep, hnext⟩ := descend_cons_eq_ok_iff.mp hdescend
      rw [List.foldl_cons, (step_eq_ok_iff.mp hstep).2]
      exact ih hnext

/-- **A walk ends where its path collapses to.** -/
theorem collapse_eq_of_walk (hwalk : store.walk path = .ok target) :
    path.collapse store.cwd = target :=
  foldl_step_of_descend hwalk

/-! ### What stands where a path leads to -/

theorem find_eq_ok_iff {entry : Entry} :
    store.find path = .ok entry
      ↔ ∃ place, store.walk path = .ok place ∧ store.entryAt? place = some entry := by
  rw [find]
  cases store.walk path with
  | error reason => simp
  | ok place => cases hentry : store.entryAt? place <;> simp [hentry]

theorem read_eq_ok_iff {content : ByteArray} :
    store.read path = .ok content
      ↔ ∃ place, store.walk path = .ok place ∧ store.entryAt? place = some (.file content) := by
  rw [← find_eq_ok_iff, read]
  split <;> simp_all

theorem isFile_eq_true_iff :
    store.isFile path = true ↔ ∃ content, store.read path = .ok content := by
  rw [isFile, read]
  cases store.find path with
  | error reason => simp
  | ok entry => cases entry <;> simp

theorem isDirectory_eq_true_iff :
    store.isDirectory path = true
      ↔ ∃ place, store.walk path = .ok place ∧ store.entryAt? place = some .directory := by
  rw [← find_eq_ok_iff, isDirectory]
  split <;> simp_all

/-! ### Stores whose entries stand in directories -/

/-- Everything in the store stands in a directory, and the current directory is one, given by its
place. -/
structure WellFormed (store : FileStore) : Prop where
  directory_above : ∀ (place : Place) (part : String),
    store.entryAt? (place ++ [part]) ≠ none → store.entryAt? place = some .directory
  cwd_directory : store.entryAt? store.cwd = some .directory
  cwd_canonical : ".." ∉ store.cwd

/-- Well-formedness is checked entry by entry. -/
theorem wellFormed_of_entries
    (hentries : ∀ entry ∈ store.entries, store.entryAt? entry.1.dropLast = some .directory)
    (hcwd : store.entryAt? store.cwd = some .directory) (hcanonical : ".." ∉ store.cwd) :
    store.WellFormed := by
  refine ⟨fun place part hentry => ?_, hcwd, hcanonical⟩
  have hne : place ++ [part] ≠ [] := List.concat_ne_nil _ _
  rw [entryAt?, if_neg hne, Option.ne_none_iff_isSome, List.lookup_isSome_iff] at hentry
  obtain ⟨entry, hmem, hkey⟩ := hentry
  have habove := hentries entry hmem
  rwa [← eq_of_beq hkey, List.dropLast_concat] at habove

/-- The directory above a directory is a directory; the root is above itself. -/
theorem WellFormed.dropLast_directory (hstore : store.WellFormed)
    (hplace : store.entryAt? place = some .directory) :
    store.entryAt? place.dropLast = some .directory := by
  rcases place.eq_nil_or_concat' with rfl | ⟨above, part, rfl⟩
  · exact hplace
  · rw [List.dropLast_concat]
    refine hstore.directory_above above part ?_
    rw [hplace]
    exact Option.some_ne_none _

/-- A place where something stands is reached by the names that lead to it. -/
theorem WellFormed.descend_names (hstore : store.WellFormed) {names : List String}
    (hnames : ".." ∉ names) (hplace : store.entryAt? (place ++ names) ≠ none) :
    store.descend place names = .ok (place ++ names) := by
  induction names using List.reverseRecOn with
  | nil => exact congrArg _ (List.append_nil place).symm
  | append_singleton above part ih =>
      rw [← List.append_assoc] at hplace ⊢
      have habove := hstore.directory_above (place ++ above) part hplace
      rw [List.mem_append, List.mem_singleton, not_or] at hnames
      refine descend_concat_eq_ok_iff.mpr
        ⟨place ++ above, ih hnames.1 ?_, step_eq_ok_iff.mpr ⟨habove, ?_⟩⟩
      · rw [habove]
        exact Option.some_ne_none _
      · rw [Place.step, if_neg (Ne.symm hnames.2)]

/-- All directories on the way up from a directory are there. -/
theorem WellFormed.descend_climb (hstore : store.WellFormed) {names : List String}
    (hplace : store.entryAt? (place ++ names) = some .directory) :
    store.descend (place ++ names) (List.replicate names.length "..") = .ok place
      ∧ store.entryAt? place = some .directory := by
  induction names using List.reverseRecOn with
  | nil =>
      rw [List.append_nil] at hplace ⊢
      exact ⟨rfl, hplace⟩
  | append_singleton above part ih =>
      rw [← List.append_assoc] at hplace ⊢
      have habove := hstore.dropLast_directory hplace
      rw [List.dropLast_concat] at habove
      obtain ⟨hclimb, hdirectory⟩ := ih habove
      refine ⟨?_, hdirectory⟩
      rw [List.length_append, List.length_singleton, List.replicate_succ]
      refine descend_cons_eq_ok_iff.mpr ⟨place ++ above, step_eq_ok_iff.mpr ⟨hplace, ?_⟩, hclimb⟩
      rw [Place.step, if_pos rfl, List.dropLast_concat]

theorem WellFormed.descend_cwd (hstore : store.WellFormed) :
    store.descend [] store.cwd = .ok store.cwd := by
  refine hstore.descend_names hstore.cwd_canonical ?_
  rw [List.nil_append, hstore.cwd_directory]
  exact Option.some_ne_none _

/-- The walk along a path and the one along its absolute form are the same walk. -/
theorem WellFormed.walk_absolute (hstore : store.WellFormed) (path : Path) :
    store.walk (path.absolute store.cwd) = store.walk path := by
  by_cases hpath : path.isAbsolute
  · rw [Path.absolute, if_pos hpath]
  · have hstart : Path.start ⟨.root, store.cwd ++ path.parts⟩ store.cwd = [] := rfl
    rw [Path.absolute, if_neg hpath, walk_eq_descend, walk_eq_descend, hstart, Path.start,
      if_neg hpath, descend_append, hstore.descend_cwd]
    rfl

theorem WellFormed.walk_cwd (hstore : store.WellFormed) :
    store.walk store.cwd.path = .ok store.cwd :=
  hstore.descend_cwd

/-- **The last component of a path to a file is the file's name.** The path without it leads to the
directory that the file stands in. -/
theorem WellFormed.exists_of_walk_file (hstore : store.WellFormed) {content : ByteArray}
    (hwalk : store.walk path = .ok target) (hfile : store.entryAt? target = some (.file content)) :
    ∃ (directory : Place) (name : String), target = directory ++ [name] ∧ path.name = name
      ∧ store.walk path.parent = .ok directory := by
  have hdirectory : store.entryAt? target ≠ some .directory := by
    rw [hfile]
    exact nofun
  rcases path.parts.eq_nil_or_concat' with hparts | ⟨parts, name, hparts⟩
  · rw [walk_eq_descend, hparts] at hwalk
    cases hwalk
    exfalso
    apply hdirectory
    rw [Path.start]
    split
    · rfl
    · exact hstore.cwd_directory
  · rw [walk_eq_descend, hparts] at hwalk
    obtain ⟨directory, hparent, hstep⟩ := descend_concat_eq_ok_iff.mp hwalk
    obtain ⟨hentry, rfl⟩ := step_eq_ok_iff.mp hstep
    -- A path that ends in `..` leads to a directory.
    have hname : name ≠ ".." := by
      intro hup
      apply hdirectory
      rw [Place.step, if_pos hup]
      exact hstore.dropLast_directory hentry
    refine ⟨directory, name, ?_, ?_, ?_⟩
    · rw [Place.step, if_neg hname]
    · rw [Path.name, hparts, List.getLast?_concat, Option.getD_some]
    · rw [walk_eq_descend, Path.parent, hparts, List.dropLast_concat]
      exact hparent

end FileStore

end JuceBuild
