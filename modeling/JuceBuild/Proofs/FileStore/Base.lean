import JuceBuild.Proofs.FileStore.Walk

/-!
# Paths seen from a directory

A path that is seen from an absolute one is the same as the path taken from the place that the
absolute one leads to, as a walk and as a lexical path. So how the absolute path is written does not
matter behind it.
-/

namespace JuceBuild

namespace Path

theorem join_of_isAbsolute (base : Path) {path : Path} (hpath : path.isAbsolute = true) :
    base.join path = path := by
  rw [join, if_pos hpath]

theorem join_of_not_isAbsolute (base : Path) {path : Path} (hpath : ¬path.isAbsolute = true) :
    base.join path = ⟨base.anchor, base.parts ++ path.parts⟩ := by
  rw [join, if_neg hpath]

theorem join_assoc (first second third : Path) :
    (first.join second).join third = first.join (second.join third) := by
  by_cases hthird : third.isAbsolute
  · rw [join_of_isAbsolute _ hthird, join_of_isAbsolute _ hthird, join_of_isAbsolute _ hthird]
  · rw [join_of_not_isAbsolute _ hthird, join_of_not_isAbsolute _ hthird]
    by_cases hsecond : second.isAbsolute
    · rw [join_of_isAbsolute _ hsecond, join_of_isAbsolute]
      exact hsecond
    · rw [join_of_not_isAbsolute _ hsecond, join_of_not_isAbsolute, List.append_assoc]
      exact hsecond

theorem collapse_join {base : Path} (hbase : base.isAbsolute = true) (path : Path) (cwd : Place) :
    (base.join path).collapse cwd = path.collapse (base.collapse cwd) := by
  by_cases hpath : path.isAbsolute
  · rw [join_of_isAbsolute _ hpath, collapse, collapse, start, start, if_pos hpath, if_pos hpath]
  · have hstart : start ⟨base.anchor, base.parts ++ path.parts⟩ cwd = [] := if_pos hbase
    rw [join_of_not_isAbsolute _ hpath, collapse, collapse, collapse, hstart, start, start,
      if_pos hbase, if_neg hpath, List.foldl_append]

end Path

namespace FileStore

/-- The store with another current directory. -/
def inDirectory (store : FileStore) (place : Place) : FileStore := { store with cwd := place }

/-- An absolute path that leads to a place. -/
structure Leads (store : FileStore) (path : Path) (place : Place) : Prop where
  absolute : path.isAbsolute = true
  walk_eq : store.walk path = .ok place

variable {store : FileStore} {base : Path} {place : Place}

theorem Leads.walk_join (hbase : store.Leads base place) (path : Path) :
    store.walk (base.join path) = (store.inDirectory place).walk path := by
  by_cases hpath : path.isAbsolute
  · rw [Path.join_of_isAbsolute _ hpath, walk_eq_descend, walk_eq_descend, Path.start, Path.start,
      if_pos hpath, if_pos hpath]
    rfl
  · have hstart : Path.start ⟨base.anchor, base.parts ++ path.parts⟩ store.cwd = [] :=
      if_pos hbase.absolute
    have hwalk := hbase.walk_eq
    rw [walk_eq_descend, Path.start, if_pos hbase.absolute] at hwalk
    rw [Path.join_of_not_isAbsolute _ hpath, walk_eq_descend, walk_eq_descend, hstart, Path.start,
      if_neg hpath, descend_append, hwalk]
    rfl

theorem Leads.read_join (hbase : store.Leads base place) (path : Path) :
    store.read (base.join path) = (store.inDirectory place).read path := by
  rw [read, read, find, find, hbase.walk_join]
  rfl

theorem Leads.collapse_join (hbase : store.Leads base place) (path : Path) :
    (base.join path).collapse store.cwd = path.collapse place := by
  rw [Path.collapse_join hbase.absolute, collapse_eq_of_walk hbase.walk_eq]

/-! ### Files -/

/-- The directory of a file is led to by the absolute path without its last component. -/
theorem WellFormed.leads_parent_absolute (hstore : store.WellFormed) {path : Path}
    {content : ByteArray}
    (hwalk : store.walk path = .ok place) (hentry : store.entryAt? place = some (.file content)) :
    ∃ directory name, place = directory ++ [name] ∧ (path.absolute store.cwd).name = name
      ∧ store.Leads (path.absolute store.cwd).parent directory := by
  have habsolute : (path.absolute store.cwd).isAbsolute = true := by
    rw [Path.absolute]
    split
    · assumption
    · rfl
  have hwalk' := (hstore.walk_absolute path).trans hwalk
  obtain ⟨directory, name, hplace, hname, hparent⟩ := hstore.exists_of_walk_file hwalk' hentry
  exact ⟨directory, name, hplace, hname, habsolute, hparent⟩

end FileStore

end JuceBuild
