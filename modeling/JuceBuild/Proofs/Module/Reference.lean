import JuceBuild.Module.Reference
import JuceBuild.Proofs.FileStore.Walk
import JuceBuild.Proofs.Path.Text

/-!
# Module headers that are found

A module is resolved by reading its header, along a path that the project makes up. Module ids and
module paths are whatever a project says, with slashes, with `..` or absolute. What is fixed is how
the path of a header ends: its last component ends in `.h`. So a walk along it leads to a place of
such a name and nowhere else.
-/

namespace JuceBuild.ModuleReference

variable {store : FileStore} {directory : Path}

theorem resolve_eq_ok_iff {paths : List (String × String)} {id : String}
    {reference : ModuleReference} :
    resolve store paths directory id = .ok reference
      ↔ ∃ path content, paths.lookup id = some path
        ∧ store.read (headerPath id path directory) = .ok content
        ∧ ⟨id, path, ModuleHeader.options content⟩ = reference := by
  rw [resolve]
  cases hpath : paths.lookup id with
  | none => simp
  | some path =>
      simp only [scanHeader]
      cases hread : store.read (headerPath id path directory) with
      | error reason => simp [Except.map, hread]
      | ok content => simp [Except.map, hread]

theorem kind_of_resolveAll_eq_error {ids : List String} {paths : List (String × String)}
    {failure : Failure} (hmodules : resolveAll store ids paths directory = .error failure) :
    failure.kind = .moduleHeader := by
  obtain ⟨id, -, hresolve⟩ := exists_of_mapM_eq_error hmodules
  rw [resolve] at hresolve
  split at hresolve
  · cases hresolve
    rfl
  · rw [map_eq_error_iff, scanHeader] at hresolve
    split at hresolve
    · cases hresolve
      rfl
    · cases hresolve

/-- The modules that are resolved are those that were asked for, one for each id. -/
theorem map_id_of_resolveAll {ids : List String} {paths : List (String × String)}
    {modules : List ModuleReference}
    (hmodules : resolveAll store ids paths directory = .ok modules) : modules.map (·.id) = ids := by
  have hids : List.Forall₂ (fun id reference => id = reference.id) ids modules := by
    refine (mapM_eq_ok_iff.mp hmodules).imp fun id reference hresolve => ?_
    obtain ⟨path, content, -, -, rfl⟩ := resolve_eq_ok_iff.mp hresolve
    rfl
  rw [← List.forall₂_map_right_iff, List.forall₂_eq_eq_eq] at hids
  exact hids.symm

/-! ### The path of a header -/

/-- The end of a header's name. -/
def extension : List Char := ".h".toList

theorem exists_partsOf_header (id : String) :
    ∃ parts name, Path.partsOf (id ++ ".h").toList = parts ++ [name]
      ∧ extension <:+ name.toList := by
  obtain ⟨pieces, last, hpieces⟩ : ∃ pieces last,
      (id.toList ++ extension).splitOn '/' = pieces ++ [last ++ extension] :=
    Text.exists_splitOn_append id.toList (by decide)
  have hname : extension <:+ (String.ofList (last ++ extension)).toList := by
    rw [String.toList_ofList]
    exact List.suffix_append last extension
  have hempty : String.ofList (last ++ extension) ≠ "" := by
    intro hempty
    rw [hempty] at hname
    exact absurd hname (by decide)
  have hdot : String.ofList (last ++ extension) ≠ "." := by
    intro hdot
    rw [hdot] at hname
    exact absurd hname (by decide)
  have hchars : (id ++ ".h").toList = id.toList ++ extension := String.toList_append
  refine ⟨(pieces.map String.ofList).filter fun part => part ≠ "" && part ≠ ".", _, ?_, hname⟩
  rw [hchars, Path.partsOf_eq, hpieces, List.map_append, List.filter_append, List.map_singleton,
    List.filter_cons_of_pos, List.filter_nil]
  rw [Bool.and_eq_true, decide_eq_true_eq, decide_eq_true_eq]
  exact ⟨hempty, hdot⟩

/-- The path of a header ends in a name with the extension, whatever the project says. -/
theorem exists_parts_headerPath (id path : String) (directory : Path) :
    ∃ parts name, (headerPath id path directory).parts = parts ++ [name]
      ∧ extension <:+ name.toList := by
  obtain ⟨parts, name, hparts, hname⟩ := exists_partsOf_header id
  rw [headerPath, Path.join]
  split
  · exact ⟨parts, name, hparts, hname⟩
  · exact ⟨_, name, (congrArg _ hparts).trans (List.append_assoc _ _ _).symm, hname⟩

/-- A walk along the path of a header leads to a place whose name has the extension. -/
theorem exists_name_of_walk_headerPath {id path : String} {place : Place}
    (hwalk : store.walk (headerPath id path directory) = .ok place) :
    ∃ above name, place = above ++ [name] ∧ extension <:+ name.toList := by
  obtain ⟨parts, name, hparts, hname⟩ := exists_parts_headerPath id path directory
  rw [FileStore.walk_eq_descend, hparts] at hwalk
  obtain ⟨above, -, hstep⟩ := FileStore.descend_concat_eq_ok_iff.mp hwalk
  refine ⟨above, name, ?_, hname⟩
  have hup : name ≠ ".." := by
    rintro rfl
    exact absurd hname (by decide)
  rw [← (FileStore.step_eq_ok_iff.mp hstep).2, Place.step, if_neg hup]

end JuceBuild.ModuleReference
