import JuceBuild.Proofs.FileGroup.Runs

/-!
# The texts of file groups

Whatever holds of all names and paths in a tree of files holds of the names and paths in its runs,
since a run puts together what stands in the tree and makes up nothing.
-/

namespace JuceBuild

mutual

/-- All names of groups and paths of files in a member have a property. -/
def GroupItem.All (p : String → Prop) : GroupItem → Prop
  | .file entry => p entry.path
  | .group name items => p name ∧ GroupItem.AllOf p items

def GroupItem.AllOf (p : String → Prop) : List GroupItem → Prop
  | [] => True
  | item :: rest => GroupItem.All p item ∧ GroupItem.AllOf p rest

end

def Group.All (p : String → Prop) (group : Group) : Prop :=
  p group.name ∧ GroupItem.AllOf p group.items

namespace FileGroup

variable {p : String → Prop}

/-- All names and paths of a run have a property. -/
def Run.All (p : String → Prop) (run : Run) : Prop :=
  (∀ name ∈ run.names, p name) ∧ ∀ entry ∈ run.entries, p entry.path

theorem all_of_mem_runs {names : List String} {items : List GroupItem}
    (hnames : ∀ name ∈ names, p name) (hitems : GroupItem.AllOf p items) :
    ∀ run ∈ runs names items, run.All p := by
  match items with
  | [] =>
      intro run hrun
      rw [runs_nil, List.mem_singleton] at hrun
      rw [hrun]
      exact ⟨hnames, nofun⟩
  | .file entry :: rest =>
      rw [GroupItem.AllOf, GroupItem.All] at hitems
      have hrest := all_of_mem_runs hnames hitems.2
      obtain ⟨first, more, hruns⟩ := List.exists_cons_of_ne_nil (runs_ne_nil names rest)
      intro run hrun
      rw [hruns] at hrest
      rw [runs_file, hruns, List.modifyHead_cons, List.mem_cons] at hrun
      rcases hrun with rfl | hrun
      · obtain ⟨hfirst, hentries⟩ := hrest first List.mem_cons_self
        refine ⟨hfirst, fun other hother => ?_⟩
        rw [Run.after, List.singleton_append, List.mem_cons] at hother
        rcases hother with rfl | hother
        · exact hitems.1
        · exact hentries other hother
      · exact hrest run (List.mem_cons_of_mem first hrun)
  | .group name inside :: rest =>
      rw [GroupItem.AllOf, GroupItem.All] at hitems
      obtain ⟨⟨hname, hinside⟩, hafter⟩ := hitems
      have hdeeper : ∀ other ∈ names ++ [name], p other := by
        intro other hother
        rw [List.mem_append, List.mem_singleton] at hother
        rcases hother with hother | rfl
        · exact hnames other hother
        · exact hname
      intro run hrun
      rw [runs_group, List.mem_cons, List.mem_append] at hrun
      rcases hrun with rfl | hrun | hrun
      · exact ⟨hnames, nofun⟩
      · exact all_of_mem_runs hdeeper hinside run hrun
      · exact all_of_mem_runs hnames hafter run hrun

/-- Every file group of a tree is that of a run whose texts stand in the tree. -/
theorem exists_run_of_mem_ofGroup {group : Group} (hgroup : group.All p) {fileGroup : FileGroup}
    (hmem : fileGroup ∈ ofGroup group) : ∃ run : Run, run.All p ∧ run.fileGroup = fileGroup := by
  rw [ofGroup_eq_ofRuns_runs, ofRuns, List.mem_map] at hmem
  obtain ⟨run, hrun, rfl⟩ := hmem
  have hname : ∀ name ∈ [group.name], p name := by
    intro name hname
    rw [List.mem_singleton.mp hname]
    exact hgroup.1
  exact ⟨run, all_of_mem_runs hname hgroup.2 run (List.mem_filter.mp hrun).1, rfl⟩

theorem path_of_mem_map_filter {run : Run} (hrun : run.All p) {q : FileEntry → Bool} :
    ∀ path ∈ (run.entries.filter q).map (·.path), p path := by
  intro path hpath
  obtain ⟨entry, hentry, rfl⟩ := List.mem_map.mp hpath
  exact hrun.2 entry (List.mem_filter.mp hentry).1

end FileGroup

end JuceBuild
