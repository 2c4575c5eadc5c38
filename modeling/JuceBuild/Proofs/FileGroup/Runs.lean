import JuceBuild.FileGroup

/-!
# File groups as runs of files

The walk through a tree of files keeps a stack of names, a list of complete file groups and one that
is being filled. What it finds can be said without any of them: the members of a group are cut at
every subgroup, the files between two cuts make one run, and every run that has a file becomes a
file group.

The invariant ties the two. The file group being filled is always the one of some run that has not
ended yet, under the names on the stack, and a stretch of members adds the file groups of its runs,
the first of them joined to the run that was open, and leaves the stack as it was.
-/

namespace JuceBuild.FileGroup

/-- Files that stand next to each other in a group, and the names of the groups around them, the
outermost first. -/
structure Run where
  names : List String
  entries : List FileEntry

/-- The file of a member that is one. -/
def fileOf? : GroupItem → Option FileEntry
  | .file entry => some entry
  | .group .. => none

theorem sizeOf_dropWhile_le (p : GroupItem → Bool) (items : List GroupItem) :
    sizeOf (items.dropWhile p) ≤ sizeOf items := by
  induction items with
  | nil => simp
  | cons item rest ih =>
      rw [List.dropWhile_cons]
      split
      · exact Nat.le_trans ih (by simp)
      · exact Nat.le_refl _

/-- The runs of a group, in the order of a walk that goes into every subgroup where it stands: the
longest run of files that the members begin with, then the runs of the subgroup that ends it, then
the runs of what is left. -/
def runs (names : List String) (items : List GroupItem) : List Run :=
  ⟨names, (items.takeWhile fun item => (fileOf? item).isSome).filterMap fileOf?⟩ ::
    match _h : items.dropWhile fun item => (fileOf? item).isSome with
    | .group name members :: rest => runs (names ++ [name]) members ++ runs names rest
    | _ => []
termination_by sizeOf items
decreasing_by
  all_goals
    have := sizeOf_dropWhile_le (fun item => (fileOf? item).isSome) items
    simp only [_h, List.cons.sizeOf_spec, GroupItem.group.sizeOf_spec] at this
    omega

namespace Run

def fileGroup (run : Run) : FileGroup where
  fullName := Text.join "/" run.names
  files := (run.entries.filter (!·.isResource)).map (·.path)
  headerOnly := ((run.entries.filter (!·.isResource)).filter (·.isHeaderOnly)).map (·.path)
  resources := (run.entries.filter (·.isResource)).map (·.path)

/-- The run after more files in front. -/
def after (earlier : List FileEntry) (run : Run) : Run :=
  { run with entries := earlier ++ run.entries }

/-- The run inside one more group, outside all others. -/
def below (name : String) (run : Run) : Run := { run with names := name :: run.names }

end Run

/-- The file groups of the runs that have a file. -/
def ofRuns (found : List Run) : List FileGroup :=
  (found.filter (!·.entries.isEmpty)).map Run.fileGroup

theorem ofRuns_append (left right : List Run) :
    ofRuns (left ++ right) = ofRuns left ++ ofRuns right := by
  rw [ofRuns, List.filter_append, List.map_append, ofRuns, ofRuns]

/-! ### The runs by the first member -/

theorem runs_nil (names : List String) : runs names [] = [⟨names, []⟩] := by
  rw [runs]
  rfl

theorem runs_file (names : List String) (entry : FileEntry) (rest : List GroupItem) :
    runs names (.file entry :: rest) = (runs names rest).modifyHead (Run.after [entry]) := by
  rw [runs, runs, List.modifyHead_cons]
  rfl

theorem runs_group (names : List String) (name : String) (members rest : List GroupItem) :
    runs names (.group name members :: rest)
      = ⟨names, []⟩ :: (runs (names ++ [name]) members ++ runs names rest) := by
  rw [runs]
  rfl

theorem runs_ne_nil (names : List String) (items : List GroupItem) : runs names items ≠ [] := by
  rw [runs]
  exact List.cons_ne_nil _ _

theorem modifyHead_append_of_ne_nil (f : Run → Run) {left : List Run} (hleft : left ≠ [])
    (right : List Run) :
    (left ++ right).modifyHead f = left.modifyHead f ++ right := by
  obtain ⟨run, left, rfl⟩ := List.exists_cons_of_ne_nil hleft
  rfl

/-- **Runs end at a subgroup.** Whatever stands around it, a subgroup puts its own runs between
those of the members before it and those of the members after it. -/
theorem runs_append_group (names : List String) (before : List GroupItem) (name : String)
    (members after : List GroupItem) :
    runs names (before ++ .group name members :: after)
      = runs names before ++ runs (names ++ [name]) members ++ runs names after := by
  induction before with
  | nil => rw [List.nil_append, runs_group, runs_nil, List.append_assoc, List.singleton_append]
  | cons item before ih =>
      cases item with
      | file entry =>
          rw [List.cons_append, runs_file, ih, runs_file, List.append_assoc,
            modifyHead_append_of_ne_nil _ (runs_ne_nil names before), List.append_assoc]
      | group inner innerMembers =>
          rw [List.cons_append, runs_group, ih, runs_group]
          simp only [List.cons_append, List.append_assoc]

/-! ### The walk finds the runs -/

theorem ofRuns_singleton (run : Run) :
    ofRuns [run] = if run.fileGroup.isEmpty then [] else [run.fileGroup] := by
  cases hentries : run.entries with
  | nil => simp [ofRuns, Run.fileGroup, isEmpty, hentries]
  | cons entry rest =>
      cases hresource : entry.isResource <;>
        simp [ofRuns, Run.fileGroup, isEmpty, hentries, hresource]

theorem add_fileGroup (names : List String) (entries : List FileEntry) (entry : FileEntry) :
    (Run.fileGroup ⟨names, entries⟩).add entry = Run.fileGroup ⟨names, entries ++ [entry]⟩ := by
  cases hresource : entry.isResource with
  | true => simp [add, Run.fileGroup, hresource]
  | false =>
      cases hheader : entry.isHeaderOnly <;> simp [add, Run.fileGroup, hresource, hheader]

theorem modifyHead_after_nil (found : List Run) : found.modifyHead (Run.after []) = found := by
  cases found <;> rfl

theorem modifyHead_after_after (earlier later : List FileEntry) (found : List Run) :
    (found.modifyHead (Run.after later)).modifyHead (Run.after earlier)
      = found.modifyHead (Run.after (earlier ++ later)) := by
  cases found with
  | nil => rfl
  | cons run found => simp [Run.after]

namespace Walk

/-- The walk with the file groups of more runs. -/
def afterRuns (walk : Walk) (found : List Run) : Walk :=
  { walk with complete := walk.complete ++ ofRuns found }

theorem afterRuns_afterRuns (walk : Walk) (found more : List Run) :
    (walk.afterRuns found).afterRuns more = walk.afterRuns (found ++ more) := by
  simp only [afterRuns, ofRuns_append, List.append_assoc]

theorem flush_fileGroup (walk : Walk) (run : Run) :
    walk.flush run.fileGroup = walk.afterRuns [run] := by
  rw [flush, afterRuns, ofRuns_singleton]
  split
  · rw [List.append_nil]
  · rfl

theorem member_file (walk : Walk) (entries : List FileEntry) (entry : FileEntry) :
    walk.member (Run.fileGroup ⟨walk.names, entries⟩) (.file entry)
      = (walk, Run.fileGroup ⟨walk.names, entries ++ [entry]⟩) := by
  rw [member, add_fileGroup]

theorem newGroup_eq_fileGroup (walk : Walk) : walk.newGroup = Run.fileGroup ⟨walk.names, []⟩ := rfl

/-- A subgroup ends the open run, adds its own runs and opens a run without files, and the names are
what they were before it. -/
theorem member_group (walk : Walk) (entries : List FileEntry) (name : String)
    (items : List GroupItem)
    (hitems : ∀ inside : Walk, inside.members (Run.fileGroup ⟨inside.names, []⟩) items
      = inside.afterRuns ((runs inside.names items).modifyHead (Run.after []))) :
    walk.member (Run.fileGroup ⟨walk.names, entries⟩) (.group name items)
      = (walk.afterRuns (⟨walk.names, entries⟩ :: runs (walk.names ++ [name]) items),
          Run.fileGroup ⟨walk.names, []⟩) := by
  rw [member, flush_fileGroup, newGroup_eq_fileGroup, hitems, modifyHead_after_nil]
  simp only [enter, afterRuns, leave, List.dropLast_concat, List.append_assoc, ← ofRuns_append]
  rfl

/-- **The walk finds the runs.** Members add the file groups of their runs, the first of which
starts with the files of the run that was open. -/
theorem members_fileGroup (walk : Walk) (entries : List FileEntry) (items : List GroupItem) :
    walk.members (Run.fileGroup ⟨walk.names, entries⟩) items
      = walk.afterRuns ((runs walk.names items).modifyHead (Run.after entries)) := by
  match items with
  | [] =>
      rw [members, flush_fileGroup, runs_nil, List.modifyHead_cons, Run.after, List.append_nil]
  | .file entry :: rest =>
      rw [members, member_file, runs_file, modifyHead_after_after]
      exact members_fileGroup walk (entries ++ [entry]) rest
  | .group name inside :: rest =>
      -- Inside the subgroup no file is open yet, and behind it none is any more.
      have hinside := fun deeper : Walk => members_fileGroup deeper [] inside
      have hrest := members_fileGroup
        (walk.afterRuns (⟨walk.names, entries⟩ :: runs (walk.names ++ [name]) inside)) [] rest
      rw [modifyHead_after_nil, afterRuns_afterRuns] at hrest
      rw [members, member_group walk entries name inside hinside, runs_group,
        List.modifyHead_cons, Run.after, List.append_nil]
      exact hrest

end Walk

/-! ### Names of enclosing groups -/

theorem runs_cons_name (outer : String) (names : List String) (items : List GroupItem) :
    runs (outer :: names) items = (runs names items).map (Run.below outer) := by
  match items with
  | [] => rw [runs_nil, runs_nil, List.map_cons, List.map_nil, Run.below]
  | .file entry :: rest =>
      rw [runs_file, runs_file, runs_cons_name outer names rest]
      cases runs names rest <;> rfl
  | .group name inside :: rest =>
      rw [runs_group, runs_group, runs_cons_name outer names rest, List.cons_append,
        runs_cons_name outer (names ++ [name]) inside, List.map_cons, List.map_append, Run.below]

theorem prefix_names_of_mem_runs {names : List String} {items : List GroupItem} {run : Run}
    (hrun : run ∈ runs names items) : names <+: run.names := by
  match items with
  | [] =>
      rw [runs_nil, List.mem_singleton] at hrun
      exact hrun ▸ List.prefix_refl names
  | .file entry :: rest =>
      rw [runs_file] at hrun
      obtain ⟨first, more, hruns⟩ := List.exists_cons_of_ne_nil (runs_ne_nil names rest)
      have hrest : ∀ {run}, run ∈ first :: more → names <+: run.names :=
        fun hmem => prefix_names_of_mem_runs (hruns ▸ hmem)
      rw [hruns, List.modifyHead_cons, List.mem_cons] at hrun
      rcases hrun with rfl | hrun
      · have hfirst : names <+: first.names := hrest List.mem_cons_self
        exact hfirst
      · exact hrest (List.mem_cons_of_mem _ hrun)
  | .group name inside :: rest =>
      rw [runs_group, List.mem_cons, List.mem_append] at hrun
      rcases hrun with rfl | hrun | hrun
      · exact List.prefix_refl names
      · exact (List.prefix_append names [name]).trans (prefix_names_of_mem_runs hrun)
      · exact prefix_names_of_mem_runs hrun

/-- The file group inside one more group, outside all others. -/
def below (name : String) (group : FileGroup) : FileGroup :=
  { group with fullName := name ++ "/" ++ group.fullName }

theorem fileGroup_below (name : String) {run : Run} (hnames : run.names ≠ []) :
    (run.below name).fileGroup = run.fileGroup.below name := by
  simp only [Run.fileGroup, Run.below, below, Text.join, String.intercalate_cons_of_ne_nil hnames]

theorem ofRuns_below (name : String) {found : List Run} (hnames : ∀ run ∈ found, run.names ≠ []) :
    ofRuns (found.map (Run.below name)) = (ofRuns found).map (below name) := by
  rw [ofRuns, List.filter_map, ofRuns, List.map_map, List.map_map]
  refine List.map_congr_left fun run hrun => ?_
  exact fileGroup_below name (hnames run (List.mem_filter.mp hrun).1)

/-! ### Flattening -/

theorem ofGroup_eq_ofRuns_runs (group : Group) :
    ofGroup group = ofRuns (runs [group.name] group.items) := by
  have hwalk := Walk.members_fileGroup ⟨[group.name], []⟩ [] group.items
  rw [modifyHead_after_nil] at hwalk
  rw [ofGroup, Walk.newGroup_eq_fileGroup, hwalk, Walk.afterRuns, List.nil_append]

/-- The file groups of a subgroup carry the name of the group around it. -/
theorem ofRuns_runs_below (name : String) (subgroup : Group) :
    ofRuns (runs [name, subgroup.name] subgroup.items) = (ofGroup subgroup).map (below name) := by
  have hnames : ∀ run ∈ runs [subgroup.name] subgroup.items, run.names ≠ [] := by
    intro run hrun hnil
    have hprefix := prefix_names_of_mem_runs hrun
    rw [hnil, List.prefix_nil] at hprefix
    exact List.cons_ne_nil _ _ hprefix
  rw [runs_cons_name, ofRuns_below name hnames, ofGroup_eq_ofRuns_runs]

/-- **Flattening cuts a tree into its runs.** The file groups of a tree are those of its runs of
files in the order of the walk, the runs without a file left out; so a subgroup contributes its own
file groups, under the name of the group around it, between those of the members on its two sides.
-/
theorem ofGroup_runs :
    (∀ group : Group,
      ofGroup group
        = ((runs [group.name] group.items).filter (!·.entries.isEmpty)).map Run.fileGroup)
      ∧ ∀ (name : String) (before after : List GroupItem) (subgroup : Group),
        ofGroup ⟨name, before ++ [.group subgroup.name subgroup.items] ++ after⟩
          = ofGroup ⟨name, before⟩ ++ (ofGroup subgroup).map (below name)
            ++ ofGroup ⟨name, after⟩ := by
  refine ⟨ofGroup_eq_ofRuns_runs, fun name before after subgroup => ?_⟩
  rw [ofGroup_eq_ofRuns_runs ⟨name, before⟩, ofGroup_eq_ofRuns_runs ⟨name, after⟩,
    ← ofRuns_runs_below, ofGroup_eq_ofRuns_runs, List.append_assoc, List.singleton_append,
    runs_append_group, ofRuns_append, ofRuns_append, List.singleton_append]

end JuceBuild.FileGroup
