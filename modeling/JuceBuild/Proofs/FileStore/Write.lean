import JuceBuild.Proofs.FileStore.Walk

/-!
# Writing a file

Writing opens a file first, which empties it or makes it, and then puts the content into it. Only
the opening can fail, and it fails before it changes anything: so writing either puts one entry into
the store, at a place that is known beforehand, or leaves the store alone.
-/

namespace JuceBuild.FileStore

variable (store : FileStore) {place other : Place}

/-! ### Entries -/

theorem lookup_filter_ne (entries : List (Place × Entry)) (hne : other ≠ place) :
    (entries.filter (·.1 ≠ place)).lookup other = entries.lookup other := by
  induction entries with
  | nil => rfl
  | cons head rest ih =>
      rw [List.filter_cons]
      split
      · rw [List.lookup_cons, List.lookup_cons, ih]
      · rename_i hhead
        have hplace : head.1 = place := by simpa using hhead
        rw [ih, List.lookup_cons, hplace, beq_false_of_ne hne]

theorem entryAt?_insert_of_ne (entry : Entry) (hne : other ≠ place) :
    (store.insert place entry).entryAt? other = store.entryAt? other := by
  rw [entryAt?, entryAt?, insert, List.lookup_cons, beq_false_of_ne hne]
  simp only [lookup_filter_ne store.entries hne]

theorem entryAt?_insert_self (entry : Entry) (hplace : place ≠ []) :
    (store.insert place entry).entryAt? place = some entry := by
  rw [entryAt?, insert, if_neg hplace, List.lookup_cons, beq_self_eq_true]

theorem insert_insert (entry entry' : Entry) :
    (store.insert place entry).insert place entry' = store.insert place entry' := by
  simp [insert]

theorem ne_nil_of_entryAt?_ne_directory (hplace : store.entryAt? place ≠ some .directory) :
    place ≠ [] := by
  rintro rfl
  exact hplace rfl

/-! ### Writing -/

/-- The place of the file that is opened for writing where a path leads to. -/
def writablePlace (path : Path) : Except FileError Place :=
  match store.walk path with
  | .error reason => .error reason
  | .ok place =>
    match store.entryAt? place with
    | some .directory => .error .isDirectory
    | _ => .ok place

variable {store} {path : Path}

theorem writablePlace_eq_ok_iff :
    store.writablePlace path = .ok place
      ↔ store.walk path = .ok place ∧ store.entryAt? place ≠ some .directory := by
  rw [writablePlace]
  cases store.walk path with
  | error reason => simp
  | ok target =>
      rw [Except.ok.injEq]
      dsimp only
      constructor
      · intro hplace
        split at hplace
        · cases hplace
        · rename_i hentry
          cases hplace
          exact ⟨rfl, hentry⟩
      · rintro ⟨rfl, hentry⟩
        split
        · rename_i hdirectory
          exact absurd hdirectory hentry
        · rfl

theorem run_liftExcept {ε α : Type} (outcome : Except ε α) (store : FileStore) :
    (liftExcept outcome : FileAction ε α).run store
      = match outcome with
        | .ok value => .ok value store
        | .error reason => .error reason store := by
  cases outcome <;> rfl

theorem run_openEmpty (store : FileStore) (path : Path) :
    (openEmpty path).run store
      = match store.writablePlace path with
        | .ok place => .ok place (store.insert place (.file .empty))
        | .error reason => .error reason store := by
  rw [openEmpty, EStateM.run_bind, EStateM.run_get]
  simp only [EStateM.run_bind, run_liftExcept, writablePlace]
  cases store.walk path with
  | error reason => rfl
  | ok place =>
      cases hentry : store.entryAt? place with
      | none => simp only [hentry]; rfl
      | some entry => cases entry <;> simp only [hentry] <;> rfl

/-- **Writing is decided before it starts.** Either the path leads to a place for a file, and the
store gets that one entry, or nothing is done. -/
theorem run_write (store : FileStore) (path : Path) (content : ByteArray) :
    (write path content).run store
      = match store.writablePlace path with
        | .ok place => .ok () (store.insert place (.file content))
        | .error reason => .error reason store := by
  rw [write, EStateM.run_bind, run_openEmpty]
  cases hplace : store.writablePlace path with
  | error reason => rfl
  | ok place =>
      have hnil := store.ne_nil_of_entryAt?_ne_directory (writablePlace_eq_ok_iff.mp hplace).2
      simp only [append, EStateM.run_modify, entryAt?_insert_self store _ hnil, insert_insert,
        ByteArray.empty_append]

/-! ### What a write leaves as it was -/

/-- Walks pass through directories only, so two stores with the same directories have the same walks
that succeed. -/
theorem descend_of_directories {other : FileStore}
    (hdirectories : ∀ place, store.entryAt? place = some .directory
      → other.entryAt? place = some .directory)
    {start target : Place} {parts : List String}
    (hdescend : store.descend start parts = .ok target) :
    other.descend start parts = .ok target := by
  induction parts generalizing start with
  | nil => exact hdescend
  | cons part parts ih =>
      obtain ⟨next, hstep, hnext⟩ := descend_cons_eq_ok_iff.mp hdescend
      obtain ⟨hdirectory, hplace⟩ := step_eq_ok_iff.mp hstep
      refine descend_cons_eq_ok_iff.mpr ⟨next, ?_, ih hnext⟩
      exact step_eq_ok_iff.mpr ⟨hdirectories start hdirectory, hplace⟩

/-- A file at a place that is no directory leaves the directories as they were. -/
theorem entryAt?_insert_file_eq_directory_iff (hplace : store.entryAt? place ≠ some .directory)
    (content : ByteArray) :
    (store.insert place (.file content)).entryAt? other = some .directory
      ↔ store.entryAt? other = some .directory := by
  by_cases hother : other = place
  · subst hother
    rw [entryAt?_insert_self store _ (store.ne_nil_of_entryAt?_ne_directory hplace)]
    exact iff_of_false nofun hplace
  · rw [entryAt?_insert_of_ne store _ hother]

/-- A walk that succeeds is not turned aside by a file at a place that is no directory, and none
that fails is helped by it. -/
theorem walk_insert_file_eq_ok_iff (hplace : store.entryAt? place ≠ some .directory)
    (content : ByteArray) {target : Place} :
    (store.insert place (.file content)).walk path = .ok target ↔ store.walk path = .ok target := by
  have hdirectories (other : Place) :
      (store.insert place (.file content)).entryAt? other = some .directory
        ↔ store.entryAt? other = some .directory :=
    entryAt?_insert_file_eq_directory_iff hplace content
  constructor
  · exact descend_of_directories fun other => (hdirectories other).mp
  · exact descend_of_directories fun other => (hdirectories other).mpr

/-- A file that was written is read back. -/
theorem read_insert_file (hplace : store.writablePlace path = .ok place) (content : ByteArray) :
    (store.insert place (.file content)).read path = .ok content := by
  obtain ⟨hwalk, hentry⟩ := writablePlace_eq_ok_iff.mp hplace
  have hnil := store.ne_nil_of_entryAt?_ne_directory hentry
  have hwalk' := (walk_insert_file_eq_ok_iff hentry content).mpr hwalk
  simp only [read, find, hwalk', entryAt?_insert_self store _ hnil]

/-- What a walk finds elsewhere is as it was. -/
theorem read_insert_file_eq_ok_iff (hplace : store.entryAt? place ≠ some .directory)
    {written content : ByteArray} (hpath : store.walk path ≠ .ok place) :
    (store.insert place (.file written)).read path = .ok content
      ↔ store.read path = .ok content := by
  rw [read_eq_ok_iff, read_eq_ok_iff]
  refine exists_congr fun target => ?_
  rw [walk_insert_file_eq_ok_iff hplace]
  refine and_congr_right fun hwalk => ?_
  rw [entryAt?_insert_of_ne]
  rintro rfl
  exact hpath hwalk

end JuceBuild.FileStore
