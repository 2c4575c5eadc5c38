import JuceBuild.Proofs.CommandLine.Flags
import JuceBuild.Proofs.CommandLine.Order
import JuceBuild.Proofs.CommandLine.Report
import JuceBuild.Proofs.Conversion.Rerun

/-!
# Status, streams and files

The status of a run, what it prints on either stream and what it does to the files go together. A
run with the status one has printed an error and nothing else, and has left the files alone. A run
with the status zero has printed no error, and either it was asked for a text and has printed it, or
it has carried a conversion out and printed a report if it was asked for one.
-/

namespace JuceBuild.CommandLine

variable {level : PatchLevel} {store after : FileStore} {words : List String} {outcome : Outcome}

/-- Two stores with the same content but for the place that a path leads to. -/
def DiffersOnlyAt (store after : FileStore) (path : Path) : Prop :=
  after.cwd = store.cwd ∧ ∃ place, store.walk path = .ok place
    ∧ ∀ other, other ≠ place → after.entryAt? other = store.entryAt? other

/-- An error is all that is printed. -/
structure Outcome.Refuses (outcome : Outcome) : Prop where
  status_eq : outcome.status = 1
  output_eq : outcome.output = ""
  errors_ne : outcome.errors ≠ ""

/-- A text is printed that the words ask for, whatever the files are. -/
def Tells (level : PatchLevel) (words : List String) (outcome : Outcome) : Prop :=
  Request.ofWords words level = .ok .help ∧ outcome.output = unlines help
    ∨ Request.ofWords words level = .ok .version ∧ outcome.output = unlines [version]

/-- The conversion that the words ask for has been carried out, and reported if they say so. -/
def Converts (level : PatchLevel) (store : FileStore) (words : List String) (outcome : Outcome)
    (after : FileStore) : Prop :=
  ∃ project reprojucer? options result, Asks level words project reprojucer? options
    ∧ convert store (settingsOf project reprojucer? options) = .ok (result, after)
    ∧ DiffersOnlyAt store after ((settingsOf project reprojucer? options).outputPath store.cwd)
    ∧ (outcome.output = "" ↔ ¬Gives words .verbose)

/-! ### What is printed -/

theorem unlines_ne_empty (lines : List String) : unlines lines ≠ "" := by
  intro hempty
  have hchars := congrArg String.toList hempty
  simp [unlines] at hchars

theorem refuses_failure (lines : List String) : (Outcome.failure lines).Refuses :=
  ⟨rfl, rfl, unlines_ne_empty lines⟩

theorem output_success_eq_empty_iff (lines : List String) :
    (Outcome.success lines).output = "" ↔ lines = [] := by
  rw [Outcome.success]
  cases lines with
  | nil => simp
  | cons line lines => simp [unlines_ne_empty]

/-! ### What is done to the files -/

theorem differsOnlyAt_of_convert {settings : ConversionSettings} {result : ConversionResult}
    (hconvert : convert store settings = .ok (result, after)) :
    DiffersOnlyAt store after (settings.outputPath store.cwd) := by
  rw [ConversionSettings.convert_eq] at hconvert
  obtain ⟨plan, hplan, heq⟩ := map_eq_ok_iff.mp hconvert
  cases heq
  obtain ⟨hproblems, project, hload, hscript, -⟩ := ConversionSettings.exists_of_plan hplan
  obtain ⟨-, hpath⟩ := ConversionSettings.isScript_of_script hproblems hload hscript
  have hwalk := ConversionSettings.walk_of_plan hplan
  rw [hpath] at hwalk
  exact ⟨rfl, plan.place, hwalk, fun other hother => store.entryAt?_insert_of_ne _ hother⟩

theorem runConversion_eq_ok {settings : ConversionSettings} {isVerbose : Bool}
    (hrun : runConversion store settings isVerbose = .ok (outcome, after)) :
    outcome.Refuses ∧ after = store
      ∨ ∃ result, convert store settings = .ok (result, after)
        ∧ outcome = .success (if isVerbose then report settings result else []) := by
  rw [runConversion, ConversionSettings.run_perform] at hrun
  rw [ConversionSettings.convert_eq]
  cases hplan : settings.plan store with
  | error failure =>
      rw [hplan] at hrun
      dsimp only at hrun
      split at hrun
      · cases hrun
      · cases hrun
        exact .inl ⟨refuses_failure _, rfl⟩
  | ok plan =>
      rw [hplan] at hrun
      cases hrun
      exact .inr ⟨plan.result, rfl, rfl⟩

/-! ### Runs -/

variable {project : String} {reprojucer? : Option String} {options : Options}

theorem converts_of_asks {result : ConversionResult}
    (hasks : Asks level words project reprojucer? options)
    (hconvert : convert store (settingsOf project reprojucer? options) = .ok (result, after)) :
    Converts level store words (.success (if options.isVerbose
      then report (settingsOf project reprojucer? options) result else [])) after := by
  refine ⟨project, reprojucer?, options, result, hasks, hconvert,
    differsOnlyAt_of_convert hconvert, ?_⟩
  have hverbose : options.isVerbose = true ↔ Gives words .verbose :=
    isOn_iff_gives (.inr rfl) hasks.1
  rw [output_success_eq_empty_iff, ← hverbose]
  split
  · rename_i hon
    simp [hon, report]
  · rename_i hoff
    simp [hoff]

/-- A conversion that gets too many files or too few is refused without a look at the files. -/
theorem exists_refuses_of_ne
    (hwords : Request.ofWords words level = .ok (.convert project reprojucer? options))
    (hform : options.forJuce6 ≠ reprojucer?.isNone) :
    ∃ outcome, outcome.Refuses ∧ ∀ store, run store words level = .ok (outcome, store) := by
  cases reprojucer? with
  | none =>
      rw [Option.isNone_none, ne_eq, Bool.not_eq_true] at hform
      refine ⟨.failure (usage ++ ["error: the following arguments are required: reprojucer_file"]),
        refuses_failure _, ?_⟩
      intro store
      rw [run, hwords]
      simp only [hform]
  | some reprojucer =>
      rw [Option.isNone_some, ne_eq, Bool.not_eq_false] at hform
      refine ⟨.failure (usage ++ ["error: a Reprojucer.cmake file cannot be used with --juce6"]),
        refuses_failure _, ?_⟩
      intro store
      rw [run, hwords]
      simp only [hform]

theorem run_eq_ok (hrun : run store words level = .ok (outcome, after)) :
    outcome.Refuses ∧ after = store
      ∨ outcome.status = 0 ∧ outcome.errors = ""
        ∧ (Tells level words outcome ∧ after = store
            ∨ Converts level store words outcome after) := by
  cases hwords : Request.ofWords words level with
  | error e =>
      rw [run, hwords] at hrun
      cases hrun
      exact .inl ⟨refuses_failure _, rfl⟩
  | ok request =>
      cases request with
      | help =>
          rw [run, hwords] at hrun
          cases hrun
          exact .inr ⟨rfl, rfl, .inl ⟨.inl ⟨hwords, rfl⟩, rfl⟩⟩
      | version =>
          rw [run, hwords] at hrun
          cases hrun
          exact .inr ⟨rfl, rfl, .inl ⟨.inr ⟨hwords, rfl⟩, rfl⟩⟩
      | convert project reprojucer? options =>
          by_cases hform : options.forJuce6 = reprojucer?.isNone
          · have hasks : Asks level words project reprojucer? options := ⟨hwords, hform⟩
            rw [run_of_asks hasks] at hrun
            obtain hrefuses | ⟨result, hconvert, rfl⟩ := runConversion_eq_ok hrun
            · exact .inl hrefuses
            · exact .inr ⟨rfl, rfl, .inr (converts_of_asks hasks hconvert)⟩
          · obtain ⟨refusal, hrefuses, hsame⟩ := exists_refuses_of_ne hwords hform
            rw [hsame store] at hrun
            cases hrun
            exact .inl ⟨hrefuses, rfl⟩

/-- **Status, streams and files agree.** A run that ends with a status has the status zero or one.
With one it has printed an error only and the files are as before; with zero it has printed no
error, and it has told a text or made a conversion. Words that name a second file for JUCE 6, or
none otherwise, are refused whatever the files are. -/
theorem run_streams (store : FileStore) (words : List String) (level : PatchLevel) :
    (∀ outcome after, run store words level = .ok (outcome, after) →
      (outcome.status = 0 ∨ outcome.status = 1)
        ∧ (outcome.status = 1 → after = store ∧ outcome.output = "" ∧ outcome.errors ≠ "")
        ∧ (outcome.status = 0 → outcome.errors = ""
          ∧ (Tells level words outcome ∧ after = store
            ∨ Converts level store words outcome after)))
      ∧ ∀ project reprojucer? options,
        Request.ofWords words level = .ok (.convert project reprojucer? options) →
        (Gives words .juce6 ↔ reprojucer?.isSome = true) →
        ∃ outcome, outcome.Refuses ∧ ∀ other, run other words level = .ok (outcome, other) := by
  constructor
  · intro outcome after hrun
    obtain ⟨hrefuses, hafter⟩ | ⟨hstatus, herrors, hends⟩ := run_eq_ok hrun
    · refine ⟨.inr hrefuses.status_eq, fun _ => ?_, fun hstatus => ?_⟩
      · exact ⟨hafter, hrefuses.output_eq, hrefuses.errors_ne⟩
      · rw [hrefuses.status_eq] at hstatus
        cases hstatus
    · refine ⟨.inl hstatus, fun hone => ?_, fun _ => ⟨herrors, hends⟩⟩
      rw [hstatus] at hone
      cases hone
  · intro project reprojucer? options hwords hform
    have hjuce6 : options.forJuce6 = true ↔ Gives words .juce6 :=
      isOn_iff_gives (.inl rfl) hwords
    refine exists_refuses_of_ne hwords fun heq => ?_
    rw [← hjuce6, heq] at hform
    cases reprojucer? <;> simp at hform

theorem run_streams_shared :
    let words := ["-v", "App.jucer", "./CMakeLists.txt"]
    let mismatched := ["--juce6", "App.jucer", "./CMakeLists.txt"]
    ∃ outcome after, run ConversionSettings.sharedStore words .late = .ok (outcome, after)
      ∧ outcome.status = 0 ∧ outcome.errors = ""
      ∧ Converts .late ConversionSettings.sharedStore words outcome after
      ∧ ∃ refusal : Outcome, refusal.Refuses
        ∧ ∀ other, run other mismatched .late = .ok (refusal, other) := by
  intro words mismatched
  let app : Operand := ⟨"App.jucer", by decide⟩
  let reprojucer : Operand := ⟨"./CMakeLists.txt", by decide⟩
  have hwords : Request.ofWords words .late
      = .ok (.convert "App.jucer" (some "./CMakeLists.txt") ⟨false, true, none⟩) :=
    ofWords_words ⟨[.verboseShort], []⟩ app (some reprojucer) .late
  have hrefused : Request.ofWords mismatched .late
      = .ok (.convert "App.jucer" (some "./CMakeLists.txt") ⟨true, false, none⟩) :=
    ofWords_words ⟨[.juce6], []⟩ app (some reprojucer) .late
  have hgives : Gives mismatched .juce6 := (isOn_iff_gives (.inl rfl) hrefused).mp rfl
  obtain ⟨result, after, hperform⟩ := ConversionSettings.exists_run_shared
  have hrun : run ConversionSettings.sharedStore words .late
      = .ok (.success (report ConversionSettings.sharedSettings result), after) := by
    rw [run_of_asks ⟨hwords, rfl⟩, runConversion]
    have hsettings : settingsOf "App.jucer" (some "./CMakeLists.txt") ⟨false, true, none⟩
        = ConversionSettings.sharedSettings := rfl
    rw [hsettings, hperform]
    rfl
  obtain ⟨hends, -⟩ := run_streams ConversionSettings.sharedStore words .late
  obtain ⟨-, hmismatch⟩ := run_streams ConversionSettings.sharedStore mismatched .late
  obtain ⟨-, -, hzero⟩ := hends _ _ hrun
  obtain ⟨herrors, ⟨htells, -⟩ | hconverts⟩ := hzero rfl
  · rw [Tells, hwords] at htells
    simp at htells
  · refine ⟨_, after, hrun, rfl, herrors, hconverts, ?_⟩
    exact hmismatch _ _ _ hrefused (by simp [hgives])

end JuceBuild.CommandLine
