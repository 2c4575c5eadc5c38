import JuceBuild.CommandLine.Run
import JuceBuild.Proofs.Conversion.Escape

/-!
# What the command reports

The command ends with a status, and says in a line of its own why it failed. It does so for whatever
its words are, unless they ask for a conversion that fails for a value: that failure is handed on to
the caller.
-/

namespace JuceBuild

namespace CommandLine

variable {store : FileStore} {settings : ConversionSettings}

/-- Words that ask for a conversion and give it the files that its form takes. -/
def Asks (level : PatchLevel) (words : List String) (project : String)
    (reprojucer? : Option String) (options : Options) : Prop :=
  Request.ofWords words level = .ok (.convert project reprojucer? options)
    ∧ options.forJuce6 = reprojucer?.isNone

/-- The beginnings of a line that says what is wrong. -/
def errorStarts : List String := ["error: ", "jucer2cmake: error: "]

/-- A status of its own for success and for failure, and for a failure a line that says so. -/
def Outcome.Reports (outcome : Outcome) : Prop :=
  outcome.status = 0 ∧ outcome.errors = ""
    ∨ outcome.status = 1 ∧ outcome.output = "" ∧ ∃ before line, before ∈ [[], usage]
      ∧ (∃ start ∈ errorStarts, start.toList <+: line.toList)
      ∧ outcome.errors = unlines (before ++ [line])

/-- A run ends with a report, or with a failure that a value causes. -/
def ReportsOrEscapes : Except Failure (Outcome × FileStore) → Prop
  | .ok (outcome, _) => outcome.Reports
  | .error failure => failure.kind = .value

theorem reports_success (lines : List String) : (Outcome.success lines).Reports :=
  .inl ⟨rfl, rfl⟩

theorem reports_failure {before : List String} {line : String} (hbefore : before ∈ [[], usage])
    (hline : ∃ start ∈ errorStarts, start.toList <+: line.toList) :
    (Outcome.failure (before ++ [line])).Reports :=
  .inr ⟨rfl, rfl, before, line, hbefore, hline, rfl⟩

theorem exists_start_append {opening : String} (hopening : opening ∈ errorStarts)
    (message : String) :
    ∃ start ∈ errorStarts, start.toList <+: (opening ++ message).toList := by
  refine ⟨opening, hopening, ?_⟩
  rw [String.toList_append]
  exact List.prefix_append _ _

theorem exists_runConversion_eq_error_iff {isVerbose : Bool} :
    (∃ failure, runConversion store settings isVerbose = .error failure)
      ↔ Escapes (convert store settings) := by
  rw [runConversion, convert]
  cases settings.perform.run store with
  | ok result after => simp [not_escapes_ok]
  | error failure after =>
      simp only [escapes_error_iff]
      split <;> simp_all

theorem reportsOrEscapes_runConversion (isVerbose : Bool) :
    ReportsOrEscapes (runConversion store settings isVerbose) := by
  rw [runConversion]
  cases settings.perform.run store with
  | ok result after => exact reports_success _
  | error failure after =>
      by_cases hkind : failure.kind = .value
      · simp only [if_pos hkind]
        exact hkind
      · simp only [if_neg hkind]
        have hline := exists_start_append List.mem_cons_self failure.message
        exact reports_failure List.mem_cons_self hline

variable {level : PatchLevel} {words : List String} {project : String}
  {reprojucer? : Option String} {options : Options}

theorem run_of_asks (hasks : Asks level words project reprojucer? options) :
    run store words level
      = runConversion store (settingsOf project reprojucer? options) options.isVerbose := by
  obtain ⟨hwords, hform⟩ := hasks
  rw [run, hwords]
  cases reprojucer? with
  | none => simp only [hform, Option.isNone_none]
  | some reprojucer => simp only [hform, Option.isNone_some]

theorem exists_run_of_not_asks (store : FileStore)
    (hasks : ∀ project reprojucer? options, ¬Asks level words project reprojucer? options) :
    ∃ outcome, run store words level = .ok (outcome, store) ∧ outcome.Reports := by
  have husage : usage ∈ [[], usage] := by simp
  rw [run]
  split
  · rename_i e hwords
    have hopening : "jucer2cmake: error: " ∈ errorStarts := by decide
    exact ⟨_, rfl, reports_failure husage (exists_start_append hopening e.message)⟩
  · exact ⟨_, rfl, reports_success help⟩
  · exact ⟨_, rfl, reports_success [version]⟩
  · rename_i project reprojucer? options hwords
    have hform : options.forJuce6 ≠ reprojucer?.isNone := fun hform =>
      hasks project reprojucer? options ⟨hwords, hform⟩
    cases reprojucer? with
    | none =>
        rw [Option.isNone_none, ne_eq, Bool.not_eq_true] at hform
        rw [hform]
        exact ⟨_, rfl, reports_failure husage ⟨"error: ", by decide, by decide⟩⟩
    | some reprojucer =>
        rw [Option.isNone_some, ne_eq, Bool.not_eq_false] at hform
        rw [hform]
        exact ⟨_, rfl, reports_failure husage ⟨"error: ", by decide, by decide⟩⟩

theorem exists_run_eq_error_iff :
    (∃ failure, run store words level = .error failure)
      ↔ ∃ project reprojucer? options, Asks level words project reprojucer? options
        ∧ Escapes (convert store (settingsOf project reprojucer? options)) := by
  by_cases hasks : ∃ project reprojucer? options, Asks level words project reprojucer? options
  · obtain ⟨project, reprojucer?, options, hasks⟩ := hasks
    rw [run_of_asks hasks, exists_runConversion_eq_error_iff]
    constructor
    · exact fun hescapes => ⟨project, reprojucer?, options, hasks, hescapes⟩
    · rintro ⟨project', reprojucer?', options', hasks', hescapes⟩
      cases hasks.1.symm.trans hasks'.1
      exact hescapes
  · push Not at hasks
    obtain ⟨outcome, hrun, -⟩ := exists_run_of_not_asks store hasks
    simp [hrun, hasks]

theorem reportsOrEscapes_run (store : FileStore) (words : List String) (level : PatchLevel) :
    ReportsOrEscapes (run store words level) := by
  by_cases hasks : ∃ project reprojucer? options, Asks level words project reprojucer? options
  · obtain ⟨project, reprojucer?, options, hasks⟩ := hasks
    rw [run_of_asks hasks]
    exact reportsOrEscapes_runConversion options.isVerbose
  · push Not at hasks
    obtain ⟨outcome, hrun, hreports⟩ := exists_run_of_not_asks store hasks
    rw [hrun]
    exact hreports

end CommandLine

/-! ### Exactly these -/

/-- **What is not reported.** A conversion fails for a value exactly if it has no problem in its
settings and stumbles over its document, and the command ends without a report exactly if such a
conversion is what its words ask for. -/
theorem escapes_iff_stumbles (store : FileStore) (settings : ConversionSettings)
    (words : List String) (level : CommandLine.PatchLevel) (octets : List UInt8) (text : String) :
    (Escapes (convert store settings)
        ↔ settings.problems store = [] ∧ settings.Stumbles store)
      ∧ ((∃ failure, CommandLine.run store words level = .error failure)
        ↔ ∃ project reprojucer? options, CommandLine.Asks level words project reprojucer? options
          ∧ (CommandLine.settingsOf project reprojucer? options).problems store = []
          ∧ (CommandLine.settingsOf project reprojucer? options).Stumbles store)
      ∧ CommandLine.ReportsOrEscapes (CommandLine.run store words level)
      ∧ ((∃ e, Xml.Node.ofOctets octets = .error e) ↔ Xml.DeclaresRefused octets)
      ∧ ((∃ e, Text.leadingInt text = .error e) ↔ Text.BeginsOversized text.toList) := by
  refine ⟨ConversionSettings.escapes_convert_iff, ?_,
    CommandLine.reportsOrEscapes_run store words level, Xml.exists_ofOctets_eq_error_iff,
    Text.exists_leadingInt_eq_error_iff⟩
  simp only [CommandLine.exists_run_eq_error_iff, ConversionSettings.escapes_convert_iff]

theorem escapes_encodedStore :
    Escapes (convert (encodedStore "shift_jis") encodedSettings)
      ∧ (∀ level, ∃ failure,
        CommandLine.run (encodedStore "shift_jis") ["--juce6", "App.jucer"] level = .error failure)
      ∧ (∃ e, Xml.Node.ofOctets (encodedDocument "shift_jis").data.toList = .error e)
      ∧ ∃ e, Text.leadingInt (String.ofList (List.replicate 4301 '1')) = .error e := by
  have hrefused : Xml.DeclaresRefused (encodedDocument "shift_jis").data.toList := by
    have hlower : "shift_jis".toLower = "shift_jis" := by decide +kernel
    refine ⟨⟨some "shift_jis", false⟩, "shift_jis", ?_, rfl, ?_, .inl ?_⟩
    · decide +kernel
    · rw [hlower]
      decide
    · decide +kernel
  have hescapes := escapes_convert_encodedStore hrefused
  refine ⟨hescapes, fun level => ?_, Xml.exists_ofOctets_eq_error_iff.mpr hrefused, ?_⟩
  · refine CommandLine.exists_run_eq_error_iff.mpr
      ⟨"App.jucer", none, ⟨true, false, none⟩, ⟨?_, rfl⟩, hescapes⟩
    cases level <;> decide +kernel
  · refine Text.exists_leadingInt_eq_error_iff.mpr ?_
    rw [String.toList_ofList]
    refine Text.beginsOversized_of_digits (fun c hc => ?_) ?_
    · rw [List.eq_of_mem_replicate hc]
      decide
    · rw [List.length_replicate]
      decide

end JuceBuild
