import JuceBuild.Proofs.CommandLine.Report
import Mathlib.Data.List.Induction

/-!
# The order of options

Options may stand before the files that a command line names or after them. Where they stand makes
no difference, nor in which order, but for the output directories: of several the last one counts.
-/

namespace JuceBuild.CommandLine

/-- A text that does not look like an option. -/
structure Operand where
  text : String
  head?_ne : text.toList.head? ≠ some '-'

/-- An option as it may be written, with the value that goes with it. -/
inductive OptionGroup where
  | juce6
  | verboseShort
  | verboseLong
  | directoryShort (directory : Operand)
  | directoryLong (directory : Operand)
  | directoryJoined (directory : Operand)

namespace OptionGroup

def words : OptionGroup → List String
  | juce6 => ["--juce6"]
  | verboseShort => ["-v"]
  | verboseLong => ["--verbose"]
  | directoryShort directory => ["-o", directory.text]
  | directoryLong directory => ["--output-dir", directory.text]
  | directoryJoined directory => ["--output-dir=" ++ directory.text]

def flag : OptionGroup → Flag
  | juce6 => .juce6
  | verboseShort | verboseLong => .verbose
  | directoryShort _ | directoryLong _ | directoryJoined _ => .outputDirectory

def directory? : OptionGroup → Option String
  | directoryShort directory | directoryLong directory | directoryJoined directory =>
    some directory.text
  | _ => none

/-- What the words of an option mean. -/
def classified : OptionGroup → List Word
  | juce6 => [.option .juce6 true none]
  | verboseShort => [.option .verbose false none]
  | verboseLong => [.option .verbose true none]
  | directoryShort directory => [.option .outputDirectory false none, .argument directory.text]
  | directoryLong directory => [.option .outputDirectory true none, .argument directory.text]
  | directoryJoined directory => [.option .outputDirectory true (some (.assigned directory.text))]

/-- What is set by options: switches if any of them says so, and the last directory. -/
def options (groups : List OptionGroup) : Options where
  forJuce6 := groups.any (·.flag = .juce6)
  isVerbose := groups.any (·.flag = .verbose)
  outputDirectory? := (groups.filterMap directory?).getLast?

end OptionGroup

/-- The places of options around the files of a command line. -/
structure Arrangement where
  before : List OptionGroup
  after : List OptionGroup

namespace Arrangement

def groups (arrangement : Arrangement) : List OptionGroup := arrangement.before ++ arrangement.after

/-- The words of a command line with one file or two that follow each other. -/
def words (arrangement : Arrangement) (project : Operand) (reprojucer? : Option Operand) :
    List String :=
  arrangement.before.flatMap OptionGroup.words ++
    (project.text :: (reprojucer?.map Operand.text).toList ++
      arrangement.after.flatMap OptionGroup.words)

end Arrangement

/-! ### What the words mean -/

namespace Word

theorem classifyAll_cons {word : String} {found : Word} (hword : word ≠ "--")
    (hfound : classify word = .ok found) (words : List String) :
    classifyAll (word :: words) = (classifyAll words).map (found :: ·) := by
  rw [classifyAll, hfound]
  · cases classifyAll words <;> rfl
  · exact hword

theorem operand_ne_separator (operand : Operand) : operand.text ≠ "--" := by
  intro htext
  have hhead := operand.head?_ne
  rw [htext] at hhead
  exact hhead rfl

theorem classify_operand (operand : Operand) :
    classify operand.text = .ok (.argument operand.text) := by
  have hhead := operand.head?_ne
  rw [classify]
  cases hchars : operand.text.toList with
  | nil => rfl
  | cons c rest =>
      rw [hchars, List.head?_cons, ne_eq, Option.some.injEq] at hhead
      split
      · rfl
      · rfl
      · rename_i heq
        cases heq
        exact absurd rfl hhead
      · rfl

theorem classifyAll_operand (operand : Operand) (words : List String) :
    classifyAll (operand.text :: words)
      = (classifyAll words).map (.argument operand.text :: ·) :=
  classifyAll_cons (operand_ne_separator operand) (classify_operand operand) words

/-- A word with a value after its equals sign. -/
theorem exactOption?_joined (directory : Operand) :
    exactOption? ("--output-dir=" ++ directory.text)
      = some (.option .outputDirectory true (some (.assigned directory.text))) := by
  have hchars : ("--output-dir=" ++ directory.text).toList
      = "--output-dir".toList ++ '=' :: directory.text.toList := by simp
  have hname : Flag.ofName? ("--output-dir=" ++ directory.text) = none := by
    rw [Flag.ofName?, List.lookup_eq_none_iff]
    intro entry hentry
    have hequals : '=' ∉ entry.1.toList := by
      revert entry
      decide
    rw [bne_iff_ne]
    intro heq
    rw [← heq, hchars] at hequals
    simp at hequals
  have hsplit : splitValue ("--output-dir=" ++ directory.text).toList
      = ("--output-dir", some directory.text) := by
    have hbefore : ∀ c ∈ "--output-dir".toList, decide (c ≠ '=') = true :=
      List.all_eq_true.mp rfl
    rw [splitValue, hchars, List.dropWhile_append_of_pos hbefore,
      List.takeWhile_append_of_pos hbefore]
    simp
  rw [exactOption?, hname]
  simp only [hsplit]
  rfl

theorem classify_joined (directory : Operand) :
    classify ("--output-dir=" ++ directory.text)
      = .ok (.option .outputDirectory true (some (.assigned directory.text))) := by
  have hchars : ("--output-dir=" ++ directory.text).toList
      = '-' :: '-' :: ("output-dir=".toList ++ directory.text.toList) := by simp
  rw [classify, hchars, exactOption?_joined]
  rfl

theorem classifyAll_append (group : OptionGroup) (words : List String) :
    classifyAll (group.words ++ words) = (classifyAll words).map (group.classified ++ ·) := by
  have hmap (first second : Word) (outcome : Except UsageError (List Word)) :
      (outcome.map (second :: ·)).map (first :: ·) = outcome.map ([first, second] ++ ·) := by
    cases outcome <;> rfl
  cases group with
  | juce6 => exact classifyAll_cons (by decide) rfl words
  | verboseShort => exact classifyAll_cons (by decide) rfl words
  | verboseLong => exact classifyAll_cons (by decide) rfl words
  | directoryShort directory =>
      have hname : classify "-o" = .ok (.option .outputDirectory false none) := rfl
      rw [OptionGroup.words, List.cons_append, List.singleton_append,
        classifyAll_cons (by decide) hname, classifyAll_operand, hmap]
      rfl
  | directoryLong directory =>
      have hname : classify "--output-dir" = .ok (.option .outputDirectory true none) := rfl
      rw [OptionGroup.words, List.cons_append, List.singleton_append,
        classifyAll_cons (by decide) hname, classifyAll_operand, hmap]
      rfl
  | directoryJoined directory =>
      refine classifyAll_cons ?_ (classify_joined directory) words
      intro hword
      have hchars := congrArg String.toList hword
      simp at hchars

theorem classifyAll_flatMap_append (groups : List OptionGroup) (words : List String) :
    classifyAll (groups.flatMap OptionGroup.words ++ words)
      = (classifyAll words).map (groups.flatMap OptionGroup.classified ++ ·) := by
  induction groups with
  | nil =>
      rw [List.flatMap_nil, List.flatMap_nil, List.nil_append]
      cases classifyAll words <;> rfl
  | cons group groups ih =>
      rw [List.flatMap_cons, List.flatMap_cons, List.append_assoc, classifyAll_append, ih]
      cases classifyAll words with
      | error e => rfl
      | ok found => simp [Except.map]

end Word

/-! ### What the words set -/

namespace OptionGroup

/-- What has been set, with an option more. -/
def set (group : OptionGroup) (options : Options) : Options :=
  match group.directory? with
  | some directory => { options with outputDirectory? := some directory }
  | none =>
    if group.flag = .juce6 then { options with forJuce6 := true }
    else { options with isVerbose := true }

end OptionGroup

variable {level : PatchLevel} {reading : Reading} {rest after : List Word}

theorem request_option {flag : Flag} {isLong : Bool} {attachment? : Option Attachment}
    {flags : List Flag} {value? : Option String} {options : Options}
    (hsettings : settings level flag isLong attachment? rest = .ok ⟨flags, value?, [], after⟩)
    (happly : apply reading.options value? flags = .ok options) :
    request level reading (.option flag isLong attachment? :: rest)
      = request level { reading with options } after := by
  rw [request]
  split
  · rename_i e he
    rw [hsettings] at he
    cases he
  · rename_i hfound
    rw [hsettings] at hfound
    cases hfound
    rw [happly, List.append_nil]

theorem request_append (group : OptionGroup) (reading : Reading) (rest : List Word) :
    request level reading (group.classified ++ rest)
      = request level { reading with options := group.set reading.options } rest := by
  cases group with
  | juce6 => exact request_option rfl rfl
  | verboseShort => exact request_option rfl rfl
  | verboseLong => exact request_option rfl rfl
  | directoryShort directory => exact request_option rfl rfl
  | directoryLong directory => exact request_option rfl rfl
  | directoryJoined directory =>
      -- A value behind a long name is not read as letters at either level.
      have hsettings : settings level .outputDirectory true (some (.assigned directory.text)) rest
          = .ok ⟨[.outputDirectory], some directory.text, [], rest⟩ := by
        simp [settings, assigned, Flag.takesValue]
      exact request_option hsettings rfl

theorem request_flatMap_append (level : PatchLevel) (groups : List OptionGroup)
    (reading : Reading) (rest : List Word) :
    request level reading (groups.flatMap OptionGroup.classified ++ rest)
      = request level
        { reading with
          options := groups.foldl (fun options group => group.set options) reading.options }
        rest := by
  induction groups generalizing reading with
  | nil => rfl
  | cons group groups ih =>
      rw [List.flatMap_cons, List.append_assoc, request_append, ih]
      rfl

theorem request_arguments {text : String} {arguments : Arguments}
    (hreading : reading.arguments? = none)
    (harguments : arguments? (.argument text :: rest) = some (arguments, after)) :
    request level reading (.argument text :: rest)
      = request level { reading with arguments? := some arguments } after := by
  have hfirst : (if reading.arguments?.isNone then arguments? (.argument text :: rest) else none)
      = some (arguments, after) := by
    rw [hreading, Option.isNone_none, if_pos rfl, harguments]
  rw [request]
  · split
    · rename_i hfound
      rw [hfirst] at hfound
      cases hfound
      rfl
    · rename_i hnone
      rw [hfirst] at hnone
      cases hnone
  · intro flag isLong attachment? heq
    cases heq

/-- The files of a command line are its first arguments, up to the options after them. -/
theorem arguments?_eq (project : Operand) (reprojucer? : Option Operand)
    (groups : List OptionGroup) :
    arguments? (.argument project.text :: ((reprojucer?.map Operand.text).toList.map .argument ++
        groups.flatMap OptionGroup.classified))
      = some (⟨project.text, reprojucer?.map Operand.text⟩,
        groups.flatMap OptionGroup.classified) := by
  have hskip : skipSeparator (groups.flatMap OptionGroup.classified)
      = groups.flatMap OptionGroup.classified := by
    cases groups with
    | nil => rfl
    | cons group groups => cases group <;> rfl
  cases reprojucer? with
  | none =>
      cases groups with
      | nil => rfl
      | cons group groups => cases group <;> rfl
  | some reprojucer =>
      have hne := Word.operand_ne_separator reprojucer
      simpa [arguments?, skipSeparator, hne] using hskip

/-! ### What is set in the end -/

namespace OptionGroup

theorem foldl_set (groups : List OptionGroup) :
    groups.foldl (fun options group => group.set options) .default = options groups := by
  -- From the right: the last option decides on the directory.
  induction groups using List.reverseRecOn with
  | nil => rfl
  | append_singleton groups group ih =>
      rw [List.foldl_append, ih]
      cases group <;> simp [set, options, directory?, flag]

theorem options_eq_of_perm {groups groups' : List OptionGroup} (hperm : groups.Perm groups')
    (hdirectories : groups.filterMap directory? = groups'.filterMap directory?) :
    options groups = options groups' := by
  rw [options, options, hperm.any_eq, hperm.any_eq, hdirectories]

end OptionGroup

variable {project : Operand} {reprojucer? : Option Operand}

theorem classifyAll_files (arrangement : Arrangement) :
    Word.classifyAll (project.text :: (reprojucer?.map Operand.text).toList ++
        arrangement.after.flatMap OptionGroup.words)
      = .ok (.argument project.text :: ((reprojucer?.map Operand.text).toList.map .argument ++
        arrangement.after.flatMap OptionGroup.classified)) := by
  have hafter : Word.classifyAll (arrangement.after.flatMap OptionGroup.words)
      = .ok (arrangement.after.flatMap OptionGroup.classified) := by
    have happend := Word.classifyAll_flatMap_append arrangement.after []
    rw [List.append_nil] at happend
    rw [happend, Word.classifyAll, Except.map, List.append_nil]
  rw [List.cons_append, Word.classifyAll_operand]
  cases reprojucer? with
  | none =>
      rw [Option.map_none, Option.toList_none, List.nil_append, hafter]
      rfl
  | some reprojucer =>
      rw [Option.map_some, Option.toList_some, List.singleton_append, Word.classifyAll_operand,
        hafter]
      rfl

theorem ofWords_words (arrangement : Arrangement) (project : Operand)
    (reprojucer? : Option Operand) (level : PatchLevel) :
    Request.ofWords (arrangement.words project reprojucer?) level
      = .ok (.convert project.text (reprojucer?.map Operand.text)
        (OptionGroup.options arrangement.groups)) := by
  have hfiles := arguments?_eq project reprojucer? arrangement.after
  rw [Request.ofWords, Arrangement.words, Word.classifyAll_flatMap_append, classifyAll_files,
    Except.map, ok_bind, request_flatMap_append, request_arguments rfl hfiles]
  have hafter := request_flatMap_append level arrangement.after
    ⟨arrangement.before.foldl (fun options group => group.set options) .default,
      some ⟨project.text, reprojucer?.map Operand.text⟩, []⟩ []
  rw [List.append_nil] at hafter
  rw [hafter, ← List.foldl_append, OptionGroup.foldl_set, request]
  rfl

/-- **The order of options does not matter.** The request that the words make has the switches that
any option gives and the last directory, and if it names the files that its form takes, its
conversion is what the run is. -/
theorem run_words_eq_of_perm {arrangement arrangement' : Arrangement}
    (hperm : arrangement.groups.Perm arrangement'.groups)
    (hdirectories : arrangement.groups.filterMap OptionGroup.directory?
      = arrangement'.groups.filterMap OptionGroup.directory?)
    (store : FileStore) (project : Operand) (reprojucer? : Option Operand) (level : PatchLevel) :
    run store (arrangement.words project reprojucer?) level
        = run store (arrangement'.words project reprojucer?) level
      ∧ Request.ofWords (arrangement.words project reprojucer?) level
        = .ok (.convert project.text (reprojucer?.map Operand.text)
          ⟨arrangement.groups.any (·.flag = .juce6), arrangement.groups.any (·.flag = .verbose),
            (arrangement.groups.filterMap OptionGroup.directory?).getLast?⟩)
      ∧ (arrangement.groups.any (·.flag = .juce6) = reprojucer?.isNone →
        run store (arrangement.words project reprojucer?) level
          = runConversion store
            { project := .ofString project.text
              reprojucer? := reprojucer?.map fun reprojucer => .ofString reprojucer.text
              outputDirectory? :=
                (arrangement.groups.filterMap OptionGroup.directory?).getLast?.map .ofString
              forJuce6 := arrangement.groups.any (·.flag = .juce6) }
            (arrangement.groups.any (·.flag = .verbose))) := by
  have hwords := ofWords_words arrangement project reprojucer? level
  refine ⟨?_, hwords, fun hform => ?_⟩
  · rw [run, run, ofWords_words, ofWords_words, OptionGroup.options_eq_of_perm hperm hdirectories]
  · have hasks : Asks level (arrangement.words project reprojucer?) project.text
        (reprojucer?.map Operand.text) (OptionGroup.options arrangement.groups) :=
      ⟨hwords, by rw [OptionGroup.options, hform, Option.isNone_map]⟩
    rw [run_of_asks hasks, settingsOf, Option.map_map]
    rfl

/-- Two orders of four options that agree about which directory comes last: both write to it. -/
theorem run_words_eq_of_perm_swapped :
    let store : FileStore := ⟨[(["App.jucer"], .file .empty)], []⟩
    let first := ["-v", "-o", "build", "App.jucer", "--output-dir=out", "--juce6"]
    let second := ["--juce6", "-o", "build", "--output-dir=out", "App.jucer", "-v"]
    run store first .late = run store second .late
      ∧ Request.ofWords first .late = .ok (.convert "App.jucer" none ⟨true, true, some "out"⟩)
      ∧ run store first .late
        = runConversion store ⟨.ofString "App.jucer", none, some (.ofString "out"), true⟩ true := by
  intro store
  let build : Operand := ⟨"build", by decide⟩
  let out : Operand := ⟨"out", by decide⟩
  let before : Arrangement :=
    ⟨[.verboseShort, .directoryShort build], [.directoryJoined out, .juce6]⟩
  let after : Arrangement :=
    ⟨[.juce6, .directoryShort build, .directoryJoined out], [.verboseShort]⟩
  have hperm : before.groups.Perm after.groups :=
    (List.reverse_perm _).symm.trans (.cons _ (.swap _ _ _))
  obtain ⟨hsame, hrequest, hrun⟩ :=
    run_words_eq_of_perm hperm rfl store ⟨"App.jucer", by decide⟩ none .late
  exact ⟨hsame, hrequest, hrun rfl⟩

end JuceBuild.CommandLine
