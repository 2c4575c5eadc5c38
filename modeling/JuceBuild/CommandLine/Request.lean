import JuceBuild.CommandLine.Word

/-!
# Requests of a command line

The words of a command line, read from left to right, make a request. The first run of arguments
names the project file and, if it goes on, the Reprojucer file; arguments that come later are not
recognized. A request for help or for the version is granted at once, before the rest is looked at.
-/

namespace JuceBuild.CommandLine

/-- What options have set. -/
structure Options where
  forJuce6 : Bool
  isVerbose : Bool
  outputDirectory? : Option String
  deriving DecidableEq, Repr

def Options.default : Options := ⟨false, false, none⟩

/-- What a command line asks for. -/
inductive Request where
  | help
  | version
  | convert (project : String) (reprojucer? : Option String) (options : Options)
  deriving DecidableEq, Repr

/-- The patch levels of the option parser that differ in what follows a short option without a value
in its word. Up to 3.11.8, which is `early`, everything there is letters, and a letter that names no
option is an error. From 3.11.9 on, which is `late`, an equals sign comes before a value, and
letters are not recognized from the first one on that names no option. All else is read as 3.11.10
reads it, at both levels. -/
inductive PatchLevel where
  | early
  | late
  deriving DecidableEq, Repr

/-- What one word sets: its options, the value of the last one, what is not recognized in it, and
the words after it. -/
structure Settings where
  flags : List Flag
  value? : Option String
  unrecognized : List String
  rest : List Word
  deriving DecidableEq, Repr

/-- An option without a value in its word; the next argument is its value if it has one. -/
def bare (flag : Flag) (rest : List Word) : Except UsageError Settings :=
  if flag.takesValue then
    match rest with
    | .argument text :: rest => .ok ⟨[flag], some text, [], rest⟩
    | _ => .error (.missingValue flag)
  else .ok ⟨[flag], none, [], rest⟩

/-- An option with a value behind an equals sign. -/
def assigned (flag : Flag) (rest : List Word) (value : String) : Except UsageError Settings :=
  if flag.takesValue then .ok ⟨[flag], some value, [], rest⟩
  else .error (.ignoredValue flag value)

/-- An option without a value before letters of which the first names no option. -/
def unknownLetters (level : PatchLevel) (flag : Flag) (rest : List Word) (letter : Char)
    (more : List Char) : Except UsageError Settings :=
  if level = .early ∨ letter = '-' then
    .error (.ignoredValue flag (String.ofList (letter :: more)))
  else .ok ⟨[flag], none, [String.ofList ('-' :: letter :: more)], rest⟩

/-- An option with letters after it in its word. They are its value if it has one, and short
options in their turn if not. -/
def letters (level : PatchLevel) (flag : Flag) (rest : List Word) :
    List Char → Except UsageError Settings
  | [] => bare flag rest
  | letter :: more =>
    if flag.takesValue then .ok ⟨[flag], some (String.ofList (letter :: more)), [], rest⟩
    else
      match Flag.ofName? (String.ofList ['-', letter]) with
      | none => unknownLetters level flag rest letter more
      | some next =>
        let settings :=
          if level = .late ∧ more.head? = some '=' then
            assigned next rest (String.ofList more.tail)
          else letters level next rest more
        settings.map fun settings => { settings with flags := flag :: settings.flags }

/-- An option with what its word goes on with. -/
def settings (level : PatchLevel) (flag : Flag) (isLong : Bool) (attachment? : Option Attachment)
    (rest : List Word) : Except UsageError Settings :=
  match attachment? with
  | none => bare flag rest
  | some (.joined text) => letters level flag rest text.toList
  | some (.assigned text) =>
    if level = .early ∧ !isLong ∧ text ≠ "" then letters level flag rest text.toList
    else assigned flag rest text

/-- The effect of options on what has been set, or the request that one of them is. -/
def apply (options : Options) (value? : Option String) : List Flag → Except Request Options
  | [] => .ok options
  | .help :: _ => .error .help
  | .version :: _ => .error .version
  | .juce6 :: rest => apply { options with forJuce6 := true } value? rest
  | .verbose :: rest => apply { options with isVerbose := true } value? rest
  | .outputDirectory :: rest => apply { options with outputDirectory? := value? } value? rest

/-- The arguments of a command line: the project file and the Reprojucer file. -/
structure Arguments where
  project : String
  reprojucer? : Option String
  deriving DecidableEq, Repr

/-- The words after a separator that may stand here. -/
def skipSeparator : List Word → List Word
  | .separator :: rest => rest
  | words => words

/-- The arguments that words begin with, and the words after them. A second argument that is
written like the separator counts as absent. -/
def arguments? (words : List Word) : Option (Arguments × List Word) :=
  match skipSeparator words with
  | .argument project :: rest =>
    match skipSeparator rest with
    | .argument reprojucer :: rest =>
      let reprojucer? := if reprojucer = "--" then none else some reprojucer
      some (⟨project, reprojucer?⟩, skipSeparator rest)
    | rest => some (⟨project, none⟩, rest)
  | _ => none

section Lengths

variable {level : PatchLevel} {flag : Flag} {rest : List Word} {found : Settings}

theorem bare_length_le (h : bare flag rest = .ok found) : found.rest.length ≤ rest.length := by
  unfold bare at h
  split at h
  · split at h <;> cases h
    simp
  · cases h
    exact Nat.le_refl _

theorem assigned_length_le {value : String} (h : assigned flag rest value = .ok found) :
    found.rest.length ≤ rest.length := by
  unfold assigned at h
  split at h <;> cases h
  exact Nat.le_refl _

theorem unknownLetters_length_le {letter : Char} {more : List Char}
    (h : unknownLetters level flag rest letter more = .ok found) :
    found.rest.length ≤ rest.length := by
  unfold unknownLetters at h
  split at h <;> cases h
  exact Nat.le_refl _

/-- An option in front of others in the same word leaves the words after it to them. -/
theorem length_le_of_map {inner : Except UsageError Settings}
    (h : (inner.map fun settings => { settings with flags := flag :: settings.flags }) = .ok found)
    (hinner : ∀ settings, inner = .ok settings → settings.rest.length ≤ rest.length) :
    found.rest.length ≤ rest.length := by
  cases inner with
  | error e => cases h
  | ok settings =>
    cases h
    exact hinner settings rfl

theorem letters_length_le {text : List Char} (h : letters level flag rest text = .ok found) :
    found.rest.length ≤ rest.length := by
  induction text generalizing flag found with
  | nil => exact bare_length_le h
  | cons letter more ih =>
    unfold letters at h
    split at h
    · cases h
      exact Nat.le_refl _
    · split at h
      · exact unknownLetters_length_le h
      · refine length_le_of_map h fun settings hinner => ?_
        split at hinner
        · exact assigned_length_le hinner
        · exact ih hinner

theorem settings_length_le {isLong : Bool} {attachment? : Option Attachment}
    (h : settings level flag isLong attachment? rest = .ok found) :
    found.rest.length ≤ rest.length := by
  unfold settings at h
  split at h
  · exact bare_length_le h
  · exact letters_length_le h
  · split at h
    · exact letters_length_le h
    · exact assigned_length_le h

end Lengths

theorem skipSeparator_length_le (words : List Word) :
    (skipSeparator words).length ≤ words.length := by
  unfold skipSeparator
  split <;> simp

theorem arguments?_length_lt {words after : List Word} {arguments : Arguments}
    (h : arguments? words = some (arguments, after)) : after.length < words.length := by
  unfold arguments? at h
  have hwords := skipSeparator_length_le words
  split at h
  · rename_i project rest hfirst
    rw [hfirst, List.length_cons] at hwords
    have hrest := skipSeparator_length_le rest
    split at h
    · rename_i reprojucer tail hsecond
      rw [hsecond, List.length_cons] at hrest
      have htail := skipSeparator_length_le tail
      cases h
      omega
    · cases h
      omega
  · cases h

/-- What has been read of a command line. -/
structure Reading where
  options : Options
  arguments? : Option Arguments
  unrecognized : List String

/-- The request that words make after what has been read. -/
def request (level : PatchLevel) (reading : Reading) (words : List Word) :
    Except UsageError Request :=
  match words with
  | [] =>
    match reading.arguments?, reading.unrecognized with
    | none, _ => .error .missingProject
    | some arguments, [] =>
      .ok (.convert arguments.project arguments.reprojucer? reading.options)
    | some _, words => .error (.unrecognized words)
  | .option flag isLong attachment? :: rest =>
    match _h : settings level flag isLong attachment? rest with
    | .error e => .error e
    | .ok found =>
      match apply reading.options found.value? found.flags with
      | .error request => .ok request
      | .ok options =>
        let unrecognized := reading.unrecognized ++ found.unrecognized
        request level { reading with options, unrecognized } found.rest
  | word :: rest =>
    match _h : if reading.arguments?.isNone then arguments? (word :: rest) else none with
    | some (arguments, rest) => request level { reading with arguments? := some arguments } rest
    | none =>
      request level { reading with unrecognized := reading.unrecognized ++ [word.text] } rest
termination_by words.length
decreasing_by
  · have := settings_length_le _h
    simp only [List.length_cons]
    omega
  · split at _h
    · exact arguments?_length_lt _h
    · cases _h
  · simp

/-- The request of a command line, at the early patch level where none is given. -/
def Request.ofWords (words : List String) (level : PatchLevel := .early) :
    Except UsageError Request := do
  let words ← Word.classifyAll words
  request level ⟨.default, none, []⟩ words

end JuceBuild.CommandLine
