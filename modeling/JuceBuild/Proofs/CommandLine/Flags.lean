import JuceBuild.CommandLine.Request
import JuceBuild.Proofs.Outcome

/-!
# The flags that a command line gives

A word gives the flag it names and, if that takes no value, the flags that its further letters name.
A value is never a word that gives a flag, so nothing that a value takes away is missed: the
switches of a conversion that a command line asks for are exactly those that some word gives.
-/

namespace JuceBuild.CommandLine

/-- The flags of short options that are written together. -/
def joinedFlags (flag : Flag) : List Char → List Flag
  | [] => [flag]
  | letter :: more =>
    if flag.takesValue then [flag]
    else
      match Flag.ofName? (String.ofList ['-', letter]) with
      | none => [flag]
      | some next => flag :: joinedFlags next more

def Word.flags : Word → List Flag
  | .option flag _ none => [flag]
  | .option flag _ (some (.assigned text)) | .option flag _ (some (.joined text)) =>
    joinedFlags flag text.toList
  | _ => []

/-- A flag stands somewhere among the words before the separator. -/
def Gives (words : List String) (flag : Flag) : Prop :=
  ∃ classified, Word.classifyAll words = .ok classified ∧ ∃ word ∈ classified, flag ∈ word.flags

variable {level : PatchLevel} {flag : Flag} {rest after : List Word} {found : Settings}

/-- What an option takes of the words after it are arguments. -/
def Takes (rest after : List Word) : Prop :=
  ∃ texts : List String, rest = texts.map Word.argument ++ after

theorem takes_nothing (rest : List Word) : Takes rest rest := ⟨[], rfl⟩

theorem joinedFlags_of_takesValue (hvalue : flag.takesValue = true) (text : List Char) :
    joinedFlags flag text = [flag] := by
  cases text with
  | nil => rfl
  | cons letter more => rw [joinedFlags, if_pos hvalue]

theorem bare_eq_ok (h : bare flag rest = .ok found) :
    found.flags = [flag] ∧ Takes rest found.rest := by
  unfold bare at h
  split at h
  · split at h
    · rename_i text rest
      cases h
      exact ⟨rfl, [text], rfl⟩
    · cases h
  · cases h
    exact ⟨rfl, takes_nothing rest⟩

/-- Only an option with a value takes what is assigned, so no flag is hidden in that. -/
theorem assigned_eq_ok {value : String} (h : assigned flag rest value = .ok found)
    (text : List Char) : found.flags = joinedFlags flag text ∧ Takes rest found.rest := by
  unfold assigned at h
  split at h
  · rename_i hvalue
    cases h
    exact ⟨(joinedFlags_of_takesValue hvalue text).symm, takes_nothing rest⟩
  · cases h

theorem unknownLetters_eq_ok {letter : Char} {more : List Char}
    (h : unknownLetters level flag rest letter more = .ok found) :
    found.flags = [flag] ∧ Takes rest found.rest := by
  unfold unknownLetters at h
  split at h
  · cases h
  · cases h
    exact ⟨rfl, takes_nothing rest⟩

theorem letters_eq_ok {text : List Char} (h : letters level flag rest text = .ok found) :
    found.flags = joinedFlags flag text ∧ Takes rest found.rest := by
  induction text generalizing flag found with
  | nil => exact bare_eq_ok h
  | cons letter more ih =>
      rw [letters] at h
      rw [joinedFlags]
      split at h
      · rename_i hvalue
        cases h
        rw [if_pos hvalue]
        exact ⟨rfl, takes_nothing rest⟩
      · rename_i hvalue
        rw [if_neg hvalue]
        cases hnext : Flag.ofName? (String.ofList ['-', letter]) with
        | none =>
            rw [hnext] at h
            exact unknownLetters_eq_ok h
        | some next =>
            rw [hnext] at h
            obtain ⟨inner, hinner, rfl⟩ := map_eq_ok_iff.mp h
            have hread : inner.flags = joinedFlags next more ∧ Takes rest inner.rest := by
              split at hinner
              · exact assigned_eq_ok hinner more
              · exact ih hinner
            exact ⟨congrArg (flag :: ·) hread.1, hread.2⟩

theorem settings_eq_ok {isLong : Bool} {attachment? : Option Attachment}
    (h : settings level flag isLong attachment? rest = .ok found) :
    found.flags = (Word.option flag isLong attachment?).flags ∧ Takes rest found.rest := by
  unfold settings at h
  cases attachment? with
  | none => exact bare_eq_ok h
  | some attachment =>
      cases attachment with
      | joined text => exact letters_eq_ok h
      | assigned text =>
          dsimp only at h
          split at h
          · exact letters_eq_ok h
          · exact assigned_eq_ok h text.toList

/-- The two flags that only say yes. -/
def Options.isOn (options : Options) : Flag → Bool
  | .juce6 => options.forJuce6
  | .verbose => options.isVerbose
  | _ => false

def IsSwitch (flag : Flag) : Prop := flag = .juce6 ∨ flag = .verbose

theorem isOn_of_apply {flags : List Flag} {options options' : Options} {value? : Option String}
    (hswitch : IsSwitch flag) (h : apply options value? flags = .ok options') :
    options'.isOn flag = (options.isOn flag || flags.contains flag) := by
  induction flags generalizing options with
  | nil =>
      cases h
      simp
  | cons first flags ih =>
      cases first with
      | help | version => cases h
      | juce6 | outputDirectory | verbose =>
          rw [ih h]
          obtain rfl | rfl := hswitch <;> simp [Options.isOn]

theorem Takes.any_eq (htakes : Takes rest after) (flag : Flag) :
    rest.any (·.flags.contains flag) = after.any (·.flags.contains flag) := by
  obtain ⟨texts, rfl⟩ := htakes
  simp [Word.flags]

theorem skipSeparator_any (words : List Word) (flag : Flag) :
    (skipSeparator words).any (·.flags.contains flag) = words.any (·.flags.contains flag) := by
  unfold skipSeparator
  split
  · rfl
  · rfl

theorem arguments?_any {words after : List Word} {arguments : Arguments}
    (h : arguments? words = some (arguments, after)) (flag : Flag) :
    words.any (·.flags.contains flag) = after.any (·.flags.contains flag) := by
  rw [← skipSeparator_any words]
  unfold arguments? at h
  split at h
  · rename_i project rest hfirst
    rw [hfirst]
    split at h
    · rename_i reprojucer tail hsecond
      cases h
      rw [skipSeparator_any, List.any_cons, ← skipSeparator_any rest, hsecond]
      rfl
    · rename_i hrest
      cases h
      rw [skipSeparator_any]
      rfl
  · cases h

theorem apply_ne_convert {flags : List Flag} {options asked : Options} {value? : Option String}
    {project : String} {reprojucer? : Option String} :
    apply options value? flags ≠ .error (.convert project reprojucer? asked) := by
  induction flags generalizing options with
  | nil => exact nofun
  | cons first flags ih =>
      cases first with
      | help | version => exact nofun
      | juce6 | outputDirectory | verbose => exact ih

variable {project : String} {reprojucer? : Option String} {options : Options}

/-- A switch of a conversion is on exactly if it was on before or some word gives it. -/
theorem isOn_of_request {reading : Reading} {words : List Word} (hswitch : IsSwitch flag)
    (h : request level reading words = .ok (.convert project reprojucer? options)) :
    options.isOn flag = (reading.options.isOn flag || words.any (·.flags.contains flag)) := by
  fun_induction request level reading words with
  | case1 => cases h
  | case2 reading arguments =>
      cases h
      simp
  | case3 => cases h
  | case4 => cases h
  | case5 reading first isLong attachment? rest found hsettings request happly =>
      cases h
      exact absurd happly apply_ne_convert
  | case6 reading first isLong attachment? rest found hsettings options' happly _ ih =>
      obtain ⟨hflags, htakes⟩ := settings_eq_ok hsettings
      rw [ih h, isOn_of_apply hswitch happly, List.any_cons, ← hflags, htakes.any_eq,
        Bool.or_assoc]
  | case7 reading word rest _ arguments after harguments ih =>
      split at harguments
      · rw [ih h, arguments?_any harguments]
      · cases harguments
  | case8 reading word rest hword _ ih =>
      have hflags : word.flags = [] := by
        cases word with
        | option flag isLong attachment? => exact absurd rfl (hword flag isLong attachment?)
        | argument | separator | unknown => rfl
      rw [ih h, List.any_cons, hflags]
      rfl

/-- **The switches of a conversion are the flags that are given.** -/
theorem isOn_iff_gives {words : List String} (hswitch : IsSwitch flag)
    (h : Request.ofWords words level = .ok (.convert project reprojucer? options)) :
    options.isOn flag = true ↔ Gives words flag := by
  rw [Request.ofWords] at h
  obtain ⟨classified, hclassified, hrequest⟩ := bind_eq_ok_iff.mp h
  have hoff : Options.default.isOn flag = false := by
    obtain rfl | rfl := hswitch <;> rfl
  rw [isOn_of_request hswitch hrequest, hoff, Bool.false_or, List.any_eq_true, Gives, hclassified]
  simp

end JuceBuild.CommandLine
