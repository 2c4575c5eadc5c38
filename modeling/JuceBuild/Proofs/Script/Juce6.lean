import JuceBuild.Proofs.Conversion.Obstacle
import JuceBuild.Proofs.Script.Faithful
import JuceBuild.Script.Juce6

/-!
# How the script for JUCE 6 is read

The name of a project stands in the script three times, once between quotes and twice bare, and the
version stands between quotes. Nothing is escaped. The first place asks for a name without quotes
and backslashes, and then the second one asks for a word, since what it begins with is read as a
word, as nothing, or as the end of the call. A name of several words is one argument in the first
place, and in the others as many arguments as it has words.
-/

namespace JuceBuild.Juce6Script

open Script

/-- The formats that a plug-in is built in. -/
def formatArguments (project : Project) : List String :=
  if project.kind? = some .audioPlugin then ["FORMATS", "AU", "VST3", "Standalone"] else []

/-- The commands of a project with the arguments that its name is where it is bare. -/
def commandsNamed (project : Project) (addCommand : String) (names : List String) : List Command :=
  [⟨"cmake_minimum_required", ["VERSION", minimumVersion project]⟩,
    ⟨"project", [project.name]⟩,
    ⟨"find_package", ["JUCE", "CONFIG", "REQUIRED"]⟩,
    ⟨addCommand, names ++ "VERSION" :: versionOf project :: formatArguments project⟩,
    ⟨"juce_generate_juce_header", names⟩]

/-- The commands of a project: one target with the project's name. -/
def commands (project : Project) (addCommand : String) : List Command :=
  commandsNamed project addCommand [project.name]

variable {project : Project} {addCommand name version : String} {rest : List Char}
  {more : List String} {others : List Command}

/-! ### The calls that are the same for every name -/

theorem readsCommands_minimumVersion (project : Project) :
    ReadsCommands ["", "cmake_minimum_required(VERSION " ++ minimumVersion project ++ ")", ""]
      [⟨"cmake_minimum_required", ["VERSION", minimumVersion project]⟩] := by
  have hword : IsWord (minimumVersion project) := by
    rw [minimumVersion]
    split <;> decide
  have hversion : ReadsArguments "VERSION" ["VERSION"] := readsArguments_word (by decide)
  refine .blank (.call ?_ (by decide) (hversion.space (readsArguments_word hword)) ?_)
  · apply String.toList_injective
    simp
  · exact readsCommands_nil.blank

theorem readsCommands_findPackage :
    ReadsCommands ["", "", "find_package(JUCE CONFIG REQUIRED)", "", ""]
      [⟨"find_package", ["JUCE", "CONFIG", "REQUIRED"]⟩] := by
  have hjuce : ReadsArguments "JUCE" ["JUCE"] := readsArguments_word (by decide)
  have hconfig : ReadsArguments "CONFIG" ["CONFIG"] := readsArguments_word (by decide)
  have hrequired : ReadsArguments "REQUIRED" ["REQUIRED"] := readsArguments_word (by decide)
  refine .blank (.blank (.call rfl (by decide) ((hjuce.space hconfig).space hrequired) ?_))
  exact readsCommands_nil.blank.blank

theorem readsLine_formats :
    ReadsLine "FORMATS \"AU\" \"VST3\" \"Standalone\"" ["FORMATS", "AU", "VST3", "Standalone"] := by
  have hquoted {text : String} (htext : Text.Unescaped text) :
      ReadsArguments ("\"" ++ text ++ "\"") [text] :=
    readsArguments_quoted (quotes_of_unescaped htext)
  have hformats : ReadsArguments "FORMATS" ["FORMATS"] := readsArguments_word (by decide)
  have hau := hquoted (show Text.Unescaped "AU" by decide)
  have hvst3 := hquoted (show Text.Unescaped "VST3" by decide)
  have hstandalone := hquoted (show Text.Unescaped "Standalone" by decide)
  have htext : "FORMATS \"AU\" \"VST3\" \"Standalone\""
      = "FORMATS" ++ " " ++ ("\"" ++ "AU" ++ "\"") ++ " " ++ ("\"" ++ "VST3" ++ "\"") ++ " "
        ++ ("\"" ++ "Standalone" ++ "\"") := by decide
  rw [htext]
  exact (((hformats.space hau).space hvst3).space hstandalone).line

theorem continues_formatLines_iff :
    Continues ((formatLines project).flatMap lineText ++ rest) (formatArguments project ++ more)
        others
      ↔ Continues rest more others := by
  have hindented : "  FORMATS \"AU\" \"VST3\" \"Standalone\""
      = "  " ++ "FORMATS \"AU\" \"VST3\" \"Standalone\"" := by decide
  rw [formatLines, formatArguments]
  split
  · rw [List.flatMap_singleton, hindented, continues_indented_iff]
    exact continues_line_iff readsLine_formats
  · rfl

/-! ### The calls with the name -/

theorem commandsOf?_project_iff :
    commandsOf? (lineText ("project(\"" ++ name ++ "\")") ++ rest)
        = some (⟨"project", [name]⟩ :: others)
      ↔ Text.Unescaped name ∧ commandsOf? rest = some others := by
  have htext : lineText ("project(\"" ++ name ++ "\")") ++ rest
      = "project".toList ++ '(' :: '"' :: (name.toList ++ '"' :: ')' :: '\n' :: rest) := by
    simp [lineText]
  rw [htext, commandsOf?_call_iff (by decide), continues_quoted_iff, continues_closing_iff,
    commandsOf?_newline]

theorem continues_version_iff :
    Continues (lineText ("  VERSION \"" ++ version ++ "\"") ++ rest) ("VERSION" :: version :: more)
        others
      ↔ Text.Unescaped version ∧ Continues rest more others := by
  have htext : lineText ("  VERSION \"" ++ version ++ "\"") ++ rest
      = ' ' :: ' ' :: ("VERSION".toList
        ++ ' ' :: '"' :: (version.toList ++ '"' :: '\n' :: rest)) := by
    simp [lineText]
  rw [htext, continues_separator_iff rfl, continues_separator_iff rfl,
    continues_word_iff (by decide) rfl, continues_quoted_iff, continues_separator_iff rfl]

/-- A bare name is read as itself exactly if it is a word: if it begins with none, what is read in
its place is the tag of the next line. -/
theorem continues_name_iff (hname : Text.Unescaped name) :
    Continues (name.toList ++ '\n' :: (lineText ("  VERSION \"" ++ version ++ "\"") ++ rest))
        (name :: more) others
      ↔ IsWord name
        ∧ Continues (lineText ("  VERSION \"" ++ version ++ "\"") ++ rest) more others := by
  constructor
  · intro htext
    have hword : IsWord name := by
      rcases isWord_or_continues hname.1 hname.2 htext with hword | hbelow
      · exact hword
      · have hline : lineText ("  VERSION \"" ++ version ++ "\"") ++ rest
            = ' ' :: ' ' :: 'V' :: ("ERSION \"".toList
              ++ version.toList ++ '"' :: '\n' :: rest) := by
          simp [lineText]
        rw [hline, continues_separator_iff rfl, continues_separator_iff rfl] at hbelow
        exact isWord_of_continues_plain (by decide) hbelow
    exact ⟨hword, (continues_word_iff hword rfl).mp htext⟩
  · rintro ⟨hword, hbelow⟩
    exact (continues_word_iff hword rfl).mpr hbelow

theorem readsCommands_header {names : List String} (hname : ReadsArguments name names) :
    ReadsCommands ["", "juce_generate_juce_header(" ++ name ++ ")"]
      [⟨"juce_generate_juce_header", names⟩] := by
  refine .blank (.call ?_ (by decide) hname readsCommands_nil)
  apply String.toList_injective
  simp

/-! ### Whole scripts -/

theorem isWord_addCommand {kind : ProjectKind} (hcommand : kind.addCommand? = some addCommand) :
    IsWord addCommand := by
  cases kind with
  | staticLibrary => cases hcommand
  | guiApplication | consoleApplication | audioPlugin =>
      cases hcommand
      decide

/-- What a script goes on with behind the name that its target is added under. -/
def ending (project : Project) : List Char :=
  lineText ("  VERSION \"" ++ versionOf project ++ "\"")
    ++ ((formatLines project).flatMap lineText
    ++ ')' :: '\n' :: ["", "juce_generate_juce_header(" ++ project.name ++ ")"].flatMap lineText)

/-- A script names its project and then goes on with the call that adds the target. -/
theorem commandsOf?_lines_eq_some_iff (hcommand : IsWord addCommand) {names : List String} :
    commandsOf? ((lines project addCommand).flatMap lineText)
        = some (commandsNamed project addCommand names)
      ↔ Text.Unescaped project.name
        ∧ Continues (project.name.toList ++ '\n' :: ending project)
          (names ++ "VERSION" :: versionOf project :: formatArguments project)
          [⟨"juce_generate_juce_header", names⟩] := by
  have hlines : (lines project addCommand).flatMap lineText
      = ["", "cmake_minimum_required(VERSION " ++ minimumVersion project ++ ")",
          ""].flatMap lineText
        ++ (lineText ("project(\"" ++ project.name ++ "\")")
        ++ (["", "", "find_package(JUCE CONFIG REQUIRED)", "", ""].flatMap lineText
        ++ (addCommand.toList ++ '(' :: (project.name.toList ++ '\n' :: ending project)))) := by
    simp [lines, ending, lineText]
  have hcommands : commandsNamed project addCommand names
      = [⟨"cmake_minimum_required", ["VERSION", minimumVersion project]⟩]
        ++ (⟨"project", [project.name]⟩
        :: ([⟨"find_package", ["JUCE", "CONFIG", "REQUIRED"]⟩]
        ++ (⟨addCommand, names ++ "VERSION" :: versionOf project :: formatArguments project⟩
        :: [⟨"juce_generate_juce_header", names⟩]))) := rfl
  rw [hlines, hcommands, (readsCommands_minimumVersion project).commandsOf?_append_iff,
    commandsOf?_project_iff, readsCommands_findPackage.commandsOf?_append_iff,
    commandsOf?_call_iff hcommand]

/-- What stands behind the bare name is read as it was meant if the version is. -/
theorem continues_ending (hversion : Text.Unescaped (versionOf project)) {names : List String}
    (hname : ReadsArguments project.name names) :
    Continues (ending project) ("VERSION" :: versionOf project :: formatArguments project)
      [⟨"juce_generate_juce_header", names⟩] := by
  rw [ending, continues_version_iff]
  refine ⟨hversion, ?_⟩
  rw [← List.append_nil (formatArguments project), continues_formatLines_iff,
    continues_closing_iff, commandsOf?_newline]
  exact (readsCommands_header hname).commandsOf?_eq

theorem commandsOf?_lines_iff (hcommand : IsWord addCommand) :
    commandsOf? ((lines project addCommand).flatMap lineText) = some (commands project addCommand)
      ↔ IsWord project.name ∧ Text.Unescaped (versionOf project) := by
  rw [commands, commandsOf?_lines_eq_some_iff hcommand, List.singleton_append]
  constructor
  · rintro ⟨hname, htarget⟩
    rw [ending, continues_name_iff hname, continues_version_iff] at htarget
    exact ⟨htarget.1, htarget.2.1⟩
  · rintro ⟨hname, hversion⟩
    refine ⟨hname.unescaped, (continues_word_iff hname rfl).mpr ?_⟩
    exact continues_ending hversion (readsArguments_word hname)

theorem commandsOf?_lines_of_phrase (hcommand : IsWord addCommand)
    (hname : IsPhrase project.name.toList) (hversion : Text.Unescaped (versionOf project)) :
    commandsOf? ((lines project addCommand).flatMap lineText)
      = some (commandsNamed project addCommand (wordsOf project.name.toList)) := by
  have hwords := readsArguments_phrase hname
  rw [String.ofList_toList] at hwords
  rw [commandsOf?_lines_eq_some_iff hcommand, List.append_cons]
  exact ⟨hname.unescaped,
    (continues_line_iff hwords.line).mpr (continues_ending hversion hwords)⟩

/-- **The script for JUCE 6.** Every project of a supported kind has a script. It declares one
target with the project's name exactly if the name is a word and nothing in the version had to be
escaped. A name of words and white space is read as one argument between the quotes, and as its
words where it is bare. -/
theorem commands?_ofProject_iff (hkind : project.kindName ∈ ProjectKind.supportedNames) :
    ∃ addCommand script, project.kind?.bind ProjectKind.addCommand? = some addCommand
      ∧ ofProject project = .ok script
      ∧ (commands? script = some (commands project addCommand)
        ↔ IsWord project.name ∧ Text.Unescaped (versionOf project))
      ∧ (IsPhrase project.name.toList → Text.Unescaped (versionOf project) →
        commands? script
          = some (commandsNamed project addCommand (wordsOf project.name.toList))) := by
  have hsome : project.kind?.bind ProjectKind.addCommand? ≠ none :=
    fun hnone => ProjectKind.addCommand?_eq_none_iff.mp hnone hkind
  obtain ⟨addCommand, hcommand⟩ := Option.ne_none_iff_exists'.mp hsome
  obtain ⟨kind, -, hkindCommand⟩ := Option.bind_eq_some_iff.mp hcommand
  have hword := isWord_addCommand hkindCommand
  have hread : commands? (Text.join "\n" (lines project addCommand) ++ "\n")
      = commandsOf? ((lines project addCommand).flatMap lineText) :=
    commands?_join_append (List.cons_ne_nil _ _)
  refine ⟨addCommand, Text.join "\n" (lines project addCommand) ++ "\n", hcommand, ?_, ?_, ?_⟩
  · rw [ofProject, hcommand]
  · rw [hread]
    exact commandsOf?_lines_iff hword
  · intro hname hversion
    rw [hread]
    exact commandsOf?_lines_of_phrase hword hname hversion

/-- A plug-in with a name of one word and no version. -/
def wordProject : Project where
  file := ⟨.root, ["work", "Gain.jucer"]⟩
  root := ⟨"JUCERPROJECT", [("name", "Gain"), ("projectType", "audioplug")], []⟩

/-- An application with a name of two words. -/
def twoWordProject : Project where
  file := ⟨.root, ["work", "App.jucer"]⟩
  root := ⟨"JUCERPROJECT", [("name", "My App"), ("projectType", "guiapp")], []⟩

theorem isPhrase_twoWordProject : IsPhrase twoWordProject.name.toList := by decide +kernel

theorem wordsOf_twoWordProject : wordsOf twoWordProject.name.toList = ["My", "App"] := by
  decide +kernel

theorem unescaped_default (hversion : project.version = "") :
    Text.Unescaped (versionOf project) := by
  rw [versionOf, if_pos hversion]
  decide

theorem commands?_ofProject_iff_word :
    wordProject.kindName ∈ ProjectKind.supportedNames
      ∧ (∃ script, ofProject wordProject = .ok script
        ∧ commands? script = some (commands wordProject "juce_add_plugin"))
      ∧ twoWordProject.kindName ∈ ProjectKind.supportedNames
      ∧ ∃ script, ofProject twoWordProject = .ok script
        ∧ commands? script
          = some (commandsNamed twoWordProject "juce_add_gui_app" ["My", "App"]) := by
  have hkind : wordProject.kindName ∈ ProjectKind.supportedNames := by decide +kernel
  have hkind' : twoWordProject.kindName ∈ ProjectKind.supportedNames := by decide +kernel
  have hcommand : wordProject.kind?.bind ProjectKind.addCommand? = some "juce_add_plugin" := by
    decide +kernel
  have hcommand' : twoWordProject.kind?.bind ProjectKind.addCommand? = some "juce_add_gui_app" := by
    decide +kernel
  obtain ⟨addCommand, script, hadd, hscript, hiff, -⟩ := commands?_ofProject_iff hkind
  obtain ⟨addCommand', script', hadd', hscript', -, hphrase⟩ := commands?_ofProject_iff hkind'
  cases hcommand.symm.trans hadd
  cases hcommand'.symm.trans hadd'
  refine ⟨hkind, ⟨script, hscript, hiff.mpr ⟨?_, ?_⟩⟩, hkind', script', hscript', ?_⟩
  · decide +kernel
  · exact unescaped_default (by decide +kernel)
  · rw [← wordsOf_twoWordProject]
    exact hphrase isPhrase_twoWordProject (unescaped_default (by decide +kernel))

/-- The target is called by the first word of the name, and the second word is an argument behind
it. -/
theorem commands?_ofProject_twoWords :
    twoWordProject.kindName ∈ ProjectKind.supportedNames
      ∧ ∃ script, ofProject twoWordProject = .ok script
        ∧ commands? script
          = some [⟨"cmake_minimum_required", ["VERSION", "3.12"]⟩,
            ⟨"project", ["My App"]⟩,
            ⟨"find_package", ["JUCE", "CONFIG", "REQUIRED"]⟩,
            ⟨"juce_add_gui_app", ["My", "App", "VERSION", "1.0.0"]⟩,
            ⟨"juce_generate_juce_header", ["My", "App"]⟩]
        ∧ commands? script ≠ some (commands twoWordProject "juce_add_gui_app") := by
  have hscript : ofProject twoWordProject
      = .ok (Text.join "\n" (lines twoWordProject "juce_add_gui_app") ++ "\n") := by decide +kernel
  have hread : commands? (Text.join "\n" (lines twoWordProject "juce_add_gui_app") ++ "\n")
      = some (commandsNamed twoWordProject "juce_add_gui_app" ["My", "App"]) := by
    have hne : lines twoWordProject "juce_add_gui_app" ≠ [] := List.cons_ne_nil _ _
    rw [commands?_join_append hne, ← wordsOf_twoWordProject]
    exact commandsOf?_lines_of_phrase (by decide) isPhrase_twoWordProject
      (unescaped_default (by decide +kernel))
  refine ⟨by decide +kernel, _, hscript, ?_, ?_⟩
  · rw [hread]
    decide +kernel
  · rw [hread]
    decide +kernel

end JuceBuild.Juce6Script
