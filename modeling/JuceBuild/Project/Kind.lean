/-!
# Kinds of projects

What a project builds. A document names the kind by a word; only some words are known.
-/

namespace JuceBuild

/-- What a project builds. -/
inductive ProjectKind where
  | guiApplication
  | consoleApplication
  | staticLibrary
  | audioPlugin
  deriving DecidableEq, Repr

namespace ProjectKind

/-- The kind that a document's word stands for. -/
def ofName? : String → Option ProjectKind
  | "guiapp" => some .guiApplication
  | "consoleapp" => some .consoleApplication
  | "library" => some .staticLibrary
  | "audioplug" => some .audioPlugin
  | _ => none

def description : ProjectKind → String
  | .guiApplication => "GUI Application"
  | .consoleApplication => "Console Application"
  | .staticLibrary => "Static Library"
  | .audioPlugin => "Audio Plug-in"

/-- The command of JUCE 6 that adds a target of a kind; it has none for libraries. -/
def addCommand? : ProjectKind → Option String
  | .guiApplication => some "juce_add_gui_app"
  | .consoleApplication => some "juce_add_console_app"
  | .staticLibrary => none
  | .audioPlugin => some "juce_add_plugin"

/-- The words for the kinds that JUCE 6 has a command for. -/
def supportedNames : List String := ["guiapp", "consoleapp", "audioplug"]

end ProjectKind

end JuceBuild
