import JuceBuild.Script.Juce6
import JuceBuild.Script.Reprojucer

/-!
# Conversions

A conversion checks the paths it is given, reads a project, makes its script and writes it. Nothing
is written before the script is complete, so a conversion that fails leaves the files as they were.
-/

namespace JuceBuild

/-- What a conversion is asked to do. Without an output directory the script goes to the current
directory. -/
structure ConversionSettings where
  project : Path
  reprojucer? : Option Path
  outputDirectory? : Option Path
  forJuce6 : Bool
  deriving DecidableEq, Repr

/-- What a conversion has written, and what from. The lists are empty for JUCE 6. -/
structure ConversionResult where
  outputPath : Path
  fileGroups : List String
  modules : List String
  exporters : List String
  skippedExporters : List String
  deriving DecidableEq, Repr

/-- The counts of a result, in one line. -/
def ConversionResult.summary (result : ConversionResult) : String :=
  s!"ConversionResult({result.outputPath.toString}: {result.fileGroups.length} file groups, " ++
    s!"{result.modules.length} modules, {result.exporters.length} exporters)"

namespace ConversionSettings

def scriptName : String := "CMakeLists.txt"

def outputPath (settings : ConversionSettings) (cwd : Place) : Path :=
  let directory := settings.outputDirectory?.getD cwd.path
  directory.join ⟨.relative, [scriptName]⟩

def problems (settings : ConversionSettings) (store : FileStore) : List Problem :=
  let projectProblems :=
    if store.isFile settings.project then [] else [.projectNotFound settings.project]
  let reprojucerProblems :=
    if settings.forJuce6 then []
    else
      match settings.reprojucer? with
      | none => [.reprojucerMissing]
      | some path => if store.isFile path then [] else [.reprojucerNotFound path]
  let directoryProblems :=
    match settings.outputDirectory? with
    | none => []
    | some path => if store.isDirectory path then [] else [.outputDirectoryNotFound path]
  projectProblems ++ reprojucerProblems ++ directoryProblems

/-- The text of the script for a project, and the result of writing it. -/
def script (settings : ConversionSettings) (store : FileStore) (project : Project) :
    Except Failure (String × ConversionResult) :=
  let outputPath := settings.outputPath store.cwd
  if settings.forJuce6 then
    (Juce6Script.ofProject project).map (·, ⟨outputPath, [], [], [], []⟩)
  else do
    let reprojucer := settings.reprojucer?.getD ⟨.relative, []⟩
    let script ← ReprojucerScript.ofProject store project reprojucer settings.outputDirectory?
    return (script.text,
      { outputPath
        fileGroups := script.fileGroups.map (·.fullName)
        modules := script.modules.map (·.id)
        exporters := script.exporters
        skippedExporters := project.skippedExporters })

/-- Carries the conversion out on the files: its result. -/
def perform (settings : ConversionSettings) : FileAction Failure ConversionResult := do
  let store ← get
  match settings.problems store with
  | [] =>
    let project ← liftExcept (Project.load store settings.project.toString)
    let (text, result) ← liftExcept (settings.script store project)
    EStateM.adaptExcept (.unwritableScript result.outputPath)
      (FileStore.write result.outputPath text.toUTF8)
    return result
  | problems => throw (.invalidSettings problems)

end ConversionSettings

/-- The conversion with the given settings: its result and the files after it. -/
def convert (store : FileStore) (settings : ConversionSettings) :
    Except Failure (ConversionResult × FileStore) :=
  match settings.perform.run store with
  | .ok result store => .ok (result, store)
  | .error failure _ => .error failure

end JuceBuild
