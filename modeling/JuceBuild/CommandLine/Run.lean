import JuceBuild.CommandLine.Request
import JuceBuild.Conversion

/-!
# Running a command line

What a command line does to the files, prints, and returns as its status: zero for success and one
for every failure. Failures that a value of the document causes are handed on.
-/

namespace JuceBuild.CommandLine

/-- What a run prints on its two streams, and its status. -/
structure Outcome where
  status : Nat
  output : String
  errors : String
  deriving DecidableEq, Repr

def unlines (lines : List String) : String := Text.join "\n" lines ++ "\n"

def usage : List String := [
  "usage: jucer2cmake [-h] [-V] [--juce6] [-o OUTPUT_DIR] [-v]",
  "                   jucer_file [reprojucer_file]"]

/-- What the command does and what its arguments mean. -/
def help : List String := usage ++ [
  "",
  "Generate a CMakeLists.txt from a Projucer (.jucer) project",
  "",
  "positional arguments:",
  "  jucer_file            Path to the .jucer project file",
  "  reprojucer_file       Path to Reprojucer.cmake (not used with --juce6)",
  "",
  "options:",
  "  -h, --help            show this help message and exit",
  "  -V, --version         show program's version number and exit",
  "  --juce6               Generate against JUCE 6's CMake API instead of",
  "                        Reprojucer",
  "  -o OUTPUT_DIR, --output-dir OUTPUT_DIR",
  "                        Directory to write CMakeLists.txt to (default: current",
  "                        directory)",
  "  -v, --verbose         Print a summary of the generated script",
  "",
  "Examples:",
  "  # Generate CMakeLists.txt (Reprojucer) in the current directory",
  "  jucer2cmake ../MyApp.jucer ../../cmake/Reprojucer.cmake",
  "",
  "  # Generate CMakeLists.txt for JUCE 6's CMake API",
  "  jucer2cmake --juce6 ../MyApp.jucer",
  "",
  "  # Write CMakeLists.txt next to the project",
  "  jucer2cmake MyApp.jucer cmake/Reprojucer.cmake -o ."]

def version : String := "jucer2cmake 0.1.0"

namespace Outcome

def success (lines : List String) : Outcome :=
  ⟨0, if lines.isEmpty then "" else unlines lines, ""⟩

def failure (lines : List String) : Outcome := ⟨1, "", unlines lines⟩

end Outcome

/-- Names in one line. -/
def listing (names : List String) : String :=
  let line := Text.join ", " names
  if line = "" then "(none)" else line

def report (settings : ConversionSettings) (result : ConversionResult) : List String :=
  s!"Generated {result.outputPath.toString} from {settings.project.toString}" ::
    if settings.forJuce6 then []
    else
      [s!"  File groups: {result.fileGroups.length}",
        "  Modules: " ++ listing result.modules,
        "  Exporters: " ++ listing result.exporters] ++
        if result.skippedExporters.isEmpty then []
        else ["  Skipped exporters: " ++ Text.join ", " result.skippedExporters]

/-- A conversion, with a report if one is asked for. -/
def runConversion (store : FileStore) (settings : ConversionSettings) (isVerbose : Bool) :
    Except Failure (Outcome × FileStore) :=
  match settings.perform.run store with
  | .ok result store => .ok (.success (if isVerbose then report settings result else []), store)
  | .error failure store =>
    if failure.kind = .value then .error failure
    else .ok (.failure ["error: " ++ failure.message], store)

/-- The settings of the conversion that a command line asks for. -/
def settingsOf (project : String) (reprojucer? : Option String) (options : Options) :
    ConversionSettings where
  project := Path.ofString project
  reprojucer? := reprojucer?.map Path.ofString
  outputDirectory? := options.outputDirectory?.map Path.ofString
  forJuce6 := options.forJuce6

/-- What a command line does. -/
def run (store : FileStore) (words : List String) (level : PatchLevel := .early) :
    Except Failure (Outcome × FileStore) :=
  match Request.ofWords words level with
  | .error e => .ok (.failure (usage ++ ["jucer2cmake: error: " ++ e.message]), store)
  | .ok .help => .ok (.success help, store)
  | .ok .version => .ok (.success [version], store)
  | .ok (.convert project reprojucer? options) =>
    match options.forJuce6, reprojucer? with
    | true, some _ =>
      .ok (.failure (usage ++
        ["error: a Reprojucer.cmake file cannot be used with --juce6"]), store)
    | false, none =>
      .ok (.failure (usage ++
        ["error: the following arguments are required: reprojucer_file"]), store)
    | _, _ => runConversion store (settingsOf project reprojucer? options) options.isVerbose

end JuceBuild.CommandLine
