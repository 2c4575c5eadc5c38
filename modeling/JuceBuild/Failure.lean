import JuceBuild.FileStore
import JuceBuild.Project.Kind
import JuceBuild.Text.LeadingInt
import JuceBuild.Xml.Encoding

/-!
# Failures

Everything that can stop a conversion, with the wording it is reported in.
-/

namespace JuceBuild

/-- Something wrong with the paths a conversion is given. -/
inductive Problem where
  | projectNotFound (path : Path)
  | reprojucerMissing
  | reprojucerNotFound (path : Path)
  | outputDirectoryNotFound (path : Path)
  deriving DecidableEq, Repr

def Problem.message : Problem → String
  | .projectNotFound path => s!"Jucer project file not found: {path.toString}"
  | .reprojucerMissing => "A Reprojucer.cmake file is required"
  | .reprojucerNotFound path => s!"Reprojucer.cmake file not found: {path.toString}"
  | .outputDirectoryNotFound path => s!"Output directory not found: {path.toString}"

/-- Why a conversion stops. -/
inductive Failure where
  | unreadableProject (path : Path) (reason : FileError)
  | notAProject (location : String)
  | noModulePath (id : String)
  | unreadableHeader (path : Path) (reason : FileError)
  | invalidSettings (problems : List Problem)
  | unsupportedKind (name : String)
  | unwritableScript (path : Path) (reason : FileError)
  | oversizedNumeral (numeral : Text.OversizedNumeral)
  | multiByteEncoding (encoding : Xml.RefusedEncoding)
  deriving DecidableEq, Repr

namespace Failure

/-- What a failure is about. -/
inductive Kind where
  | document
  | moduleHeader
  | settings
  | output
  | value
  deriving DecidableEq, Repr

def kind : Failure → Kind
  | .unreadableProject .. | .notAProject .. => .document
  | .noModulePath .. | .unreadableHeader .. => .moduleHeader
  | .invalidSettings .. | .unsupportedKind .. => .settings
  | .unwritableScript .. => .output
  | .oversizedNumeral .. | .multiByteEncoding .. => .value

def message : Failure → String
  | .unreadableProject path reason => s!"Cannot read {path.toString}: {reason.message}"
  | .notAProject location => s!"{location} is not a valid Jucer project."
  | .noModulePath id => s!"No module path declared for module '{id}'"
  | .unreadableHeader path reason =>
    s!"Cannot read module header {path.toString}: {reason.message}"
  | .invalidSettings problems =>
    "Configuration errors:\n" ++ Text.join "\n" (problems.map ("  - " ++ ·.message))
  | .unsupportedKind name =>
    s!"Project type '{name}' is not supported in JUCE 6 mode. Supported: " ++
      Text.join ", " ProjectKind.supportedNames
  | .unwritableScript path reason => s!"Cannot write {path.toString}: {reason.message}"
  | .oversizedNumeral numeral =>
    s!"Exceeds the limit ({Text.Numeral.digitLimit} digits) for integer string conversion: " ++
      s!"value has {numeral.digits} digits; use sys.set_int_max_str_digits() to increase the limit"
  | .multiByteEncoding encoding => encoding.message

end Failure

end JuceBuild
