import JuceBuild.Path.Lexical

/-!
# Header search paths

An exporter writes its header search paths from its target folder; a script wants them from the
project's directory. The way is found on the paths alone, whatever the file store holds.
-/

namespace JuceBuild.SearchPath

/-- The place of a search path that is written from a target folder of a project's directory. -/
def place (cwd : Place) (directory : Path) (targetFolder entry : String) : Place :=
  ((directory.join (Path.ofString targetFolder)).join (Path.ofString entry)).collapse cwd

/-- The search paths of a value with one entry a line, from the project's directory. Empty lines
are left out. -/
def fromDirectory (cwd : Place) (headerPath : String) (directory : Path) (targetFolder : String) :
    List String :=
  ((Text.entries headerPath).filter (· ≠ "")).map fun entry =>
    routeText (Place.route (directory.collapse cwd) (place cwd directory targetFolder entry))

end JuceBuild.SearchPath
