import JuceBuild.Path
import JuceBuild.Text.LeadingInt
import JuceBuild.Xml.Node

/-!
# File entries

A file of a project: a source or a resource, with the compile flag it may carry. A C++ source whose
compile flag is zero is part of the project but not compiled.
-/

namespace JuceBuild

open Text (OversizedNumeral leadingInt)

/-- A file of a project, by its path from the project's directory. -/
structure FileEntry where
  path : String
  isResource : Bool
  compileFlag? : Option Int
  deriving DecidableEq, Repr

namespace FileEntry

def isCppSource (path : String) : Bool := (Path.ofString path).suffix.toLower = ".cpp"

/-- Whether the file is a source that is not to be compiled. -/
def isHeaderOnly (entry : FileEntry) : Bool :=
  !entry.isResource && entry.compileFlag? = some 0 && isCppSource entry.path

def ofNode (node : Xml.Node) : Except OversizedNumeral FileEntry := do
  let resourceFlag ← leadingInt (node.attributeD "resource")
  let compileFlag? ← (node.attribute? "compile").mapM leadingInt
  return ⟨node.attributeD "file", resourceFlag = 1, compileFlag?⟩

end FileEntry

end JuceBuild
