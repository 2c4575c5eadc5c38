import JuceBuild.Exporter.Basic
import JuceBuild.Failure
import JuceBuild.Project.Group
import JuceBuild.Text.Quoted
import JuceBuild.Xml.Document

/-!
# Projects

A project is a document with the root `JUCERPROJECT` and the place it was read from. Its parts are
found by tag, and of several children with one tag the first counts.
-/

namespace JuceBuild

/-- A project document and the absolute path of its file. -/
structure Project where
  file : Path
  root : Xml.Node
  deriving Repr

namespace Project

/-- The root of the document in a file; none if the document is not well formed. -/
def readDocument (store : FileStore) (path : Path) : Except Failure (Option Xml.Node) :=
  match store.read path with
  | .error reason => .error (.unreadableProject path reason)
  | .ok content =>
    match Xml.Node.ofOctets content.data.toList with
    | .error encoding => .error (.multiByteEncoding encoding)
    | .ok root? => .ok root?

def rootTag : String := "JUCERPROJECT"

/-- The project in a file, by the location as it was written. -/
def load (store : FileStore) (location : String) : Except Failure Project :=
  let path := Path.ofString location
  match readDocument store path with
  | .error failure => .error failure
  | .ok none => .error (.notAProject location)
  | .ok (some root) =>
    if root.tag = rootTag then .ok ⟨path.absolute store.cwd, root⟩
    else .error (.notAProject path.toString)

def directory (project : Project) : Path := project.file.parent

def fileName (project : Project) : String := project.file.name

def name (project : Project) : String := project.root.attributeD "name"

def version (project : Project) : String := project.root.attributeD "version"

/-- The word for what the project builds. -/
def kindName (project : Project) : String := project.root.attributeD "projectType"

/-- What the project builds, if the word for it is known. -/
def kind? (project : Project) : Option ProjectKind := ProjectKind.ofName? project.kindName

/-- What the project builds as a script names it, empty if it is not known. -/
def kindDescription (project : Project) : String :=
  match project.kind? with
  | none => ""
  | some kind => kind.description

def mainGroup? (project : Project) : Except Text.OversizedNumeral (Option Group) :=
  match project.root.child? "MAINGROUP" with
  | none => .ok none
  | some node => (Group.ofNode node).map some

def moduleIds (project : Project) : List String :=
  (project.root.childrenOf "MODULES").map (·.attributeD "id")

def hasModule (project : Project) (id : String) : Bool :=
  (project.root.childrenOf "MODULES").any (·.attribute? "id" = some id)

/-- The values of module options that hold for the whole project. -/
def options (project : Project) : List (String × String) :=
  match project.root.child? "JUCEOPTIONS" with
  | none => []
  | some node => node.attributes

def exporters (project : Project) : List Exporter :=
  (project.root.childrenOf "EXPORTFORMATS").map (⟨·⟩)

def exporter? (project : Project) (tag : String) : Option Exporter :=
  project.exporters.find? (·.tag = tag)

/-- Where the project finds its modules, which its first exporter tells. -/
def modulePaths (project : Project) : List (String × String) :=
  match project.exporters with
  | [] => []
  | exporter :: _ => exporter.modulePaths

/-- The name and the kind of the project, in one line. -/
def summary (project : Project) : String :=
  s!"JucerProject({Text.quoted project.name}, {Text.quoted project.kindName})"

end Project

end JuceBuild
