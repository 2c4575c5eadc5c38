import JuceBuild.Failure
import JuceBuild.Module.Header
import JuceBuild.Script.Block

/-!
# References to modules

A project names the modules it uses and says where they are. A reference is such a module with the
options that its header declares.
-/

namespace JuceBuild

/-- A module of a project: its path from the project's directory, and its options. -/
structure ModuleReference where
  id : String
  path : String
  options : List String
  deriving DecidableEq, Repr

namespace ModuleReference

/-- The public header of a module: it has the module's name, in a directory of the module's name. -/
def headerPath (id path : String) (directory : Path) : Path :=
  ((directory.join (Path.ofString path)).join (Path.ofString id)).join (Path.ofString (id ++ ".h"))

def scanHeader (store : FileStore) (path : Path) : Except Failure (List String) :=
  match store.read path with
  | .error reason => .error (.unreadableHeader path reason)
  | .ok content => .ok (ModuleHeader.options content)

/-- The module of an id, at the path that is declared for it. -/
def resolve (store : FileStore) (paths : List (String × String)) (directory : Path) (id : String) :
    Except Failure ModuleReference :=
  match paths.lookup id with
  | none => .error (.noModulePath id)
  | some path => (scanHeader store (headerPath id path directory)).map (⟨id, path, ·⟩)

def resolveAll (store : FileStore) (ids : List String) (paths : List (String × String))
    (directory : Path) : Except Failure (List ModuleReference) :=
  ids.mapM (resolve store paths directory)

/-- The line of an option: on, off, or a comment if the project leaves it to the module. -/
def optionLine (option : String) (value? : Option String) : String :=
  match value? with
  | some "enabled" => option ++ " ON"
  | some "disabled" => option ++ " OFF"
  | _ => "# " ++ option

/-- The call that adds the module to the project, with the project's values of its options. -/
def call (reference : ModuleReference) (options : List (String × String)) : Block :=
  ⟨"jucer_project_module(",
    reference.id :: ("PATH \"" ++ reference.path ++ "\"") ::
      reference.options.map fun option => optionLine option (options.lookup option)⟩

end ModuleReference

end JuceBuild
