import JuceBuild.Project.Group
import JuceBuild.Script.Block

/-!
# File groups

A script lists files by group, in calls that follow the order of the document. The files of a group
up to its next subgroup make one file group; what comes after the subgroup makes another, so the
interleaving of files and subgroups is kept.
-/

namespace JuceBuild

/-- Files that stand together in a group, sources and resources apart. -/
structure FileGroup where
  fullName : String
  files : List String
  headerOnly : List String
  resources : List String
  deriving DecidableEq, Repr

namespace FileGroup

def isEmpty (group : FileGroup) : Bool := group.files.isEmpty && group.resources.isEmpty

def empty (fullName : String) : FileGroup := ⟨fullName, [], [], []⟩

/-- The file group with one file more. -/
def add (group : FileGroup) (entry : FileEntry) : FileGroup :=
  if entry.isResource then { group with resources := group.resources ++ [entry.path] }
  else
    { group with
      files := group.files ++ [entry.path]
      headerOnly :=
        if entry.isHeaderOnly then group.headerOnly ++ [entry.path] else group.headerOnly }

/-- How far a walk through a tree of files has come: the names of the groups it is in, the outermost
first, and the file groups that are complete. -/
structure Walk where
  names : List String
  complete : List FileGroup
  deriving DecidableEq, Repr

namespace Walk

def enter (walk : Walk) (name : String) : Walk := { walk with names := walk.names ++ [name] }

def leave (walk : Walk) : Walk := { walk with names := walk.names.dropLast }

def newGroup (walk : Walk) : FileGroup := .empty (Text.join "/" walk.names)

/-- The walk with one file group more that is complete, unless there is no file in it. -/
def flush (walk : Walk) (current : FileGroup) : Walk :=
  if current.isEmpty then walk else { walk with complete := walk.complete ++ [current] }

mutual

/-- The walk past one member of the innermost group, with the file group that is being filled: a
file is put in it, a subgroup completes it and leaves another to be filled. -/
def member (walk : Walk) (current : FileGroup) : GroupItem → Walk × FileGroup
  | .file entry => (walk, current.add entry)
  | .group name items =>
    let inside := (walk.flush current).enter name
    ((members inside inside.newGroup items).leave, .empty current.fullName)

/-- The walk past members of the innermost group, the last of which completes the file group. -/
def members (walk : Walk) (current : FileGroup) : List GroupItem → Walk
  | [] => walk.flush current
  | item :: rest =>
    let (walk, current) := member walk current item
    members walk current rest

end

end Walk

/-- The file groups of a group and all groups below it. -/
def ofGroup (group : Group) : List FileGroup :=
  let walk : Walk := ⟨[group.name], []⟩
  (walk.members walk.newGroup group.items).complete

/-- The file groups of a project's tree of files. -/
def ofGroup? : Option Group → List FileGroup
  | none => []
  | some group => ofGroup group

def quotedPath (path : String) : String := "\"" ++ path ++ "\""

/-- The call that lists the sources, and the one that keeps some of them from being compiled. -/
def sourceCalls (group : FileGroup) : List Block :=
  ⟨"jucer_project_files(" ++ quotedPath group.fullName, group.files.map quotedPath⟩ ::
    if group.headerOnly.isEmpty then []
    else
      [⟨"set_source_files_properties(",
        group.headerOnly.map (fun path => quotedPath ("$\x7bJUCER_PROJECT_DIR\x7d/" ++ path)) ++
          ["PROPERTIES HEADER_FILE_ONLY TRUE"]⟩]

def resourceCall (group : FileGroup) : Block :=
  ⟨"jucer_project_resources(" ++ quotedPath group.fullName, group.resources.map quotedPath⟩

/-- The lines of the calls that list the files of a group. -/
def lines (group : FileGroup) : List String :=
  (if group.files.isEmpty then [] else Block.linesTogether group.sourceCalls) ++
    if group.resources.isEmpty then [] else group.resourceCall.lines

end FileGroup

end JuceBuild
