import JuceBuild.Path.Lexical

/-!
# File stores

The state that a conversion reads and writes: files and directories at places, and the current
directory. A path is resolved by walking, so every directory on the way has to be there.
-/

namespace JuceBuild

/-- Why a file cannot be read or written. -/
inductive FileError where
  | noSuchFile
  | isDirectory
  | notDirectory
  deriving DecidableEq, Repr

def FileError.message : FileError → String
  | .noSuchFile => "No such file or directory"
  | .isDirectory => "Is a directory"
  | .notDirectory => "Not a directory"

/-- What stands at a place. -/
inductive FileStore.Entry where
  | file (content : ByteArray)
  | directory

/-- Entries by place, and the current directory. The root is always a directory. -/
structure FileStore where
  entries : List (Place × FileStore.Entry)
  cwd : Place

/-- An action on the files, which may stop with an error. What it has done to the files until then
stays done. -/
abbrev FileAction (ε : Type) := EStateM ε FileStore

namespace FileStore

/-- What stands at a place. -/
def entryAt? (store : FileStore) (place : Place) : Option Entry :=
  if place = [] then some .directory else store.entries.lookup place

def insert (store : FileStore) (place : Place) (entry : Entry) : FileStore :=
  { store with entries := (place, entry) :: store.entries.filter (·.1 ≠ place) }

/-- One component further from a place, which has to be a directory. -/
def step (store : FileStore) (place : Place) (part : String) : Except FileError Place :=
  match store.entryAt? place with
  | none => .error .noSuchFile
  | some (.file _) => .error .notDirectory
  | some .directory => .ok (place.step part)

/-- The place that a path leads to. Something need not stand there. -/
def walk (store : FileStore) (path : Path) : Except FileError Place :=
  path.parts.foldlM store.step (path.start store.cwd)

/-- What stands where a path leads to. -/
def find (store : FileStore) (path : Path) : Except FileError Entry :=
  match store.walk path with
  | .error reason => .error reason
  | .ok place =>
    match store.entryAt? place with
    | none => .error .noSuchFile
    | some entry => .ok entry

def read (store : FileStore) (path : Path) : Except FileError ByteArray :=
  match store.find path with
  | .error reason => .error reason
  | .ok .directory => .error .isDirectory
  | .ok (.file content) => .ok content

def isFile (store : FileStore) (path : Path) : Bool :=
  match store.find path with
  | .ok (.file _) => true
  | _ => false

def isDirectory (store : FileStore) (path : Path) : Bool :=
  match store.find path with
  | .ok .directory => true
  | _ => false

/-- Opens the file a path leads to for writing: one that stands there is emptied, and if there is
none it is made. The place of the file is returned. -/
def openEmpty (path : Path) : FileAction FileError Place := do
  let store ← get
  let place ← liftExcept (store.walk path)
  match store.entryAt? place with
  | some .directory => throw .isDirectory
  | _ =>
    set (store.insert place (.file .empty))
    return place

/-- Puts octets at the end of the file at a place. -/
def append (place : Place) (octets : ByteArray) : FileAction FileError Unit :=
  modify fun store =>
    match store.entryAt? place with
    | some (.file content) => store.insert place (.file (content ++ octets))
    | _ => store

/-- Writes a file where a path leads to, in place of one that stands there. -/
def write (path : Path) (content : ByteArray) : FileAction FileError Unit := do
  append (← openEmpty path) content

/-- The store with a directory at a place and at all places above it that are free. -/
def makeDirectories (store : FileStore) (place : Place) : FileStore :=
  ((List.range (place.length + 1)).map place.take).foldl (fun store above =>
    match store.entryAt? above with
    | some _ => store
    | none => store.insert above .directory) store

/-- The store with a file at a place, in directories that are made for it. -/
def put (store : FileStore) (place : Place) (content : ByteArray) : FileStore :=
  (store.makeDirectories place.dropLast).insert place (.file content)

def delete (store : FileStore) (place : Place) : FileStore :=
  { store with entries := store.entries.filter fun entry => !place.isPrefixOf entry.1 }

/-- The files of a store with their absolute paths, in the order of the paths. -/
def files (store : FileStore) : List (String × ByteArray) :=
  let found := store.entries.filterMap fun (place, entry) =>
    match entry with
    | .file content => some (place.path.toString, content)
    | .directory => none
  found.mergeSort fun a b => a.1 ≤ b.1

/-- The files of a store that another store does not hold with the same content. -/
def filesSince (store before : FileStore) : List (String × ByteArray) :=
  store.files.filter fun (path, content) => before.files.lookup path != some content

/-- The store with nothing in it but a current directory. -/
def empty (cwd : Place) : FileStore := makeDirectories ⟨[], cwd⟩ cwd

end FileStore

end JuceBuild
