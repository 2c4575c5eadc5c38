import JuceBuild.CommandLine.Run

/-!
# The command

Runs a command line on the files of the machine. The files that a conversion may look at are read
into a store first, the conversion works on the store, and the files it has changed are written
back.
-/

namespace JuceBuild.Main

/-- The patch level of the option parser that the command has, which is 3.11.10. -/
def level : CommandLine.PatchLevel := .late

/-- What stands at a place on the machine. -/
def look (place : Place) : IO (Option FileStore.Entry) := do
  let file := (← IO.currentDir) / place.path.toString
  if ← file.isDir then return some .directory
  if ← file.pathExists then return some (.file (← IO.FS.readBinFile file))
  return none

/-- The places that a walk along a path passes. -/
def stops (path : Path) (cwd : Place) : List Place :=
  (List.range (path.parts.length + 1)).map fun n =>
    Path.collapse ⟨path.anchor, path.parts.take n⟩ cwd

/-- The store with all that stands along a path on the machine. -/
def observe (store : FileStore) (path : Path) : IO FileStore :=
  (stops path store.cwd).foldlM (fun store place => do
    match store.entryAt? place, ← look place with
    | none, some entry => return store.insert place entry
    | _, _ => return store) store

/-- The paths that a conversion is given. -/
def givenPaths (settings : ConversionSettings) (cwd : Place) : List Path :=
  [settings.project] ++ settings.reprojucer?.toList ++ [settings.outputPath cwd]

/-- The headers of the modules of the project that a conversion is given. -/
def headerPaths (settings : ConversionSettings) (store : FileStore) : List Path :=
  match Project.load store settings.project.toString with
  | .error _ => []
  | .ok project => project.moduleIds.filterMap fun id =>
    (project.modulePaths.lookup id).map (ModuleReference.headerPath id · project.directory)

/-- The store with all that a command line may look at. -/
def observeFor (store : FileStore) (words : List String) : IO FileStore := do
  match CommandLine.Request.ofWords words level with
  | .ok (.convert project reprojucer? options) =>
    let settings := CommandLine.settingsOf project reprojucer? options
    let store ← (givenPaths settings store.cwd).foldlM observe store
    (headerPaths settings store).foldlM observe store
  | _ => return store

end JuceBuild.Main

open JuceBuild in
/-- Runs the command with the given words. -/
def main (words : List String) : IO UInt32 := do
  let cwd := (Path.ofString (← IO.currentDir).toString).collapse []
  let store ← Main.observeFor (FileStore.empty cwd) words
  match CommandLine.run store words Main.level with
  | .error failure =>
    (← IO.getStderr).putStrLn ("error: " ++ failure.message)
    return 1
  | .ok (outcome, after) =>
    for (path, content) in after.filesSince store do
      IO.FS.writeBinFile path content
    (← IO.getStdout).putStr outcome.output
    (← IO.getStderr).putStr outcome.errors
    return UInt32.ofNat outcome.status
