import JuceBuild.Project.Basic
import JuceBuild.Proofs.Module.Reference

/-!
# Which modules are resolved, and which one fails

A document names its modules in one place and says where they are in another: in the first list of
paths of its first exporter, whether there is an environment for that exporter or not. An entry
counts if no entry before it has the same id, so the paths are collected from the front, and what is
collected is never changed. The modules are then resolved from the front until one of them cannot
be. So the first module that cannot be resolved decides how the resolution fails, and neither the
modules behind it nor any other list of paths has a say in it.
-/

namespace JuceBuild

namespace Exporter

/-- The paths that have been collected, after one entry more. -/
def addPath (paths : List (String × String)) (node : Xml.Node) : List (String × String) :=
  match node.attribute? "id" with
  | none => paths
  | some id =>
    if (paths.lookup id).isSome then paths else paths ++ [(id, node.attributeD "path")]

theorem declaredPaths_eq_foldl (nodes : List Xml.Node) :
    declaredPaths nodes = nodes.foldl addPath [] :=
  rfl

/-- An entry gives a path to its id, unless there is one already. -/
theorem lookup_addPath (paths : List (String × String)) (node : Xml.Node) (id : String) :
    (addPath paths node).lookup id
      = (paths.lookup id).or
        (if node.attribute? "id" = some id then some (node.attributeD "path") else none) := by
  rw [addPath]
  cases hid : node.attribute? "id" with
  | none => simp
  | some other =>
      by_cases hother : other = id
      · cases hpath : paths.lookup id with
        | none => simp [hother, hpath, List.lookup_append]
        | some path => simp [hother, hpath]
      · have hne : (id == other) = false := beq_eq_false_iff_ne.mpr (Ne.symm hother)
        dsimp only
        split
        · simp [hother]
        · simp [hother, List.lookup_append, List.lookup_cons, hne]

theorem lookup_foldl_addPath (nodes : List Xml.Node) (paths : List (String × String))
    (id : String) :
    (nodes.foldl addPath paths).lookup id
      = (paths.lookup id).or
        ((nodes.find? (·.attribute? "id" = some id)).map (·.attributeD "path")) := by
  induction nodes generalizing paths with
  | nil => simp
  | cons node nodes ih =>
      -- What is collected already goes first, then this entry, then those behind it.
      rw [List.foldl_cons, ih, lookup_addPath, Option.or_assoc, List.find?_cons]
      by_cases hid : node.attribute? "id" = some id <;> simp [hid]

/-- The path that is collected for an id is that of the first entry with the id. -/
theorem lookup_declaredPaths (nodes : List Xml.Node) (id : String) :
    (declaredPaths nodes).lookup id
      = (nodes.find? (·.attribute? "id" = some id)).map (·.attributeD "path") := by
  rw [declaredPaths_eq_foldl, lookup_foldl_addPath, List.lookup_nil, Option.none_or]

end Exporter

namespace Project

/-- The path that a document declares for a module id. -/
def declaredPath? (project : Project) (id : String) : Option String := do
  let exporters ← project.root.child? "EXPORTFORMATS"
  let exporter ← exporters.children.head?
  let paths ← exporter.child? "MODULEPATHS"
  let entry ← paths.childWith? "id" id
  return entry.attributeD "path"

theorem lookup_modulePaths (project : Project) (id : String) :
    project.modulePaths.lookup id = project.declaredPath? id := by
  rw [modulePaths, exporters, Xml.Node.childrenOf, declaredPath?]
  cases project.root.child? "EXPORTFORMATS" with
  | none => rfl
  | some exporters =>
      obtain ⟨tag, attributes, children⟩ := exporters
      cases children with
      | nil => rfl
      | cons exporter others =>
          have hlookup : (Exporter.modulePaths ⟨exporter⟩).lookup id
              = ((exporter.childrenOf "MODULEPATHS").find? (·.attribute? "id" = some id)).map
                (·.attributeD "path") := Exporter.lookup_declaredPaths _ id
          refine hlookup.trans ?_
          rw [Xml.Node.childrenOf]
          cases hpaths : exporter.child? "MODULEPATHS" with
          | none => simp [hpaths]
          | some paths =>
              simp only [Option.bind_eq_bind, Option.bind_some, List.head?_cons, hpaths,
                Xml.Node.childWith?]
              cases paths.children.find? (·.attribute? "id" = some id) <;> rfl

def resolveModules (store : FileStore) (project : Project) :
    Except Failure (List ModuleReference) :=
  ModuleReference.resolveAll store project.moduleIds project.modulePaths project.directory

end Project

namespace ModuleReference

variable {store : FileStore} {project : Project}

/-- The header that a project's module of an id has at a path. -/
def headerOf (project : Project) (id path : String) : Path :=
  headerPath id path project.directory

/-- A node of a document names a module that can be resolved, to a reference. -/
structure Resolves (store : FileStore) (project : Project) (node : Xml.Node)
    (reference : ModuleReference) : Prop where
  id_eq : reference.id = node.attributeD "id"
  path_eq : project.declaredPath? reference.id = some reference.path
  options_eq : ∃ content, store.read (headerOf project reference.id reference.path) = .ok content
    ∧ reference.options = ModuleHeader.options content

/-- A node of a document names a module that cannot be resolved, for a reason. -/
inductive Fails (store : FileStore) (project : Project) (node : Xml.Node) : Failure → Prop where
  | noPath (hpath : project.declaredPath? (node.attributeD "id") = none) :
    Fails store project node (.noModulePath (node.attributeD "id"))
  | noHeader {path : String} {reason : FileError}
    (hpath : project.declaredPath? (node.attributeD "id") = some path)
    (hread : store.read (headerOf project (node.attributeD "id") path) = .error reason) :
    Fails store project node
      (.unreadableHeader (headerOf project (node.attributeD "id") path) reason)

theorem resolve_eq_ok_iff_resolves {node : Xml.Node} {reference : ModuleReference} :
    resolve store project.modulePaths project.directory (node.attributeD "id") = .ok reference
      ↔ Resolves store project node reference := by
  rw [resolve_eq_ok_iff, Project.lookup_modulePaths]
  constructor
  · rintro ⟨path, content, hpath, hread, rfl⟩
    exact ⟨rfl, hpath, content, hread, rfl⟩
  · rintro ⟨hid, hpath, content, hread, hoptions⟩
    rw [hid] at hpath hread
    refine ⟨reference.path, content, hpath, hread, ?_⟩
    rw [← hid, ← hoptions]

theorem resolve_eq_error_iff_fails {node : Xml.Node} {failure : Failure} :
    resolve store project.modulePaths project.directory (node.attributeD "id") = .error failure
      ↔ Fails store project node failure := by
  rw [resolve, Project.lookup_modulePaths]
  cases hpath : project.declaredPath? (node.attributeD "id") with
  | none =>
      constructor
      · rintro ⟨⟩
        exact .noPath hpath
      · rintro (_ | ⟨hother, -⟩)
        · rfl
        · cases hpath.symm.trans hother
  | some path =>
      dsimp only
      rw [map_eq_error_iff, scanHeader]
      cases hread : store.read (headerPath (node.attributeD "id") path project.directory) with
      | error reason =>
          constructor
          · rintro ⟨⟩
            exact .noHeader hpath hread
          · rintro (hother | ⟨hother, hread'⟩)
            · cases hpath.symm.trans hother
            · cases hpath.symm.trans hother
              cases hread.symm.trans hread'
              rfl
      | ok content =>
          constructor
          · rintro ⟨⟩
          · rintro (hother | ⟨hother, hread'⟩)
            · cases hpath.symm.trans hother
            · cases hpath.symm.trans hother
              cases hread.symm.trans hread'

theorem Fails.message_eq {node : Xml.Node} {failure : Failure}
    (hfails : Fails store project node failure) :
    failure.kind = .moduleHeader
      ∧ match project.declaredPath? (node.attributeD "id") with
        | none =>
          failure.message = "No module path declared for module '" ++ node.attributeD "id" ++ "'"
        | some path =>
          ∃ reason : FileError, failure.message = "Cannot read module header "
            ++ (headerOf project (node.attributeD "id") path).toString ++ ": "
            ++ reason.message := by
  cases hfails with
  | noPath hpath =>
      rw [hpath]
      exact ⟨rfl, rfl⟩
  | noHeader hpath hread =>
      rw [hpath]
      exact ⟨rfl, _, rfl⟩

end ModuleReference

namespace Project

variable {store : FileStore} {project : Project}

theorem resolveModules_eq_mapM (store : FileStore) (project : Project) :
    project.resolveModules store
      = (project.root.childrenOf "MODULES").mapM fun node =>
        ModuleReference.resolve store project.modulePaths project.directory
          (node.attributeD "id") := by
  rw [resolveModules, ModuleReference.resolveAll, moduleIds, List.mapM_map]
  rfl

theorem resolveModules_eq_ok_iff {references : List ModuleReference} :
    project.resolveModules store = .ok references
      ↔ List.Forall₂ (ModuleReference.Resolves store project)
        (project.root.childrenOf "MODULES") references := by
  rw [resolveModules_eq_mapM, mapM_eq_ok_iff]
  simp only [ModuleReference.resolve_eq_ok_iff_resolves]

/-- Whether a module can be resolved, without saying to what. -/
theorem exists_resolves_iff {node : Xml.Node} :
    (∃ reference, ModuleReference.Resolves store project node reference)
      ↔ ∃ path content, project.declaredPath? (node.attributeD "id") = some path
        ∧ store.read (ModuleReference.headerOf project (node.attributeD "id") path)
          = .ok content := by
  constructor
  · rintro ⟨reference, hid, hpath, content, hread, -⟩
    rw [hid] at hpath hread
    exact ⟨reference.path, content, hpath, hread⟩
  · rintro ⟨path, content, hpath, hread⟩
    exact ⟨⟨node.attributeD "id", path, ModuleHeader.options content⟩, rfl, hpath, content, hread,
      rfl⟩

theorem resolveModules_eq_error_iff {failure : Failure} :
    project.resolveModules store = .error failure
      ↔ ∃ before node after, project.root.childrenOf "MODULES" = before ++ node :: after
        ∧ (∀ earlier ∈ before, ∃ reference,
          ModuleReference.Resolves store project earlier reference)
        ∧ ModuleReference.Fails store project node failure := by
  rw [resolveModules_eq_mapM, mapM_eq_error_iff]
  simp only [ModuleReference.resolve_eq_ok_iff_resolves,
    ModuleReference.resolve_eq_error_iff_fails]

theorem exists_resolveModules_eq_ok_iff :
    (∃ references, project.resolveModules store = .ok references)
      ↔ ∀ node ∈ project.root.childrenOf "MODULES", ∃ path content,
        project.declaredPath? (node.attributeD "id") = some path
          ∧ store.read (ModuleReference.headerOf project (node.attributeD "id") path)
            = .ok content := by
  simp only [resolveModules_eq_ok_iff, ← exists_resolves_iff]
  induction project.root.childrenOf "MODULES" with
  | nil => simp
  | cons node nodes ih =>
      rw [List.forall_mem_cons, ← ih]
      constructor
      · rintro ⟨references, hreferences⟩
        obtain ⟨reference, rest, hnode, hrest, rfl⟩ := List.forall₂_cons_left_iff.mp hreferences
        exact ⟨⟨reference, hnode⟩, rest, hrest⟩
      · rintro ⟨⟨reference, hnode⟩, rest, hrest⟩
        exact ⟨reference :: rest, .cons hnode hrest⟩

/-- **Modules are resolved from the front.** All modules of a document are resolved if each has a
declared path and a header there that can be read; the references then come in the order of the
document, one for each module, whether ids are repeated or not. Otherwise the first module that
cannot be resolved is reported: every module before it can be, and what comes behind it does not
matter. -/
theorem resolveModules_eq_iff (store : FileStore) (project : Project) :
    ((∃ references, project.resolveModules store = .ok references)
        ↔ ∀ node ∈ project.root.childrenOf "MODULES", ∃ path content,
          project.declaredPath? (node.attributeD "id") = some path
            ∧ store.read (ModuleReference.headerOf project (node.attributeD "id") path)
              = .ok content)
      ∧ (∀ references, project.resolveModules store = .ok references
        ↔ List.Forall₂ (ModuleReference.Resolves store project)
          (project.root.childrenOf "MODULES") references)
      ∧ (∀ failure, project.resolveModules store = .error failure
        ↔ ∃ before node after, project.root.childrenOf "MODULES" = before ++ node :: after
          ∧ (∀ earlier ∈ before, ∃ reference,
            ModuleReference.Resolves store project earlier reference)
          ∧ ModuleReference.Fails store project node failure)
      ∧ ∀ node failure, ModuleReference.Fails store project node failure →
        failure.kind = .moduleHeader
          ∧ match project.declaredPath? (node.attributeD "id") with
            | none =>
              failure.message
                = "No module path declared for module '" ++ node.attributeD "id" ++ "'"
            | some path =>
              ∃ reason : FileError, failure.message = "Cannot read module header "
                ++ (ModuleReference.headerOf project (node.attributeD "id") path).toString ++ ": "
                ++ reason.message :=
  ⟨exists_resolveModules_eq_ok_iff, fun _ => resolveModules_eq_ok_iff,
    fun _ => resolveModules_eq_error_iff, fun _ _ hfails => hfails.message_eq⟩

end Project

end JuceBuild
