import JuceBuild.Proofs.FileGroup.Runs
import JuceBuild.Proofs.Script.Stanzas
import Mathlib.Data.List.Basic

/-!
# The calls of file groups

A file group is described by one call or two, and the call that keeps sources from being compiled
stands together with the one that lists them. A file group of a tree always has a call, since it has
a file.
-/

namespace JuceBuild

open Script (IsStanza Opens isStanza_singleton opens_append)

namespace FileGroup

/-- The calls of a file group, those that stand together in one list. -/
def stanzas (group : FileGroup) : List (List Block) :=
  (if group.files.isEmpty then [] else [group.sourceCalls]) ++
    if group.resources.isEmpty then [] else [[group.resourceCall]]

theorem lines_eq_flatMap_stanzas (group : FileGroup) :
    group.lines = group.stanzas.flatMap Block.linesTogether := by
  rw [lines, stanzas, List.flatMap_append]
  congr 1
  · split
    · rfl
    · rw [List.flatMap_singleton]
  · split
    · rfl
    · rw [List.flatMap_singleton, Block.lines]

theorem flatMap_lines (groups : List FileGroup) :
    groups.flatMap lines = (groups.flatMap stanzas).flatMap Block.linesTogether := by
  rw [List.flatMap_assoc]
  exact List.flatMap_congr fun group _ => group.lines_eq_flatMap_stanzas

theorem isStanza_sourceCalls (group : FileGroup) : IsStanza group.sourceCalls := by
  have hproperties : Opens "set_source_files_properties(" := by decide
  refine ⟨List.cons_ne_nil _ _, ?_⟩
  rw [sourceCalls, List.forall_mem_cons]
  refine ⟨opens_append (by decide) _, ?_⟩
  split
  · exact List.forall_mem_nil _
  · exact List.forall_mem_singleton.mpr hproperties

theorem isStanza_of_mem_stanzas {group : FileGroup} :
    ∀ stanza ∈ group.stanzas, IsStanza stanza := by
  rw [stanzas, List.forall_mem_append]
  constructor
  · split
    · exact List.forall_mem_nil _
    · exact List.forall_mem_singleton.mpr group.isStanza_sourceCalls
  · split
    · exact List.forall_mem_nil _
    · exact List.forall_mem_singleton.mpr (isStanza_singleton (opens_append (by decide) _))

theorem isStanza_of_mem_flatMap_stanzas {groups : List FileGroup} :
    ∀ stanza ∈ groups.flatMap stanzas, IsStanza stanza := by
  intro stanza hstanza
  obtain ⟨group, -, hstanza⟩ := List.mem_flatMap.mp hstanza
  exact isStanza_of_mem_stanzas stanza hstanza

/-- The opening lines that a file group asks for. -/
def openings (group : FileGroup) : List (List String) :=
  (if group.files = [] then []
    else [("jucer_project_files(" ++ quotedPath group.fullName) ::
      if group.headerOnly = [] then [] else ["set_source_files_properties("]]) ++
  if group.resources = [] then []
    else [["jucer_project_resources(" ++ quotedPath group.fullName]]

theorem map_opening_stanzas (group : FileGroup) :
    group.stanzas.map (·.map Block.opening) = group.openings := by
  obtain ⟨fullName, files, headerOnly, resources⟩ := group
  cases files <;> cases headerOnly <;> cases resources <;> rfl

/-- A file group of a tree has a source or a resource, so it has a call. -/
theorem openings_ne_nil_of_mem_ofGroup {group : Group} {fileGroup : FileGroup}
    (hmem : fileGroup ∈ ofGroup group) : fileGroup.openings ≠ [] := by
  rw [ofGroup_eq_ofRuns_runs, ofRuns, List.mem_map] at hmem
  obtain ⟨run, hrun, rfl⟩ := hmem
  obtain ⟨entry, rest, hentries⟩ : ∃ entry rest, run.entries = entry :: rest := by
    refine List.exists_cons_of_ne_nil fun hnil => ?_
    have hkept := (List.mem_filter.mp hrun).2
    rw [hnil] at hkept
    cases hkept
  cases hresource : entry.isResource <;>
    simp [openings, Run.fileGroup, hentries, hresource]

end FileGroup

end JuceBuild
