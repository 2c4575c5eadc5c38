import JuceBuild.Proofs.Exporter.Calls
import Mathlib.Data.List.FinRange

/-!
# What becomes of each exporter

The exporters of a document are gone through twice: environment by environment, to find the first
exporter of each, and once more in their order, to name those without an environment. What is not
met in either way is dropped without a word: the second exporter of an environment, and every one
after it. Exporters can be equal as nodes, so they are told apart by their positions. Each position
is on exactly one of three lists, which settles when nothing is dropped.
-/

namespace JuceBuild

/-- There is an environment for the exporters of a tag. -/
def ExportTarget.IsSupported (tag : String) : Prop := ∃ target ∈ all, target.tag = tag

instance (tag : String) : Decidable (ExportTarget.IsSupported tag) :=
  inferInstanceAs (Decidable (∃ target ∈ ExportTarget.all, target.tag = tag))

theorem ExportTarget.find?_eq_none_iff {tag : String} : find? tag = none ↔ ¬IsSupported tag := by
  rw [find?, List.find?_eq_none, IsSupported]
  simp

theorem ExportTarget.find?_tag {target : ExportTarget} (htarget : target ∈ all) :
    find? target.tag = some target := by
  simp only [all, List.mem_cons, List.not_mem_nil, or_false] at htarget
  rcases htarget with rfl | rfl | rfl <;> rfl

namespace Project

/-- The exporters of a document, whether there are environments for them or not. -/
def exporterNodes (project : Project) : List Xml.Node := project.root.childrenOf "EXPORTFORMATS"

/-- A place among the exporters of a document. -/
abbrev ExporterPosition (project : Project) : Type := Fin project.exporterNodes.length

variable (project : Project)

def nodeAt (position : project.ExporterPosition) : Xml.Node := project.exporterNodes.get position

def tagAt (position : project.ExporterPosition) : String := (project.nodeAt position).tag

/-- An exporter before the one at a position has the same tag. -/
def IsRepeated (position : project.ExporterPosition) : Prop :=
  ∃ earlier < position, project.tagAt earlier = project.tagAt position

instance (position : project.ExporterPosition) : Decidable (project.IsRepeated position) :=
  inferInstanceAs (Decidable (∃ earlier < position, _))

/-- The exporters that are written: the first of each environment. -/
def writtenPositions : List project.ExporterPosition :=
  ExportTarget.all.filterMap fun target => project.exporterNodes.findFinIdx? (·.tag = target.tag)

/-- The exporters that are named because there is no environment for them. -/
def skippedPositions : List project.ExporterPosition :=
  (List.finRange _).filter fun position => ¬ExportTarget.IsSupported (project.tagAt position)

/-- The exporters that are neither written nor named. -/
def droppedPositions : List project.ExporterPosition :=
  (List.finRange _).filter fun position =>
    ExportTarget.IsSupported (project.tagAt position) ∧ project.IsRepeated position

/-- The calls for the exporter at a position, if there is an environment for it. -/
def callsAt (cwd : Place) (position : project.ExporterPosition) : List Block :=
  match ExportTarget.find? (project.tagAt position) with
  | none => []
  | some target => target.calls cwd project ⟨project.nodeAt position⟩

/-- No tag with an environment occurs twice. -/
def HasNoRepeats : Prop :=
  ∀ position other, ExportTarget.IsSupported (project.tagAt position) →
    project.tagAt position = project.tagAt other → position = other

variable {project} {position : project.ExporterPosition}

theorem mem_writtenPositions_iff :
    position ∈ project.writtenPositions
      ↔ ExportTarget.IsSupported (project.tagAt position) ∧ ¬project.IsRepeated position := by
  rw [writtenPositions, List.mem_filterMap]
  simp only [List.findFinIdx?_eq_some_iff, decide_eq_true_eq]
  constructor
  · rintro ⟨target, htarget, htag, hfirst⟩
    refine ⟨⟨target, htarget, htag.symm⟩, ?_⟩
    rintro ⟨earlier, hlt, hearlier⟩
    exact hfirst earlier hlt (hearlier.trans htag)
  · rintro ⟨⟨target, htarget, htag⟩, hrepeated⟩
    refine ⟨target, htarget, htag.symm, fun earlier hlt hearlier => hrepeated ⟨earlier, hlt, ?_⟩⟩
    exact hearlier.trans htag

theorem mem_skippedPositions_iff :
    position ∈ project.skippedPositions ↔ ¬ExportTarget.IsSupported (project.tagAt position) := by
  simp [skippedPositions]

theorem mem_droppedPositions_iff :
    position ∈ project.droppedPositions
      ↔ ExportTarget.IsSupported (project.tagAt position) ∧ project.IsRepeated position := by
  simp [droppedPositions]

/-- Environments have different tags, so none of them finds the exporter of another. -/
theorem nodup_writtenPositions (project : Project) : project.writtenPositions.Nodup := by
  have htags : ExportTarget.all.Pairwise fun target other => target.tag ≠ other.tag := by decide
  rw [writtenPositions, List.Nodup, List.pairwise_filterMap]
  refine htags.imp fun {target other} htag position hposition position' hposition' => ?_
  rintro rfl
  have htarget := (List.findFinIdx?_eq_some_iff.mp hposition).1
  have hother := (List.findFinIdx?_eq_some_iff.mp hposition').1
  rw [decide_eq_true_eq] at htarget hother
  exact htag (htarget.symm.trans hother)

/-- **Every exporter is on one list.** -/
theorem positions_perm (project : Project) :
    (project.writtenPositions ++ (project.skippedPositions ++ project.droppedPositions)).Perm
      (List.finRange _) := by
  have hnodup : (project.writtenPositions
      ++ (project.skippedPositions ++ project.droppedPositions)).Nodup := by
    refine (nodup_writtenPositions project).append ?_ ?_
    · refine ((List.nodup_finRange _).filter _).append ((List.nodup_finRange _).filter _) ?_
      intro position hskipped hdropped
      exact mem_skippedPositions_iff.mp hskipped (mem_droppedPositions_iff.mp hdropped).1
    · intro position hwritten hothers
      obtain ⟨hsupported, hfirst⟩ := mem_writtenPositions_iff.mp hwritten
      obtain hskipped | hdropped := List.mem_append.mp hothers
      · exact mem_skippedPositions_iff.mp hskipped hsupported
      · exact hfirst (mem_droppedPositions_iff.mp hdropped).2
  rw [List.perm_ext_iff_of_nodup hnodup (List.nodup_finRange _)]
  intro position
  rw [List.mem_append, List.mem_append, mem_writtenPositions_iff, mem_skippedPositions_iff,
    mem_droppedPositions_iff]
  have hmem := List.mem_finRange position
  tauto

/-! ### What is written of each -/

theorem map_tagAt_finRange (project : Project) :
    (List.finRange _).map project.tagAt = project.exporterNodes.map Xml.Node.tag := by
  have hnodes := List.map_get_finRange project.exporterNodes
  have htags := congrArg (List.map Xml.Node.tag) hnodes
  rwa [List.map_map] at htags

theorem skippedExporters_eq_map (project : Project) :
    project.skippedExporters = project.skippedPositions.map project.tagAt := by
  have hfilter : (fun tag => (ExportTarget.find? tag).isNone)
      = fun tag => decide ¬ExportTarget.IsSupported tag := by
    funext tag
    rw [Bool.eq_iff_iff, Option.isNone_iff_eq_none, decide_eq_true_eq,
      ExportTarget.find?_eq_none_iff]
  rw [skippedExporters_eq_filter, ← exporterNodes, ← map_tagAt_finRange, List.filter_map, hfilter]
  rfl

theorem forall₂_presentExporters (project : Project) :
    List.Forall₂ (fun position found => ExportTarget.find? (project.tagAt position) = some found.1
        ∧ found.2 = ⟨project.nodeAt position⟩)
      project.writtenPositions project.presentExporters := by
  have hall : List.Forall₂ (fun target other => target = other ∧ target ∈ ExportTarget.all)
      ExportTarget.all ExportTarget.all :=
    List.forall₂_same.mpr fun target htarget => ⟨rfl, htarget⟩
  -- Both lists go through the environments, so they are compared environment by environment.
  refine List.rel_filterMap ?_ hall
  rintro target _ ⟨rfl, htarget⟩
  have hnode : project.exporterNode? target.tag
      = (project.exporterNodes.findFinIdx? (·.tag = target.tag)).map (project.exporterNodes[·]) :=
    List.find?_eq_map_findFinIdx?_getElem
  dsimp only
  rw [exporter?_eq_map, hnode]
  cases hposition : project.exporterNodes.findFinIdx? (·.tag = target.tag) with
  | none => exact .none
  | some position =>
      have htag := (List.findFinIdx?_eq_some_iff.mp hposition).1
      rw [decide_eq_true_eq] at htag
      refine .some ⟨?_, rfl⟩
      exact (congrArg ExportTarget.find? htag).trans (ExportTarget.find?_tag htarget)

theorem flatMap_eq_of_forall₂ {α β γ : Type} {f : α → List γ} {g : β → List γ} {items : List α}
    {others : List β} (hitems : List.Forall₂ (fun item other => f item = g other) items others) :
    items.flatMap f = others.flatMap g := by
  induction hitems with
  | nil => rfl
  | cons hitem _ ih => rw [List.flatMap_cons, List.flatMap_cons, hitem, ih]

theorem exporterCalls_eq_callsAt (project : Project) (cwd : Place) :
    project.exporterCalls cwd = project.writtenPositions.flatMap (project.callsAt cwd) := by
  have hcalls : List.Forall₂ (fun position found =>
      project.callsAt cwd position = found.1.calls cwd project found.2)
      project.writtenPositions project.presentExporters := by
    refine (forall₂_presentExporters project).imp fun position found hfound => ?_
    rw [callsAt, hfound.1, hfound.2]
  rw [exporterCalls, flatMap_eq_of_forall₂ hcalls]

/-- An exporter that is written has a call of its own, and one for each of its configurations. -/
theorem exists_callsAt_of_written (hwritten : position ∈ project.writtenPositions) :
    ∃ target, ExportTarget.find? (project.tagAt position) = some target
      ∧ ∀ cwd, project.callsAt cwd position
        = target.targetCall project ⟨project.nodeAt position⟩
          :: (Exporter.mk (project.nodeAt position)).configurations.map
            (target.configurationCall cwd project ⟨project.nodeAt position⟩) := by
  have hsupported := (mem_writtenPositions_iff.mp hwritten).1
  have hfound : ExportTarget.find? (project.tagAt position) ≠ none := fun hnone =>
    ExportTarget.find?_eq_none_iff.mp hnone hsupported
  obtain ⟨target, htarget⟩ := Option.ne_none_iff_exists'.mp hfound
  refine ⟨target, htarget, fun cwd => ?_⟩
  simp only [callsAt, htarget, ExportTarget.calls]

/-! ### The count -/

theorem length_exporterNodes (project : Project) :
    project.exporterNodes.length
      = project.presentExporters.length + project.skippedExporters.length
        + project.droppedPositions.length := by
  have hperm := (positions_perm project).length_eq
  have hpresent := (forall₂_presentExporters project).length_eq
  rw [List.length_append, List.length_append, List.length_finRange] at hperm
  rw [skippedExporters_eq_map, List.length_map, ← hpresent, ← hperm, Nat.add_assoc]

theorem droppedPositions_eq_nil_iff : project.droppedPositions = [] ↔ project.HasNoRepeats := by
  rw [List.eq_nil_iff_forall_not_mem]
  simp only [mem_droppedPositions_iff]
  constructor
  · intro hnone position other hsupported htag
    by_contra hne
    -- Of two exporters with one tag, the later one is dropped.
    rcases lt_or_gt_of_ne hne with hlt | hlt
    · exact hnone other ⟨htag ▸ hsupported, position, hlt, htag⟩
    · exact hnone position ⟨hsupported, other, hlt, htag.symm⟩
  · rintro hrepeats position ⟨hsupported, earlier, hlt, htag⟩
    exact hlt.ne' (hrepeats position earlier hsupported htag.symm)

/-- **Every exporter is accounted for.** An exporter is written if its tag has an environment and no
exporter before it has the tag, and it is named, once and in the order of the document, if its tag
has no environment. To be written is to have a call of its own. None is on both lists or on one of
them twice, and all are on one of them exactly if no tag with an environment occurs twice. -/
theorem exporters_accounted (project : Project) :
    (List.Forall₂ (fun position found => ExportTarget.find? (project.tagAt position) = some found.1
          ∧ found.2 = ⟨project.nodeAt position⟩)
        project.writtenPositions project.presentExporters
      ∧ (∀ cwd, project.exporterCalls cwd = project.writtenPositions.flatMap (project.callsAt cwd))
      ∧ ∀ position ∈ project.writtenPositions,
        ∃ target, ExportTarget.find? (project.tagAt position) = some target
          ∧ ∀ cwd, project.callsAt cwd position
            = target.targetCall project ⟨project.nodeAt position⟩
              :: (Exporter.mk (project.nodeAt position)).configurations.map
                (target.configurationCall cwd project ⟨project.nodeAt position⟩))
    ∧ (∀ position, position ∈ project.writtenPositions
      ↔ ExportTarget.IsSupported (project.tagAt position)
        ∧ ∀ earlier < position, project.tagAt earlier ≠ project.tagAt position)
    ∧ (project.skippedExporters = project.skippedPositions.map project.tagAt
      ∧ project.skippedPositions.Pairwise (· < ·))
    ∧ (∀ position, position ∈ project.skippedPositions
      ↔ ¬ExportTarget.IsSupported (project.tagAt position))
    ∧ project.writtenPositions.Nodup
    ∧ project.writtenPositions.Disjoint project.skippedPositions
    ∧ (project.exporterNodes.length
        = project.presentExporters.length + project.skippedExporters.length
      ↔ project.HasNoRepeats) := by
  refine ⟨⟨forall₂_presentExporters project, exporterCalls_eq_callsAt project,
      fun position => exists_callsAt_of_written⟩, fun position => ?_,
    ⟨skippedExporters_eq_map project, ?_⟩, fun position => mem_skippedPositions_iff,
    nodup_writtenPositions project, ?_, ?_⟩
  · simp only [mem_writtenPositions_iff, IsRepeated, not_exists, not_and, ne_eq]
  · exact (List.pairwise_lt_finRange _).filter _
  · intro position hwritten hskipped
    exact mem_skippedPositions_iff.mp hskipped (mem_writtenPositions_iff.mp hwritten).1
  · rw [← droppedPositions_eq_nil_iff, ← List.length_eq_zero_iff, length_exporterNodes]
    omega

end Project

end JuceBuild
