import JuceBuild.Proofs.Script.Outline

/-!
# The calls of a script by their opening lines

To look at the calls of one kind it is enough to know the line they open with: the lines from there
to the closing parenthesis are the body of such a call. No other line of a script is mistaken for an
opening line, whatever a project says. The lines of a body are indented; the lines before the first
call do not begin like the name of a function of the library; and where the name of a file group
stands in an opening line, the line ends in the quote behind it. Lines are those of the list that a
script is joined from, so that a value with a line end in it is still one line.
-/

namespace JuceBuild

namespace Script

/-- The bodies of the calls that open with a line, in the order of the lines. -/
def bodies (opening : String) : List String → List (List String)
  | [] => []
  | line :: lines =>
    if line = opening then lines.takeWhile (· ≠ ")") :: bodies opening lines
    else bodies opening lines

/-- The body of a call as it stands in a script. -/
def indented (block : Block) : List String := block.body.map ("  " ++ ·)

variable {opening : String} {lines : List String}

theorem bodies_append_of_notMem (hlines : opening ∉ lines) (more : List String) :
    bodies opening (lines ++ more) = bodies opening more := by
  induction lines with
  | nil => rfl
  | cons line lines ih =>
      rw [List.mem_cons, not_or] at hlines
      rw [List.cons_append, bodies, if_neg (Ne.symm hlines.1), ih hlines.2]

theorem ne_indented (hopening : Opens opening) (line : String) : opening ≠ "  " ++ line := by
  rintro rfl
  refine hopening.2.2 ?_
  simp

/-- Past a body: its lines are indented, so none of them opens a call. -/
theorem bodies_body (hopening : Opens opening) (block : Block) (more : List String) :
    bodies opening (indented block ++ ")" :: more) = bodies opening more := by
  have hbody : opening ∉ indented block ++ [")"] := by
    rw [List.mem_append, List.mem_singleton, not_or]
    refine ⟨fun hmem => ?_, hopening.2.1⟩
    obtain ⟨line, -, hline⟩ := List.mem_map.mp hmem
    exact ne_indented hopening line hline.symm
  have hlines := bodies_append_of_notMem hbody more
  rwa [List.append_assoc, List.singleton_append] at hlines

/-- A body ends at the first closing parenthesis that is a line of its own. -/
theorem takeWhile_body (block : Block) (more : List String) :
    (indented block ++ ")" :: more).takeWhile (· ≠ ")") = indented block := by
  have hbody : ∀ line ∈ indented block, decide (line ≠ ")") = true := by
    intro line hline
    obtain ⟨inner, -, rfl⟩ := List.mem_map.mp hline
    rw [decide_eq_true_eq]
    intro hclosing
    have hunindent := unindent?_append inner
    rw [hclosing] at hunindent
    cases hunindent
  rw [List.takeWhile_append_of_pos hbody, List.takeWhile_cons_of_neg (by simp), List.append_nil]

theorem bodies_call (hopening : Opens opening) (block : Block) (more : List String) :
    bodies opening (block.call ++ more)
      = (if block.opening = opening then [indented block] else []) ++ bodies opening more := by
  have hcall : block.call ++ more = block.opening :: (indented block ++ ")" :: more) := by
    simp [Block.call, indented]
  rw [hcall, bodies, bodies_body hopening, takeWhile_body]
  split <;> rfl

theorem bodies_calls (hopening : Opens opening) (blocks : List Block) (more : List String) :
    bodies opening (blocks.flatMap Block.call ++ more)
      = (blocks.filter (·.opening = opening)).map indented ++ bodies opening more := by
  induction blocks with
  | nil => rfl
  | cons block blocks ih =>
      rw [List.flatMap_cons, List.append_assoc, bodies_call hopening, ih, List.filter_cons]
      by_cases hblock : block.opening = opening <;> simp [hblock]

/-- The calls of stanzas are found stanza by stanza. -/
theorem bodies_stanzas (hopening : Opens opening) (stanzas : List (List Block))
    (more : List String) :
    bodies opening (stanzas.flatMap Block.linesTogether ++ more)
      = (stanzas.flatten.filter (·.opening = opening)).map indented ++ bodies opening more := by
  induction stanzas with
  | nil => rfl
  | cons stanza stanzas ih =>
      have hblank : opening ∉ [""] := by
        rw [List.mem_singleton]
        exact hopening.1
      rw [List.flatMap_cons, Block.linesTogether, List.append_assoc, List.append_assoc,
        bodies_calls hopening, bodies_append_of_notMem hblank, ih, List.flatten_cons,
        List.filter_append, List.map_append, List.append_assoc]

/-- A line that only a call of the library's functions opens with. -/
def IsTitle (opening : String) : Prop :=
  opening.toList.head? = some 'j' ∧ opening.toList.getLast? = some '('

instance (opening : String) : Decidable (IsTitle opening) :=
  inferInstanceAs (Decidable (_ ∧ _))

theorem IsTitle.opens (htitle : IsTitle opening) : Opens opening := by
  refine ⟨?_, ?_, ?_⟩
  · rintro rfl
    exact absurd htitle (by decide)
  · rintro rfl
    exact absurd htitle (by decide)
  · rw [htitle.1]
    decide

end Script

namespace ReprojucerScript

open Script

variable {opening : String} {project : Project} {cwd : Place} {directory : String}
  {mainGroup? : Option Group} {modules : List ModuleReference} {calls : List Block}

theorem head?_of_mem_sections :
    ∀ line ∈ (sections project directory).flatten, line.toList.head? ≠ some 'j' := by
  simp [sections, preamble, inclusion, fileCheck, variableReference]

theorem not_isTitle_quotedPath (start path : String) :
    ¬IsTitle (start ++ FileGroup.quotedPath path) := by
  have hchars : (start ++ FileGroup.quotedPath path).toList
      = (start.toList ++ '"' :: path.toList) ++ ['"'] := by
    simp [FileGroup.quotedPath]
  intro htitle
  have hlast := htitle.2
  rw [hchars, List.getLast?_concat] at hlast
  cases hlast

/-- The names of file groups stand in the opening lines of their calls. -/
theorem not_isTitle_of_mem_openings {group : FileGroup} :
    ∀ stanza ∈ group.openings, ∀ opening ∈ stanza, ¬IsTitle opening := by
  rw [FileGroup.openings, List.forall_mem_append]
  constructor
  · split
    · exact List.forall_mem_nil _
    · rw [List.forall_mem_singleton, List.forall_mem_cons]
      refine ⟨not_isTitle_quotedPath _ _, ?_⟩
      split
      · exact List.forall_mem_nil _
      · rw [List.forall_mem_singleton]
        decide
  · split
    · exact List.forall_mem_nil _
    · rw [List.forall_mem_singleton, List.forall_mem_singleton]
      exact not_isTitle_quotedPath _ _

theorem filter_fileGroups (htitle : IsTitle opening) (groups : List FileGroup) :
    (groups.flatMap FileGroup.stanzas).flatten.filter (·.opening = opening) = [] := by
  rw [List.filter_eq_nil_iff]
  intro block hblock hopening
  rw [decide_eq_true_eq] at hopening
  obtain ⟨stanza, hstanza, hblock⟩ := List.mem_flatten.mp hblock
  obtain ⟨group, -, hstanza⟩ := List.mem_flatMap.mp hstanza
  have hopenings := List.mem_map_of_mem (f := (·.map Block.opening)) hstanza
  rw [FileGroup.map_opening_stanzas] at hopenings
  refine not_isTitle_of_mem_openings _ hopenings block.opening (List.mem_map_of_mem hblock) ?_
  rw [hopening]
  exact htitle

/-- The calls of a script with a title, by the parts of the project that they are about. -/
theorem bodies_lines (htitle : IsTitle opening) :
    bodies opening (ofParts project cwd directory mainGroup? modules calls).lines
      = ((beginCall project :: settingsCall project :: calls).filter (·.opening = opening)
          ++ (modules.map (·.call project.options)).filter (·.opening = opening)
          ++ (project.exporterCalls cwd).filter (·.opening = opening)).map indented := by
  have hsections : opening ∉ (sections project directory).flatten := fun hmem =>
    head?_of_mem_sections opening hmem htitle.1
  have hend : opening ∉ ["jucer_project_end()"] := by
    rw [List.mem_singleton]
    rintro rfl
    exact absurd htitle (by decide)
  have hlast : bodies opening ["jucer_project_end()"] = [] := by
    have hlines := bodies_append_of_notMem hend []
    rwa [List.append_nil] at hlines
  -- File groups have other titles, so nothing is left of the stanzas for them.
  rw [lines_ofParts, List.append_assoc, bodies_append_of_notMem hsections,
    bodies_stanzas htitle.opens, hlast, List.append_nil, Outline.stanzas, outlineOfParts]
  simp only [List.flatten_append, List.filter_append, flatten_map_singleton,
    filter_fileGroups htitle, List.append_nil]

/-! ### The calls of each kind -/

theorem filter_opening_eq {blocks : List Block} {title : String}
    (hblocks : ∀ block ∈ blocks, block.opening = title) (opening : String) :
    blocks.filter (·.opening = opening) = if title = opening then blocks else [] := by
  split
  · rename_i htitle
    rw [List.filter_eq_self]
    intro block hblock
    rw [decide_eq_true_eq, hblocks block hblock, htitle]
  · rename_i htitle
    rw [List.filter_eq_nil_iff]
    intro block hblock
    rwa [decide_eq_true_eq, hblocks block hblock]

theorem opening_of_mem_pluginCalls (hcalls : pluginCalls project = .ok calls) :
    ∀ block ∈ calls, block.opening = "jucer_audio_plugin_settings(" := by
  intro block hblock
  have hopening := List.mem_map_of_mem (f := Block.opening) hblock
  rw [opening_of_pluginCalls hcalls] at hopening
  split at hopening
  · exact List.mem_singleton.mp hopening
  · cases hopening

theorem filter_targetCalls (target : ExportTarget) (exporter : Exporter) (opening : String) :
    (target.calls cwd project exporter).filter (·.opening = opening)
      = (if "jucer_export_target(" = opening then [target.targetCall project exporter] else [])
        ++ if "jucer_export_target_configuration(" = opening
          then exporter.configurations.map (target.configurationCall cwd project exporter)
          else [] := by
  have htarget : ∀ block ∈ [target.targetCall project exporter],
      block.opening = "jucer_export_target(" := by
    simp [ExportTarget.targetCall]
  have hconfigurations : ∀ block ∈ exporter.configurations.map
      (target.configurationCall cwd project exporter),
      block.opening = "jucer_export_target_configuration(" := by
    simp [ExportTarget.configurationCall]
  rw [ExportTarget.calls, ← List.singleton_append, List.filter_append, filter_opening_eq htarget,
    filter_opening_eq hconfigurations]

/-- The bodies of the calls with a title, whatever the title is. -/
theorem bodies_lines_eq (hcalls : pluginCalls project = .ok calls) (htitle : IsTitle opening) :
    bodies opening (ofParts project cwd directory mainGroup? modules calls).lines
      = ((if "jucer_project_begin(" = opening then [beginCall project] else [])
        ++ (if "jucer_project_settings(" = opening then [settingsCall project] else [])
        ++ (if "jucer_audio_plugin_settings(" = opening then calls else [])
        ++ (if "jucer_project_module(" = opening then modules.map (·.call project.options) else [])
        ++ project.presentExporters.flatMap fun found =>
          (if "jucer_export_target(" = opening then [found.1.targetCall project found.2] else [])
            ++ if "jucer_export_target_configuration(" = opening
              then found.2.configurations.map (found.1.configurationCall cwd project found.2)
              else []).map indented := by
  have hbegin : ∀ block ∈ [beginCall project], block.opening = "jucer_project_begin(" := by
    simp [beginCall]
  have hsettings : ∀ block ∈ [settingsCall project],
      block.opening = "jucer_project_settings(" := by
    simp [settingsCall]
  have hmodules : ∀ block ∈ modules.map (·.call project.options),
      block.opening = "jucer_project_module(" := by
    simp [ModuleReference.call]
  have hfirst : beginCall project :: settingsCall project :: calls
      = [beginCall project] ++ [settingsCall project] ++ calls := rfl
  rw [bodies_lines htitle, hfirst, List.filter_append, List.filter_append,
    filter_opening_eq hbegin, filter_opening_eq hsettings,
    filter_opening_eq (opening_of_mem_pluginCalls hcalls), filter_opening_eq hmodules,
    Project.exporterCalls, List.filter_flatMap]
  simp only [filter_targetCalls]

variable (cwd directory mainGroup? modules)

theorem bodies_begin (hcalls : pluginCalls project = .ok calls) :
    bodies "jucer_project_begin(" (ofParts project cwd directory mainGroup? modules calls).lines
      = [indented (beginCall project)] := by
  simp (disch := decide) [bodies_lines_eq hcalls]

theorem bodies_settings (hcalls : pluginCalls project = .ok calls) :
    bodies "jucer_project_settings(" (ofParts project cwd directory mainGroup? modules calls).lines
      = [indented (settingsCall project)] := by
  simp (disch := decide) [bodies_lines_eq hcalls]

theorem bodies_plugin (hcalls : pluginCalls project = .ok calls) :
    bodies "jucer_audio_plugin_settings("
        (ofParts project cwd directory mainGroup? modules calls).lines
      = calls.map indented := by
  simp (disch := decide) [bodies_lines_eq hcalls]

theorem bodies_modules (hcalls : pluginCalls project = .ok calls) :
    bodies "jucer_project_module(" (ofParts project cwd directory mainGroup? modules calls).lines
      = modules.map fun reference => indented (reference.call project.options) := by
  simp (disch := decide) [bodies_lines_eq hcalls, List.map_flatMap, Function.comp_def]

theorem bodies_targets (hcalls : pluginCalls project = .ok calls) :
    bodies "jucer_export_target(" (ofParts project cwd directory mainGroup? modules calls).lines
      = project.presentExporters.map fun found =>
        indented (found.1.targetCall project found.2) := by
  simp (disch := decide) [bodies_lines_eq hcalls, Function.comp_def,
    ← List.map_eq_flatMap]

theorem bodies_configurations (hcalls : pluginCalls project = .ok calls) :
    bodies "jucer_export_target_configuration("
        (ofParts project cwd directory mainGroup? modules calls).lines
      = project.presentExporters.flatMap fun found =>
        found.2.configurations.map fun configuration =>
          indented (found.1.configurationCall cwd project found.2 configuration) := by
  simp (disch := decide) [bodies_lines_eq hcalls, List.map_flatMap, Function.comp_def]

end ReprojucerScript

end JuceBuild
