import JuceBuild.Proofs.Script.Faithful
import JuceBuild.Proofs.Script.PartCommands

/-!
# File groups are read back if there is nothing to escape

The name of a group and the paths of its files go into a script between quotes as they are, although
settings and search paths are escaped there. So a quote or a backslash in any of them changes what
the script says, and in no case does it say what was meant.
-/

namespace JuceBuild.FileGroup

open Script

variable {name fullName : String} {paths more : List String} {rest : List Char}
  {commands others : List Command}

theorem continues_quotedPaths_iff :
    Continues (((paths.map quotedPath).map ("  " ++ ·)).flatMap lineText ++ rest) (paths ++ more)
        commands
      ↔ (∀ path ∈ paths, Text.Unescaped path) ∧ Continues rest more commands := by
  induction paths with
  | nil => simp
  | cons path paths ih =>
      have hline (after : List Char) : lineText (quotedPath path) ++ after
          = '"' :: (path.toList ++ '"' :: '\n' :: after) := by
        simp [lineText, quotedPath]
      rw [List.map_cons, List.map_cons, List.flatMap_cons, List.append_assoc,
        continues_indented_iff, hline, List.cons_append, continues_quoted_iff,
        continues_separator_iff rfl, ih, List.forall_mem_cons, and_assoc]

/-- A list of paths under the name of a group is read as it was meant exactly if nothing in it had
to be escaped. -/
theorem commandsOf?_listing_iff {block : Block}
    (hopening : block.opening = name ++ "(" ++ quotedPath fullName)
    (hbody : block.body = paths.map quotedPath) (hname : IsWord name) :
    commandsOf? (block.call.flatMap lineText ++ rest) = some (⟨name, fullName :: paths⟩ :: others)
      ↔ Text.Unescaped fullName ∧ (∀ path ∈ paths, Text.Unescaped path)
        ∧ commandsOf? rest = some others := by
  have htext : block.call.flatMap lineText ++ rest
      = name.toList ++ '(' :: '"' :: (fullName.toList ++ '"' :: '\n' ::
        (((paths.map quotedPath).map ("  " ++ ·)).flatMap lineText ++ ')' :: '\n' :: rest)) := by
    simp [Block.call, hopening, hbody, lineText, quotedPath]
  have hpaths : Continues (((paths.map quotedPath).map ("  " ++ ·)).flatMap lineText
        ++ ')' :: '\n' :: rest) (paths ++ []) others
      ↔ (∀ path ∈ paths, Text.Unescaped path) ∧ Continues (')' :: '\n' :: rest) [] others :=
    continues_quotedPaths_iff
  rw [List.append_nil, continues_closing_iff, commandsOf?_newline] at hpaths
  rw [htext, commandsOf?_call_iff hname, continues_quoted_iff, continues_separator_iff rfl, hpaths]

variable {group : FileGroup}

theorem commandsOf?_resourceCall_iff :
    commandsOf? (group.resourceCall.lines.flatMap lineText)
        = some [⟨"jucer_project_resources", group.fullName :: group.resources⟩]
      ↔ Text.Unescaped group.fullName ∧ ∀ path ∈ group.resources, Text.Unescaped path := by
  have hend : commandsOf? ([""].flatMap lineText) = some [] :=
    readsCommands_nil.blank.commandsOf?_eq
  rw [Block.lines, Block.linesTogether, List.flatMap_singleton, List.flatMap_append,
    commandsOf?_listing_iff rfl rfl (by decide)]
  simp only [hend, and_true]

/-- The calls that stand together with the list of the sources. -/
theorem readsCommands_tail_sourceCalls
    (hheaderOnly : ∀ path ∈ group.headerOnly, Text.Unescaped path) :
    ReadsCommands (Block.linesTogether group.sourceCalls.tail) group.sourceCommands.tail := by
  refine readsCommands_linesTogether ?_
  rw [sourceCalls, sourceCommands, List.tail_cons, List.tail_cons]
  split
  · exact .nil
  · exact .cons (readsBlock_headerOnlyCall hheaderOnly) .nil

/-- What follows the sources does not decide what they are read as. -/
theorem commandsOf?_sourceCalls_iff
    (hsublist : group.headerOnly.Sublist group.files) :
    commandsOf? ((Block.linesTogether group.sourceCalls).flatMap lineText ++ rest)
        = some (group.sourceCommands ++ others)
      ↔ Text.Unescaped group.fullName ∧ (∀ path ∈ group.files, Text.Unescaped path)
        ∧ commandsOf? rest = some others := by
  have hlines : Block.linesTogether group.sourceCalls
      = Block.call ⟨"jucer_project_files(" ++ quotedPath group.fullName, group.files.map quotedPath⟩
        ++ Block.linesTogether group.sourceCalls.tail := by
    rw [Block.linesTogether, Block.linesTogether, ← List.append_assoc, ← List.flatMap_cons]
    rfl
  have hcommands : group.sourceCommands
      = ⟨"jucer_project_files", group.fullName :: group.files⟩ :: group.sourceCommands.tail := rfl
  rw [hlines, hcommands, List.flatMap_append, List.append_assoc, List.cons_append,
    commandsOf?_listing_iff rfl rfl (by decide)]
  refine and_congr_right fun _ => and_congr_right fun hfiles => ?_
  have htail : ReadsCommands (Block.linesTogether group.sourceCalls.tail)
      group.sourceCommands.tail :=
    readsCommands_tail_sourceCalls fun path hpath => hfiles path (hsublist.mem hpath)
  exact htail.commandsOf?_append_iff

/-- The sources that are not compiled are among the sources. -/
theorem unescaped_iff (hsublist : group.headerOnly.Sublist group.files) :
    group.Unescaped
      ↔ Text.Unescaped group.fullName ∧ (∀ path ∈ group.files, Text.Unescaped path)
        ∧ ∀ path ∈ group.resources, Text.Unescaped path := by
  constructor
  · rintro ⟨hfullName, hfiles, -, hresources⟩
    exact ⟨hfullName, hfiles, hresources⟩
  · rintro ⟨hfullName, hfiles, hresources⟩
    exact ⟨hfullName, hfiles, fun path hpath => hfiles path (hsublist.mem hpath), hresources⟩

/-- **File groups are read back exactly if nothing had to be escaped.** The calls of a file group
say what was meant in no case in which its name or one of its paths has a quote or a backslash. -/
theorem commands?_lines_eq_iff (hsublist : group.headerOnly.Sublist group.files)
    (hfull : group.isEmpty = false) :
    Script.commands? (Text.join "\n" group.lines) = some group.commands ↔ group.Unescaped := by
  rw [unescaped_iff hsublist]
  cases hfiles : group.files.isEmpty with
  | true =>
      have hresources : group.resources.isEmpty = false := by
        rwa [isEmpty, hfiles, Bool.true_and] at hfull
      have hlines : group.lines = group.resourceCall.lines := by
        rw [lines, if_pos hfiles, hresources]
        rfl
      have hcommands : group.commands
          = [⟨"jucer_project_resources", group.fullName :: group.resources⟩] := by
        rw [commands, if_pos hfiles, hresources]
        rfl
      have hne : group.resourceCall.lines ≠ [] := List.cons_ne_nil _ _
      rw [hlines, hcommands, commands?_join hne, commandsOf?_resourceCall_iff,
        List.isEmpty_iff.mp hfiles]
      simp only [List.not_mem_nil, false_imp_iff, implies_true, true_and]
  | false =>
      have hlines : group.lines = Block.linesTogether group.sourceCalls
          ++ if group.resources.isEmpty then [] else group.resourceCall.lines := by
        rw [lines, hfiles]
        rfl
      have hcommands : group.commands = group.sourceCommands
          ++ if group.resources.isEmpty then []
            else [⟨"jucer_project_resources", group.fullName :: group.resources⟩] := by
        rw [commands, hfiles]
        rfl
      have hne : group.lines ≠ [] := by
        rw [hlines]
        exact List.cons_ne_nil _ _
      rw [hcommands, commands?_join hne, hlines, List.flatMap_append,
        commandsOf?_sourceCalls_iff hsublist]
      refine and_congr_right fun hfullName => and_congr_right fun _ => ?_
      cases hresources : group.resources.isEmpty with
      | true =>
          rw [List.isEmpty_iff.mp hresources]
          simpa using commandsOf?_nil
      | false =>
          rw [if_neg Bool.false_ne_true, if_neg Bool.false_ne_true, commandsOf?_resourceCall_iff]
          exact and_iff_right hfullName

/-- A file group with a path that would close its call and begin another. -/
def quoteGroup : FileGroup :=
  ⟨"App/Source", ["Main.cpp", "a\") include(\"b"], ["Main.cpp"], ["logo.png"]⟩

theorem commands?_lines_eq_iff_quote :
    quoteGroup.headerOnly.Sublist quoteGroup.files ∧ quoteGroup.isEmpty = false
      ∧ (Script.commands? (Text.join "\n" quoteGroup.lines) = some quoteGroup.commands
        ↔ quoteGroup.Unescaped) := by
  have hsublist : quoteGroup.headerOnly.Sublist quoteGroup.files := by decide
  have hfull : quoteGroup.isEmpty = false := by decide
  exact ⟨hsublist, hfull, commands?_lines_eq_iff hsublist hfull⟩

/-- A file group with a path that is written with a backslash. -/
def backslashGroup : FileGroup := ⟨"App", ["Source\\Main.cpp"], [], []⟩

/-- The backslash is lost, and the call lists another file. -/
theorem commands?_lines_backslash :
    backslashGroup.headerOnly.Sublist backslashGroup.files ∧ backslashGroup.isEmpty = false
      ∧ Script.commands? (Text.join "\n" backslashGroup.lines)
        = some [⟨"jucer_project_files", ["App", "SourceMain.cpp"]⟩]
      ∧ Script.commands? (Text.join "\n" backslashGroup.lines) ≠ some backslashGroup.commands := by
  have hread : Script.commands? (Text.join "\n" backslashGroup.lines)
      = some [⟨"jucer_project_files", ["App", "SourceMain.cpp"]⟩] := by decide +kernel
  refine ⟨by decide, by decide, hread, ?_⟩
  rw [hread]
  decide

end JuceBuild.FileGroup
