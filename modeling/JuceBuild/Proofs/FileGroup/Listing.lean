import JuceBuild.Proofs.FileGroup.Files
import JuceBuild.Proofs.FileGroup.Stanzas

/-!
# Every file is listed once

Between the files of a document and the lines that list them, a tree of groups is built, the tree is
cut into runs, and each run becomes up to three calls. Reading the lines back gives the files of the
document again: each in the list for what it is, once, in the order of the document and under the
names of the groups around it.
-/

namespace JuceBuild

namespace Script

/-- A text without the quotation marks around it. -/
def unquote? (text : String) : Option String :=
  match text.toList with
  | '"' :: rest => if rest.getLast? = some '"' then some (String.ofList rest.dropLast) else none
  | _ => none

/-- What stands before the first opening parenthesis of a line, and what stands behind it. -/
def cutOpening (line : String) : String × String :=
  (String.ofList (line.toList.takeWhile (· ≠ '(')),
    String.ofList (line.toList.dropWhile (· ≠ '(')).tail)

def command (block : Block) : String := (cutOpening block.opening).1

/-- What a call says in its opening line that it is about. -/
def subject? (block : Block) : Option String := unquote? (cutOpening block.opening).2

/-- The texts that the calls of a command list, among calls that stand together. The first of these
calls says what they are all about. -/
def listedIn (name : String) (stanza : List Block) : List (Option String × String) :=
  stanza.flatMap fun block =>
    if command block = name then
      (block.body.filterMap unquote?).map (stanza.head?.bind subject?, ·)
    else []

def listed (name : String) (stanzas : List (List Block)) : List (Option String × String) :=
  stanzas.flatMap (listedIn name)

theorem unquote?_quotedPath (path : String) : unquote? (FileGroup.quotedPath path) = some path := by
  have hchars : (FileGroup.quotedPath path).toList = '"' :: (path.toList ++ ['"']) := by
    simp [FileGroup.quotedPath]
  rw [unquote?, hchars]
  simp

theorem filterMap_unquote?_map_quotedPath (f : String → String) (paths : List String) :
    (paths.map fun path => FileGroup.quotedPath (f path)).filterMap unquote? = paths.map f := by
  rw [List.filterMap_map, ← List.filterMap_eq_map]
  exact List.filterMap_congr fun path _ => unquote?_quotedPath (f path)

theorem cutOpening_append {opening name : String} (hopening : opening = name ++ "(")
    (hname : '(' ∉ name.toList) (rest : String) : cutOpening (opening ++ rest) = (name, rest) := by
  have hchars : (opening ++ rest).toList = name.toList ++ '(' :: rest.toList := by simp [hopening]
  have hbefore : ∀ c ∈ name.toList, decide (c ≠ '(') = true := by
    intro c hc
    rw [decide_eq_true_iff]
    intro hparenthesis
    exact hname (hparenthesis ▸ hc)
  rw [cutOpening, hchars, List.takeWhile_append_of_pos hbefore,
    List.dropWhile_append_of_pos hbefore]
  simp

end Script

open Script (command cutOpening cutOpening_append filterMap_unquote?_map_quotedPath listed listedIn
  subject? unquote?_quotedPath)
open Xml.Node (HasOversized)

namespace FileGroup

/-- The text that names a file to the build, from the project's directory. -/
def fromDirectory (path : String) : String := "$\x7bJUCER_PROJECT_DIR\x7d/" ++ path

theorem filterMap_unquote?_quotedPath (paths : List String) :
    (paths.map quotedPath).filterMap Script.unquote? = paths := by
  have hpaths := filterMap_unquote?_map_quotedPath id paths
  rw [List.map_id] at hpaths
  exact hpaths

variable (name : String) (group : FileGroup)

theorem listedIn_sourceCalls :
    listedIn name group.sourceCalls
      = (if "jucer_project_files" = name then group.files.map (some group.fullName, ·) else [])
        ++ if "set_source_files_properties" = name then
          group.headerOnly.map (some group.fullName, fromDirectory ·) else [] := by
  have hsources : "jucer_project_files(" = "jucer_project_files" ++ "(" := rfl
  have hheaderOnly : cutOpening "set_source_files_properties("
      = ("set_source_files_properties", "") := by decide
  have hproperties : Script.unquote? "PROPERTIES HEADER_FILE_ONLY TRUE" = none := by decide
  have hbody : (group.headerOnly.map (fun path => quotedPath (fromDirectory path))
      ++ ["PROPERTIES HEADER_FILE_ONLY TRUE"]).filterMap Script.unquote?
        = group.headerOnly.map fromDirectory := by
    rw [List.filterMap_append, filterMap_unquote?_map_quotedPath,
      List.filterMap_cons_none hproperties, List.filterMap_nil, List.append_nil]
  rw [listedIn, sourceCalls, List.flatMap_cons, List.head?_cons, Option.bind_some, command,
    subject?, cutOpening_append hsources (by decide), unquote?_quotedPath]
  dsimp only
  rw [filterMap_unquote?_quotedPath]
  congr 1
  split
  · rename_i hnone
    rw [List.isEmpty_iff.mp hnone]
    split <;> rfl
  · rw [List.flatMap_singleton, command, hheaderOnly]
    split
    · exact (congrArg _ hbody).trans (List.map_map ..)
    · rfl

theorem listedIn_resourceCall :
    listedIn name [group.resourceCall]
      = if "jucer_project_resources" = name then group.resources.map (some group.fullName, ·)
        else [] := by
  have hresources : "jucer_project_resources(" = "jucer_project_resources" ++ "(" := rfl
  have hcall : group.resourceCall = ⟨"jucer_project_resources(" ++ quotedPath group.fullName,
      group.resources.map quotedPath⟩ := rfl
  rw [listedIn, List.flatMap_singleton, List.head?_cons, Option.bind_some, hcall, command,
    subject?, cutOpening_append hresources (by decide), unquote?_quotedPath,
    filterMap_unquote?_quotedPath]

theorem listed_stanzas (hheaderOnly : group.headerOnly.Sublist group.files) :
    listed name group.stanzas
      = (if "jucer_project_files" = name then group.files.map (some group.fullName, ·) else [])
        ++ (if "set_source_files_properties" = name then
          group.headerOnly.map (some group.fullName, fromDirectory ·) else [])
        ++ if "jucer_project_resources" = name then group.resources.map (some group.fullName, ·)
          else [] := by
  rw [listed, stanzas, List.flatMap_append]
  congr 1
  · split
    · rename_i hnone
      rw [List.isEmpty_iff.mp hnone] at hheaderOnly ⊢
      rw [List.sublist_nil.mp hheaderOnly]
      split <;> split <;> rfl
    · rw [List.flatMap_singleton, listedIn_sourceCalls]
  · split
    · rename_i hnone
      rw [List.isEmpty_iff.mp hnone]
      split <;> rfl
    · rw [List.flatMap_singleton, listedIn_resourceCall]

theorem headerOnly_sublist_files (run : Run) :
    run.fileGroup.headerOnly.Sublist run.fileGroup.files :=
  List.filter_sublist.map _

theorem flatMap_ofRuns {α : Type} {f : FileGroup → List α}
    (hnone : ∀ names, f (Run.fileGroup ⟨names, []⟩) = []) (found : List Run) :
    (ofRuns found).flatMap f = found.flatMap fun run => f run.fileGroup := by
  induction found with
  | nil => rfl
  | cons run found ih =>
      obtain ⟨names, entries⟩ := run
      rw [List.flatMap_cons, ← ih]
      cases entries with
      | nil =>
          rw [hnone, List.nil_append]
          rfl
      | cons entry rest => rfl

theorem flatMap_runs {α : Type} (p : FileEntry → Bool) (f : List String × FileEntry → α)
    (names : List String) (items : List GroupItem) :
    (runs names items).flatMap (fun run => (run.entries.filter p).map fun entry =>
        f (run.names, entry))
      = ((entriesIn names items).filter (p ·.2)).map f := by
  rw [entriesIn, List.filter_flatMap, List.map_flatMap]
  refine List.flatMap_congr fun run _ => ?_
  rw [List.filter_map, List.map_map]
  rfl

/-- What is said of the files of a tree is what is said of the files of the document. -/
theorem map_filter_eq_of_placed {placed : List (List String × FileEntry)}
    {found : List (List String × Xml.Node)} (hplaced : List.Forall₂ Placed placed found)
    {p : FileEntry → Bool} {q : Xml.Node → Bool}
    (hsame : ∀ {file entry}, FileEntry.ofNode file = .ok entry → p entry = q file)
    (text : String → String) :
    (placed.filter (p ·.2)).map (fun entry => (some (Text.join "/" entry.1), text entry.2.path))
      = (found.filter (q ·.2)).map fun file =>
        (some (Text.join "/" file.1), text (file.2.attributeD "file")) := by
  induction hplaced with
  | nil => rfl
  | cons hfirst _ ih =>
      obtain ⟨hnames, hentry⟩ := hfirst
      rw [List.filter_cons, List.filter_cons, hsame hentry]
      split
      · rw [List.map_cons, List.map_cons, ih, hnames, (FileEntry.of_ofNode_eq_ok hentry).1]
      · exact ih

theorem listed_ofGroup {group : Group} {main : Xml.Node}
    (hplaced : List.Forall₂ Placed (entriesIn [group.name] group.items) main.files)
    {p : FileEntry → Bool} {q : Xml.Node → Bool}
    (hsame : ∀ {file entry}, FileEntry.ofNode file = .ok entry → p entry = q file)
    (text : String → String)
    (hruns : ∀ run : Run, listed name run.fileGroup.stanzas
      = (run.entries.filter p).map fun entry => (some (Text.join "/" run.names), text entry.path)) :
    listed name ((ofGroup group).flatMap stanzas)
      = (main.files.filter (q ·.2)).map fun file =>
        (some (Text.join "/" file.1), text (file.2.attributeD "file")) := by
  have hnone : ∀ names, listed name (Run.fileGroup ⟨names, []⟩).stanzas = [] := fun _ => rfl
  calc listed name ((ofGroup group).flatMap stanzas)
      = (ofGroup group).flatMap fun fileGroup => listed name fileGroup.stanzas := by
        rw [listed, List.flatMap_assoc]
        rfl
    _ = (runs [group.name] group.items).flatMap fun run => listed name run.fileGroup.stanzas := by
        rw [ofGroup_eq_ofRuns_runs, flatMap_ofRuns hnone]
    _ = ((entriesIn [group.name] group.items).filter (p ·.2)).map fun entry =>
          (some (Text.join "/" entry.1), text entry.2.path) := by
        rw [← flatMap_runs p]
        exact List.flatMap_congr fun run _ => hruns run
    _ = _ := map_filter_eq_of_placed hplaced hsame text

section Placed

variable {group : Group} {main : Xml.Node}
  (hplaced : List.Forall₂ Placed (entriesIn [group.name] group.items) main.files)

include hplaced

theorem listed_files_ofGroup :
    listed "jucer_project_files" ((ofGroup group).flatMap stanzas)
      = (main.files.filter (!·.2.isResource)).map fun file =>
        (some (Text.join "/" file.1), file.2.attributeD "file") := by
  have hsame {file : Xml.Node} {entry : FileEntry} (hentry : FileEntry.ofNode file = .ok entry) :
      (!entry.isResource) = !file.isResource := by
    rw [(FileEntry.of_ofNode_eq_ok hentry).2.1]
  refine listed_ofGroup _ hplaced hsame id fun run => ?_
  rw [listed_stanzas _ _ (headerOnly_sublist_files run), if_pos rfl, if_neg (by decide),
    if_neg (by decide), List.append_nil, List.append_nil]
  exact List.map_map ..

theorem listed_resources_ofGroup :
    listed "jucer_project_resources" ((ofGroup group).flatMap stanzas)
      = (main.files.filter (·.2.isResource)).map fun file =>
        (some (Text.join "/" file.1), file.2.attributeD "file") := by
  refine listed_ofGroup _ hplaced (fun hentry => (FileEntry.of_ofNode_eq_ok hentry).2.1) id
    fun run => ?_
  rw [listed_stanzas _ _ (headerOnly_sublist_files run), if_pos rfl, if_neg (by decide),
    if_neg (by decide), List.append_nil, List.nil_append]
  exact List.map_map ..

theorem listed_headerOnly_ofGroup :
    listed "set_source_files_properties" ((ofGroup group).flatMap stanzas)
      = (main.files.filter (·.2.isHeaderOnly)).map fun file =>
        (some (Text.join "/" file.1), fromDirectory (file.2.attributeD "file")) := by
  refine listed_ofGroup _ hplaced (fun hentry => (FileEntry.of_ofNode_eq_ok hentry).2.2)
    fromDirectory fun run => ?_
  -- Only sources can be header only, so it makes no difference that the sources come first.
  have hheaderOnly : (run.entries.filter (!·.isResource)).filter (·.isHeaderOnly)
      = run.entries.filter (·.isHeaderOnly) := by
    rw [List.filter_filter]
    refine List.filter_congr fun entry _ => ?_
    rw [FileEntry.isHeaderOnly]
    cases entry.isResource <;> simp
  rw [listed_stanzas _ _ (headerOnly_sublist_files run), if_pos rfl, if_neg (by decide),
    if_neg (by decide), List.append_nil, List.nil_append, Run.fileGroup, hheaderOnly]
  exact List.map_map ..

end Placed

theorem sublist_of_mem_stanzas {fileGroup : FileGroup}
    (hheaderOnly : fileGroup.headerOnly.Sublist fileGroup.files) :
    ∀ stanza ∈ fileGroup.stanzas, (listedIn "set_source_files_properties" stanza).Sublist
      ((listedIn "jucer_project_files" stanza).map fun file => (file.1, fromDirectory file.2)) := by
  have hsources : (fileGroup.headerOnly.map (some fileGroup.fullName, fromDirectory ·)).Sublist
      ((fileGroup.files.map (some fileGroup.fullName, ·)).map
        fun file => (file.1, fromDirectory file.2)) := by
    rw [List.map_map]
    exact hheaderOnly.map _
  rw [stanzas, List.forall_mem_append]
  constructor
  · split
    · exact List.forall_mem_nil _
    · rw [List.forall_mem_singleton, listedIn_sourceCalls, listedIn_sourceCalls, if_pos rfl,
        if_pos rfl, if_neg (by decide), if_neg (by decide), List.nil_append, List.append_nil]
      exact hsources
  · split
    · exact List.forall_mem_nil _
    · rw [List.forall_mem_singleton, listedIn_resourceCall, if_neg (by decide)]
      exact List.nil_sublist _

/-- **Every file is listed once.** The lines of the file groups of a document are read back as its
files: the sources and the resources each in their order, with the names of the groups around them,
and the sources that are not to be compiled next to the sources they are among. -/
theorem exists_listed {main : Xml.Node}
    (hnumerals : ∀ found ∈ main.files, ¬HasOversized FileEntry.flags found.2) :
    ∃ group stanzas, Group.ofNode main = .ok group
      ∧ Script.stanzas? ((ofGroup group).flatMap lines) = some stanzas
      ∧ listed "jucer_project_files" stanzas
        = (main.files.filter (!·.2.isResource)).map (fun file =>
          (some (Text.join "/" file.1), file.2.attributeD "file"))
      ∧ listed "jucer_project_resources" stanzas
        = (main.files.filter (·.2.isResource)).map (fun file =>
          (some (Text.join "/" file.1), file.2.attributeD "file"))
      ∧ listed "set_source_files_properties" stanzas
        = (main.files.filter (·.2.isHeaderOnly)).map (fun file =>
          (some (Text.join "/" file.1), fromDirectory (file.2.attributeD "file")))
      ∧ ∀ stanza ∈ stanzas, (listedIn "set_source_files_properties" stanza).Sublist
        ((listedIn "jucer_project_files" stanza).map fun file =>
          (file.1, fromDirectory file.2)) := by
  obtain ⟨group, hgroup, hplaced⟩ := exists_ofNode_placed hnumerals
  refine ⟨group, (ofGroup group).flatMap stanzas, hgroup, ?_, listed_files_ofGroup hplaced,
    listed_resources_ofGroup hplaced, listed_headerOnly_ofGroup hplaced, ?_⟩
  · rw [flatMap_lines]
    exact Script.stanzas?_flatMap_linesTogether isStanza_of_mem_flatMap_stanzas
  · intro stanza hstanza
    obtain ⟨fileGroup, hmem, hstanza⟩ := List.mem_flatMap.mp hstanza
    rw [ofGroup_eq_ofRuns_runs, ofRuns, List.mem_map] at hmem
    obtain ⟨run, -, rfl⟩ := hmem
    exact sublist_of_mem_stanzas (headerOnly_sublist_files run) stanza hstanza

/-- A main group with files on both sides of a group, with a source that is not to be compiled and a
resource in it, and with a file inside a file. -/
def sampleMainGroup : Xml.Node :=
  ⟨"MAINGROUP", [("name", "App")],
    [⟨"FILE", [("file", "Config.h")], []⟩,
      ⟨"GROUP", [("name", "Source \"x\"")],
        [⟨"FILE", [("file", "Main.cpp"), ("compile", "0")], [⟨"FILE", [("file", "lost")], []⟩]⟩,
          ⟨"FILE", [("file", "logo.png"), ("resource", "1x")], []⟩,
          ⟨"FILE", [("file", "View.cpp"), ("compile", "1")], []⟩]⟩,
      ⟨"FILE", [("file", "Old.CPP"), ("compile", "0")], []⟩]⟩

theorem exists_listed_sample :
    (∀ found ∈ sampleMainGroup.files, ¬HasOversized FileEntry.flags found.2)
      ∧ ∃ group stanzas, Group.ofNode sampleMainGroup = .ok group
        ∧ Script.stanzas? ((ofGroup group).flatMap lines) = some stanzas
        ∧ listed "jucer_project_files" stanzas
          = [(some "App", "Config.h"), (some "App/Source \"x\"", "Main.cpp"),
            (some "App/Source \"x\"", "View.cpp"), (some "App", "Old.CPP")]
        ∧ listed "jucer_project_resources" stanzas = [(some "App/Source \"x\"", "logo.png")]
        ∧ listed "set_source_files_properties" stanzas
          = [(some "App/Source \"x\"", fromDirectory "Main.cpp"),
            (some "App", fromDirectory "Old.CPP")] := by
  have hnumerals : ∀ found ∈ sampleMainGroup.files, ¬HasOversized FileEntry.flags found.2 := by
    intro found hfound hoversized
    obtain ⟨numeral, hnumeral⟩ := FileEntry.exists_ofNode_eq_error_iff.mpr hoversized
    have hok : ∀ found ∈ sampleMainGroup.files,
        (FileEntry.ofNode found.2).toOption.isSome = true := by decide +kernel
    have hread := hok found hfound
    rw [hnumeral] at hread
    cases hread
  obtain ⟨group, stanzas, hgroup, hstanzas, hfiles, hresources, hheaderOnly, -⟩ :=
    exists_listed hnumerals
  refine ⟨hnumerals, group, stanzas, hgroup, hstanzas, hfiles.trans ?_, hresources.trans ?_,
    hheaderOnly.trans ?_⟩
  · decide +kernel
  · decide +kernel
  · decide +kernel

end FileGroup

end JuceBuild
