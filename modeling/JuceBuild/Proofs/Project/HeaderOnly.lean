import JuceBuild.Proofs.FileGroup.Files
import JuceBuild.Proofs.Path.Suffix
import JuceBuild.Proofs.Text.Case
import JuceBuild.Proofs.Text.Numeral

/-!
# Sources that are not compiled

A file is part of a project but not compiled if it is no resource, its compile flag is there and
zero, and its name is that of a C++ source. An empty flag is a zero, and a flag that is left out is
none. The name is looked for behind the last slash that something follows, so slashes and single
full stops at the end of a path do not matter, but two full stops are a name of their own.
-/

namespace JuceBuild

open Text (ReadsAs leadingInt leadingInt_eq_ok_iff toLower_eq_iff_mem toNat_toLower)

/-! ### Case -/

theorem toLower_eq_dot_iff {c : Char} : c.toLower = '.' ↔ c ∈ ['.'] := by
  have hdot : '.'.toNat = 46 := rfl
  rw [List.mem_singleton, ← Char.toNat_inj, ← Char.toNat_inj, toNat_toLower]
  split <;> omega

/-! ### Names of C++ sources -/

namespace FileEntry

/-- The characters of `.cpp`, each in both cases. -/
def cppCases : List (List Char) := [['.'], ['c', 'C'], ['p', 'P'], ['p', 'P']]

/-- One character or more, and behind them `.cpp` in any mixture of cases. -/
def IsCppName (name : List Char) : Prop :=
  ∃ stem ending, name = stem ++ ending ∧ stem ≠ [] ∧ List.Forall₂ (· ∈ ·) ending cppCases

theorem map_toLower_eq_iff {ending : List Char} :
    ending.map Char.toLower = ".cpp".toList ↔ List.Forall₂ (· ∈ ·) ending cppCases := by
  have hc : ∀ a : Char, a.toLower = 'c' ↔ a ∈ ['c', 'C'] := fun a =>
    toLower_eq_iff_mem (by decide) (by decide)
  have hp : ∀ a : Char, a.toLower = 'p' ↔ a ∈ ['p', 'P'] := fun a =>
    toLower_eq_iff_mem (by decide) (by decide)
  have hchars : ".cpp".toList = ['.', 'c', 'p', 'p'] := rfl
  rw [hchars, ← List.forall₂_eq_eq_eq, List.forall₂_map_left_iff, cppCases]
  simp only [List.forall₂_cons_right_iff, List.forall₂_nil_right_iff, toLower_eq_dot_iff, hc, hp]

/-- The only full stop of the ending is the one that it begins with. -/
theorem IsCppName.exists_last_dot {name : List Char} (hname : IsCppName name) :
    ∃ stem tail, name = stem ++ '.' :: tail ∧ stem ≠ [] ∧ tail ≠ [] ∧ '.' ∉ tail
      ∧ List.Forall₂ (· ∈ ·) ('.' :: tail) cppCases := by
  obtain ⟨stem, ending, rfl, hstem, hending⟩ := hname
  obtain ⟨dot, tail, hdot, htail, rfl⟩ := List.forall₂_cons_right_iff.mp hending
  obtain rfl := List.mem_singleton.mp hdot
  refine ⟨stem, tail, rfl, hstem, ?_, ?_, hending⟩
  · rintro rfl
    cases htail
  · intro hmem
    have hlower := (List.cons.inj (map_toLower_eq_iff.mpr hending)).2
    have hlowerMem := List.mem_map_of_mem (f := Char.toLower) hmem
    rw [hlower] at hlowerMem
    exact absurd hlowerMem (by decide)

/-- The suffix tells a C++ source by the last four characters of its name. -/
theorem isCppSource_iff {path : String} :
    isCppSource path = true ↔ IsCppName (Path.ofString path).name.toList := by
  have hlower : isCppSource path = true
      ↔ (Path.suffixOf (Path.ofString path).name.toList).map Char.toLower = ".cpp".toList := by
    rw [isCppSource, decide_eq_true_eq, Path.suffix, ← String.toList_inj, Text.toList_toLower,
      String.toList_ofList]
  rw [hlower, map_toLower_eq_iff]
  generalize (Path.ofString path).name.toList = name
  constructor
  · intro hending
    have hne : Path.suffixOf name ≠ [] := by
      intro hnil
      rw [hnil] at hending
      cases hending
    obtain ⟨stem, tail, hname, hstem, hsuffix⟩ := Path.exists_of_suffixOf_ne_nil hne
    rw [hsuffix] at hending
    exact ⟨stem, '.' :: tail, hname, hstem, hending⟩
  · intro hname
    obtain ⟨stem, tail, rfl, hstem, htail, hdot, hending⟩ := hname.exists_last_dot
    rw [Path.suffixOf_append hstem htail hdot]
    exact hending

theorem isCppSource_iff_lastPiece? {path : String} :
    isCppSource path = true ↔ ∃ name, Path.lastPiece? path = some name ∧ IsCppName name := by
  rw [isCppSource_iff, Path.toList_name_ofString]
  cases Path.lastPiece? path with
  | none =>
      have hnil : ¬ IsCppName [] := by
        rintro ⟨stem, ending, hname, hstem, -⟩
        exact hstem (List.append_eq_nil_iff.mp hname.symm).1
      simp [hnil]
  | some name => simp

theorem isCppName_append {stem : String} (hstem : stem ≠ "") :
    IsCppName (stem ++ ".cpp").toList := by
  refine ⟨stem.toList, ".cpp".toList, String.toList_append, by simpa using hstem, ?_⟩
  exact map_toLower_eq_iff.mp rfl

theorem not_isCppName_of_length {name : List Char} (hlength : name.length < 5) :
    ¬ IsCppName name := by
  rintro ⟨stem, ending, rfl, hstem, hending⟩
  have hpos := List.length_pos_iff.mpr hstem
  have hfour : ending.length = 4 := hending.length_eq
  rw [List.length_append] at hlength
  omega

/-- The name of a C++ source does not end in a full stop. -/
theorem not_isCppName_concat (name : List Char) : ¬ IsCppName (name ++ ['.']) := by
  intro hcpp
  obtain ⟨stem, tail, hname, -, htail, hdot, -⟩ := hcpp.exists_last_dot
  have hlast := congrArg List.getLast? hname
  rw [List.getLast?_concat, List.append_cons, List.getLast?_append_of_ne_nil _ htail] at hlast
  exact hdot (List.mem_of_getLast? hlast.symm)

/-! ### Names behind a directory -/

variable {directory name : String}

theorem isCppSource_append (hdirectory : Path.IsDirectoryText directory)
    (hname : name ≠ "" ∧ name ≠ "." ∧ '/' ∉ name.toList) :
    isCppSource (directory ++ name) = true ↔ IsCppName name.toList := by
  rw [isCppSource_iff, Path.name_ofString_append hdirectory hname]

theorem isCppSource_append_slash (path more : String) (hmore : Path.partsOf more.toList = []) :
    isCppSource (path ++ "/" ++ more) = isCppSource path := by
  rw [Bool.eq_iff_iff, isCppSource_iff, isCppSource_iff,
    Path.name_ofString_append_slash path more hmore]

theorem component_append {stem : String} (ending : String) (hstem : '/' ∉ stem.toList)
    (hending : '/' ∉ ending.toList) (hlength : 2 ≤ ending.length) :
    stem ++ ending ≠ "" ∧ stem ++ ending ≠ "." ∧ '/' ∉ (stem ++ ending).toList := by
  have hlong : 2 ≤ (stem ++ ending).length := by
    rw [String.length_append]
    omega
  refine ⟨?_, ?_, ?_⟩
  · intro hempty
    rw [hempty] at hlong
    exact absurd hlong (by decide)
  · intro hdot
    rw [hdot] at hlong
    exact absurd hlong (by decide)
  · rw [String.toList_append, List.mem_append, not_or]
    exact ⟨hstem, hending⟩

end FileEntry

/-! ### Files -/

/-- An attribute that is there and reads as the integer. -/
def Xml.Node.HasNumber (node : Xml.Node) (name : String) (n : Int) : Prop :=
  ∃ value, node.attribute? name = some value ∧ ReadsAs value n

namespace FileEntry

open Xml.Node (HasOversized)

variable {node : Xml.Node} {entry : FileEntry}

theorem isResource_iff (hentry : ofNode node = .ok entry) :
    entry.isResource = true ↔ node.HasNumber "resource" 1 := by
  obtain ⟨flag, compileFlag?, hflag, -, rfl⟩ := ofNode_eq_ok_iff.mp hentry
  rw [decide_eq_true_eq, Xml.Node.HasNumber]
  rw [Xml.Node.attributeD] at hflag
  cases hattribute : node.attribute? "resource" with
  | none =>
      have hempty : leadingInt "" = .ok 0 := rfl
      rw [hattribute, Option.getD_none, hempty] at hflag
      cases hflag
      simp
  | some value =>
      rw [hattribute, Option.getD_some] at hflag
      simp only [Option.some.injEq, exists_eq_left', ← leadingInt_eq_ok_iff, hflag,
        Except.ok.injEq]

theorem compileFlag?_eq_some_iff (hentry : ofNode node = .ok entry) {n : Int} :
    entry.compileFlag? = some n ↔ node.HasNumber "compile" n := by
  obtain ⟨flag, compileFlag?, -, hcompile, rfl⟩ := ofNode_eq_ok_iff.mp hentry
  rw [Xml.Node.HasNumber]
  cases hattribute : node.attribute? "compile" with
  | none =>
      rw [hattribute] at hcompile
      cases hcompile
      simp
  | some value =>
      rw [hattribute] at hcompile
      obtain ⟨m, hread, hm⟩ := map_eq_ok_iff.mp hcompile
      cases hm
      simp only [Option.some.injEq, exists_eq_left', ← leadingInt_eq_ok_iff, hread,
        Except.ok.injEq]

theorem exists_ofNode_eq_ok_iff :
    (∃ entry, ofNode node = .ok entry) ↔ ¬ HasOversized flags node := by
  rw [← exists_ofNode_eq_error_iff]
  cases ofNode node <;> simp

/-- **Which files are not compiled.** A file is read unless a flag of it is an overlong number. It
is not compiled if its resource flag is not one, its compile flag is there and zero, and the last
piece of its path is the name of a C++ source. A slash behind the name does not matter, nor a full
stop behind that, but nothing else may stand there, and there has to be something before the
suffix. -/
theorem isHeaderOnly_iff (node : Xml.Node) :
    ((∃ entry, ofNode node = .ok entry) ↔ ¬ HasOversized flags node)
      ∧ (∀ entry, ofNode node = .ok entry →
        (entry.isHeaderOnly = true
          ↔ ¬ node.HasNumber "resource" 1 ∧ node.HasNumber "compile" 0
            ∧ ∃ name, Path.lastPiece? (node.attributeD "file") = some name ∧ IsCppName name))
      ∧ ∀ directory stem, Path.IsDirectoryText directory → stem ≠ "" → '/' ∉ stem.toList →
        isCppSource (directory ++ stem ++ ".cpp/") = true
          ∧ isCppSource (directory ++ stem ++ ".cpp/.") = true
          ∧ isCppSource (directory ++ ".cpp") = false
          ∧ isCppSource (directory ++ stem ++ ".cpp/..") = false
          ∧ isCppSource (directory ++ stem ++ ".cpp.") = false := by
  refine ⟨exists_ofNode_eq_ok_iff, ?_, ?_⟩
  · intro entry hentry
    rw [isHeaderOnly, Bool.and_eq_true, Bool.and_eq_true, Bool.not_eq_true', decide_eq_true_eq,
      ← Bool.not_eq_true, isResource_iff hentry, compileFlag?_eq_some_iff hentry,
      (of_ofNode_eq_ok hentry).1, isCppSource_iff_lastPiece?, and_assoc]
  · intro directory stem hdirectory hstem hslash
    have hcpp : isCppSource (directory ++ stem ++ ".cpp") = true := by
      have hcomponent := component_append ".cpp" hslash (by decide) (by decide)
      rw [String.append_assoc, isCppSource_append hdirectory hcomponent]
      exact isCppName_append hstem
    refine ⟨?_, ?_, ?_, ?_, ?_⟩
    · have hsame := isCppSource_append_slash (directory ++ stem ++ ".cpp") "" Path.partsOf_nil
      rw [← hcpp, ← hsame]
      simp only [String.append_assoc]
      rfl
    · have hsame := isCppSource_append_slash (directory ++ stem ++ ".cpp") "." Path.partsOf_dot
      rw [← hcpp, ← hsame]
      simp only [String.append_assoc]
      rfl
    · rw [← Bool.not_eq_true, isCppSource_append hdirectory (by decide)]
      exact not_isCppName_of_length (by decide)
    · have hfolder : Path.IsDirectoryText (directory ++ stem ++ ".cpp/") := by
        right
        have hchars : ".cpp/".toList = ".cpp".toList ++ ['/'] := rfl
        rw [String.toList_append, hchars, ← List.append_assoc, List.getLast?_concat]
      have hup : directory ++ stem ++ ".cpp/.." = directory ++ stem ++ ".cpp/" ++ ".." := by
        simp only [String.append_assoc]
        rfl
      rw [← Bool.not_eq_true, hup, isCppSource_append hfolder (by decide)]
      exact not_isCppName_of_length (by decide)
    · have hcomponent := component_append ".cpp." hslash (by decide) (by decide)
      have hchars : ".cpp.".toList = ".cpp".toList ++ ['.'] := rfl
      rw [← Bool.not_eq_true, String.append_assoc, isCppSource_append hdirectory hcomponent,
        String.toList_append, hchars, ← List.append_assoc]
      exact not_isCppName_concat _

/-- A file whose path goes on behind its name and whose compile flag is empty. -/
def sampleFile : Xml.Node :=
  ⟨"FILE", [("file", "../Source/Inline.Part.cPP//./"), ("resource", " 12"), ("compile", "")], []⟩

theorem isHeaderOnly_iff_sample :
    ofNode sampleFile = .ok ⟨"../Source/Inline.Part.cPP//./", false, some 0⟩
      ∧ (isHeaderOnly ⟨"../Source/Inline.Part.cPP//./", false, some 0⟩ = true
        ↔ ¬ sampleFile.HasNumber "resource" 1 ∧ sampleFile.HasNumber "compile" 0
          ∧ ∃ name, Path.lastPiece? (sampleFile.attributeD "file") = some name ∧ IsCppName name)
      ∧ isHeaderOnly ⟨"../Source/Inline.Part.cPP//./", false, some 0⟩ = true
      ∧ Path.IsDirectoryText "Source/" ∧ "x" ≠ "" ∧ '/' ∉ "x".toList
      ∧ isCppSource ("Source/" ++ "x" ++ ".cpp/") = true := by
  have hentry : ofNode sampleFile = .ok ⟨"../Source/Inline.Part.cPP//./", false, some 0⟩ := by
    decide +kernel
  have hdirectory : Path.IsDirectoryText "Source/" := .inr rfl
  have hspec := isHeaderOnly_iff sampleFile
  refine ⟨hentry, hspec.2.1 _ hentry, by decide +kernel, hdirectory, by decide, by decide, ?_⟩
  exact (hspec.2.2 "Source/" "x" hdirectory (by decide) (by decide)).1

end FileEntry

end JuceBuild
