import JuceBuild.Proofs.Path.Join

/-!
# The name of a path and its suffix

The name of a path is the last of the pieces between slashes that is neither empty nor a full stop,
so slashes and full stops at the end of a text do not hide it. A suffix begins at the last full stop
of the name, if there is something before it and something behind it.
-/

namespace JuceBuild.Path

/-- The last piece of a text between slashes that is neither empty nor a full stop. -/
def lastPiece? (text : String) : Option (List Char) :=
  ((text.toList.splitOn '/').filter fun piece => piece ≠ [] ∧ piece ≠ ['.']).getLast?

theorem getLast?_partsOf (text : String) :
    (partsOf text.toList).getLast? = (lastPiece? text).map String.ofList := by
  have hkept : ∀ piece : List Char,
      ((fun part : String => part ≠ "" && part ≠ ".") ∘ String.ofList) piece
        = decide (piece ≠ [] ∧ piece ≠ ['.']) := by
    intro piece
    have hempty : String.ofList piece = "" ↔ piece = [] := by
      rw [← String.toList_inj, String.toList_ofList]
      exact Iff.rfl
    have hdot : String.ofList piece = "." ↔ piece = ['.'] := by
      rw [← String.toList_inj, String.toList_ofList]
      exact Iff.rfl
    simp [hempty, hdot]
  rw [partsOf_eq, List.filter_map, List.getLast?_map, lastPiece?,
    List.filter_congr fun piece _ => hkept piece]

theorem toList_name_ofString (text : String) :
    (ofString text).name.toList = (lastPiece? text).getD [] := by
  rw [name, ofString, getLast?_partsOf]
  cases lastPiece? text with
  | none => rfl
  | some piece => exact String.toList_ofList

/-! ### Names behind a directory -/

/-- A text that a name may be written behind: nothing, or a text that ends with a slash. -/
def IsDirectoryText (directory : String) : Prop :=
  directory = "" ∨ directory.toList.getLast? = some '/'

theorem partsOf_name {name : String} (hname : name ≠ "" ∧ name ≠ "." ∧ '/' ∉ name.toList) :
    partsOf name.toList = [name] := by
  have hjoin : partsOf (Text.join "/" [name]).toList = [name] :=
    partsOf_join (List.forall_mem_singleton.mpr hname)
  rwa [Text.join, String.intercalate_singleton] at hjoin

theorem name_ofString_append {directory name : String} (hdirectory : IsDirectoryText directory)
    (hname : name ≠ "" ∧ name ≠ "." ∧ '/' ∉ name.toList) :
    (ofString (directory ++ name)).name = name := by
  have hparts : partsOf (directory ++ name).toList = partsOf directory.toList ++ [name] := by
    rw [String.toList_append, ← partsOf_name hname]
    rcases hdirectory with rfl | hslash
    · rw [String.toList_empty, partsOf_nil]
      rfl
    · exact partsOf_append_of_getLast? hslash name.toList
  rw [Path.name, ofString, hparts, List.getLast?_concat]
  rfl

/-- What has no components does not hide the name before it. -/
theorem name_ofString_append_slash (text more : String) (hmore : partsOf more.toList = []) :
    (ofString (text ++ "/" ++ more)).name = (ofString text).name := by
  have hchars : (text ++ "/" ++ more).toList = text.toList ++ '/' :: more.toList := by simp
  rw [name, name, ofString, ofString, hchars, partsOf_append_slash, hmore, List.append_nil]

/-! ### Suffixes -/

variable {stem tail : List Char}

/-- A suffix begins at the last full stop, with something on both sides of it. -/
theorem suffixOf_append (hstem : stem ≠ []) (htail : tail ≠ []) (hdot : '.' ∉ tail) :
    suffixOf (stem ++ '.' :: tail) = '.' :: tail := by
  have hrun : (stem ++ '.' :: tail).reverse.takeWhile (· ≠ '.') = tail.reverse := by
    have hplain : ∀ c ∈ tail.reverse, decide (c ≠ '.') = true := by
      intro c hc
      rw [decide_eq_true_eq]
      rintro rfl
      exact hdot (List.mem_reverse.mp hc)
    rw [List.reverse_append, List.reverse_cons, List.append_assoc, List.singleton_append,
      List.takeWhile_append_of_pos hplain, List.takeWhile_cons_of_neg (by decide), List.append_nil]
  have hpos := List.length_pos_iff.mpr hstem
  rw [suffixOf, hrun, List.reverse_reverse]
  apply if_pos
  refine ⟨?_, htail⟩
  rw [List.length_append, List.length_cons]
  omega

theorem exists_of_suffixOf_ne_nil {name : List Char} (hsuffix : suffixOf name ≠ []) :
    ∃ stem tail, name = stem ++ '.' :: tail ∧ stem ≠ [] ∧ suffixOf name = '.' :: tail := by
  have hparts := List.takeWhile_append_dropWhile (p := (· ≠ '.')) (l := name.reverse)
  have hstop := List.head?_dropWhile_not (· ≠ '.') name.reverse
  rw [suffixOf] at hsuffix ⊢
  generalize name.reverse.takeWhile (· ≠ '.') = run at hparts hsuffix ⊢
  generalize name.reverse.dropWhile (· ≠ '.') = back at hparts hstop
  -- Read from behind, the name is a run without full stops and what is left of it.
  have hname : name = back.reverse ++ run.reverse := by
    rw [← List.reverse_append, hparts, List.reverse_reverse]
  by_cases hlong : run.reverse.length + 1 < name.length ∧ run.reverse ≠ []
  · have hback : 2 ≤ back.length := by
      have hlength := congrArg List.length hname
      rw [List.length_append, List.length_reverse] at hlength
      omega
    obtain ⟨c, more, rfl⟩ := List.exists_cons_of_length_pos (Nat.zero_lt_of_lt hback)
    obtain rfl : c = '.' := by simpa using hstop
    refine ⟨more.reverse, run.reverse, ?_, ?_, if_pos hlong⟩
    · rw [hname, List.reverse_cons, List.append_assoc, List.singleton_append]
    · rw [List.length_cons] at hback
      rw [List.reverse_ne_nil_iff]
      exact List.ne_nil_of_length_pos (by omega)
  · exact absurd (if_neg hlong) hsuffix

end JuceBuild.Path
