import JuceBuild.Proofs.Path.Text
import Mathlib.Data.List.TakeWhile

/-!
# Joined path texts

Paths are joined as texts before anything is read from them: a slash is put between the two texts,
unless the second begins with one and so replaces the first. Reading the joined text gives the same
path as joining what is read from each.
-/

namespace JuceBuild.Path

/-- One path text behind another. A text that begins with a slash replaces what comes before it. -/
def joinText (base text : String) : String :=
  if text.toList.head? = some '/' then text
  else if base = "" ∨ base.toList.getLast? = some '/' then base ++ text
  else base ++ "/" ++ text

/-! ### Components -/

theorem partsOf_append_slash (base text : List Char) :
    partsOf (base ++ '/' :: text) = partsOf base ++ partsOf text := by
  rw [partsOf_eq, partsOf_eq, partsOf_eq, List.splitOn_append_cons_self, List.map_append,
    List.filter_append]

theorem partsOf_nil : partsOf [] = [] := by
  rw [partsOf_eq]
  rfl

/-- A slash at the end of a text adds no component. -/
theorem partsOf_append_of_getLast? {base : List Char} (hbase : base.getLast? = some '/')
    (text : List Char) : partsOf (base ++ text) = partsOf base ++ partsOf text := by
  obtain ⟨start, rfl⟩ := List.getLast?_eq_some_iff.mp hbase
  rw [List.append_assoc, List.singleton_append, partsOf_append_slash, partsOf_append_slash,
    partsOf_nil, List.append_nil]

/-! ### Anchors -/

theorem takeWhile_slash_eq_nil_iff {text : List Char} :
    text.takeWhile (· = '/') = [] ↔ text.head? ≠ some '/' := by
  cases text with
  | nil => simp
  | cons c rest =>
      by_cases hc : c = '/' <;> simp [hc]

theorem isAbsolute_ofString_iff {text : String} :
    (ofString text).isAbsolute = true ↔ text.toList.head? = some '/' := by
  rw [ofString, isAbsolute, decide_eq_true_eq, anchorOf, ← not_iff_not, not_not,
    ← ne_eq (text.toList.head?), ← takeWhile_slash_eq_nil_iff, ← List.length_eq_zero_iff]
  split <;> simp_all

theorem takeWhile_slash_append (base : List Char) {text : List Char}
    (htext : text.head? ≠ some '/') :
    (base ++ text).takeWhile (· = '/') = base.takeWhile (· = '/') := by
  rw [List.takeWhile_append, takeWhile_slash_eq_nil_iff.mpr htext, List.append_nil]
  split
  · rename_i hall
    rw [(List.takeWhile_prefix _).eq_of_length hall]
  · rfl

theorem anchorOf_append_of_head? (base : List Char) {text : List Char}
    (htext : text.head? ≠ some '/') : anchorOf (base ++ text) = anchorOf base := by
  rw [anchorOf, anchorOf, takeWhile_slash_append base htext]

/-- A slash behind a text that does not end with one is none of its leading slashes. -/
theorem anchorOf_append_slash {base : List Char} (hnil : base ≠ [])
    (hbase : base.getLast? ≠ some '/') (text : List Char) :
    anchorOf (base ++ '/' :: text) = anchorOf base := by
  have hshort : (base.takeWhile (· = '/')).length ≠ base.length := by
    intro hall
    have hslashes := List.takeWhile_eq_self_iff.mp ((List.takeWhile_prefix _).eq_of_length hall)
    apply hbase
    rw [List.getLast?_eq_some_getLast hnil]
    simpa using hslashes _ (List.getLast_mem hnil)
  rw [anchorOf, anchorOf, List.takeWhile_append, if_neg hshort]

/-- **Joining texts is joining paths.** -/
theorem ofString_joinText (base text : String) :
    ofString (joinText base text) = (ofString base).join (ofString text) := by
  rw [joinText, join]
  by_cases habsolute : text.toList.head? = some '/'
  · rw [if_pos habsolute, if_pos (isAbsolute_ofString_iff.mpr habsolute)]
  · rw [if_neg habsolute, if_neg (mt isAbsolute_ofString_iff.mp habsolute)]
    by_cases hempty : base = ""
    · rw [if_pos (.inl hempty), hempty]
      have hanchor := anchorOf_append_of_head? [] habsolute
      rw [List.nil_append] at hanchor
      simp [ofString, hanchor, partsOf_nil]
    · by_cases hslash : base.toList.getLast? = some '/'
      · rw [if_pos (.inr hslash), ofString, String.toList_append,
          anchorOf_append_of_head? _ habsolute, partsOf_append_of_getLast? hslash]
        rfl
      · have hnil : base.toList ≠ [] := by simpa using hempty
        have hchars : (base ++ "/" ++ text).toList = base.toList ++ '/' :: text.toList := by simp
        rw [if_neg (not_or.mpr ⟨hempty, hslash⟩), ofString, hchars,
          anchorOf_append_slash hnil hslash, partsOf_append_slash]
        rfl

end JuceBuild.Path
