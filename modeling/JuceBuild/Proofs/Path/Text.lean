import JuceBuild.Path
import JuceBuild.Proofs.Text.Split

/-!
# Paths and their texts

A path that was read from a text has components that the text of a path can hold: none is empty,
none is the current directory, and none has a slash in it. Such a path is read back from its own
text.
-/

namespace JuceBuild.Path

/-- The components are ones that a path text can hold. -/
def WellFormed (path : Path) : Prop :=
  ∀ part ∈ path.parts, part ≠ "" ∧ part ≠ "." ∧ '/' ∉ part.toList

theorem partsOf_eq (text : List Char) :
    partsOf text
      = ((text.splitOn '/').map String.ofList).filter fun part => part ≠ "" && part ≠ "." := by
  rw [partsOf, Text.pieces_singleton]

theorem wellFormed_ofString (text : String) : (ofString text).WellFormed := by
  intro part hpart
  rw [ofString, partsOf_eq, List.mem_filter, List.mem_map] at hpart
  obtain ⟨⟨piece, hpiece, rfl⟩, hkept⟩ := hpart
  rw [Bool.and_eq_true, decide_eq_true_eq, decide_eq_true_eq] at hkept
  exact ⟨hkept.1, hkept.2, String.toList_ofList ▸ Text.notMem_of_mem_splitOn hpiece⟩

/-! ### Reading the text of a path -/

theorem partsOf_slash (text : List Char) : partsOf ('/' :: text) = partsOf text := by
  rw [partsOf_eq, partsOf_eq, List.splitOn_cons_eq_if_modifyHead, if_pos (beq_self_eq_true _)]
  rfl

theorem partsOf_dot : partsOf ".".toList = [] := by
  have hdot : ".".toList = ['.'] := rfl
  rw [hdot, partsOf_eq]
  rfl

variable {parts : List String}

theorem partsOf_join
    (hparts : ∀ part ∈ parts, part ≠ "" ∧ part ≠ "." ∧ '/' ∉ part.toList) :
    partsOf (Text.join "/" parts).toList = parts := by
  by_cases hne : parts = []
  · rw [hne, partsOf_eq]
    rfl
  · have hsplit : ((Text.join "/" parts).toList.splitOn '/').map String.ofList = parts := by
      have hslash : "/".toList = ['/'] := rfl
      rw [Text.join, String.toList_intercalate, hslash, List.splitOn_intercalate, List.map_map]
      · simp
      · intro piece hpiece
        obtain ⟨part, hpart, rfl⟩ := List.mem_map.mp hpiece
        exact (hparts part hpart).2.2
      · simpa using hne
    rw [partsOf_eq, hsplit, List.filter_eq_self]
    intro part hpart
    simpa using ⟨(hparts part hpart).1, (hparts part hpart).2.1⟩

/-- The text of components begins with no slash. -/
theorem takeWhile_slash_join
    (hparts : ∀ part ∈ parts, part ≠ "" ∧ part ≠ "." ∧ '/' ∉ part.toList) :
    (Text.join "/" parts).toList.takeWhile (· = '/') = [] := by
  cases parts with
  | nil => rfl
  | cons part rest =>
      obtain ⟨hpart, -, hslash⟩ := hparts part List.mem_cons_self
      obtain ⟨c, more, hchars⟩ : ∃ c more, part.toList = c :: more := by
        apply List.exists_cons_of_ne_nil
        simpa using hpart
      have hc : c ≠ '/' := by
        rintro rfl
        exact hslash (hchars ▸ List.mem_cons_self)
      have hjoin : ∃ tail, (Text.join "/" (part :: rest)).toList = c :: tail := by
        cases rest with
        | nil => exact ⟨more, by rw [Text.join, String.intercalate_singleton, hchars]⟩
        | cons next rest =>
            rw [Text.join, String.intercalate_cons_cons, String.toList_append,
              String.toList_append, hchars]
            exact ⟨_, rfl⟩
      obtain ⟨tail, htail⟩ := hjoin
      rw [htail, List.takeWhile_cons_of_neg (by simpa using hc)]

theorem anchorOf_append (anchor : Anchor) {text : List Char}
    (htext : text.takeWhile (· = '/') = []) : anchorOf (anchor.text.toList ++ text) = anchor := by
  cases anchor <;> simp [anchorOf, Anchor.text, htext]

theorem partsOf_append (anchor : Anchor) (text : List Char) :
    partsOf (anchor.text.toList ++ text) = partsOf text := by
  cases anchor with
  | relative => rfl
  | root => exact partsOf_slash text
  | doubleRoot => exact (partsOf_slash _).trans (partsOf_slash text)

theorem ofString_append_join (anchor : Anchor)
    (hparts : ∀ part ∈ parts, part ≠ "" ∧ part ≠ "." ∧ '/' ∉ part.toList) :
    ofString (anchor.text ++ Text.join "/" parts) = ⟨anchor, parts⟩ := by
  rw [ofString, String.toList_append, anchorOf_append anchor (takeWhile_slash_join hparts),
    partsOf_append, partsOf_join hparts]

/-- **A path is read back from its text.** -/
theorem ofString_toString {path : Path} (hpath : path.WellFormed) :
    ofString path.toString = path := by
  obtain ⟨anchor, parts⟩ := path
  rw [toString]
  split
  · rename_i hanchor hparts
    obtain rfl : anchor = .relative := hanchor
    obtain rfl : parts = [] := hparts
    rw [ofString, partsOf_dot]
    rfl
  · exact ofString_append_join anchor hpath

end JuceBuild.Path
