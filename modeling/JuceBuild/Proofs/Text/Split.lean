import JuceBuild.Proofs.Text.Pieces

/-!
# Splitting at one character

At a separator of one character the pieces of a text are those of the list function, so they hold no
separator. What is joined holds nothing but its elements and the separator.
-/

namespace JuceBuild.Text

theorem pieces_singleton (c : Char) (text : List Char) :
    pieces [c] (List.cons_ne_nil c []) text = text.splitOn c := by
  induction text with
  | nil => rw [pieces, List.splitOn_nil]
  | cons d rest ih =>
      rw [pieces, List.splitOn_cons_eq_if_modifyHead]
      by_cases hd : d = c
      · subst hd
        rw [if_pos (by simp), if_pos (beq_self_eq_true d)]
        exact congrArg _ ih
      · obtain ⟨first, more, hrest⟩ := List.exists_cons_of_ne_nil (List.splitOn_ne_nil c rest)
        rw [if_neg (by simpa using Ne.symm hd), if_neg (by simpa using hd), ih, hrest]
        rfl

theorem notMem_of_mem_splitOn {c : Char} {text piece : List Char}
    (hpiece : piece ∈ text.splitOn c) :
    c ∉ piece := by
  rw [← pieces_singleton] at hpiece
  have hcut := (cut_pieces text).1.absent_of_mem (List.cons_ne_nil c []) piece hpiece
  rwa [List.singleton_infix_iff] at hcut

/-- What comes at the end of a text and holds no separator is the end of the last piece. -/
theorem exists_splitOn_append {c : Char} (text : List Char) {tail : List Char} (htail : c ∉ tail) :
    ∃ pieces last, (text ++ tail).splitOn c = pieces ++ [last ++ tail] := by
  induction text with
  | nil => exact ⟨[], [], List.splitOn_eq_singleton htail⟩
  | cons d rest ih =>
      obtain ⟨pieces, last, hpieces⟩ := ih
      rw [List.cons_append, List.splitOn_cons_eq_if_modifyHead, hpieces]
      by_cases hd : d = c
      · exact ⟨[] :: pieces, last, if_pos (beq_iff_eq.mpr hd)⟩
      · rw [if_neg (mt beq_iff_eq.mp hd)]
        cases pieces with
        | nil => exact ⟨[], d :: last, rfl⟩
        | cons piece pieces => exact ⟨(d :: piece) :: pieces, last, rfl⟩

/-- A joined text holds what its elements hold, and the separator. -/
theorem notMem_join {c : Char} {separator : String} {elements : List String}
    (hseparator : c ∉ separator.toList) (helements : ∀ element ∈ elements, c ∉ element.toList) :
    c ∉ (join separator elements).toList := by
  induction elements with
  | nil => exact List.not_mem_nil
  | cons element elements ih =>
      have htail := ih fun other hother => helements other (List.mem_cons_of_mem element hother)
      have hhead := helements element List.mem_cons_self
      by_cases hnil : elements = []
      · rw [hnil, join, String.intercalate_singleton]
        exact hhead
      · rw [join, String.intercalate_cons_of_ne_nil hnil]
        simp only [String.toList_append, List.mem_append, not_or]
        exact ⟨⟨hhead, hseparator⟩, htail⟩

end JuceBuild.Text
