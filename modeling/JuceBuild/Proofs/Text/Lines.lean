import JuceBuild.Text.Lines
import Mathlib.Data.List.Basic

/-!
# Lines that are not empty

The lines of a text are what stands between its boundaries, the last one left out if there is
nothing in it. A line end of two characters counts once, which only saves an empty line. So for
whoever passes over empty lines, a text is its pieces between single boundaries.
-/

namespace JuceBuild.Text

variable {α : Type} {f : List Char → Option α}

theorem splitOnP_eq_lines (text : List Char) :
    text.splitOnP isLineBoundary = lines text
      ∨ text.splitOnP isLineBoundary = lines text ++ [[]] := by
  induction text with
  | nil => exact .inr List.splitOnP_nil
  | cons c text ih =>
      rw [List.splitOnP_cons_eq_if_modifyHead, lines]
      by_cases hc : isLineBoundary c = true
      · rw [if_pos hc, if_pos hc]
        rcases ih with ih | ih
        · exact .inl (congrArg _ ih)
        · exact .inr (congrArg _ ih)
      · rw [if_neg hc, if_neg hc]
        rcases ih with ih | ih
        · have hne := List.splitOnP_ne_nil isLineBoundary text
          rw [ih] at hne ⊢
          obtain ⟨line, more, hlines⟩ := List.exists_cons_of_ne_nil hne
          rw [hlines]
          exact .inl rfl
        · rw [ih]
          cases lines text with
          | nil => exact .inl rfl
          | cons line more => exact .inr rfl

theorem filterMap_lines (hf : f [] = none) (text : List Char) :
    (lines text).filterMap f = (text.splitOnP isLineBoundary).filterMap f := by
  rcases splitOnP_eq_lines text with hlines | hlines
  · rw [hlines]
  · rw [hlines, List.filterMap_append, List.filterMap_cons_none hf, List.filterMap_nil,
      List.append_nil]

/-- Pieces that begin alike, with the same found in the pieces behind the first. -/
def Alike (f : List Char → Option α) (pieces others : List (List Char)) : Prop :=
  ∃ first more rest, pieces = first :: more ∧ others = first :: rest
    ∧ more.filterMap f = rest.filterMap f

theorem Alike.filterMap_eq {pieces others : List (List Char)} (halike : Alike f pieces others) :
    pieces.filterMap f = others.filterMap f := by
  obtain ⟨first, more, rest, rfl, rfl, heq⟩ := halike
  rw [List.filterMap_cons, List.filterMap_cons, heq]

/-- A character in front belongs to the first piece on both sides, so the first pieces have to be
the same and not only what is found in them. -/
theorem alike_splitOnP_normalizeNewlines (hf : f [] = none) (text : List Char) :
    Alike f ((normalizeNewlines text).splitOnP isLineBoundary) (text.splitOnP isLineBoundary) := by
  have hlf : isLineBoundary '\n' = true := rfl
  have hcr : isLineBoundary '\r' = true := rfl
  fun_induction normalizeNewlines text with
  | case1 rest ih =>
      rw [List.splitOnP_cons_eq_if_modifyHead, if_pos hlf, List.splitOnP_cons_eq_if_modifyHead,
        if_pos hcr, List.splitOnP_cons_eq_if_modifyHead, if_pos hlf]
      refine ⟨_, _, _, rfl, rfl, ?_⟩
      rw [List.filterMap_cons_none hf]
      exact ih.filterMap_eq
  | case2 rest _ ih =>
      rw [List.splitOnP_cons_eq_if_modifyHead, if_pos hlf, List.splitOnP_cons_eq_if_modifyHead,
        if_pos hcr]
      exact ⟨_, _, _, rfl, rfl, ih.filterMap_eq⟩
  | case3 c rest _ _ ih =>
      rw [List.splitOnP_cons_eq_if_modifyHead, List.splitOnP_cons_eq_if_modifyHead]
      split
      · exact ⟨_, _, _, rfl, rfl, ih.filterMap_eq⟩
      · obtain ⟨first, more, others, hmore, hothers, heq⟩ := ih
        rw [hmore, hothers]
        exact ⟨_, _, _, rfl, rfl, heq⟩
  | case4 => exact ⟨_, _, _, rfl, rfl, rfl⟩

theorem filterMap_lines_normalizeNewlines (hf : f [] = none) (text : List Char) :
    (lines (normalizeNewlines text)).filterMap f = (text.splitOnP isLineBoundary).filterMap f := by
  rw [filterMap_lines hf]
  exact (alike_splitOnP_normalizeNewlines hf text).filterMap_eq

end JuceBuild.Text
