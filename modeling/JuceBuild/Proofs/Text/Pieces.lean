import JuceBuild.Text.Split
import Mathlib.Data.List.Infix

/-!
# Splitting and joining

A text is cut at the first place where the separator stands, and what comes behind it is cut in the
same way. This determines the pieces: a separator that overlaps itself may stand in many places, but
in a piece with the separator put behind it, it stands nowhere but at the end. Such pieces join to
the text they were cut from, and no others do. For a separator of one character all that is asked of
the pieces is that they do not hold it.
-/

namespace JuceBuild.Text

/-- Pieces between which a text was cut. The separator is not in the last one, and in any other one
with the separator put behind it, it stands only at the end. -/
inductive Cut (separator : List Char) : List (List Char) → Prop where
  | last {piece : List Char} (hpiece : ¬ separator <:+: piece) : Cut separator [piece]
  | cons {piece : List Char} {more : List (List Char)}
    (hpiece : ¬ separator <:+: (piece ++ separator).dropLast) (hmore : Cut separator more) :
    Cut separator (piece :: more)

section Pieces

variable {separator : List Char} {tokens : List (List Char)}

namespace Cut

theorem ne_nil (hcut : Cut separator tokens) : tokens ≠ [] := by
  cases hcut with
  | last => exact List.cons_ne_nil _ _
  | cons => exact List.cons_ne_nil _ _

theorem absent_of_mem (hcut : Cut separator tokens) (hseparator : separator ≠ []) :
    ∀ token ∈ tokens, ¬ separator <:+: token := by
  induction hcut with
  | last hpiece =>
      intro token htoken
      rwa [List.mem_singleton.mp htoken]
  | @cons piece more hpiece _ ih =>
      intro token htoken
      rcases List.mem_cons.mp htoken with rfl | htoken
      · intro hinfix
        apply hpiece
        rw [List.dropLast_append_of_ne_nil hseparator]
        exact hinfix.trans (List.prefix_append token _).isInfix
      · exact ih token htoken

/-- One character more in front leaves pieces cut, unless the separator begins at it. -/
theorem cons_head {c : Char} {piece : List Char} {more : List (List Char)}
    (hseparator : separator ≠ []) (hcut : Cut separator (piece :: more))
    (hstart : ¬ separator <+: c :: separator.intercalate (piece :: more)) :
    Cut separator ((c :: piece) :: more) := by
  cases hcut with
  | last hpiece =>
      rw [List.intercalate_singleton] at hstart
      refine .last fun hinfix => ?_
      rcases List.infix_cons_iff.mp hinfix with hprefix | hinfix
      · exact hstart hprefix
      · exact hpiece hinfix
  | cons hpiece hmore =>
      rw [List.intercalate_cons_of_ne_nil hmore.ne_nil] at hstart
      refine .cons (fun hinfix => ?_) hmore
      have hne : piece ++ separator ≠ [] := List.append_ne_nil_of_right_ne_nil piece hseparator
      rw [List.cons_append, List.dropLast_cons_of_ne_nil hne] at hinfix
      rcases List.infix_cons_iff.mp hinfix with hprefix | hinfix
      · apply hstart
        refine hprefix.trans ((List.prefix_cons_inj c).mpr ?_)
        exact (List.dropLast_prefix _).trans (List.prefix_append _ _)
      · exact hpiece hinfix

theorem of_notMem {c : Char} (hne : tokens ≠ []) (hmem : ∀ token ∈ tokens, c ∉ token) :
    Cut [c] tokens := by
  induction tokens with
  | nil => exact absurd rfl hne
  | cons piece more ih =>
      obtain ⟨hpiece, hmore⟩ := List.forall_mem_cons.mp hmem
      by_cases hlast : more = []
      · rw [hlast]
        exact .last (mt (List.singleton_infix_iff c piece).mp hpiece)
      · refine .cons ?_ (ih hlast hmore)
        rw [List.dropLast_concat]
        exact mt (List.singleton_infix_iff c piece).mp hpiece

end Cut

/-! ### The pieces of a text -/

variable {hseparator : separator ≠ []}

/-- The pieces of a text are cut at the separator and join to the text. -/
theorem cut_pieces (text : List Char) :
    Cut separator (pieces separator hseparator text)
      ∧ separator.intercalate (pieces separator hseparator text) = text := by
  fun_induction pieces separator hseparator text with
  | case1 =>
      refine ⟨.last fun hinfix => ?_, List.intercalate_singleton⟩
      exact hseparator (List.infix_nil.mp hinfix)
  | case2 c rest hprefix ih =>
      obtain ⟨hcut, hjoin⟩ := ih
      constructor
      · refine .cons (fun hinfix => ?_) hcut
        have hlength := hinfix.length_le
        have hpos := List.length_pos_iff.mpr hseparator
        rw [List.nil_append, List.length_dropLast] at hlength
        omega
      · rw [List.intercalate_cons_of_ne_nil hcut.ne_nil, hjoin, List.nil_append]
        exact List.prefix_iff_eq_append.mp (List.isPrefixOf_iff_prefix.mp hprefix)
  | case3 c rest _ hrest ih =>
      rw [hrest] at ih
      exact absurd rfl ih.1.ne_nil
  | case4 c rest hprefix piece more hrest ih =>
      obtain ⟨hcut, hjoin⟩ := ih
      rw [hrest] at hcut hjoin
      constructor
      · -- The separator does not begin here, so the character goes to the piece behind it.
        apply hcut.cons_head hseparator
        rw [hjoin]
        exact fun hstart => hprefix (List.isPrefixOf_iff_prefix.mpr hstart)
      · by_cases hlast : more = []
        · rw [hlast, List.intercalate_singleton] at hjoin ⊢
          rw [hjoin]
        · rw [List.intercalate_cons_of_ne_nil hlast] at hjoin ⊢
          rw [← hjoin]
          rfl

theorem pieces_append (text : List Char) :
    pieces separator hseparator (separator ++ text) = [] :: pieces separator hseparator text := by
  have hprefix : separator.isPrefixOf (separator ++ text) = true :=
    List.isPrefixOf_iff_prefix.mpr (List.prefix_append separator text)
  obtain ⟨c, rest, hcons⟩ : ∃ c rest, separator ++ text = c :: rest :=
    List.exists_cons_of_ne_nil (List.append_ne_nil_of_left_ne_nil hseparator text)
  rw [hcons] at hprefix ⊢
  rw [pieces, if_pos hprefix, ← hcons, List.drop_left]

theorem pieces_cons {c : Char} {text : List Char} (hstart : ¬ separator <+: c :: text) :
    pieces separator hseparator (c :: text)
      = (pieces separator hseparator text).modifyHead (c :: ·) := by
  have hne : pieces separator hseparator text ≠ [] := (cut_pieces text).1.ne_nil
  obtain ⟨piece, more, hpieces⟩ := List.exists_cons_of_ne_nil hne
  rw [pieces, if_neg (mt List.isPrefixOf_iff_prefix.mp hstart), hpieces]
  rfl

theorem pieces_eq_singleton {piece : List Char} (hpiece : ¬ separator <:+: piece) :
    pieces separator hseparator piece = [piece] := by
  induction piece with
  | nil => rw [pieces]
  | cons c piece ih =>
      rw [List.infix_cons_iff, not_or] at hpiece
      rw [pieces_cons hpiece.1, ih hpiece.2]
      rfl

/-- What stands before the first separator is the first piece. -/
theorem pieces_append_append {piece : List Char} (text : List Char)
    (hpiece : ¬ separator <:+: (piece ++ separator).dropLast) :
    pieces separator hseparator (piece ++ (separator ++ text))
      = piece :: pieces separator hseparator text := by
  induction piece with
  | nil => exact pieces_append text
  | cons c piece ih =>
      have hne : piece ++ separator ≠ [] := List.append_ne_nil_of_right_ne_nil piece hseparator
      have hstart : ¬ separator <+: c :: (piece ++ (separator ++ text)) := by
        intro hprefix
        apply hpiece
        -- A separator at the front would end before the one behind the piece does.
        refine (List.prefix_of_prefix_length_le hprefix ?_ ?_).isInfix
        · rw [← List.append_assoc, ← List.cons_append]
          exact (List.dropLast_prefix _).trans (List.prefix_append _ text)
        · simp only [List.length_dropLast, List.length_append, List.length_cons]
          omega
      rw [List.cons_append, List.dropLast_cons_of_ne_nil hne, List.infix_cons_iff, not_or] at hpiece
      rw [List.cons_append, pieces_cons hstart, ih hpiece.2]
      rfl

theorem pieces_intercalate (hcut : Cut separator tokens) :
    pieces separator hseparator (separator.intercalate tokens) = tokens := by
  induction hcut with
  | last hpiece => rw [List.intercalate_singleton, pieces_eq_singleton hpiece]
  | cons hpiece hmore ih =>
      rw [List.intercalate_cons_of_ne_nil hmore.ne_nil, List.append_assoc,
        pieces_append_append _ hpiece, ih]

/-- **The pieces of a text are the ones that are cut at the separator and join to the text.** -/
theorem pieces_eq_iff {text : List Char} :
    pieces separator hseparator text = tokens
      ↔ Cut separator tokens ∧ separator.intercalate tokens = text := by
  constructor
  · rintro rfl
    exact cut_pieces text
  · rintro ⟨hcut, rfl⟩
    exact pieces_intercalate hcut

end Pieces

/-! ### Texts -/

variable {separator : String} {tokens : List String}

theorem split?_eq_some_iff (hseparator : separator ≠ "") {value : String} :
    split? separator value = some tokens
      ↔ Cut separator.toList (tokens.map String.toList) ∧ join separator tokens = value := by
  have hne : separator.toList ≠ [] := by simpa using hseparator
  have hmap : (pieces separator.toList hne value.toList).map String.ofList = tokens
      ↔ pieces separator.toList hne value.toList = tokens.map String.toList := by
    constructor
    · rintro rfl
      simp
    · intro hpieces
      simp [hpieces]
  rw [split?, dif_neg hne, Option.some.injEq, hmap, pieces_eq_iff, join,
    ← String.toList_intercalate, String.toList_inj]

/-- **Splitting and joining undo each other.** A text is joined from the tokens that it is split
into, of which there is at least one and none of which contains the separator. With a separator of
one character all tokens that do not contain it, if there are any, are what their join is split
into. -/
theorem join_split? (hseparator : separator ≠ "") :
    (∀ value, ∃ tokens, split? separator value = some tokens ∧ join separator tokens = value
      ∧ (∀ token ∈ tokens, ¬ separator.toList <:+: token.toList) ∧ tokens ≠ [])
    ∧ (separator.length = 1 → ∀ elements, elements ≠ [] →
      (∀ element ∈ elements, ¬ separator.toList <:+: element.toList) →
        split? separator (join separator elements) = some elements) := by
  have hne : separator.toList ≠ [] := by simpa using hseparator
  constructor
  · intro value
    obtain ⟨tokens, htokens⟩ : ∃ tokens, split? separator value = some tokens :=
      ⟨_, dif_neg hne⟩
    obtain ⟨hcut, hjoin⟩ := (split?_eq_some_iff hseparator).mp htokens
    refine ⟨tokens, htokens, hjoin, ?_, ?_⟩
    · intro token htoken
      exact hcut.absent_of_mem hne token.toList (List.mem_map_of_mem htoken)
    · simpa using hcut.ne_nil
  · intro hlength elements helements hmem
    obtain ⟨c, hc⟩ : ∃ c, separator.toList = [c] := by
      rwa [← List.length_eq_one_iff, String.length_toList]
    rw [split?_eq_some_iff hseparator, hc]
    refine ⟨Cut.of_notMem (by simpa using helements) ?_, rfl⟩
    intro token htoken
    obtain ⟨element, helement, rfl⟩ := List.mem_map.mp htoken
    rw [← List.singleton_infix_iff, ← hc]
    exact hmem element helement

/-- A separator that overlaps itself, and a separator of one character with an empty token. -/
theorem join_split?_overlapping :
    ("aa" ≠ "" ∧ split? "aa" "aaab" = some ["", "ab"]
      ∧ ∃ tokens, split? "aa" "aaab" = some tokens ∧ join "aa" tokens = "aaab"
        ∧ (∀ token ∈ tokens, ¬ "aa".toList <:+: token.toList) ∧ tokens ≠ [])
    ∧ ("/" ≠ "" ∧ "/".length = 1 ∧ ["a", "", "b"] ≠ []
      ∧ (∀ element ∈ ["a", "", "b"], ¬ "/".toList <:+: element.toList)
      ∧ split? "/" (join "/" ["a", "", "b"]) = some ["a", "", "b"]) := by
  have hmem : ∀ element ∈ ["a", "", "b"], ¬ "/".toList <:+: element.toList := by decide
  refine ⟨⟨by decide, by decide +kernel, (join_split? (by decide)).1 "aaab"⟩, ?_⟩
  exact ⟨by decide, rfl, by decide, hmem, (join_split? (by decide)).2 rfl _ (by decide) hmem⟩

end JuceBuild.Text
