import JuceBuild.Text.Escape
import Mathlib.Logic.Function.Basic

/-!
# Escaping loses nothing

Whatever the set of characters, the text can be had back from what is escaped, but not in one way
for all sets. If the backslash itself is escaped, every backslash that is met from left to right is
a mark, and the character behind it is the text's. If it is not, backslashes of the text may stand
before a mark, and only the last one before a character of the set is one. It is told from the
others by what comes after it: escaped text never begins with a character of the set, so no
backslash of the text ever stands directly before one.
-/

namespace JuceBuild.Text

/-- Drops every backslash that stands directly before a character of `special`. -/
def dropMarks (special : List Char) : List Char → List Char
  | [] => []
  | c :: rest =>
    if c = '\\' ∧ rest.head?.any (· ∈ special) then dropMarks special rest
    else c :: dropMarks special rest

/-- Drops the backslashes from left to right if the backslash is in the set, and else the one
directly before each character of the set. -/
def restore (special text : List Char) : List Char :=
  if '\\' ∈ special then unescape text else dropMarks special text

variable {special : List Char}

theorem head?_escapeChars_any_mem (hslash : '\\' ∉ special) (value : List Char) :
    (escapeChars special value).head?.any (· ∈ special) = false := by
  cases value with
  | nil => rfl
  | cons c rest =>
      rw [escapeChars]
      by_cases hc : c ∈ special
      · rw [if_pos hc, List.head?_cons, Option.any_some]
        exact decide_eq_false hslash
      · rw [if_neg hc, List.head?_cons, Option.any_some]
        exact decide_eq_false hc

theorem dropMarks_escapeChars (hslash : '\\' ∉ special) (value : List Char) :
    dropMarks special (escapeChars special value) = value := by
  induction value with
  | nil => rfl
  | cons c rest ih =>
      rw [escapeChars]
      by_cases hc : c ∈ special
      · have hmark : ('\\' = '\\' ∧ (c :: escapeChars special rest).head?.any (· ∈ special)) := by
          simp [hc]
        have hkept : ¬(c = '\\' ∧ (escapeChars special rest).head?.any (· ∈ special)) := by
          rintro ⟨rfl, -⟩
          exact hslash hc
        rw [if_pos hc, dropMarks, if_pos hmark, dropMarks, if_neg hkept, ih]
      · -- What is escaped behind a backslash of the text never begins with a special character.
        have hkept : ¬(c = '\\' ∧ (escapeChars special rest).head?.any (· ∈ special)) := by
          rw [head?_escapeChars_any_mem hslash]
          exact fun hmark => Bool.false_ne_true hmark.2
        rw [if_neg hc, dropMarks, if_neg hkept, ih]

theorem restore_escapeChars (special value : List Char) :
    restore special (escapeChars special value) = value := by
  rw [restore]
  by_cases hslash : '\\' ∈ special
  · rw [if_pos hslash]
    exact unescape_escapeChars hslash value
  · rw [if_neg hslash]
    exact dropMarks_escapeChars hslash value

/-- **Escaping loses nothing.** It is injective for every set of characters, and what was escaped
can be restored. -/
theorem escape_injective (special : String) :
    Function.Injective (escape special)
      ∧ ∀ value, restore special.toList (escape special value).toList = value.toList := by
  have hrestored : ∀ value,
      restore special.toList (escape special value).toList = value.toList := by
    intro value
    rw [escape, String.toList_ofList]
    exact restore_escapeChars special.toList value.toList
  refine ⟨?_, hrestored⟩
  intro value other heq
  apply String.toList_injective
  rw [← hrestored value, heq]
  exact hrestored other

/-- A quote behind a backslash of the text: of the two backslashes only the second is dropped. -/
example : escapeChars ['"'] ['\\', '"'] = ['\\', '\\', '"']
    ∧ restore ['"'] ['\\', '\\', '"'] = ['\\', '"'] := by decide

end JuceBuild.Text
