import JuceBuild.Proofs.Script.Tokens
import JuceBuild.Script.Setting

/-!
# Quoted arguments

A quoted argument ends at the first quote that no backslash stands before, so the reader finds its
end without knowing what comes after it. What is escaped comes back as it was. With only the
backslashes escaped a quote in the text ends the argument too early, and with nothing escaped a text
is read as it was in no other case than that there is nothing to escape in it.
-/

namespace JuceBuild.Script

/-- The quoted argument that a text begins with, and what comes after it. -/
def quotedArgument? : List Char → Option (List Char × List Char)
  | '"' :: rest => readQuoted rest
  | _ => none

/-! ### Escaped texts -/

/-- If quotes are not escaped, the first one in the text ends the argument. -/
theorem readQuoted_escapeChars_eq_iff {special : List Char} (hslash : '\\' ∈ special)
    (hquote : '"' ∉ special) (text rest : List Char) :
    readQuoted (Text.escapeChars special text ++ '"' :: rest) = some (text, rest)
      ↔ '"' ∉ text := by
  constructor
  · intro hread hmem
    obtain ⟨before, after, rfl, hbefore⟩ := List.eq_append_cons_of_mem hmem
    have hends := readQuoted_escapeChars hslash (fun hmem => absurd hmem hbefore)
      (Text.escapeChars special after ++ '"' :: rest)
    rw [Text.escapeChars_append, Text.escapeChars, if_neg hquote, List.append_assoc,
      List.cons_append, hends] at hread
    have hlength := congrArg (fun found => found.map fun pair => pair.1.length) hread
    simp at hlength
  · intro hnotMem
    exact readQuoted_escapeChars hslash (fun hmem => absurd hmem hnotMem) rest

theorem quotedArgument?_escapePath_eq_iff (path : String) (rest : List Char) :
    quotedArgument? ('"' :: (Text.escapePath path).toList ++ '"' :: rest) = some (path.toList, rest)
      ↔ '"' ∉ path.toList := by
  rw [List.cons_append, quotedArgument?, Text.escapePath, Text.escape, String.toList_ofList]
  exact readQuoted_escapeChars_eq_iff (by decide) (by decide) path.toList rest

theorem exists_textLine_append {value : String} (hvalue : value ≠ "") (tag : String)
    (rest : List Char) :
    ∃ argument, (Setting.textLine tag (some value)).toList ++ rest = tag.toList ++ ' ' :: argument
      ∧ quotedArgument? argument = some (value.toList, rest) := by
  refine ⟨'"' :: (Text.escapeString value).toList ++ '"' :: rest, ?_, ?_⟩
  · rw [Setting.textLine, if_neg hvalue]
    simp
  · rw [List.cons_append, quotedArgument?]
    exact quotes_escapeString value rest

/-- **Values are read back.** The argument behind a tag is the value of the setting, whatever
follows it. A path of which only the backslashes are escaped is read back exactly if it has no
quote. -/
theorem quotedArgument?_escaped {value : String} (hvalue : value ≠ "") (tag path : String)
    (rest : List Char) :
    (∃ argument, (Setting.textLine tag (some value)).toList ++ rest = tag.toList ++ ' ' :: argument
        ∧ quotedArgument? argument = some (value.toList, rest))
      ∧ (quotedArgument? ('"' :: (Text.escapePath path).toList ++ '"' :: rest)
          = some (path.toList, rest) ↔ '"' ∉ path.toList) :=
  ⟨exists_textLine_append hvalue tag rest, quotedArgument?_escapePath_eq_iff path rest⟩

/-- A value that ends with a backslash does not swallow the quote that closes it. -/
theorem quotedArgument?_escaped_backslash :
    "a \"b\"\n\\" ≠ ""
      ∧ (∃ argument, (Setting.textLine "TAG" (some "a \"b\"\n\\")).toList ++ "\" c".toList
            = "TAG".toList ++ ' ' :: argument
          ∧ quotedArgument? argument = some ("a \"b\"\n\\".toList, "\" c".toList))
      ∧ (quotedArgument? ('"' :: (Text.escapePath "c:\\a\"b").toList ++ '"' :: "\" c".toList)
          = some ("c:\\a\"b".toList, "\" c".toList) ↔ '"' ∉ "c:\\a\"b".toList) :=
  ⟨by decide, quotedArgument?_escaped (by decide) "TAG" "c:\\a\"b" "\" c".toList⟩

/-! ### Texts that are not escaped -/

theorem readQuoted_backslash_eq_some_iff {c : Char} {input text rest : List Char} :
    readQuoted ('\\' :: c :: input) = some (text, rest)
      ↔ ∃ more, readQuoted input = some (more, rest) ∧ c :: more = text := by
  rw [readQuoted, Option.map_eq_some_iff]
  simp only [Prod.exists, Prod.mk.injEq]
  grind

theorem readQuoted_cons_eq_some_iff {c : Char} (hquote : c ≠ '"') (hslash : c ≠ '\\')
    {input text rest : List Char} :
    readQuoted (c :: input) = some (text, rest)
      ↔ ∃ more, readQuoted input = some (more, rest) ∧ c :: more = text := by
  rw [readQuoted.eq_5 c input hquote (fun heq => absurd heq hslash)
    (fun _ _ heq => absurd heq hslash), Option.map_eq_some_iff]
  simp only [Prod.exists, Prod.mk.injEq]
  grind

theorem replicate_append_cons_self {α : Type} (n : Nat) (a : α) (rest : List α) :
    List.replicate n a ++ a :: rest = a :: (List.replicate n a ++ rest) := by
  rw [List.append_cons, ← List.replicate_succ', List.replicate_succ, List.cons_append]

/-- What is read up to a quote behind a text is the text, with backslashes before it or none, only
if there are none and the text has nothing in it to escape. -/
theorem unescaped_of_readQuoted {text rest after : List Char} {n : Nat}
    (hread : readQuoted (text ++ '"' :: rest) = some (List.replicate n '\\' ++ text, after)) :
    n = 0 ∧ '"' ∉ text ∧ '\\' ∉ text := by
  fun_induction Text.unescape text generalizing n with
  | case1 c text ih =>
      -- The backslash is dropped, so what is read of the text behind it has one more before it.
      rw [List.cons_append, List.cons_append, readQuoted_backslash_eq_some_iff,
        replicate_append_cons_self] at hread
      obtain ⟨more, hmore, heq⟩ := hread
      obtain ⟨rfl, rfl⟩ := List.cons.inj heq
      rw [replicate_append_cons_self, ← List.cons_append, ← List.replicate_succ] at hmore
      cases (ih hmore).1
  | case2 c text hpair ih =>
      by_cases hquote : c = '"'
      · rw [hquote, List.cons_append, readQuoted] at hread
        cases n <;> cases hread
      by_cases hslash : c = '\\'
      · -- A backslash at the end takes the closing quote for a character of the text.
        obtain rfl : text = [] := by
          cases text with
          | nil => rfl
          | cons d text => exact (hpair d text hslash rfl).elim
        rw [hslash, List.singleton_append, readQuoted_backslash_eq_some_iff,
          replicate_append_cons_self] at hread
        obtain ⟨more, -, heq⟩ := hread
        cases heq
      rw [List.cons_append, readQuoted_cons_eq_some_iff hquote hslash] at hread
      obtain ⟨more, hmore, heq⟩ := hread
      cases n with
      | zero =>
          cases heq
          have hrest := (ih (n := 0) hmore).2
          simpa [Ne.symm hquote, Ne.symm hslash] using hrest
      | succ n =>
          rw [List.replicate_succ, List.cons_append] at heq
          exact absurd (List.cons.inj heq).1 hslash
  | case3 =>
      cases n with
      | zero => exact ⟨rfl, List.not_mem_nil, List.not_mem_nil⟩
      | succ n => cases hread

/-- A text between quotes that nothing was escaped in is read as itself exactly if there is nothing
to escape. -/
theorem readQuoted_self_iff (text : String) (rest : List Char) :
    (∃ after, readQuoted (text.toList ++ '"' :: rest) = some (text.toList, after))
      ↔ Text.Unescaped text := by
  constructor
  · rintro ⟨after, hread⟩
    exact (unescaped_of_readQuoted (n := 0) hread).2
  · intro htext
    exact ⟨rest, quotes_of_unescaped htext rest⟩

end JuceBuild.Script
