import JuceBuild.Script.Reader

/-!
# Reading a script piece by piece

A script is put together from pieces, and it is read from left to right without looking back. So it
is enough to know of each piece what it is read as, whatever comes after it. A word is the
exception: it goes on for as long as plain characters follow, so the piece of a word includes the
character that ends it.
-/

namespace JuceBuild

/-- A text that stands in a quoted argument as it is. -/
def Text.Unescaped (text : String) : Prop := '"' ∉ text.toList ∧ '\\' ∉ text.toList

instance (text : String) : Decidable (Text.Unescaped text) := inferInstanceAs (Decidable (_ ∧ _))

theorem Text.Unescaped.append {text more : String} (htext : Text.Unescaped text)
    (hmore : Text.Unescaped more) : Text.Unescaped (text ++ more) := by
  rw [Text.Unescaped, String.toList_append, List.mem_append, List.mem_append, not_or, not_or]
  exact ⟨⟨htext.1, hmore.1⟩, htext.2, hmore.2⟩

theorem Text.escapeChars_eq_self {special text : List Char} (htext : ∀ c ∈ text, c ∉ special) :
    Text.escapeChars special text = text := by
  induction text with
  | nil => rfl
  | cons c text ih =>
      rw [Text.escapeChars, if_neg (htext c List.mem_cons_self),
        ih fun d hd => htext d (List.mem_cons_of_mem c hd)]

namespace Script

/-- A word: plain characters, at least one of them. -/
def IsWord (text : String) : Prop := text ≠ "" ∧ ∀ c ∈ text.toList, isPlain c = true

instance (text : String) : Decidable (IsWord text) :=
  have : Decidable (∀ c ∈ text.toList, isPlain c = true) := List.decidableBAll _ _
  inferInstanceAs (Decidable (_ ∧ _))

/-- A class of characters is plain if it has none of the characters in it that are not. -/
theorem isPlain_of_special {p : Char → Bool} {c : Char}
    (hspecial : [' ', '\t', '\r', '\n', '(', ')', '"', '#', '\\'].all (fun c => !p c) = true)
    (hc : p c = true) : isPlain c = true := by
  cases hplain : isPlain c with
  | true => rfl
  | false =>
      have hmem : c ∈ [' ', '\t', '\r', '\n', '(', ')', '"', '#', '\\'] := by
        simp only [isPlain, isSeparator, List.mem_cons] at hplain ⊢
        grind
      have hno := List.all_eq_true.mp hspecial c hmem
      rw [hc] at hno
      cases hno

theorem unescaped_of_forall_mem {p : Char → Prop} {text : String} (hquote : ¬p '"')
    (hslash : ¬p '\\') (htext : ∀ c ∈ text.toList, p c) : Text.Unescaped text :=
  ⟨fun hmem => hquote (htext _ hmem), fun hmem => hslash (htext _ hmem)⟩

theorem IsWord.unescaped {text : String} (htext : IsWord text) : Text.Unescaped text :=
  unescaped_of_forall_mem (p := (isPlain · = true)) (by decide) (by decide) htext.2

theorem IsWord.notMem_newline {text : String} (htext : IsWord text) : '\n' ∉ text.toList := by
  intro hmem
  have hplain := htext.2 '\n' hmem
  cases hplain

/-- A text is read as tokens, whatever comes after it. -/
def Reads (text : List Char) (tokens : List Token) : Prop :=
  ∀ rest, tokens? (text ++ rest) = (tokens? rest).map (tokens ++ ·)

variable {text more : List Char} {tokens others : List Token} {c : Char}

theorem reads_nil : Reads [] [] := by
  intro rest
  cases htokens : tokens? rest <;> simp [htokens]

theorem Reads.append (htext : Reads text tokens) (hmore : Reads more others) :
    Reads (text ++ more) (tokens ++ others) := by
  intro rest
  rw [List.append_assoc, htext, hmore]
  cases tokens? rest <;> simp

theorem reads_opening : Reads ['('] [.opening] := by
  intro rest
  rw [List.singleton_append, tokens?]
  rfl

theorem reads_closing : Reads [')'] [.closing] := by
  intro rest
  rw [List.singleton_append, tokens?]
  rfl

theorem reads_separator (hc : isSeparator c = true) : Reads [c] [] := by
  intro rest
  have hspecial : ∀ special, isSeparator special = false → c ≠ special := by
    rintro special hspecial rfl
    rw [hc] at hspecial
    cases hspecial
  rw [List.singleton_append, tokens?.eq_7 c rest, if_pos hc]
  · cases tokens? rest <;> rfl
  all_goals exact hspecial _ (by decide)

theorem reads_comment (htext : '\n' ∉ text) : Reads ('#' :: text ++ ['\n']) [] := by
  intro rest
  have hline : ∀ c ∈ text, decide (c ≠ '\n') = true := by
    rintro c hc
    rw [decide_eq_true_eq]
    rintro rfl
    exact htext hc
  rw [List.append_assoc, List.cons_append, tokens?, List.dropWhile_append_of_pos hline,
    List.singleton_append, List.dropWhile_cons_of_neg (by decide)]
  exact reads_separator rfl rest

/-- A plain character rules out everything but a word. -/
theorem tokens?_cons_of_isPlain (hc : isPlain c = true) (rest : List Char) :
    tokens? (c :: rest)
      = (tokens? (rest.dropWhile isPlain)).map
        (.word (String.ofList (c :: rest.takeWhile isPlain)) :: ·) := by
  have hspecial : ∀ special, isPlain special = false → c ≠ special := by
    rintro special hspecial rfl
    rw [hc] at hspecial
    cases hspecial
  have hseparator : ¬isSeparator c = true := by
    intro hsep
    rw [isPlain, hsep] at hc
    cases hc
  rw [tokens?.eq_7 c, if_neg hseparator]
  all_goals exact hspecial _ (by decide)

/-- A word is read up to the first character that is not plain. -/
theorem reads_word {word : String} (hword : IsWord word) (hc : isPlain c = false)
    (htext : Reads (c :: text) tokens) :
    Reads (word.toList ++ c :: text) (.word word :: tokens) := by
  intro rest
  obtain ⟨hne, hplain⟩ := hword
  obtain ⟨d, chars, hchars⟩ : ∃ d chars, word.toList = d :: chars := by
    apply List.exists_cons_of_ne_nil
    simpa using hne
  rw [hchars] at hplain
  have hd : isPlain d = true := hplain d List.mem_cons_self
  have hmore : ∀ e ∈ chars, isPlain e = true := fun e he => hplain e (List.mem_cons_of_mem d he)
  have hstop : ¬isPlain c = true := by
    rw [hc]
    exact Bool.false_ne_true
  have hread := htext rest
  rw [List.cons_append] at hread
  rw [hchars, List.append_assoc, List.cons_append, List.cons_append, tokens?_cons_of_isPlain hd,
    List.takeWhile_append_of_pos hmore, List.dropWhile_append_of_pos hmore,
    List.takeWhile_cons_of_neg hstop, List.dropWhile_cons_of_neg hstop, List.append_nil, ← hchars,
    String.ofList_toList, hread]
  cases tokens? rest <;> rfl

/-! ### Quoted texts -/

/-- A raw text between quotes is read as a value. -/
def Quotes (raw value : String) : Prop :=
  ∀ rest, readQuoted (raw.toList ++ '"' :: rest) = some (value.toList, rest)

theorem reads_quoted {raw value : String} (hraw : Quotes raw value) :
    Reads ('"' :: raw.toList ++ ['"']) [.quoted value] := by
  intro rest
  rw [List.append_assoc, List.cons_append, List.singleton_append, tokens?]
  split
  · rename_i hread
    rw [hraw] at hread
    cases hread
  · rename_i text after hread
    rw [hraw] at hread
    cases hread
    rw [String.ofList_toList]
    rfl

theorem quotes_escapeString (value : String) : Quotes (Text.escapeString value) value := by
  intro rest
  rw [Text.escapeString, Text.escape, String.toList_ofList]
  exact readQuoted_escapeChars (by decide) (fun _ => by decide) rest

theorem quotes_escapePath {value : String} (hvalue : '"' ∉ value.toList) :
    Quotes (Text.escapePath value) value := by
  intro rest
  rw [Text.escapePath, Text.escape, String.toList_ofList]
  exact readQuoted_escapeChars (by decide) (fun hmem => absurd hmem hvalue) rest

theorem quotes_of_unescaped {value : String} (hvalue : Text.Unescaped value) :
    Quotes value value := by
  have hself : Text.escapePath value = value := by
    rw [Text.escapePath, Text.escape, Text.escapeChars_eq_self, String.ofList_toList]
    intro c hc hspecial
    obtain rfl : c = '\\' := List.mem_singleton.mp hspecial
    exact hvalue.2 hc
  have hescaped := quotes_escapePath hvalue.1
  rwa [hself] at hescaped

end Script

end JuceBuild
