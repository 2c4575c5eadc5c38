import JuceBuild.Text.Escape

/-!
# Reading a script

A script is read as a list of command calls, without looking at variables. White space separates, a
number sign starts a comment up to the end of the line, and an argument is a quoted text or a run of
plain characters. In a quoted text a backslash gives the next character its plain meaning, so a text
that was escaped is read as it was: `readQuoted_escapeChars`.
-/

namespace JuceBuild.Script

structure Command where
  name : String
  arguments : List String
  deriving DecidableEq, Repr

/-- What a script is made of. -/
inductive Token where
  | opening
  | closing
  | quoted (text : String)
  | word (text : String)
  deriving DecidableEq, Repr

/-- The text up to the closing quote, and what comes after it. -/
def readQuoted : List Char → Option (List Char × List Char)
  | [] => none
  | '"' :: rest => some ([], rest)
  | ['\\'] => none
  | '\\' :: c :: rest => (readQuoted rest).map fun (text, rest) => (c :: text, rest)
  | c :: rest => (readQuoted rest).map fun (text, rest) => (c :: text, rest)

def isSeparator (c : Char) : Bool := c ∈ [' ', '\t', '\r', '\n']

/-- A character of an argument that is not quoted. -/
def isPlain (c : Char) : Bool := !isSeparator c && c ∉ ['(', ')', '"', '#', '\\']

theorem readQuoted_length_lt {input text rest : List Char}
    (h : readQuoted input = some (text, rest)) : rest.length < input.length := by
  fun_induction readQuoted input generalizing text rest with
  | case1 => cases h
  | case2 => cases h; simp
  | case3 => cases h
  | case4 c input ih =>
    obtain ⟨⟨text', rest'⟩, hread, heq⟩ := Option.map_eq_some_iff.mp h
    cases heq
    have := ih hread
    simp only [List.length_cons]
    omega
  | case5 c input _ _ _ ih =>
    obtain ⟨⟨text', rest'⟩, hread, heq⟩ := Option.map_eq_some_iff.mp h
    cases heq
    exact Nat.lt_succ_of_lt (ih hread)

/-- A text that was escaped is read as it was, if the quotes in it were escaped too. -/
theorem readQuoted_escapeChars {special text : List Char} (hslash : '\\' ∈ special)
    (hquote : '"' ∈ text → '"' ∈ special) (rest : List Char) :
    readQuoted (Text.escapeChars special text ++ '"' :: rest) = some (text, rest) := by
  induction text with
  | nil => rfl
  | cons c text ih =>
    have ih := ih fun hmem => hquote (List.mem_cons_of_mem c hmem)
    by_cases hc : c ∈ special
    · simp [Text.escapeChars, hc, readQuoted, ih]
    · have hne : c ≠ '\\' := fun heq => hc (heq ▸ hslash)
      have hne' : c ≠ '"' := fun heq => hc (heq ▸ hquote (heq ▸ List.mem_cons_self))
      rw [Text.escapeChars, if_neg hc, List.cons_append, readQuoted.eq_5 _ _ hne', ih]
      · rfl
      · intro heq
        simp [heq] at hne
      · intro c' rest' heq
        exact absurd heq hne

def tokens? : List Char → Option (List Token)
  | [] => some []
  | '(' :: rest => (tokens? rest).map (.opening :: ·)
  | ')' :: rest => (tokens? rest).map (.closing :: ·)
  | '#' :: rest => tokens? (rest.dropWhile (· ≠ '\n'))
  | '"' :: rest =>
    match _h : readQuoted rest with
    | none => none
    | some (text, rest) => (tokens? rest).map (.quoted (String.ofList text) :: ·)
  | '\\' :: _ => none
  | c :: rest =>
    if isSeparator c then tokens? rest
    else
      (tokens? (rest.dropWhile isPlain)).map
        (.word (String.ofList (c :: rest.takeWhile isPlain)) :: ·)
termination_by input => input.length
decreasing_by
  · simp
  · simp
  · exact Nat.lt_succ_of_le (List.dropWhile_sublist _).length_le
  · exact Nat.lt_succ_of_lt (readQuoted_length_lt _h)
  · simp
  · exact Nat.lt_succ_of_le (List.dropWhile_sublist _).length_le

/-- The arguments up to the closing parenthesis, and what comes after it. -/
def arguments? : List Token → Option (List String × List Token)
  | .closing :: rest => some ([], rest)
  | .quoted text :: rest => (arguments? rest).map fun (texts, rest) => (text :: texts, rest)
  | .word text :: rest => (arguments? rest).map fun (texts, rest) => (text :: texts, rest)
  | _ => none

theorem arguments?_length_lt_tokens {tokens rest : List Token} {texts : List String}
    (h : arguments? tokens = some (texts, rest)) : rest.length < tokens.length := by
  fun_induction arguments? tokens generalizing texts rest with
  | case1 => cases h; simp
  | case2 _ _ ih | case3 _ _ ih =>
    obtain ⟨⟨texts', rest'⟩, hread, heq⟩ := Option.map_eq_some_iff.mp h
    cases heq
    exact Nat.lt_succ_of_lt (ih hread)
  | case4 => cases h

def calls? : List Token → Option (List Command)
  | [] => some []
  | .word name :: .opening :: rest =>
    match _h : arguments? rest with
    | none => none
    | some (texts, rest) => (calls? rest).map (⟨name, texts⟩ :: ·)
  | _ => none
termination_by tokens => tokens.length
decreasing_by
  have := arguments?_length_lt_tokens _h
  simp only [List.length_cons]
  omega

def commands? (script : String) : Option (List Command) := (tokens? script.toList).bind calls?

end JuceBuild.Script
