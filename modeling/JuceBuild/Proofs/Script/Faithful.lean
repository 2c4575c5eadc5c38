import JuceBuild.Proofs.Script.Lines
import JuceBuild.Proofs.Script.Quoted
import Mathlib.Data.List.TakeWhile

/-!
# Calls that are read as they were meant

A text that was not escaped may end its argument too early or swallow what comes after it, and then
the commands that are found are not the ones that were meant. Nothing later in the script can make
up for it: arguments are found from left to right, so the first one that is not read as itself
stands in the place of the one that was meant. What a call is read as therefore says what its texts
are like, and each step here is an equivalence.
-/

namespace JuceBuild.Script

/-- The commands in the characters of a script. -/
def commandsOf? (text : List Char) : Option (List Command) := (tokens? text).bind calls?

/-- Inside a call: the text goes on with arguments, the call ends, and commands follow. -/
def Continues (text : List Char) (texts : List String) (commands : List Command) : Prop :=
  ∃ tokens after, tokens? text = some tokens ∧ arguments? tokens = some (texts, after)
    ∧ calls? after = some commands

variable {text rest : List Char} {tokens : List Token} {name : String} {texts more : List String}
  {commands others : List Command}

theorem commandsOf?_nil : commandsOf? [] = some [] := by
  rw [commandsOf?, tokens?, Option.bind_some, calls?]

theorem commandsOf?_newline (rest : List Char) :
    commandsOf? ('\n' :: rest) = commandsOf? rest := by
  have hreads := reads_separator (c := '\n') rfl rest
  rw [List.singleton_append] at hreads
  rw [commandsOf?, commandsOf?, hreads]
  cases tokens? rest <;> rfl

/-! ### Parts that are always read alike -/

theorem ReadsCommands.commandsOf?_append_iff {lines : List String}
    (hlines : ReadsCommands lines commands) :
    commandsOf? (lines.flatMap lineText ++ rest) = some (commands ++ others)
      ↔ commandsOf? rest = some others := by
  obtain ⟨tokens, hreads, hcalls⟩ := hlines
  rw [commandsOf?, commandsOf?, hreads]
  cases tokens? rest with
  | none => simp
  | some after =>
      rw [Option.map_some, Option.bind_some, Option.bind_some, hcalls]
      simp

theorem ReadsCommands.commandsOf?_eq {lines : List String} (hlines : ReadsCommands lines commands) :
    commandsOf? (lines.flatMap lineText) = some commands := by
  have happend : commandsOf? (lines.flatMap lineText ++ []) = some (commands ++ []) :=
    hlines.commandsOf?_append_iff.mpr commandsOf?_nil
  rwa [List.append_nil, List.append_nil] at happend

/-- The text of a token is the first argument. -/
theorem arguments?_cons_eq_some_iff {token : Token} {text word : String}
    (htoken : token = .word text ∨ token = .quoted text) {rest after : List Token} :
    arguments? (token :: rest) = some (word :: more, after)
      ↔ text = word ∧ arguments? rest = some (more, after) := by
  have hstep : arguments? (token :: rest)
      = (arguments? rest).map fun found => (text :: found.1, found.2) := by
    rcases htoken with rfl | rfl <;> rfl
  rw [hstep, Option.map_eq_some_iff]
  constructor
  · rintro ⟨⟨texts, others⟩, hrest, heq⟩
    cases heq
    exact ⟨rfl, hrest⟩
  · rintro ⟨rfl, hrest⟩
    exact ⟨_, hrest, rfl⟩

theorem arguments?_append_eq_some_iff (htokens : Arguments tokens texts) {rest after : List Token} :
    arguments? (tokens ++ rest) = some (texts ++ more, after)
      ↔ arguments? rest = some (more, after) := by
  induction htokens with
  | nil => rfl
  | cons htoken _ ih =>
      rw [List.cons_append, List.cons_append, arguments?_cons_eq_some_iff htoken, ih,
        and_iff_right rfl]

theorem Reads.continues_append_iff (htext : Reads text tokens) (htokens : Arguments tokens texts) :
    Continues (text ++ rest) (texts ++ more) commands ↔ Continues rest more commands := by
  simp only [Continues, htext rest, Option.map_eq_some_iff]
  constructor
  · rintro ⟨_, after, ⟨others, hothers, rfl⟩, harguments, hcalls⟩
    exact ⟨others, after, hothers, (arguments?_append_eq_some_iff htokens).mp harguments, hcalls⟩
  · rintro ⟨others, after, hothers, harguments, hcalls⟩
    exact ⟨_, after, ⟨others, hothers, rfl⟩, (arguments?_append_eq_some_iff htokens).mpr harguments,
      hcalls⟩

theorem continues_separator_iff {c : Char} (hc : isSeparator c = true) :
    Continues (c :: rest) more commands ↔ Continues rest more commands :=
  (reads_separator hc).continues_append_iff .nil

theorem continues_word_iff {word : String} (hword : IsWord word) {c : Char}
    (hc : isSeparator c = true) :
    Continues (word.toList ++ c :: rest) (word :: more) commands
      ↔ Continues rest more commands := by
  have hplain : isPlain c = false := by
    rw [isPlain, hc]
    rfl
  have hreads := reads_word hword hplain (reads_separator hc)
  have htokens : Arguments [.word word] [word] := .cons (.inl rfl) .nil
  have htext : word.toList ++ c :: rest = word.toList ++ [c] ++ rest :=
    List.append_cons word.toList c rest
  rw [htext]
  exact hreads.continues_append_iff htokens

theorem continues_line_iff {line : String} {lineTexts : List String}
    (hline : ReadsLine line lineTexts) :
    Continues (lineText line ++ rest) (lineTexts ++ more) commands
      ↔ Continues rest more commands := by
  obtain ⟨tokens, htokens, hreads⟩ := hline
  exact hreads.continues_append_iff htokens

/-- Indenting a line does not change what is read. -/
theorem continues_indented_iff {line : String} :
    Continues (lineText ("  " ++ line) ++ rest) more commands
      ↔ Continues (lineText line ++ rest) more commands := by
  have htext : lineText ("  " ++ line) ++ rest = ' ' :: ' ' :: (lineText line ++ rest) := by
    simp [lineText]
  rw [htext, continues_separator_iff rfl, continues_separator_iff rfl]

/-! ### The ends of a call -/

theorem commandsOf?_call_iff (hname : IsWord name) :
    commandsOf? (name.toList ++ '(' :: text) = some (⟨name, texts⟩ :: commands)
      ↔ Continues text texts commands := by
  have hreads := reads_word hname (by decide) reads_opening text
  rw [List.append_assoc, List.singleton_append] at hreads
  rw [commandsOf?, hreads, Continues]
  cases tokens? text with
  | none => simp
  | some tokens =>
      rw [Option.map_some, Option.bind_some, List.cons_append, List.cons_append, List.nil_append,
        calls?]
      split
      · rename_i hnone
        simp [hnone]
      · rename_i found after hsome
        rw [Option.map_eq_some_iff]
        grind

theorem continues_closing_iff :
    Continues (')' :: rest) [] commands ↔ commandsOf? rest = some commands := by
  have hreads := reads_closing rest
  rw [List.singleton_append] at hreads
  rw [Continues, commandsOf?, hreads]
  cases tokens? rest with
  | none => simp
  | some after => simp [arguments?]

/-! ### Texts between quotes -/

theorem unescaped_of_continues {raw : String}
    (htext : Continues ('"' :: (raw.toList ++ '"' :: rest)) (raw :: more) commands) :
    Text.Unescaped raw := by
  obtain ⟨tokens, after, htokens, harguments, -⟩ := htext
  rw [tokens?] at htokens
  split at htokens
  · cases htokens
  · rename_i value others hread
    obtain ⟨tokens, -, rfl⟩ := Option.map_eq_some_iff.mp htokens
    obtain ⟨hvalue, -⟩ := (arguments?_cons_eq_some_iff (.inr rfl)).mp harguments
    have hchars : raw.toList = value := by rw [← hvalue, String.toList_ofList]
    refine (readQuoted_self_iff raw rest).mp ⟨others, ?_⟩
    rw [hread, hchars]

/-- An argument between quotes in which nothing was escaped is read as itself exactly if there is
nothing to escape in it. -/
theorem continues_quoted_iff {raw : String} :
    Continues ('"' :: (raw.toList ++ '"' :: rest)) (raw :: more) commands
      ↔ Text.Unescaped raw ∧ Continues rest more commands := by
  have hstep : Text.Unescaped raw → (Continues ('"' :: (raw.toList ++ '"' :: rest)) (raw :: more)
      commands ↔ Continues rest more commands) := by
    intro hraw
    have htokens : Arguments [.quoted raw] [raw] := .cons (.inr rfl) .nil
    rw [List.append_cons, ← List.cons_append]
    exact (reads_quoted (quotes_of_unescaped hraw)).continues_append_iff htokens
  constructor
  · intro htext
    have hraw := unescaped_of_continues htext
    exact ⟨hraw, (hstep hraw).mp htext⟩
  · rintro ⟨hraw, hrest⟩
    exact (hstep hraw).mpr hrest

/-! ### Texts without quotes -/

theorem dropWhile_append_of_stop {p : Char → Bool} {c : Char} (hc : p c = false)
    (text rest : List Char) :
    (text ++ c :: rest).dropWhile p = text.dropWhile p ++ c :: rest := by
  induction text with
  | nil => exact List.dropWhile_cons_of_neg (Bool.eq_false_iff.mp hc)
  | cons d text ih =>
      rw [List.cons_append, List.dropWhile_cons, List.dropWhile_cons, ih]
      split <;> rfl

theorem takeWhile_append_of_stop {p : Char → Bool} {c : Char} (hc : p c = false)
    (text rest : List Char) : (text ++ c :: rest).takeWhile p = text.takeWhile p := by
  induction text with
  | nil => exact List.takeWhile_cons_of_neg (Bool.eq_false_iff.mp hc)
  | cons d text ih => rw [List.cons_append, List.takeWhile_cons, List.takeWhile_cons, ih]

theorem continues_comment_iff :
    Continues ('#' :: text) more commands
      ↔ Continues (text.dropWhile fun c => decide (c ≠ '\n')) more commands := by
  rw [Continues, Continues, tokens?]

theorem not_continues_opening : ¬Continues ('(' :: text) more commands := by
  rintro ⟨tokens, after, htokens, harguments, -⟩
  rw [tokens?, Option.map_eq_some_iff] at htokens
  obtain ⟨others, -, rfl⟩ := htokens
  cases harguments

theorem not_continues_closing {word : String} :
    ¬Continues (')' :: text) (word :: more) commands := by
  rintro ⟨tokens, after, htokens, harguments, -⟩
  rw [tokens?, Option.map_eq_some_iff] at htokens
  obtain ⟨others, -, rfl⟩ := htokens
  cases harguments

theorem isWord_of_continues_plain {c : Char} (hc : isPlain c = true) {word : String}
    (htext : Continues (c :: text) (word :: more) commands) : IsWord word := by
  obtain ⟨tokens, after, htokens, harguments, -⟩ := htext
  rw [tokens?_cons_of_isPlain hc, Option.map_eq_some_iff] at htokens
  obtain ⟨others, -, rfl⟩ := htokens
  obtain ⟨rfl, -⟩ := (arguments?_cons_eq_some_iff (.inl rfl)).mp harguments
  refine ⟨by simp, ?_⟩
  rw [String.toList_ofList, List.forall_mem_cons]
  exact ⟨hc, fun d hd => List.mem_takeWhile_imp hd⟩

/-- Where there is no quote and no backslash, the first argument is a word. A line that has none
leaves it to the lines below. -/
theorem isWord_or_continues {line : List Char} {word : String} (hquote : '"' ∉ line)
    (hslash : '\\' ∉ line) (htext : Continues (line ++ '\n' :: rest) (word :: more) commands) :
    IsWord word ∨ Continues rest (word :: more) commands := by
  -- A comment is skipped at once, so the induction is on the length of the line.
  induction hlength : line.length using Nat.strongRecOn generalizing line with
  | ind n ih =>
    cases line with
    | nil => exact .inr ((continues_separator_iff rfl).mp htext)
    | cons c line =>
        rw [List.mem_cons, not_or] at hquote hslash
        rw [List.cons_append] at htext
        rw [List.length_cons] at hlength
        by_cases hplain : isPlain c = true
        · exact .inl (isWord_of_continues_plain hplain htext)
        by_cases hseparator : isSeparator c = true
        · rw [continues_separator_iff hseparator] at htext
          exact ih line.length (by omega) hquote.2 hslash.2 htext rfl
        by_cases hcomment : c = '#'
        · have hsublist := List.dropWhile_sublist (l := line) fun c => decide (c ≠ '\n')
          have hshorter := hsublist.length_le
          rw [hcomment, continues_comment_iff, dropWhile_append_of_stop rfl] at htext
          exact ih _ (by omega) (mt hsublist.mem hquote.2) (mt hsublist.mem hslash.2) htext rfl
        · have hparenthesis : c = '(' ∨ c = ')' := by
            simp only [isPlain, Bool.and_eq_true, decide_eq_true_eq, List.mem_cons] at hplain
            grind
          rcases hparenthesis with rfl | rfl
          · exact absurd htext not_continues_opening
          · exact absurd htext not_continues_closing

/-! ### The last line end -/

theorem readQuoted_append_newline (input : List Char) :
    readQuoted (input ++ ['\n'])
      = (readQuoted input).map fun (text, rest) => (text, rest ++ ['\n']) := by
  fun_induction readQuoted input with
  | case1 => rfl
  | case2 => rfl
  | case3 => rfl
  | case4 c rest ih =>
      rw [List.cons_append, List.cons_append, readQuoted, ih, Option.map_map, Option.map_map]
      rfl
  | case5 c rest hquote hend hpair ih =>
      have hslash : c ≠ '\\' := by
        intro hslash
        cases rest with
        | nil => exact hend hslash rfl
        | cons d rest => exact hpair d rest hslash rfl
      rw [List.cons_append, readQuoted.eq_5 c _ hquote (fun heq => absurd heq hslash)
        (fun _ _ heq => absurd heq hslash), ih, Option.map_map, Option.map_map]
      rfl

/-- A line end behind a script changes nothing, whatever the script leaves open. -/
theorem tokens?_append_newline (input : List Char) : tokens? (input ++ ['\n']) = tokens? input := by
  fun_induction tokens? input with
  | case1 =>
      have hseparator := reads_separator (c := '\n') rfl []
      rw [List.append_nil, tokens?] at hseparator
      exact hseparator
  | case2 rest ih => rw [List.cons_append, tokens?, ih]
  | case3 rest ih => rw [List.cons_append, tokens?, ih]
  | case4 rest ih => rw [List.cons_append, tokens?, dropWhile_append_of_stop rfl, ih]
  | case5 rest hread =>
      rw [List.cons_append, tokens?]
      split
      · rfl
      · rename_i hread'
        rw [readQuoted_append_newline, hread] at hread'
        cases hread'
  | case6 rest text after hread ih =>
      rw [List.cons_append, tokens?]
      split
      · rename_i hread'
        rw [readQuoted_append_newline, hread] at hread'
        cases hread'
      · rename_i hread'
        rw [readQuoted_append_newline, hread] at hread'
        cases hread'
        rw [ih]
  | case7 rest => rw [List.cons_append, tokens?]
  | case8 c rest hopening hclosing hcomment hquote hslash hseparator ih =>
      rw [List.cons_append, tokens?.eq_7 c _ hopening hclosing hcomment hquote hslash,
        if_pos hseparator, ih]
  | case9 c rest hopening hclosing hcomment hquote hslash hseparator ih =>
      rw [List.cons_append, tokens?.eq_7 c _ hopening hclosing hcomment hquote hslash,
        if_neg hseparator, takeWhile_append_of_stop rfl, dropWhile_append_of_stop rfl, ih]

theorem commands?_join_append {lines : List String} (hlines : lines ≠ []) :
    commands? (Text.join "\n" lines ++ "\n") = commandsOf? (lines.flatMap lineText) := by
  rw [commands?, toList_join_lines hlines, commandsOf?]

/-- Joined lines are read as the same lines with a line end after each. -/
theorem commands?_join {lines : List String} (hlines : lines ≠ []) :
    commands? (Text.join "\n" lines) = commandsOf? (lines.flatMap lineText) := by
  rw [← commands?_join_append hlines, commands?, commands?, String.toList_append]
  exact congrArg (Option.bind · calls?) (tokens?_append_newline _).symm

end JuceBuild.Script
