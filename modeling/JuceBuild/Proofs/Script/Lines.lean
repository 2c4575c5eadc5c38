import JuceBuild.Proofs.Script.Tokens
import JuceBuild.Script.Block
import JuceBuild.Script.Setting
import JuceBuild.Text.Split
import Mathlib.Data.List.Forall2
import Mathlib.Data.List.TakeWhile

/-!
# The lines of a script

A call is written in one line, or as a block: a line that opens it, a line for each argument or two,
and a closing parenthesis. Lines of arguments say what they are read as without knowing the call
they stand in, calls without knowing the calls around them, so the script of a list is read by
reading the script of one of its elements.
-/

namespace JuceBuild.Script

/-! ### Arguments -/

/-- Tokens that are arguments with these texts. -/
def Arguments (tokens : List Token) (texts : List String) : Prop :=
  List.Forall₂ (fun token text => token = .word text ∨ token = .quoted text) tokens texts

variable {tokens others : List Token} {texts moreTexts : List String}

theorem Arguments.append (htokens : Arguments tokens texts) (hothers : Arguments others moreTexts) :
    Arguments (tokens ++ others) (texts ++ moreTexts) :=
  List.rel_append htokens hothers

theorem arguments?_closing (htokens : Arguments tokens texts) (rest : List Token) :
    arguments? (tokens ++ .closing :: rest) = some (texts, rest) := by
  induction htokens with
  | nil => rfl
  | cons htoken _ ih =>
      rcases htoken with rfl | rfl
      · rw [List.cons_append, arguments?, ih]
        rfl
      · rw [List.cons_append, arguments?, ih]
        rfl

theorem calls?_call {name : String} (htokens : Arguments tokens texts) (rest : List Token) :
    calls? (.word name :: .opening :: (tokens ++ .closing :: rest))
      = (calls? rest).map (⟨name, texts⟩ :: ·) := by
  rw [calls?]
  split
  · rename_i hread
    rw [arguments?_closing htokens] at hread
    cases hread
  · rename_i texts' rest' hread
    rw [arguments?_closing htokens] at hread
    cases hread
    rfl

/-- A text in a line is read as arguments, up to a character that ends a word. -/
def ReadsArguments (text : String) (texts : List String) : Prop :=
  ∃ tokens, Arguments tokens texts ∧ ∀ c more others, isPlain c = false → Reads (c :: more) others →
    Reads (text.toList ++ c :: more) (tokens ++ others)

theorem readsArguments_empty : ReadsArguments "" [] :=
  ⟨[], .nil, fun _ _ _ _ hmore => hmore⟩

theorem readsArguments_word {word : String} (hword : IsWord word) : ReadsArguments word [word] :=
  ⟨[.word word], .cons (.inl rfl) .nil, fun _ _ _ hc hmore => reads_word hword hc hmore⟩

theorem readsArguments_quoted {raw value : String} (hraw : Quotes raw value) :
    ReadsArguments ("\"" ++ raw ++ "\"") [value] := by
  refine ⟨[.quoted value], .cons (.inr rfl) .nil, fun c more others _ hmore => ?_⟩
  have htext : ("\"" ++ raw ++ "\"").toList = '"' :: raw.toList ++ ['"'] := by
    simp
  rw [htext]
  exact (reads_quoted hraw).append hmore

/-- Arguments on both sides of a separator. -/
theorem ReadsArguments.separated {text more : String} {c : Char} (hc : isSeparator c = true)
    (htext : ReadsArguments text texts) (hmore : ReadsArguments more moreTexts) :
    ReadsArguments (String.ofList (text.toList ++ c :: more.toList)) (texts ++ moreTexts) := by
  obtain ⟨tokens, htokens, hreads⟩ := htext
  obtain ⟨others, hothers, hreads'⟩ := hmore
  refine ⟨tokens ++ others, htokens.append hothers, fun d after rest hd hafter => ?_⟩
  have hplain : isPlain c = false := by
    rw [isPlain, hc]
    rfl
  have hseparated : Reads (c :: (more.toList ++ d :: after)) (others ++ rest) :=
    (reads_separator hc).append (hreads' d after rest hd hafter)
  rw [String.toList_ofList, List.append_assoc, List.append_assoc, List.cons_append]
  exact hreads c _ _ hplain hseparated

theorem ReadsArguments.space {text more : String} (htext : ReadsArguments text texts)
    (hmore : ReadsArguments more moreTexts) :
    ReadsArguments (text ++ " " ++ more) (texts ++ moreTexts) := by
  have hchars : text ++ " " ++ more = String.ofList (text.toList ++ ' ' :: more.toList) := by
    apply String.toList_injective
    simp
  rw [hchars]
  exact htext.separated rfl hmore

theorem readsArguments_tagged {text tag raw value : String}
    (htext : text = tag ++ " \"" ++ raw ++ "\"") (htag : IsWord tag) (hraw : Quotes raw value) :
    ReadsArguments text [tag, value] := by
  have hquote : " \"" = " " ++ "\"" := rfl
  have hassoc : text = tag ++ " " ++ ("\"" ++ raw ++ "\"") := by
    rw [htext, hquote, ← String.append_assoc, ← String.append_assoc, ← String.append_assoc]
  rw [hassoc]
  exact (readsArguments_word htag).space (readsArguments_quoted hraw)

/-! ### Words between separators -/

/-- What stands between the separators of a text. -/
def wordsOf (text : List Char) : List String :=
  ((text.splitOnP isSeparator).filter (· ≠ [])).map String.ofList

/-- A text of words and separators. -/
def IsPhrase (text : List Char) : Prop := ∀ c ∈ text, isPlain c = true ∨ isSeparator c = true

instance (text : List Char) : Decidable (IsPhrase text) := List.decidableBAll _ _

theorem IsPhrase.unescaped {text : String} (htext : IsPhrase text.toList) : Text.Unescaped text :=
  unescaped_of_forall_mem (p := fun c => isPlain c = true ∨ isSeparator c = true) (by decide)
    (by decide) htext

theorem isSeparator_of_isPlain {c : Char} (hc : isPlain c = true) : isSeparator c = false := by
  rw [isPlain, Bool.and_eq_true, Bool.not_eq_true'] at hc
  exact hc.1

theorem wordsOf_plain {text : List Char} (htext : ∀ c ∈ text, isPlain c = true) :
    wordsOf text = if text = [] then [] else [String.ofList text] := by
  rw [wordsOf, List.splitOnP_eq_singleton fun c hc => isSeparator_of_isPlain (htext c hc)]
  split <;> simp_all

theorem wordsOf_append {text rest : List Char} {c : Char}
    (htext : ∀ d ∈ text, isPlain d = true) (hc : isSeparator c = true) :
    wordsOf (text ++ c :: rest) = wordsOf text ++ wordsOf rest := by
  have hplain : ∀ d ∈ text, isSeparator d = false := fun d hd => isSeparator_of_isPlain (htext d hd)
  rw [wordsOf, wordsOf, wordsOf, List.splitOnP_append_cons_of_forall_mem hplain c hc,
    List.splitOnP_eq_singleton hplain, ← List.map_append, ← List.filter_append,
    List.singleton_append]

theorem readsArguments_plain {text : List Char} (htext : ∀ c ∈ text, isPlain c = true) :
    ReadsArguments (String.ofList text) (wordsOf text) := by
  rw [wordsOf_plain htext]
  split
  · rename_i hempty
    rw [hempty]
    exact readsArguments_empty
  · rename_i hne
    refine readsArguments_word ⟨?_, ?_⟩
    · rwa [ne_eq, ← String.toList_eq_nil_iff, String.toList_ofList]
    · rwa [String.toList_ofList]

/-- A text of words and separators is read as its words. -/
theorem readsArguments_phrase {text : List Char} (htext : IsPhrase text) :
    ReadsArguments (String.ofList text) (wordsOf text) := by
  -- The induction goes from one word to the next, along the length of the text.
  induction hlength : text.length using Nat.strongRecOn generalizing text with
  | ind n ih =>
    have hsplit := List.takeWhile_append_dropWhile (p := isPlain) (l := text)
    have hword : ∀ c ∈ text.takeWhile isPlain, isPlain c = true := fun c hc =>
      List.mem_takeWhile_imp hc
    cases hrest : text.dropWhile isPlain with
    | nil =>
        rw [hrest, List.append_nil] at hsplit
        rw [← hsplit]
        exact readsArguments_plain hword
    | cons c rest =>
        have hstop : isPlain c = false := by
          have hhead := List.head?_dropWhile_not isPlain text
          rwa [hrest] at hhead
        rw [hrest] at hsplit
        have hmem : ∀ d ∈ c :: rest, d ∈ text := fun d hd => by
          rw [← hsplit]
          exact List.mem_append_right _ hd
        have hseparator : isSeparator c = true := by
          simpa [hstop] using htext c (hmem c List.mem_cons_self)
        have hshorter : rest.length < n := by
          rw [← hlength, ← hsplit, List.length_append, List.length_cons]
          omega
        have hphrase : IsPhrase rest := fun d hd => htext d (hmem d (List.mem_cons_of_mem c hd))
        have hreads := (readsArguments_plain hword).separated hseparator (ih _ hshorter hphrase rfl)
        rw [String.toList_ofList, String.toList_ofList] at hreads
        rw [← hsplit, wordsOf_append hword hseparator]
        exact hreads

/-! ### Lines -/

def lineText (line : String) : List Char := line.toList ++ ['\n']

def ReadsLine (line : String) (texts : List String) : Prop :=
  ∃ tokens, Arguments tokens texts ∧ Reads (lineText line) tokens

theorem ReadsArguments.line {text : String} (htext : ReadsArguments text texts) :
    ReadsLine text texts := by
  obtain ⟨tokens, htokens, hreads⟩ := htext
  refine ⟨tokens, htokens, ?_⟩
  have hline := hreads '\n' [] [] rfl (reads_separator rfl)
  rwa [List.append_nil] at hline

theorem reads_placeholder {tag : String} (htag : '\n' ∉ tag.toList) :
    Reads (lineText (Setting.placeholder tag)) [] := by
  have htext : lineText (Setting.placeholder tag) = '#' :: (' ' :: tag.toList) ++ ['\n'] := by
    simp [lineText, Setting.placeholder]
  rw [htext]
  refine reads_comment ?_
  simpa using htag

theorem readsLine_placeholder {tag : String} (htag : '\n' ∉ tag.toList) :
    ReadsLine (Setting.placeholder tag) [] :=
  ⟨[], .nil, reads_placeholder htag⟩

theorem exists_reads_body {body : List String} {textss : List (List String)}
    (hbody : List.Forall₂ ReadsLine body textss) :
    ∃ tokens, Arguments tokens textss.flatten
      ∧ Reads ((body.map ("  " ++ ·)).flatMap lineText) tokens := by
  induction hbody with
  | nil => exact ⟨[], .nil, reads_nil⟩
  | cons hline _ ih =>
      obtain ⟨tokens, htokens, hreads⟩ := hline
      obtain ⟨others, hothers, hreads'⟩ := ih
      refine ⟨tokens ++ others, htokens.append hothers, ?_⟩
      rw [List.map_cons, List.flatMap_cons]
      refine Reads.append ?_ hreads'
      have hspace : Reads [' '] [] := reads_separator rfl
      have hindented := hspace.append (hspace.append hreads)
      simpa [lineText] using hindented

theorem forall₂_map_map {α β γ : Type} {R : β → γ → Prop} {f : α → β} {g : α → γ} {items : List α}
    (hitems : ∀ item ∈ items, R (f item) (g item)) :
    List.Forall₂ R (items.map f) (items.map g) := by
  rw [List.forall₂_map_left_iff, List.forall₂_map_right_iff, List.forall₂_same]
  exact hitems

theorem flatten_map_singleton {α : Type} (items : List α) : (items.map ([·])).flatten = items := by
  rw [← List.flatMap_def, List.flatMap_singleton']

/-! ### Calls -/

/-- Lines are read as calls, whatever comes after them. -/
def ReadsCommands (lines : List String) (commands : List Command) : Prop :=
  ∃ tokens, Reads (lines.flatMap lineText) tokens
    ∧ ∀ rest, calls? (tokens ++ rest) = (calls? rest).map (commands ++ ·)

variable {lines moreLines : List String} {commands moreCommands : List Command}

theorem readsCommands_nil : ReadsCommands [] [] := by
  refine ⟨[], reads_nil, fun rest => ?_⟩
  cases hcalls : calls? rest <;> simp [hcalls]

theorem ReadsCommands.append (hlines : ReadsCommands lines commands)
    (hmore : ReadsCommands moreLines moreCommands) :
    ReadsCommands (lines ++ moreLines) (commands ++ moreCommands) := by
  obtain ⟨tokens, hreads, hcalls⟩ := hlines
  obtain ⟨others, hreads', hcalls'⟩ := hmore
  refine ⟨tokens ++ others, ?_, fun rest => ?_⟩
  · rw [List.flatMap_append]
    exact hreads.append hreads'
  · rw [List.append_assoc, hcalls, hcalls']
    cases calls? rest <;> simp

theorem ReadsCommands.flatMap {α : Type} {items : List α} {lines : α → List String}
    {commands : α → List Command}
    (hitems : ∀ item ∈ items, ReadsCommands (lines item) (commands item)) :
    ReadsCommands (items.flatMap lines) (items.flatMap commands) := by
  induction items with
  | nil => exact readsCommands_nil
  | cons item items ih =>
      rw [List.flatMap_cons, List.flatMap_cons]
      refine (hitems item List.mem_cons_self).append (ih fun other hother => ?_)
      exact hitems other (List.mem_cons_of_mem item hother)

theorem ReadsCommands.skip {line : String} (hline : Reads (lineText line) [])
    (hlines : ReadsCommands lines commands) : ReadsCommands (line :: lines) commands := by
  obtain ⟨tokens, hreads, hcalls⟩ := hlines
  refine ⟨tokens, ?_, hcalls⟩
  rw [List.flatMap_cons]
  exact hline.append hreads

theorem ReadsCommands.blank (hlines : ReadsCommands lines commands) :
    ReadsCommands ("" :: lines) commands :=
  hlines.skip (reads_separator rfl)

theorem readsCommands_of_call {name : String} (htokens : Arguments tokens texts)
    (hlines : Reads (lines.flatMap lineText) (.word name :: .opening :: (tokens ++ [.closing]))) :
    ReadsCommands lines [⟨name, texts⟩] := by
  refine ⟨_, hlines, fun rest => ?_⟩
  rw [List.cons_append, List.cons_append, List.append_assoc, List.singleton_append,
    calls?_call htokens]
  rfl

/-- A name and the arguments in its line, up to a character from which the call is completed. -/
theorem exists_reads_call {name text : String} {c : Char} {more : List Char} (hname : IsWord name)
    (htext : ReadsArguments text texts) (hc : isPlain c = false)
    (hothers : Arguments others moreTexts) (hmore : Reads (c :: more) (others ++ [.closing])) :
    ∃ tokens, Arguments tokens (texts ++ moreTexts)
      ∧ Reads (name.toList ++ '(' :: (text.toList ++ c :: more))
        (.word name :: .opening :: (tokens ++ [.closing])) := by
  obtain ⟨tokens, htokens, hreads⟩ := htext
  refine ⟨tokens ++ others, htokens.append hothers, ?_⟩
  have hline := hreads c more _ hc hmore
  rw [List.append_assoc]
  exact reads_word hname (by decide) (reads_opening.append hline)

theorem ReadsCommands.call {line name text : String} (hline : line = name ++ "(" ++ text ++ ")")
    (hname : IsWord name) (htext : ReadsArguments text texts)
    (hlines : ReadsCommands lines commands) :
    ReadsCommands (line :: lines) (⟨name, texts⟩ :: commands) := by
  have hclosing : Reads [')', '\n'] [.closing] := reads_closing.append (reads_separator rfl)
  obtain ⟨tokens, htokens, hreads⟩ := exists_reads_call hname htext (by decide) .nil hclosing
  rw [List.append_nil] at htokens
  have hchars : [line].flatMap lineText = name.toList ++ '(' :: (text.toList ++ [')', '\n']) := by
    simp [lineText, hline]
  rw [← hchars] at hreads
  exact (readsCommands_of_call htokens hreads).append hlines

/-- Indenting a line does not change what is read. -/
theorem ReadsCommands.indent {line : String} (hlines : ReadsCommands (line :: lines) commands) :
    ReadsCommands (("  " ++ line) :: lines) commands := by
  obtain ⟨tokens, hreads, hcalls⟩ := hlines
  refine ⟨tokens, ?_, hcalls⟩
  have hspace : Reads [' '] [] := reads_separator rfl
  have hindented := hspace.append (hspace.append hreads)
  simpa [lineText] using hindented

/-! ### Blocks -/

def ReadsBlock (block : Block) (command : Command) : Prop := ReadsCommands block.call [command]

variable {block : Block} {name : String} {textss : List (List String)}

theorem readsBlock_of_opening {text : String} (hopening : block.opening = name ++ "(" ++ text)
    (hname : IsWord name) (htext : ReadsArguments text texts)
    (hbody : List.Forall₂ ReadsLine block.body textss) :
    ReadsBlock block ⟨name, texts ++ textss.flatten⟩ := by
  obtain ⟨others, hothers, hreads⟩ := exists_reads_body hbody
  have hclosing : Reads [')', '\n'] [.closing] := reads_closing.append (reads_separator rfl)
  have hmore := (reads_separator (c := '\n') rfl).append (hreads.append hclosing)
  obtain ⟨tokens, htokens, hcall⟩ := exists_reads_call hname htext (by decide) hothers hmore
  refine readsCommands_of_call htokens ?_
  have hlines : block.call.flatMap lineText
      = name.toList ++ '(' :: (text.toList
        ++ '\n' :: ((block.body.map ("  " ++ ·)).flatMap lineText ++ [')', '\n'])) := by
    simp [Block.call, hopening, lineText]
  rw [hlines]
  exact hcall

/-- A block whose arguments begin below the opening line. -/
theorem readsBlock_of_body (hopening : block.opening = name ++ "(") (hname : IsWord name)
    (hbody : List.Forall₂ ReadsLine block.body textss) :
    ReadsBlock block ⟨name, textss.flatten⟩ := by
  rw [← String.append_empty (s := name ++ "(")] at hopening
  exact readsBlock_of_opening hopening hname readsArguments_empty hbody

variable {blocks : List Block}

theorem readsCommands_linesTogether (hblocks : List.Forall₂ ReadsBlock blocks commands) :
    ReadsCommands (Block.linesTogether blocks) commands := by
  rw [Block.linesTogether]
  induction hblocks with
  | nil => exact readsCommands_nil.blank
  | cons hblock _ ih =>
      rw [List.flatMap_cons, List.append_assoc]
      exact ReadsCommands.append hblock ih

theorem forall₂_flatMap_flatMap {α β γ : Type} {R : β → γ → Prop} {f : α → List β}
    {g : α → List γ} {items : List α} (hitems : ∀ item ∈ items, List.Forall₂ R (f item) (g item)) :
    List.Forall₂ R (items.flatMap f) (items.flatMap g) := by
  induction items with
  | nil => exact .nil
  | cons item items ih =>
      rw [List.flatMap_cons, List.flatMap_cons]
      refine List.rel_append (hitems item List.mem_cons_self) (ih fun other hother => ?_)
      exact hitems other (List.mem_cons_of_mem item hother)

theorem readsCommands_lines (hblocks : List.Forall₂ ReadsBlock blocks commands) :
    ReadsCommands (blocks.flatMap Block.lines) commands := by
  induction hblocks with
  | nil => exact readsCommands_nil
  | cons hblock _ ih =>
      have hlines := readsCommands_linesTogether (.cons hblock .nil)
      rw [List.flatMap_cons]
      exact hlines.append ih

/-! ### Whole scripts -/

theorem toList_join_lines (hlines : lines ≠ []) :
    (Text.join "\n" lines ++ "\n").toList = lines.flatMap lineText := by
  induction lines with
  | nil => exact absurd rfl hlines
  | cons line lines ih =>
      by_cases hnil : lines = []
      · simp [hnil, Text.join, lineText]
      · have htail := ih hnil
        rw [Text.join] at htail ⊢
        rw [String.intercalate_cons_of_ne_nil hnil, String.append_assoc, String.toList_append,
          htail]
        simp [lineText]

/-- Lines that are read as calls, whatever comes after them, are read as these calls if nothing
does. -/
theorem ReadsCommands.commands?_eq (hlines : ReadsCommands lines commands) (hne : lines ≠ []) :
    commands? (Text.join "\n" lines ++ "\n") = some commands := by
  obtain ⟨tokens, hreads, hcalls⟩ := hlines
  have htokens := hreads []
  have hcommands := hcalls []
  rw [List.append_nil, tokens?, Option.map_some, List.append_nil] at htokens
  rw [List.append_nil, calls?, Option.map_some, List.append_nil] at hcommands
  rw [commands?, toList_join_lines hne, htokens, Option.bind_some, hcommands]

end JuceBuild.Script
