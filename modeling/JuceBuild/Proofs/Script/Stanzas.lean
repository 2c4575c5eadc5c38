import JuceBuild.Script.Block

/-!
# Scripts line by line

The calls of a script can be told apart by how their lines begin. A call opens with a line that is
not indented, goes on with indented lines and ends with a closing parenthesis; an empty line ends
the calls that stand together. Nothing in the lines is looked at but their beginnings, so whatever
texts a project puts into them, quotes, parentheses and newlines included, its calls stay apart.
-/

namespace JuceBuild.Script

/-- A line without the two blanks that it is indented by. -/
def unindent? (line : String) : Option String :=
  match line.toList with
  | ' ' :: ' ' :: rest => some (String.ofList rest)
  | _ => none

/-- A line that a call can open with. -/
def Opens (line : String) : Prop := line ≠ "" ∧ line ≠ ")" ∧ line.toList.head? ≠ some ' '

instance (line : String) : Decidable (Opens line) :=
  inferInstanceAs (Decidable (_ ∧ _ ∧ _))

/-- Reads on behind some calls of a stanza, inside a call if one is open. -/
def stanzasFrom? : List Block → Option Block → List String → Option (List (List Block))
  | [], none, [] => some []
  | _, _, [] => none
  | together, none, line :: lines =>
    if line = "" then
      if together = [] then none else (stanzasFrom? [] none lines).map (together :: ·)
    else if Opens line then stanzasFrom? together (some ⟨line, []⟩) lines
    else none
  | together, some block, line :: lines =>
    if line = ")" then stanzasFrom? (together ++ [block]) none lines
    else
      match unindent? line with
      | none => none
      | some inner => stanzasFrom? together (some ⟨block.opening, block.body ++ [inner]⟩) lines

/-- The calls of lines, those that stand together in one list. -/
def stanzas? (lines : List String) : Option (List (List Block)) := stanzasFrom? [] none lines

theorem unindent?_append (line : String) : unindent? ("  " ++ line) = some line := by
  have hchars : ("  " ++ line).toList = ' ' :: ' ' :: line.toList := by simp
  rw [unindent?, hchars]
  simp

theorem opens_append {start : String} (hstart : Opens start) (more : String) :
    Opens (start ++ more) := by
  obtain ⟨hempty, hclosing, hblank⟩ := hstart
  obtain ⟨c, rest, hchars⟩ : ∃ c rest, start.toList = c :: rest := by
    refine List.exists_cons_of_ne_nil fun hnil => hempty ?_
    exact String.toList_injective hnil
  have happend : (start ++ more).toList = c :: (rest ++ more.toList) := by simp [hchars]
  refine ⟨?_, ?_, ?_⟩
  · intro hnil
    rw [hnil] at happend
    cases happend
  · intro hparenthesis
    rw [hparenthesis] at happend
    have hline : [')'] = c :: (rest ++ more.toList) := happend
    simp only [List.cons.injEq, List.nil_eq, List.append_eq_nil_iff] at hline
    refine hclosing (String.toList_injective ?_)
    rw [hchars, ← hline.1, hline.2.1]
    rfl
  · rw [hchars, List.head?_cons] at hblank
    rw [happend, List.head?_cons]
    exact hblank

theorem stanzasFrom?_body (together : List Block) (opening : String) (before body : List String)
    (lines : List String) :
    stanzasFrom? together (some ⟨opening, before⟩) (body.map ("  " ++ ·) ++ ")" :: lines)
      = stanzasFrom? (together ++ [⟨opening, before ++ body⟩]) none lines := by
  induction body generalizing before with
  | nil => rw [List.map_nil, List.nil_append, stanzasFrom?, if_pos rfl, List.append_nil]
  | cons line body ih =>
      have hclosing : "  " ++ line ≠ ")" := by
        intro hline
        have hunindent := unindent?_append line
        rw [hline] at hunindent
        cases hunindent
      rw [List.map_cons, List.cons_append, stanzasFrom?, if_neg hclosing, unindent?_append]
      dsimp only
      rw [ih, List.append_assoc, List.singleton_append]

theorem stanzasFrom?_call {block : Block} (hopening : Opens block.opening) (together : List Block)
    (lines : List String) :
    stanzasFrom? together none (block.call ++ lines)
      = stanzasFrom? (together ++ [block]) none lines := by
  have hcall : block.call ++ lines
      = block.opening :: (block.body.map ("  " ++ ·) ++ ")" :: lines) := by
    simp [Block.call]
  rw [hcall, stanzasFrom?, if_neg hopening.1, if_pos hopening, stanzasFrom?_body, List.nil_append]

theorem stanzasFrom?_calls {blocks : List Block} (hblocks : ∀ block ∈ blocks, Opens block.opening)
    (together : List Block) (lines : List String) :
    stanzasFrom? together none (blocks.flatMap Block.call ++ lines)
      = stanzasFrom? (together ++ blocks) none lines := by
  induction blocks generalizing together with
  | nil => rw [List.flatMap_nil, List.nil_append, List.append_nil]
  | cons block blocks ih =>
      obtain ⟨hblock, hblocks⟩ := List.forall_mem_cons.mp hblocks
      rw [List.flatMap_cons, List.append_assoc, stanzasFrom?_call hblock, ih hblocks,
        List.append_assoc, List.singleton_append]

/-- Calls that stand together and can be told from each other. -/
def IsStanza (blocks : List Block) : Prop :=
  blocks ≠ [] ∧ ∀ block ∈ blocks, Opens block.opening

theorem isStanza_singleton {block : Block} (hopening : Opens block.opening) : IsStanza [block] :=
  ⟨List.cons_ne_nil _ _, List.forall_mem_singleton.mpr hopening⟩

theorem stanzas?_linesTogether_append {blocks : List Block} (hblocks : IsStanza blocks)
    (lines : List String) :
    stanzas? (Block.linesTogether blocks ++ lines) = (stanzas? lines).map (blocks :: ·) := by
  rw [Block.linesTogether, List.append_assoc, stanzas?, stanzasFrom?_calls hblocks.2,
    List.nil_append, List.singleton_append, stanzasFrom?, if_pos rfl, if_neg hblocks.1, stanzas?]

/-- **Calls stay apart.** Whatever their lines say, calls are found again by reading line by line.
-/
theorem stanzas?_flatMap_linesTogether {stanzas : List (List Block)}
    (hstanzas : ∀ stanza ∈ stanzas, IsStanza stanza) :
    stanzas? (stanzas.flatMap Block.linesTogether) = some stanzas := by
  induction stanzas with
  | nil => rfl
  | cons stanza stanzas ih =>
      obtain ⟨hstanza, hstanzas⟩ := List.forall_mem_cons.mp hstanzas
      rw [List.flatMap_cons, stanzas?_linesTogether_append hstanza, ih hstanzas, Option.map_some]

end JuceBuild.Script
