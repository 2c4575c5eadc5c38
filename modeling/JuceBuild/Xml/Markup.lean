import JuceBuild.Xml.Reference

/-!
# Markup

The content of a document as it is written: tags, references to entities, and text. Comments and
processing instructions have to be well formed and leave no trace; of text only its presence is
kept, and white space not even that.
-/

namespace JuceBuild.Xml

/-- An attribute as written in a tag. -/
structure RawAttribute where
  name : String
  value : List Piece
  deriving DecidableEq, Repr

/-- One item of content. -/
inductive Markup where
  | startTag (name : String) (attributes : List RawAttribute)
  | emptyTag (name : String) (attributes : List RawAttribute)
  | endTag (name : String)
  | entity (name : String)
  | text
  deriving DecidableEq, Repr

def Markup.entityNames (items : List Markup) : List String :=
  items.filterMap fun item =>
    match item with
    | .entity name => some name
    | _ => none

/-- What comes after a comment, from behind its opening. Two hyphens end it. -/
def afterComment? : List Char → Option (List Char)
  | '-' :: '-' :: '>' :: rest => some rest
  | '-' :: '-' :: _ => none
  | _ :: rest => afterComment? rest
  | [] => none

def afterQuestionMark? : List Char → Option (List Char)
  | '?' :: '>' :: rest => some rest
  | _ :: rest => afterQuestionMark? rest
  | [] => none

def afterSection? : List Char → Option (List Char)
  | ']' :: ']' :: '>' :: rest => some rest
  | _ :: rest => afterSection? rest
  | [] => none

/-- What comes after a processing instruction, from behind its opening. The target `xml` in any
case is reserved for the declaration at the start of a document. -/
def afterInstruction? (alphabet : Alphabet) (text : List Char) : Option (List Char) :=
  match alphabet.name? text with
  | none => none
  | some (target, rest) =>
    if (String.ofList target).toLower = "xml" then none
    else
      match rest with
      | '?' :: '>' :: rest => some rest
      | c :: rest => if isSpace c then afterQuestionMark? rest else none
      | [] => none

/-- A value between single or double quotes. -/
def quotedText? : List Char → Option (List Char × List Char)
  | [] => none
  | quote :: text =>
    if quote = '"' ∨ quote = '\'' then
      match text.dropWhile (· ≠ quote) with
      | [] => none
      | _ :: rest => some (text.takeWhile (· ≠ quote), rest)
    else none

def attribute? (alphabet : Alphabet) (text : List Char) : Option (RawAttribute × List Char) :=
  match alphabet.qualifiedName? text with
  | none => none
  | some (name, rest) =>
    match skipSpace rest with
    | '=' :: rest =>
      match quotedText? (skipSpace rest) with
      | none => none
      | some (value, rest) =>
        (valuePieces? alphabet value).map fun value => (⟨String.ofList name, value⟩, rest)
    | _ => none

theorem quotedText?_length_lt {text value rest : List Char}
    (h : quotedText? text = some (value, rest)) : rest.length < text.length := by
  unfold quotedText? at h
  split at h
  · cases h
  · rename_i quote text
    split at h
    · split at h
      · cases h
      · rename_i hrest
        cases h
        have hle := (List.dropWhile_sublist (l := text) (· ≠ quote)).length_le
        rw [hrest] at hle
        simp only [List.length_cons] at hle ⊢
        omega
    · cases h

theorem attribute?_length_lt {alphabet : Alphabet} {text rest : List Char}
    {first : RawAttribute} (h : attribute? alphabet text = some (first, rest)) :
    rest.length < text.length := by
  unfold attribute? at h
  split at h
  · cases h
  · rename_i afterName hname
    have hname := Alphabet.qualifiedName?_length_lt hname
    split at h
    · rename_i afterEquals hequals
      have hle := skipSpace_length_le afterName
      rw [hequals, List.length_cons] at hle
      split at h
      · cases h
      · rename_i hvalue
        have hlt := quotedText?_length_lt hvalue
        have hle' := skipSpace_length_le afterEquals
        obtain ⟨_, -, heq⟩ := Option.map_eq_some_iff.mp h
        cases heq
        omega
    · cases h

/-- The end of a tag, and whether it closes the element at once. -/
def tagEnd? : List Char → Option (Bool × List Char)
  | '>' :: rest => some (false, rest)
  | '/' :: '>' :: rest => some (true, rest)
  | _ => none

/-- The attributes of a tag and its end, from behind its name. White space has to stand before each
attribute. -/
def tagRest? (alphabet : Alphabet) (text : List Char) :
    Option (List RawAttribute × Bool × List Char) :=
  match tagEnd? (skipSpace text) with
  | some (empty, rest) => some ([], empty, rest)
  | none =>
    if text.head?.any isSpace then
      match _h : attribute? alphabet (skipSpace text) with
      | none => none
      | some (first, rest) =>
        (tagRest? alphabet rest).map fun (more, empty, rest) => (first :: more, empty, rest)
    else none
termination_by text.length
decreasing_by
  have := attribute?_length_lt _h
  have := skipSpace_length_le text
  omega

/-- The start tag or empty-element tag that a text begins with, from behind its opening. -/
def startTag? (alphabet : Alphabet) (text : List Char) : Option (Markup × List Char) :=
  match alphabet.qualifiedName? text with
  | none => none
  | some (name, rest) =>
    (tagRest? alphabet rest).map fun (attributes, empty, rest) =>
      let name := String.ofList name
      (if empty then .emptyTag name attributes else .startTag name attributes, rest)

def endTag? (alphabet : Alphabet) (text : List Char) : Option (Markup × List Char) :=
  match alphabet.qualifiedName? text with
  | none => none
  | some (name, rest) =>
    match skipSpace rest with
    | '>' :: rest => some (.endTag (String.ofList name), rest)
    | _ => none

/-- The markup that a text begins with, none for what leaves no trace, from behind a less-than
sign. -/
def afterLessThan? (alphabet : Alphabet) : List Char → Option (Option Markup × List Char)
  | '!' :: '-' :: '-' :: rest => (afterComment? rest).map (none, ·)
  | '!' :: '[' :: 'C' :: 'D' :: 'A' :: 'T' :: 'A' :: '[' :: rest =>
    (afterSection? rest).map (some .text, ·)
  | '?' :: rest => (afterInstruction? alphabet rest).map (none, ·)
  | '/' :: rest => (endTag? alphabet rest).map fun (tag, rest) => (some tag, rest)
  | text => (startTag? alphabet text).map fun (tag, rest) => (some tag, rest)

/-- The item of content that a text begins with, none for what leaves no trace. -/
def contentItem? (alphabet : Alphabet) : List Char → Option (Option Markup × List Char)
  | [] => none
  | '<' :: rest => afterLessThan? alphabet rest
  | '&' :: rest => (reference? alphabet rest).map fun (piece, rest) =>
    match piece with
    | .char _ => (some .text, rest)
    | .entity name => (some (.entity name), rest)
  | ']' :: ']' :: '>' :: _ => none
  | c :: rest => some (if isSpace c then none else some .text, rest)

theorem afterComment?_length_lt {text rest : List Char} (h : afterComment? text = some rest) :
    rest.length < text.length := by
  fun_induction afterComment? text with
  | case1 => cases h; simp only [List.length_cons]; omega
  | case2 => cases h
  | case3 _ _ _ _ ih => exact Nat.lt_succ_of_lt (ih h)
  | case4 => cases h

theorem afterQuestionMark?_length_lt {text rest : List Char}
    (h : afterQuestionMark? text = some rest) : rest.length < text.length := by
  fun_induction afterQuestionMark? text with
  | case1 => cases h; simp only [List.length_cons]; omega
  | case2 _ _ _ ih => exact Nat.lt_succ_of_lt (ih h)
  | case3 => cases h

theorem afterSection?_length_lt {text rest : List Char} (h : afterSection? text = some rest) :
    rest.length < text.length := by
  fun_induction afterSection? text with
  | case1 => cases h; simp only [List.length_cons]; omega
  | case2 _ _ _ ih => exact Nat.lt_succ_of_lt (ih h)
  | case3 => cases h

theorem afterInstruction?_length_lt {alphabet : Alphabet} {text rest : List Char}
    (h : afterInstruction? alphabet text = some rest) : rest.length < text.length := by
  unfold afterInstruction? at h
  split at h
  · cases h
  · rename_i hname
    have hname := Alphabet.name?_length_lt hname
    split at h
    · cases h
    · split at h
      · cases h
        simp only [List.length_cons] at hname
        omega
      · split at h
        · have := afterQuestionMark?_length_lt h
          simp only [List.length_cons] at hname
          omega
        · cases h
      · cases h

theorem tagEnd?_length_lt {text rest : List Char} {empty : Bool}
    (h : tagEnd? text = some (empty, rest)) : rest.length < text.length := by
  unfold tagEnd? at h
  split at h <;> cases h <;> simp only [List.length_cons] <;> omega

theorem tagRest?_length_lt {alphabet : Alphabet} {text rest : List Char}
    {attributes : List RawAttribute} {empty : Bool}
    (h : tagRest? alphabet text = some (attributes, empty, rest)) : rest.length < text.length := by
  fun_induction tagRest? alphabet text generalizing attributes empty rest with
  | case1 text _ _ hend =>
    cases h
    exact Nat.lt_of_lt_of_le (tagEnd?_length_lt hend) (skipSpace_length_le text)
  | case2 => cases h
  | case3 text _ _ _ _ hattribute ih =>
    obtain ⟨⟨more, empty', tail⟩, hrest, heq⟩ := Option.map_eq_some_iff.mp h
    cases heq
    have := ih hrest
    have := attribute?_length_lt hattribute
    have := skipSpace_length_le text
    omega
  | case4 => cases h

theorem startTag?_length_lt {alphabet : Alphabet} {text rest : List Char} {tag : Markup}
    (h : startTag? alphabet text = some (tag, rest)) : rest.length < text.length := by
  unfold startTag? at h
  split at h
  · cases h
  · rename_i hname
    have := Alphabet.qualifiedName?_length_lt hname
    obtain ⟨⟨attributes, empty, tail⟩, hrest, heq⟩ := Option.map_eq_some_iff.mp h
    cases heq
    have := tagRest?_length_lt hrest
    omega

theorem endTag?_length_lt {alphabet : Alphabet} {text rest : List Char} {tag : Markup}
    (h : endTag? alphabet text = some (tag, rest)) : rest.length < text.length := by
  unfold endTag? at h
  split at h
  · cases h
  · rename_i afterName hname
    have := Alphabet.qualifiedName?_length_lt hname
    split at h
    · rename_i hend
      have hle := skipSpace_length_le afterName
      rw [hend, List.length_cons] at hle
      cases h
      omega
    · cases h

theorem afterLessThan?_length_lt {alphabet : Alphabet} {text rest : List Char}
    {item : Option Markup} (h : afterLessThan? alphabet text = some (item, rest)) :
    rest.length < text.length := by
  unfold afterLessThan? at h
  split at h <;> obtain ⟨_, hpart, heq⟩ := Option.map_eq_some_iff.mp h <;> cases heq
  · have := afterComment?_length_lt hpart
    simp only [List.length_cons]
    omega
  · have := afterSection?_length_lt hpart
    simp only [List.length_cons]
    omega
  · have := afterInstruction?_length_lt hpart
    simp only [List.length_cons]
    omega
  · have := endTag?_length_lt hpart
    simp only [List.length_cons]
    omega
  · exact startTag?_length_lt hpart

theorem contentItem?_length_lt {alphabet : Alphabet} {text rest : List Char}
    {item : Option Markup} (h : contentItem? alphabet text = some (item, rest)) :
    rest.length < text.length := by
  unfold contentItem? at h
  split at h
  · cases h
  · exact Nat.lt_succ_of_lt (afterLessThan?_length_lt h)
  · obtain ⟨⟨piece, tail⟩, hpiece, heq⟩ := Option.map_eq_some_iff.mp h
    have := reference?_length_lt hpiece
    cases piece <;> cases heq <;> simp only [List.length_cons] <;> omega
  · cases h
  · cases h
    simp

/-- The items of content that a text is made of. -/
def content? (alphabet : Alphabet) (text : List Char) : Option (List Markup) :=
  if text.isEmpty then some []
  else
    match _h : contentItem? alphabet text with
    | none => none
    | some (item, rest) => (content? alphabet rest).map (item.toList ++ ·)
termination_by text.length
decreasing_by exact contentItem?_length_lt _h

end JuceBuild.Xml
