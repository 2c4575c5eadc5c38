import JuceBuild.Xml.Markup

/-!
# Tokens of a document type

A document type declaration is read as a list of tokens first. White space between tokens is
dropped, and what may follow a token directly is part of its own rule.
-/

namespace JuceBuild.Xml

/-- How a run of name characters is used. -/
inductive WordKind where
  | name
  | qualified
  | nameToken
  deriving DecidableEq, Repr

/-- A token of a document type declaration. -/
inductive DoctypeToken where
  | word (kind : WordKind) (text : String)
  | repeated (text : String)
  | keyword (text : String)
  | literal (text : List Char)
  | declaration (keyword : String)
  | declarationEnd
  | openBracket
  | closeBracket
  | openParen
  | closeParen
  | closeParenRepeated (mark : Char)
  | comma
  | bar
  | percent
  | parameterEntity
  | comment
  deriving DecidableEq, Repr

namespace DoctypeToken

/-- How a run of name characters and colons is used: as a name if it begins like one and has no
colon, as a qualified name if it has one colon with a character after it. -/
def wordKind (alphabet : Alphabet) (word : List Char) : WordKind :=
  if word.head?.any alphabet.isNameStart then
    match word.dropWhile (· ≠ ':') with
    | [] => .name
    | _ :: tail => if tail ≠ [] ∧ ':' ∉ tail then .qualified else .nameToken
  else .nameToken

/-- A character that may come directly after a word. -/
def endsWord (c : Char) : Bool := isSpace c || c ∈ ['>', ')', ',', '|', '[', '%']

/-- A mark that says how often something occurs. -/
def isOccurrence (c : Char) : Bool := c = '?' || c = '*' || c = '+'

/-- A word, with the occurrence mark that may follow a name. -/
def word? (alphabet : Alphabet) (text : List Char) : Option (DoctypeToken × List Char) :=
  let isWordChar := fun c => alphabet.isNameChar c || c = ':'
  let word := text.takeWhile isWordChar
  let kind := wordKind alphabet word
  match word, text.dropWhile isWordChar with
  | [], _ => none
  | _ :: _, [] => none
  | _ :: _, c :: rest =>
    if endsWord c then some (.word kind (String.ofList word), c :: rest)
    else if isOccurrence c ∧ kind ≠ .nameToken then some (.repeated (String.ofList word), rest)
    else none

def keyword? (alphabet : Alphabet) (text : List Char) : Option (DoctypeToken × List Char) :=
  match alphabet.name? text with
  | some (name, c :: rest) =>
    if isSpace c || c ∈ ['>', ')', '%', '|'] then
      some (.keyword (String.ofList name), c :: rest)
    else none
  | _ => none

/-- Text between quotes. Only white space, a bracket, a percent sign or the end of the declaration
may come directly after it. -/
def literal? (text : List Char) : Option (DoctypeToken × List Char) :=
  match quotedText? text with
  | some (value, c :: rest) =>
    if isSpace c || c ∈ ['>', '%', '['] then some (.literal value, c :: rest) else none
  | _ => none

/-- What begins with a less-than sign, from behind it. -/
def declaration? (alphabet : Alphabet) (text : List Char) : Option (DoctypeToken × List Char) :=
  match text with
  | '!' :: '-' :: '-' :: rest => (afterComment? rest).map (.comment, ·)
  | '?' :: rest => (afterInstruction? alphabet rest).map (.comment, ·)
  | '!' :: rest =>
    match rest.dropWhile Char.isAlpha with
    | c :: tail =>
      if isSpace c then some (.declaration (String.ofList (rest.takeWhile Char.isAlpha)), c :: tail)
      else none
    | [] => none
  | _ => none

/-- What begins with a percent sign, from behind it: a reference to a parameter entity, or the sign
alone before white space. -/
def percent? (alphabet : Alphabet) (text : List Char) : Option (DoctypeToken × List Char) :=
  match alphabet.name? text with
  | some (_, ';' :: rest) => some (.parameterEntity, rest)
  | some _ => none
  | none => if text.head?.any isSpace then some (.percent, text) else none

def closeParen? : List Char → Option (DoctypeToken × List Char)
  | c :: rest =>
    if isOccurrence c then some (.closeParenRepeated c, rest)
    else if isSpace c || c ∈ ['>', ',', '|', ')'] then some (.closeParen, c :: rest)
    else none
  | [] => none

def next? (alphabet : Alphabet) : List Char → Option (DoctypeToken × List Char)
  | '<' :: rest => declaration? alphabet rest
  | '>' :: rest => some (.declarationEnd, rest)
  | '[' :: rest => some (.openBracket, rest)
  | ']' :: ']' :: '>' :: _ => none
  | ']' :: rest => some (.closeBracket, rest)
  | '(' :: rest => some (.openParen, rest)
  | ')' :: rest => closeParen? rest
  | ',' :: rest => some (.comma, rest)
  | '|' :: rest => some (.bar, rest)
  | '%' :: rest => percent? alphabet rest
  | '#' :: rest => keyword? alphabet rest
  | c :: rest => if c = '"' || c = '\'' then literal? (c :: rest) else word? alphabet (c :: rest)
  | [] => none

theorem word?_length_lt {alphabet : Alphabet} {text rest : List Char} {token : DoctypeToken}
    (h : word? alphabet text = some (token, rest)) : rest.length < text.length := by
  unfold word? at h
  simp only at h
  split at h
  · cases h
  · cases h
  · rename_i c tail hword hrest
    have hsplit := congrArg List.length
      (List.takeWhile_append_dropWhile (p := fun c => alphabet.isNameChar c || decide (c = ':'))
        (l := text))
    rw [List.length_append, hword, hrest] at hsplit
    simp only [List.length_cons] at hsplit
    split at h
    · cases h
      simp only [List.length_cons]
      omega
    · split at h
      · cases h
        omega
      · cases h

theorem keyword?_length_lt {alphabet : Alphabet} {text rest : List Char} {token : DoctypeToken}
    (h : keyword? alphabet text = some (token, rest)) : rest.length < text.length := by
  unfold keyword? at h
  split at h
  · rename_i hname
    split at h
    · cases h
      exact Alphabet.name?_length_lt hname
    · cases h
  · cases h

theorem literal?_length_lt {text rest : List Char} {token : DoctypeToken}
    (h : literal? text = some (token, rest)) : rest.length < text.length := by
  unfold literal? at h
  split at h
  · rename_i htext
    split at h
    · cases h
      exact quotedText?_length_lt htext
    · cases h
  · cases h

theorem declaration?_length_lt {alphabet : Alphabet} {text rest : List Char}
    {token : DoctypeToken} (h : declaration? alphabet text = some (token, rest)) :
    rest.length < text.length := by
  unfold declaration? at h
  split at h
  · obtain ⟨_, hpart, heq⟩ := Option.map_eq_some_iff.mp h
    cases heq
    have := afterComment?_length_lt hpart
    simp only [List.length_cons]
    omega
  · obtain ⟨_, hpart, heq⟩ := Option.map_eq_some_iff.mp h
    cases heq
    have := afterInstruction?_length_lt hpart
    simp only [List.length_cons]
    omega
  · rename_i tail _
    split at h
    · rename_i hrest
      have hle := (List.dropWhile_sublist (l := tail) Char.isAlpha).length_le
      rw [hrest] at hle
      split at h
      · cases h
        exact Nat.lt_succ_of_le hle
      · cases h
    · cases h
  · cases h

theorem percent?_length_le {alphabet : Alphabet} {text rest : List Char} {token : DoctypeToken}
    (h : percent? alphabet text = some (token, rest)) : rest.length ≤ text.length := by
  unfold percent? at h
  split at h
  · rename_i hname
    cases h
    have := Alphabet.name?_length_lt hname
    simp only [List.length_cons] at this
    omega
  · cases h
  · split at h
    · cases h
      exact Nat.le_refl _
    · cases h

theorem closeParen?_length_le {text rest : List Char} {token : DoctypeToken}
    (h : closeParen? text = some (token, rest)) : rest.length ≤ text.length := by
  unfold closeParen? at h
  split at h
  · split at h
    · cases h
      simp
    · split at h
      · cases h
        exact Nat.le_refl _
      · cases h
  · cases h

theorem next?_length_lt {alphabet : Alphabet} {text rest : List Char} {token : DoctypeToken}
    (h : next? alphabet text = some (token, rest)) : rest.length < text.length := by
  unfold next? at h
  split at h
  case h_1 => exact Nat.lt_succ_of_lt (declaration?_length_lt h)
  case h_7 => exact Nat.lt_succ_of_le (closeParen?_length_le h)
  case h_10 => exact Nat.lt_succ_of_le (percent?_length_le h)
  case h_11 => exact Nat.lt_succ_of_lt (keyword?_length_lt h)
  case h_12 =>
    split at h
    · exact literal?_length_lt h
    · exact word?_length_lt h
  all_goals cases h
  all_goals simp

/-- The tokens up to the end of the document type declaration, which is the first end of a
declaration outside the brackets, and the text after it. -/
def upToEnd? (alphabet : Alphabet) (inBrackets : Bool) (text : List Char) :
    Option (List DoctypeToken × List Char) :=
  match _h : next? alphabet (skipSpace text) with
  | none => none
  | some (.declarationEnd, rest) =>
    if inBrackets then
      (upToEnd? alphabet inBrackets rest).map fun (more, rest) => (.declarationEnd :: more, rest)
    else some ([], rest)
  | some (token, rest) =>
    let inside := (inBrackets || token = .openBracket) && token ≠ .closeBracket
    (upToEnd? alphabet inside rest).map fun (more, rest) => (token :: more, rest)
termination_by text.length
decreasing_by
  all_goals
    have := next?_length_lt _h
    have := skipSpace_length_le text
    omega

end DoctypeToken

end JuceBuild.Xml
