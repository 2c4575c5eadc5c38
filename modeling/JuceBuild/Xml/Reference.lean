import JuceBuild.Xml.Name

/-!
# References and values

A reference stands for a character by its code point, or for an entity by its name. Five entities
stand for a character in every document. A value is text with references; white space in it counts
as blanks, a carriage return and a line feed together as one.
-/

namespace JuceBuild.Xml

/-- What a value is made of. -/
inductive Piece where
  | char (c : Char)
  | entity (name : String)
  deriving DecidableEq, Repr

/-- The entities that every document has. -/
def predefined? (name : String) : Option Char :=
  [("lt", '<'), ("gt", '>'), ("amp", '&'), ("quot", '"'), ("apos", '\'')].lookup name

def hexValue (c : Char) : Nat :=
  if c.isDigit then c.toNat - '0'.toNat
  else if 'a' ≤ c ∧ c ≤ 'f' then c.toNat - 'a'.toNat + 10
  else c.toNat - 'A'.toNat + 10

def isHexDigit (c : Char) : Bool := c.isDigit || ('a' ≤ c && c ≤ 'f') || ('A' ≤ c && c ≤ 'F')

def numberOf (base : Nat) (digits : List Char) : Nat :=
  digits.foldl (fun n digit => n * base + hexValue digit) 0

/-- A run of digits of a base, and the semicolon after it, as a character. -/
def codeReference? (base : Nat) (isDigit : Char → Bool) (text : List Char) :
    Option (Char × List Char) :=
  match text.takeWhile isDigit, text.dropWhile isDigit with
  | [], _ => none
  | digits, ';' :: rest => (charOfCode? (numberOf base digits)).map (·, rest)
  | _, _ => none

def reference? (alphabet : Alphabet) (text : List Char) : Option (Piece × List Char) :=
  match text with
  | '#' :: 'x' :: rest => (codeReference? 16 isHexDigit rest).map fun (c, rest) => (.char c, rest)
  | '#' :: rest => (codeReference? 10 Char.isDigit rest).map fun (c, rest) => (.char c, rest)
  | _ =>
    match alphabet.name? text with
    | some (name, ';' :: rest) => some (.entity (String.ofList name), rest)
    | _ => none

theorem codeReference?_length_lt {base : Nat} {isDigit : Char → Bool} {text rest : List Char}
    {c : Char} (h : codeReference? base isDigit text = some (c, rest)) :
    rest.length < text.length := by
  unfold codeReference? at h
  split at h
  · cases h
  · rename_i hrest _
    obtain ⟨c, -, heq⟩ := Option.map_eq_some_iff.mp h
    cases heq
    have hle := (List.dropWhile_sublist (l := text) isDigit).length_le
    rw [hrest, List.length_cons] at hle
    omega
  · cases h

theorem reference?_length_lt {alphabet : Alphabet} {text rest : List Char} {piece : Piece}
    (h : reference? alphabet text = some (piece, rest)) : rest.length < text.length := by
  unfold reference? at h
  split at h
  · obtain ⟨⟨c, tail⟩, hcode, heq⟩ := Option.map_eq_some_iff.mp h
    cases heq
    have := codeReference?_length_lt hcode
    simp only [List.length_cons]
    omega
  · obtain ⟨⟨c, tail⟩, hcode, heq⟩ := Option.map_eq_some_iff.mp h
    cases heq
    have := codeReference?_length_lt hcode
    simp only [List.length_cons]
    omega
  · split at h
    · rename_i hname
      have := Alphabet.name?_length_lt hname
      simp only [List.length_cons] at this
      cases h
      omega
    · cases h

/-- The pieces of a value. A less-than sign has no place in one. -/
def valuePieces? (alphabet : Alphabet) : List Char → Option (List Piece)
  | [] => some []
  | '<' :: _ => none
  | '&' :: rest =>
    match _h : reference? alphabet rest with
    | none => none
    | some (piece, tail) => (valuePieces? alphabet tail).map (piece :: ·)
  | '\r' :: '\n' :: rest => (valuePieces? alphabet rest).map (.char ' ' :: ·)
  | c :: rest =>
    (valuePieces? alphabet rest).map (.char (if isSpace c then ' ' else c) :: ·)
termination_by text => text.length
decreasing_by
  · have := reference?_length_lt _h
    simp only [List.length_cons]
    omega
  all_goals simp only [List.length_cons]; omega

end JuceBuild.Xml
