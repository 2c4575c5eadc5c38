/-!
# Characters of a document

A document may hold any character except the controls other than tab, line feed and carriage
return, and the two code points at the end of the basic plane that are no characters.
-/

namespace JuceBuild.Xml

/-- A character that a document may hold. -/
def isXmlChar (c : Char) : Bool :=
  if c.toNat < 0x20 then c = '\t' || c = '\n' || c = '\r'
  else c.toNat ≠ 0xFFFE && c.toNat ≠ 0xFFFF

/-- White space between the parts of markup. -/
def isSpace (c : Char) : Bool := c = ' ' || c = '\t' || c = '\n' || c = '\r'

/-- The text after its leading white space. -/
def skipSpace (text : List Char) : List Char := text.dropWhile isSpace

theorem skipSpace_length_le (text : List Char) : (skipSpace text).length ≤ text.length :=
  (List.dropWhile_sublist _).length_le

/-- The text after a fixed beginning. -/
def dropStart? (start : List Char) (text : List Char) : Option (List Char) :=
  if start.isPrefixOf text then some (text.drop start.length) else none

/-- A character written by its code point, if a document may hold it. -/
def charOfCode? (code : Nat) : Option Char :=
  if h : code.isValidChar then
    let c := Char.ofNatAux code h
    if isXmlChar c then some c else none
  else none

end JuceBuild.Xml
