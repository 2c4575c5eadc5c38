import JuceBuild.Xml.Encoding

/-!
# The declaration at the start of a document

A document may start with a declaration of its version, its encoding and whether it stands alone,
in this order. It is written in ASCII characters whatever the encoding.
-/

namespace JuceBuild.Xml

/-- What a document declares about itself. -/
structure XmlDeclaration where
  encoding? : Option String
  isStandalone : Bool
  deriving DecidableEq, Repr

namespace XmlDeclaration

def isValueChar (c : Char) : Bool := c.isAlphanum || c = '.' || c = '_' || c = '-'

/-- The setting that a text begins with, after white space: a name, an equals sign, and a value
between quotes. -/
def setting? (name : String) (text : List Char) : Option (String × List Char) :=
  if !text.head?.any isSpace then none
  else
    match dropStart? name.toList (skipSpace text) with
    | none => none
    | some rest =>
      match skipSpace rest with
      | '=' :: rest =>
        match skipSpace rest with
        | quote :: rest =>
          let value := rest.takeWhile isValueChar
          if (quote = '"' ∨ quote = '\'') ∧ (rest.dropWhile isValueChar).head? = some quote then
            some (String.ofList value, (rest.dropWhile isValueChar).drop 1)
          else none
        | [] => none
      | _ => none

/-- The declaration that a text begins with, from behind its opening. -/
def read? (text : List Char) : Option (XmlDeclaration × List Char) :=
  match setting? "version" text with
  | none => none
  | some (_, rest) =>
    let (encoding?, rest) :=
      match setting? "encoding" rest with
      | some (name, rest) => (some name, rest)
      | none => (none, rest)
    let (standalone?, rest) :=
      match setting? "standalone" rest with
      | some (answer, rest) => (some answer, rest)
      | none => (none, rest)
    if encoding?.any fun name => !name.toList.head?.any Char.isAlpha then none
    else if standalone?.any fun answer => answer ≠ "yes" && answer ≠ "no" then none
    else
      match skipSpace rest with
      | '?' :: '>' :: rest => some (⟨encoding?, standalone? = some "yes"⟩, rest)
      | _ => none

end XmlDeclaration

end JuceBuild.Xml
