/-!
# Lines of a text

Carriage returns, alone or before a line feed, are line feeds first; then a text is cut after every
line boundary. A text that ends with a boundary has no empty line after it.
-/

namespace JuceBuild.Text

/-- Every line end, of whatever convention, as one line feed. -/
def normalizeNewlines : List Char → List Char
  | '\r' :: '\n' :: rest => '\n' :: normalizeNewlines rest
  | '\r' :: rest => '\n' :: normalizeNewlines rest
  | c :: rest => c :: normalizeNewlines rest
  | [] => []

def isLineBoundary (c : Char) : Bool :=
  c ∈ ['\n', '\x0b', '\x0c', '\r', '\x1c', '\x1d', '\x1e', '\u0085', '\u2028', '\u2029']

/-- The lines of a text without their boundaries. -/
def lines : List Char → List (List Char)
  | [] => []
  | c :: rest =>
    if isLineBoundary c then [] :: lines rest
    else
      match lines rest with
      | [] => [[c]]
      | line :: more => (c :: line) :: more

end JuceBuild.Text
