/-!
# Identifiers

A text turned into a variable name by putting a low line for every character that is neither an
ASCII letter nor an ASCII digit.
-/

namespace JuceBuild.Text

/-- The character itself if it is an ASCII letter or digit, else a low line. -/
def identifierChar (c : Char) : Char := if c.isAlphanum then c else '_'

def identifier (value : String) : String := String.ofList (value.toList.map identifierChar)

end JuceBuild.Text
