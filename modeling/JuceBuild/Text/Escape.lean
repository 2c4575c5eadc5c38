/-!
# Escaped text

Inside a quoted argument a backslash gives the next character its plain meaning. Escaping puts a
backslash before every character of a chosen set; `unescape` reads the result back by dropping each
backslash and keeping what it stands before.
-/

namespace JuceBuild.Text

/-- A backslash before every character of `special`. -/
def escapeChars (special : List Char) : List Char → List Char
  | [] => []
  | c :: rest =>
    if c ∈ special then '\\' :: c :: escapeChars special rest else c :: escapeChars special rest

def escape (special value : String) : String :=
  String.ofList (escapeChars special.toList value.toList)

/-- Text for a quoted argument: backslash and double quote are escaped. -/
def escapeString (value : String) : String := escape "\\\"" value

/-- A file path for a quoted argument: only the backslash is escaped. -/
def escapePath (value : String) : String := escape "\\" value

/-- Drops each backslash and keeps the character after it. -/
def unescape : List Char → List Char
  | '\\' :: c :: rest => c :: unescape rest
  | c :: rest => c :: unescape rest
  | [] => []

theorem escapeChars_append (special a b : List Char) :
    escapeChars special (a ++ b) = escapeChars special a ++ escapeChars special b := by
  induction a with
  | nil => rfl
  | cons c rest ih =>
    by_cases h : c ∈ special <;> simp [escapeChars, h, ih]

theorem unescape_escapeChars {special : List Char} (h : '\\' ∈ special) (value : List Char) :
    unescape (escapeChars special value) = value := by
  induction value with
  | nil => rfl
  | cons c rest ih =>
    by_cases hc : c ∈ special
    · simp [escapeChars, hc, unescape, ih]
    · have hne : c ≠ '\\' := fun heq => hc (heq ▸ h)
      simp [escapeChars, hc, unescape, ih, hne]

end JuceBuild.Text
