import JuceBuild.Text.CodeRange

/-!
# Blank characters

White space of every script: spaces, tabs, line ends, the line and paragraph separators and the
four information separators.
-/

namespace JuceBuild.Text

/-- The code points of blank characters. -/
def blankRanges : List (Nat × Nat) := [
  (0x9, 0xD), (0x1C, 0x20), (0x85, 0x85), (0xA0, 0xA0), (0x1680, 0x1680), (0x2000, 0x200A),
  (0x2028, 0x2029), (0x202F, 0x202F), (0x205F, 0x205F), (0x3000, 0x3000)]

/-- White space of any script. -/
def isBlank (c : Char) : Bool := inRanges blankRanges c

end JuceBuild.Text
