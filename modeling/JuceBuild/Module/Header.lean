import JuceBuild.Text.Lines
import JuceBuild.Text.Utf8
import JuceBuild.Text.WordChar

/-!
# Module headers

The public header of a module declares the module's options in comments: a line that starts with a
marker, followed by the name of an option. What follows the name is ignored, and so is every other
line.
-/

namespace JuceBuild.ModuleHeader

/-- What starts a line that declares an option. -/
def marker : List Char := "/** Config: ".toList

/-- The option that a line declares. -/
def optionOf? (line : List Char) : Option String :=
  if marker.isPrefixOf line then
    match (line.drop marker.length).takeWhile Text.isWordChar with
    | [] => none
    | name => some (String.ofList name)
  else none

/-- The options that the characters of a header declare, in the order of their lines. -/
def optionsOf (text : List Char) : List String :=
  (Text.lines (Text.normalizeNewlines text)).filterMap optionOf?

/-- The options that a header declares. Octets that are not UTF-8 do no harm to other lines. -/
def options (content : ByteArray) : List String :=
  optionsOf (Text.Utf8.decodeLenient content.data.toList)

end JuceBuild.ModuleHeader
