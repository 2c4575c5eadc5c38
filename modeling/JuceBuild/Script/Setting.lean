import JuceBuild.Text.Escape
import JuceBuild.Text.LeadingInt
import JuceBuild.Xml.Node

/-!
# Settings

An argument line made from an attribute: a tag with a text, or a tag with a switch. A tag whose
attribute is absent stays in the script as a comment.
-/

namespace JuceBuild.Setting

open Text (OversizedNumeral leadingInt)

/-- The line of a tag without a value. -/
def placeholder (tag : String) : String := "# " ++ tag

/-- The line of a tag with a text; an empty text counts as absent. -/
def textLine (tag : String) (value? : Option String) : String :=
  match value? with
  | none => placeholder tag
  | some value =>
    if value = "" then placeholder tag else tag ++ " \"" ++ Text.escapeString value ++ "\""

/-- The line of a tag with a switch, which is on for every integer but zero. -/
def switchLine (tag : String) (value? : Option String) : Except OversizedNumeral String :=
  match value? with
  | none => .ok (placeholder tag)
  | some value => (leadingInt value).map fun n => tag ++ if n = 0 then " OFF" else " ON"

def ofText (node : Xml.Node) (tag name : String) : String := textLine tag (node.attribute? name)

def ofSwitch (node : Xml.Node) (tag name : String) : Except OversizedNumeral String :=
  switchLine tag (node.attribute? name)

end JuceBuild.Setting
