/-!
# Splitting text at a separator

The text between successive occurrences of a separator. Occurrences are taken from left to right
and do not overlap, and empty pieces are kept, so there is always one piece more than there are
occurrences.
-/

namespace JuceBuild.Text

/-- The pieces of a text between the occurrences of a separator that is not empty. -/
def pieces (separator : List Char) (nonempty : separator ≠ []) : List Char → List (List Char)
  | [] => [[]]
  | c :: rest =>
    if separator.isPrefixOf (c :: rest) then
      [] :: pieces separator nonempty ((c :: rest).drop separator.length)
    else
      match pieces separator nonempty rest with
      | [] => [[c]]
      | piece :: more => (c :: piece) :: more
termination_by text => text.length
decreasing_by
  · have := List.length_pos_iff.mpr nonempty
    simp only [List.length_drop, List.length_cons]
    omega
  · simp

/-- The pieces of `value` between the occurrences of `separator`; none for an empty separator. -/
def split? (separator value : String) : Option (List String) :=
  if h : separator.toList = [] then none
  else some ((pieces separator.toList h value.toList).map String.ofList)

def entries (value : String) : List String :=
  (pieces ['\n'] (by simp) value.toList).map String.ofList

def join (separator : String) (elements : List String) : String :=
  String.intercalate separator elements

end JuceBuild.Text
