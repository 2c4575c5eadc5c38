import JuceBuild.Text.Blank
import JuceBuild.Text.DecimalDigit

/-!
# The integer a text begins with

A number in a document is read from the front of a text: blanks, one sign if there is one, and the
longest run of decimal digits of any script. What follows is ignored, and a text without such a
beginning counts as zero. Runs beyond a fixed length are refused.
-/

namespace JuceBuild.Text

/-- A sign and the values of decimal digits, the most significant first. -/
structure Numeral where
  negative : Bool
  digits : List Nat
  deriving DecidableEq, Repr

namespace Numeral

def magnitude (digits : List Nat) : Nat := digits.foldl (fun n digit => n * 10 + digit) 0

def value (numeral : Numeral) : Int :=
  let n : Int := magnitude numeral.digits
  if numeral.negative then -n else n

/-- The most digits a numeral may have. -/
def digitLimit : Nat := 4300

end Numeral

/-- The values of the longest run of decimal digits that a text begins with. -/
def leadingDigits : List Char → List Nat
  | [] => []
  | c :: rest =>
    match digitValue? c with
    | none => []
    | some d => d :: leadingDigits rest

/-- The sign that a text begins with, and the rest. -/
def leadingSign : List Char → Bool × List Char
  | '-' :: rest => (true, rest)
  | '+' :: rest => (false, rest)
  | text => (false, text)

/-- The numeral that a text begins with, after blanks. -/
def leadingNumeral? (text : List Char) : Option Numeral :=
  let (negative, rest) := leadingSign (text.dropWhile isBlank)
  match leadingDigits rest with
  | [] => none
  | digits => some ⟨negative, digits⟩

/-- A numeral with more digits than the limit. -/
structure OversizedNumeral where
  digits : Nat
  deriving DecidableEq, Repr

/-- The integer that a text begins with, zero if there is none. -/
def leadingInt (text : String) : Except OversizedNumeral Int :=
  match leadingNumeral? text.toList with
  | none => .ok 0
  | some numeral =>
    if numeral.digits.length ≤ Numeral.digitLimit then .ok numeral.value
    else .error ⟨numeral.digits.length⟩

end JuceBuild.Text
