import JuceBuild.Text.Printable

/-!
# Quoted text

A value shown between quotes on one line: single quotes, unless the value holds a single quote and
no double quote. The chosen quote and the backslash are escaped, line feed, carriage return and tab
have their letters, and what is not printable is written by its code point.
-/

namespace JuceBuild.Text

/-- Lower-case hexadecimal digits of `n`, padded with zeros to `width`. -/
def hexPadded (width n : Nat) : List Char :=
  let digits := Nat.toDigits 16 n
  List.replicate (width - digits.length) '0' ++ digits

/-- A character that is not printable, by its code point in the least of three widths. -/
def codeEscape (c : Char) : List Char :=
  let n := c.toNat
  if n ≤ 0xFF then '\\' :: 'x' :: hexPadded 2 n
  else if n ≤ 0xFFFF then '\\' :: 'u' :: hexPadded 4 n
  else '\\' :: 'U' :: hexPadded 8 n

/-- One character between the quotes `quote`. -/
def quotedChar (quote c : Char) : List Char :=
  if c = quote ∨ c = '\\' then ['\\', c]
  else if c = '\n' then ['\\', 'n']
  else if c = '\r' then ['\\', 'r']
  else if c = '\t' then ['\\', 't']
  else if isPrintable c then [c]
  else codeEscape c

/-- The quote that needs the fewer escapes. -/
def quoteFor (value : List Char) : Char :=
  if '\'' ∈ value ∧ '"' ∉ value then '"' else '\''

/-- The value between quotes. -/
def quoted (value : String) : String :=
  let quote := quoteFor value.toList
  String.ofList (quote :: value.toList.flatMap (quotedChar quote) ++ [quote])

end JuceBuild.Text
