import JuceBuild.Text.Utf8
import JuceBuild.Xml.CodePage
import JuceBuild.Xml.Name

/-!
# Encodings

How the octets of a document become characters. The first octets show whether characters take one
octet or two at the least; the declaration at the start of a document may then name an encoding for
all that follows it, within that choice.
-/

namespace JuceBuild.Xml

inductive Encoding where
  | utf8
  | utf16 (bigEndian : Bool)
  | singleByte (page : CodePage) (ordinalLetters : Bool)
  deriving DecidableEq, Repr

/-- An encoding that is known, but is refused because it gives no character to each single octet:
one of several octets for a character, one that decodes nothing, one that does not decode leniently,
and one that takes ASCII octets only. -/
inductive RefusedEncoding where
  | multiByte (name : String)
  | undefined (name : String)
  | strict (name : String)
  | asciiOnly (name : String)
  deriving DecidableEq, Repr

namespace RefusedEncoding

/-- The refused encoding that a name stands for. -/
def find? (name : String) : Option RefusedEncoding :=
  if CodePage.isMultiByte name then some (.multiByte name)
  else
    match CodePage.normalisedName name with
    | "undefined" => some (.undefined name)
    | "idna" => some (.strict name)
    | "punycode" => some (.asciiOnly name)
    | _ => none

def message : RefusedEncoding → String
  | multiByte _ => "multi-byte encodings are not supported"
  | undefined name => s!"decoding with '{name}' codec failed (UnicodeError: undefined encoding)"
  | strict name =>
    s!"decoding with '{name}' codec failed (UnicodeError: Unsupported error handling replace)"
  | asciiOnly _ =>
    "'ascii' codec can't decode byte 0x80 in position 82: ordinal not in range(128)"

end RefusedEncoding

namespace Encoding

/-- The encoding that the first octets of a document show, and the octets after a byte order
mark. -/
def detect : List UInt8 → Encoding × List UInt8
  | 0xFE :: 0xFF :: rest => (.utf16 true, rest)
  | 0xFF :: 0xFE :: rest => (.utf16 false, rest)
  | 0xEF :: 0xBB :: 0xBF :: rest => (.utf8, rest)
  | 0x00 :: b :: rest => (.utf16 true, 0x00 :: b :: rest)
  | a :: 0x00 :: rest => (.utf16 false, a :: 0x00 :: rest)
  | octets => (.utf8, octets)

/-- The code units of a text in octet pairs. -/
def units16? (bigEndian : Bool) : List UInt8 → Option (List Nat)
  | [] => some []
  | [_] => none
  | a :: b :: rest =>
    let unit := if bigEndian then a.toNat * 256 + b.toNat else b.toNat * 256 + a.toNat
    (units16? bigEndian rest).map (unit :: ·)

/-- The characters of code units. A high surrogate takes the low ten bits of the unit after it. -/
def decodeUnits? : List Nat → Option (List Char)
  | [] => some []
  | unit :: rest =>
    if 0xD800 ≤ unit ∧ unit < 0xDC00 then
      match rest with
      | [] => none
      | low :: rest =>
        (decodeUnits? rest).map
          (Char.ofNat (0x10000 + (unit - 0xD800) * 0x400 + low % 0x400) :: ·)
    else if 0xDC00 ≤ unit ∧ unit < 0xE000 then none
    else (decodeUnits? rest).map (Char.ofNat unit :: ·)

def decode? (encoding : Encoding) (octets : List UInt8) : Option (List Char) :=
  match encoding with
  | .utf8 => Text.Utf8.decode? octets
  | .utf16 bigEndian => (units16? bigEndian octets).bind decodeUnits?
  | .singleByte page _ => octets.mapM page.char?

/-- The number of octets of an ASCII character. -/
def unitSize : Encoding → Nat
  | .utf16 _ => 2
  | _ => 1

/-- The ASCII characters that a text begins with. -/
def leadingAscii (encoding : Encoding) (octets : List UInt8) : List Char :=
  match encoding, octets with
  | .utf16 true, 0x00 :: b :: rest =>
    if b < 0x80 then Char.ofNat b.toNat :: leadingAscii encoding rest else []
  | .utf16 false, a :: 0x00 :: rest =>
    if a < 0x80 then Char.ofNat a.toNat :: leadingAscii encoding rest else []
  | .utf16 _, _ => []
  | _, b :: rest => if b < 0x80 then Char.ofNat b.toNat :: leadingAscii encoding rest else []
  | _, [] => []

/-- The characters that names are made of in a document. -/
def alphabet : Encoding → Alphabet
  | .utf8 => ⟨false⟩
  | .utf16 _ => ⟨true⟩
  | .singleByte _ ordinalLetters => ⟨ordinalLetters⟩

/-- The encoding of a document from its declaration on, if it declares a name. A name goes with the
detected encoding only if both take as many octets for a character. -/
def declared (detected : Encoding) (name : String) :
    Except RefusedEncoding (Option Encoding) :=
  let wide := detected.unitSize = 2
  let byteOriented := fun encoding : Encoding => if wide then none else some encoding
  match name.toLower with
  | "utf-8" => .ok (byteOriented .utf8)
  | "us-ascii" => .ok (byteOriented (.singleByte .ascii false))
  | "iso-8859-1" => .ok (byteOriented (.singleByte .iso88591 true))
  | "utf-16" => .ok (if wide then some detected else none)
  | "utf-16be" => .ok (if detected = .utf16 true then some detected else none)
  | "utf-16le" => .ok (if detected = .utf16 false then some detected else none)
  | _ =>
    match RefusedEncoding.find? name with
    | some refused => .error refused
    | none => .ok ((CodePage.find? name).map (.singleByte · false))

end Encoding

end JuceBuild.Xml
