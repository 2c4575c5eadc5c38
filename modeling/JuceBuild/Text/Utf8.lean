/-!
# UTF-8

Octets cut into characters. What begins no well-formed sequence is cut off in its maximal part: the
octets that some well-formed sequence begins with, or one octet. Reading strictly refuses such
parts, reading leniently puts the replacement character for each.
-/

namespace JuceBuild.Text.Utf8

/-- What a leading octet promises: how many octets follow, the range of the first of them, and the
bits that the leading octet itself contributes. -/
structure Lead where
  following : Nat
  low : UInt8
  high : UInt8
  bits : Nat

/-- The promise of an octet at the start of a sequence; none if no sequence starts with it. -/
def lead? (b : UInt8) : Option Lead :=
  if b ≤ 0x7F then some ⟨0, 0x80, 0xBF, b.toNat⟩
  else if 0xC2 ≤ b && b ≤ 0xDF then some ⟨1, 0x80, 0xBF, b.toNat - 0xC0⟩
  else if b = 0xE0 then some ⟨2, 0xA0, 0xBF, 0⟩
  else if b = 0xED then some ⟨2, 0x80, 0x9F, 0xD⟩
  else if 0xE1 ≤ b && b ≤ 0xEF then some ⟨2, 0x80, 0xBF, b.toNat - 0xE0⟩
  else if b = 0xF0 then some ⟨3, 0x90, 0xBF, 0⟩
  else if 0xF1 ≤ b && b ≤ 0xF3 then some ⟨3, 0x80, 0xBF, b.toNat - 0xF0⟩
  else if b = 0xF4 then some ⟨3, 0x80, 0x8F, 4⟩
  else none

/-- The continuation octets of a sequence: the character if all are there, and the octets left at
the first that does not continue it. -/
def continuation : (following : Nat) → (low high : UInt8) → (bits : Nat) → List UInt8 →
    Option Char × List UInt8
  | 0, _, _, bits, rest => (some (Char.ofNat bits), rest)
  | _ + 1, _, _, _, [] => (none, [])
  | following + 1, low, high, bits, b :: rest =>
    if low ≤ b && b ≤ high then
      continuation following 0x80 0xBF (bits * 64 + (b.toNat - 0x80)) rest
    else (none, b :: rest)

theorem continuation_length_le (following : Nat) (low high : UInt8) (bits : Nat)
    (octets : List UInt8) :
    (continuation following low high bits octets).2.length ≤ octets.length := by
  fun_induction continuation following low high bits octets with
  | case1 => simp
  | case2 => simp
  | case3 following low high bits b rest h ih => exact Nat.le_succ_of_le ih
  | case4 => simp

/-- The first character, or none for a maximal ill-formed part, with the octets after it. -/
def next (b : UInt8) (rest : List UInt8) : Option Char × List UInt8 :=
  match lead? b with
  | none => (none, rest)
  | some lead => continuation lead.following lead.low lead.high lead.bits rest

theorem next_length_le (b : UInt8) (rest : List UInt8) : (next b rest).2.length ≤ rest.length := by
  unfold next
  split
  · exact Nat.le_refl _
  · exact continuation_length_le ..

/-- The characters of a text, with none for each maximal ill-formed part. -/
def characters : List UInt8 → List (Option Char)
  | [] => []
  | b :: rest => (next b rest).1 :: characters (next b rest).2
termination_by octets => octets.length
decreasing_by
  have := next_length_le b rest
  simp only [List.length_cons]
  omega

/-- The characters of a well-formed text. -/
def decode? (octets : List UInt8) : Option (List Char) := (characters octets).mapM id

/-- The characters of a text, with the replacement character for each ill-formed part. -/
def decodeLenient (octets : List UInt8) : List Char :=
  (characters octets).map (·.getD '\ufffd')

end JuceBuild.Text.Utf8
