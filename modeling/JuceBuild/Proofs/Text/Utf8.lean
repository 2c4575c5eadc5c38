import JuceBuild.Proofs.Outcome
import JuceBuild.Text.Utf8
import Mathlib.Tactic.IntervalCases

/-!
# Characters written in UTF-8

A character that is written in UTF-8 is the first one read, whatever follows it. An octet of ASCII
belongs to no longer sequence, so it is a character wherever it stands, and what stands before it is
read as if nothing followed.
-/

namespace JuceBuild.Text.Utf8

/-- The octets of a text. -/
def encode (text : List Char) : List UInt8 := (String.ofList text).toUTF8.data.toList

theorem encode_eq (text : List Char) : encode text = text.flatMap String.utf8EncodeChar := by
  rw [encode, String.toUTF8_eq_toByteArray, String.toByteArray_ofList, List.utf8Encode,
    List.data_toByteArray]

theorem encode_nil : encode [] = [] := by
  rw [encode_eq, List.flatMap_nil]

theorem encode_cons (c : Char) (text : List Char) :
    encode (c :: text) = String.utf8EncodeChar c ++ encode text := by
  rw [encode_eq, encode_eq, List.flatMap_cons]

theorem encode_append (text rest : List Char) :
    encode (text ++ rest) = encode text ++ encode rest := by
  rw [encode_eq, encode_eq, encode_eq, List.flatMap_append]

/-! ### One character -/

theorem utf8EncodeChar_ascii {c : Char} (hc : c.toNat < 128) :
    String.utf8EncodeChar c = [UInt8.ofNat c.toNat] := by
  have hval : c.val.toNat = c.toNat := rfl
  rw [String.utf8EncodeChar, hval, if_pos (Nat.le_of_lt_succ hc)]

theorem continuation_cons {following bits n : Nat} {low high : UInt8} (rest : List UInt8)
    (hlow : low.toNat ≤ n + 128) (hhigh : n + 128 ≤ high.toNat) :
    continuation (following + 1) low high bits (UInt8.ofNat (n + 128) :: rest)
      = continuation following 0x80 0xBF (bits * 64 + n) rest := by
  have hoctet : (UInt8.ofNat (n + 128)).toNat = n + 128 :=
    UInt8.toNat_ofNat_of_lt' (Nat.lt_of_le_of_lt hhigh high.toNat_lt)
  have hrange : (low ≤ UInt8.ofNat (n + 128) && UInt8.ofNat (n + 128) ≤ high) = true := by
    simp only [UInt8.le_iff_toNat_le, hoctet, hlow, hhigh, decide_true, Bool.and_self]
  rw [continuation, if_pos hrange, hoctet, Nat.add_sub_cancel]

theorem lead?_two {n : Nat} (hlow : 2 ≤ n) (hhigh : n < 32) :
    lead? (UInt8.ofNat (n + 192)) = some ⟨1, 0x80, 0xBF, n⟩ := by
  interval_cases n <;> rfl

/-- The second octet keeps apart what a shorter sequence could stand for, and the surrogates. -/
theorem exists_lead?_three {n m : Nat} (hn : n < 16) (hm : m < 64) (hshort : n = 0 → 32 ≤ m)
    (hsurrogate : n = 13 → m < 32) :
    ∃ low high, lead? (UInt8.ofNat (n + 224)) = some ⟨2, low, high, n⟩
      ∧ low.toNat ≤ m + 128 ∧ m + 128 ≤ high.toNat := by
  interval_cases n <;> refine ⟨_, _, rfl, ?_, ?_⟩ <;> simp <;> omega

theorem exists_lead?_four {n m : Nat} (hn : n ≤ 4) (hm : m < 64) (hshort : n = 0 → 16 ≤ m)
    (hlast : n = 4 → m < 16) :
    ∃ low high, lead? (UInt8.ofNat (n + 240)) = some ⟨3, low, high, n⟩
      ∧ low.toNat ≤ m + 128 ∧ m + 128 ≤ high.toNat := by
  interval_cases n <;> refine ⟨_, _, rfl, ?_, ?_⟩ <;> simp <;> omega

theorem next_of_lead? {b : UInt8} {lead : Lead} (hlead : lead? b = some lead)
    (rest : List UInt8) :
    next b rest = continuation lead.following lead.low lead.high lead.bits rest := by
  rw [next, hlead]

/-- The code points of ASCII are their own octets. -/
theorem next_one {n : Nat} (hn : n < 128) (rest : List UInt8) :
    next (UInt8.ofNat n) rest = (some (Char.ofNat n), rest) := by
  have hoctet : (UInt8.ofNat n).toNat = n := UInt8.toNat_ofNat_of_lt' (Nat.lt_trans hn (by decide))
  have hsmall : UInt8.ofNat n ≤ 0x7F := by
    rw [UInt8.le_iff_toNat_le, hoctet]
    exact Nat.le_of_lt_succ hn
  have hlead : lead? (UInt8.ofNat n) = some ⟨0, 0x80, 0xBF, n⟩ := by
    rw [lead?, if_pos hsmall, hoctet]
  rw [next_of_lead? hlead, continuation]

theorem characters_append {c : Char} {first : UInt8} {octets : List UInt8} (rest : List UInt8)
    (hnext : next first (octets ++ rest) = (some c, rest)) :
    characters (first :: octets ++ rest) = some c :: characters rest := by
  rw [List.cons_append, characters, hnext]

theorem characters_utf8EncodeChar_append (c : Char) (rest : List UInt8) :
    characters (String.utf8EncodeChar c ++ rest) = some c :: characters rest := by
  have hvalid : c.toNat < 0xD800 ∨ 0xDFFF < c.toNat ∧ c.toNat < 0x110000 := c.valid
  have hchar : Char.ofNat c.toNat = c := Char.ofNat_toNat c
  have hval : c.val.toNat = c.toNat := rfl
  rw [String.utf8EncodeChar, hval]
  generalize c.toNat = n at hvalid hchar
  -- One case for each number of octets; `hcode` says that their bits make up the code point.
  split_ifs with hone htwo hthree
  · refine characters_append rest ?_
    rw [List.nil_append, next_one (by omega), hchar]
  · have hlead := lead?_two (n := n / 64 % 32) (by omega) (by omega)
    have hcode : n / 64 % 32 * 64 + n % 64 = n := by omega
    refine characters_append rest ?_
    rw [next_of_lead? hlead, List.singleton_append,
      continuation_cons rest (Nat.le_add_left _ _) (by simp; omega), continuation, hcode, hchar]
  · obtain ⟨low, high, hlead, hlow, hhigh⟩ := exists_lead?_three (n := n / 4096 % 16)
      (m := n / 64 % 64) (by omega) (by omega) (by omega) (by omega)
    have hcode : (n / 4096 % 16 * 64 + n / 64 % 64) * 64 + n % 64 = n := by omega
    refine characters_append rest ?_
    rw [next_of_lead? hlead, List.cons_append, List.singleton_append,
      continuation_cons _ hlow hhigh, continuation_cons rest (Nat.le_add_left _ _) (by simp; omega),
      continuation, hcode, hchar]
  · obtain ⟨low, high, hlead, hlow, hhigh⟩ := exists_lead?_four (n := n / 262144 % 8)
      (m := n / 4096 % 64) (by omega) (by omega) (by omega) (by omega)
    have hcode : ((n / 262144 % 8 * 64 + n / 4096 % 64) * 64 + n / 64 % 64) * 64 + n % 64 = n := by
      omega
    refine characters_append rest ?_
    rw [next_of_lead? hlead, List.cons_append, List.cons_append, List.singleton_append,
      continuation_cons _ hlow hhigh, continuation_cons _ (Nat.le_add_left _ _) (by simp; omega),
      continuation_cons rest (Nat.le_add_left _ _) (by simp; omega), continuation, hcode, hchar]

/-! ### Texts -/

theorem characters_encode_append (text : List Char) (rest : List UInt8) :
    characters (encode text ++ rest) = text.map some ++ characters rest := by
  induction text with
  | nil => rw [encode_nil, List.nil_append, List.map_nil, List.nil_append]
  | cons c text ih =>
      rw [encode_cons, List.append_assoc, characters_utf8EncodeChar_append, ih, List.map_cons,
        List.cons_append]

/-- A text that is written in UTF-8 is read back. -/
theorem decode?_encode (text : List Char) : decode? (encode text) = some text := by
  have hcharacters := characters_encode_append text []
  rw [List.append_nil, characters, List.append_nil] at hcharacters
  rw [decode?, hcharacters, List.mapM_map, Function.id_comp, mapM_some]

/-- What is read leniently behind a text that is written in UTF-8 stands behind that text. -/
theorem decodeLenient_encode_append (text : List Char) (rest : List UInt8) :
    decodeLenient (encode text ++ rest) = text ++ decodeLenient rest := by
  rw [decodeLenient, characters_encode_append, List.map_append, List.map_map]
  exact congrArg (· ++ decodeLenient rest) (List.map_id text)

theorem decodeLenient_nil : decodeLenient [] = [] := by
  rw [decodeLenient, characters, List.map_nil]

/-- An ill-formed part that reaches to the end of the text. -/
theorem decodeLenient_of_next_eq_none {b : UInt8} {rest : List UInt8}
    (hnext : next b rest = (none, [])) : decodeLenient (b :: rest) = ['\ufffd'] := by
  rw [decodeLenient, characters, hnext, characters]
  rfl

/-! ### Octets of ASCII -/

theorem not_in_range_of_ascii {low high b : UInt8} (hlow : 0x80 ≤ low) (hb : b < 0x80) :
    ¬(low ≤ b && b ≤ high) = true := by
  rw [Bool.and_eq_true, decide_eq_true_eq, not_and]
  intro hle
  rw [UInt8.le_iff_toNat_le] at hlow hle
  rw [UInt8.lt_iff_toNat_lt] at hb
  omega

/-- An octet of ASCII continues no sequence: it ends one as the end of the text does. -/
theorem continuation_append_of_ascii {following bits : Nat} {low high b : UInt8} (hlow : 0x80 ≤ low)
    (hb : b < 0x80) (octets rest : List UInt8) :
    continuation following low high bits (octets ++ b :: rest)
      = ((continuation following low high bits octets).1,
        (continuation following low high bits octets).2 ++ b :: rest) := by
  fun_induction continuation following low high bits octets with
  | case1 => rw [continuation]
  | case2 => rw [List.nil_append, continuation, if_neg (not_in_range_of_ascii hlow hb)]
  | case3 following low high bits c octets hrange ih =>
      rw [List.cons_append, continuation, if_pos hrange, ih (UInt8.le_refl _)]
  | case4 following low high bits c octets hrange =>
      rw [List.cons_append, continuation, if_neg hrange]

theorem le_low_of_lead? {b : UInt8} {lead : Lead} (hlead : lead? b = some lead) :
    0x80 ≤ lead.low := by
  unfold lead? at hlead
  split_ifs at hlead <;> cases hlead <;> simp

theorem next_append_of_ascii {first b : UInt8} (hb : b < 0x80) (octets rest : List UInt8) :
    next first (octets ++ b :: rest)
      = ((next first octets).1, (next first octets).2 ++ b :: rest) := by
  cases hlead : lead? first with
  | none => rw [next, next, hlead]
  | some lead =>
      rw [next_of_lead? hlead, next_of_lead? hlead,
        continuation_append_of_ascii (le_low_of_lead? hlead) hb]

/-- Whatever the octets in front are, they do not reach over an octet of ASCII. -/
theorem characters_append_of_ascii {b : UInt8} (hb : b < 0x80) (octets rest : List UInt8) :
    characters (octets ++ b :: rest) = characters octets ++ characters (b :: rest) := by
  fun_induction characters octets with
  | case1 => rfl
  | case2 first octets ih =>
      rw [List.cons_append, characters, next_append_of_ascii hb, ih, List.cons_append]

theorem decodeLenient_append_of_ascii {b : UInt8} (hb : b < 0x80) (octets rest : List UInt8) :
    decodeLenient (octets ++ b :: rest) = decodeLenient octets ++ decodeLenient (b :: rest) := by
  rw [decodeLenient, characters_append_of_ascii hb, List.map_append]
  rfl

theorem decodeLenient_cons {n : Nat} (hn : n < 128) (rest : List UInt8) :
    decodeLenient (UInt8.ofNat n :: rest) = Char.ofNat n :: decodeLenient rest := by
  rw [decodeLenient, characters, next_one hn]
  rfl

end JuceBuild.Text.Utf8
