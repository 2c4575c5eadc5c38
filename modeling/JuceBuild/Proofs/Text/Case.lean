/-!
# Case

Upper and lower case are those of the letters from A to Z. Letters are told by their code points,
and a letter in lower case has a code point 32 above that of the same letter in upper case.
-/

namespace JuceBuild.Text

variable {c lower upper : Char}

theorem isUpper_iff : c.isUpper = true ↔ 65 ≤ c.toNat ∧ c.toNat ≤ 90 := by
  have hval : c.isUpper = decide ('A'.val ≤ c.val ∧ c.val ≤ 'Z'.val) := rfl
  rw [hval, decide_eq_true_eq, UInt32.le_iff_toNat_le, UInt32.le_iff_toNat_le]
  exact Iff.rfl

theorem isLower_iff : c.isLower = true ↔ 97 ≤ c.toNat ∧ c.toNat ≤ 122 := by
  have hval : c.isLower = (decide ('a'.val ≤ c.val) && decide (c.val ≤ 'z'.val)) := rfl
  rw [hval, Bool.and_eq_true, decide_eq_true_eq, decide_eq_true_eq, UInt32.le_iff_toNat_le,
    UInt32.le_iff_toNat_le]
  exact Iff.rfl

theorem isAlpha_iff :
    c.isAlpha = true ↔ (65 ≤ c.toNat ∧ c.toNat ≤ 90) ∨ (97 ≤ c.toNat ∧ c.toNat ≤ 122) := by
  have hcase : c.isAlpha = (c.isUpper || c.isLower) := rfl
  rw [hcase, Bool.or_eq_true, isUpper_iff, isLower_iff]

theorem toLower_of_not_isUpper (hupper : ¬c.isUpper = true) : c.toLower = c :=
  dif_neg fun hrange => hupper (decide_eq_true hrange)

theorem toNat_toLower_of_isUpper (hupper : c.isUpper = true) :
    c.toLower.toNat = c.toNat + 32 := by
  have hrange := of_decide_eq_true hupper
  have hlower : c.toLower = ⟨c.val + ('a'.val - 'A'.val), _⟩ := dif_pos hrange
  rw [hlower]
  change (c.val + ('a'.val - 'A'.val)).toNat = _
  rw [UInt32.toNat_add]
  change (c.toNat + 32) % 2 ^ 32 = _
  have hlast := (isUpper_iff.mp hupper).2
  omega

theorem toNat_toLower (c : Char) :
    c.toLower.toNat = if 65 ≤ c.toNat ∧ c.toNat ≤ 90 then c.toNat + 32 else c.toNat := by
  by_cases hupper : c.isUpper = true
  · rw [if_pos (isUpper_iff.mp hupper), toNat_toLower_of_isUpper hupper]
  · rw [if_neg (mt isUpper_iff.mpr hupper), toLower_of_not_isUpper hupper]

theorem toLower_eq_or_isAlpha (c : Char) : c.toLower = c ∨ c.isAlpha = true := by
  by_cases hupper : c.isUpper = true
  · exact .inr (isAlpha_iff.mpr (.inl (isUpper_iff.mp hupper)))
  · exact .inl (toLower_of_not_isUpper hupper)

theorem toLower_eq_iff_mem (hlower : 97 ≤ lower.toNat ∧ lower.toNat ≤ 122)
    (hupper : upper.toNat + 32 = lower.toNat) : c.toLower = lower ↔ c ∈ [lower, upper] := by
  simp only [List.mem_cons, List.not_mem_nil, or_false, ← Char.toNat_inj, toNat_toLower]
  split <;> omega

theorem toList_toLower (text : String) : text.toLower.toList = text.toList.map Char.toLower :=
  String.toList_map

end JuceBuild.Text
