import JuceBuild.Proofs.Outcome
import JuceBuild.Proofs.Text.LeadingInt
import JuceBuild.Script.Setting
import Mathlib.Data.Nat.Digits.Defs

/-!
# The integer that is read

A numeral is read where it stands, behind blanks and a sign, up to the first character that is no
digit. Its digits count in the base ten, whatever scripts they are of, and zeros in front add
nothing. A text without a digit in that place reads as zero, so between the sign and the digits
there may be nothing. What is read is determined by this, and a switch is on for the numerals in
which a digit is not zero.
-/

namespace JuceBuild.Text

/-- The integer of a sign and digits in the base ten, the most significant first. -/
def signed (sign : List Char) (values : List Nat) : Int :=
  if sign = ['-'] then -(Nat.ofDigits 10 values.reverse : Nat)
  else (Nat.ofDigits 10 values.reverse : Nat)

/-- The text begins with a numeral of at most 4300 digits for the integer, or it begins with no
numeral and the integer is zero. -/
def ReadsAs (text : String) (n : Int) : Prop :=
  (∃ sign values, BeginsWith text.toList sign values ∧ values.length ≤ 4300
    ∧ n = signed sign values)
  ∨ (¬ BeginsWithDigit text.toList ∧ n = 0)

/-! ### The value of a numeral -/

theorem magnitude_eq_ofDigits (values : List Nat) :
    Numeral.magnitude values = Nat.ofDigits 10 values.reverse := by
  rw [Numeral.magnitude, List.foldl_eq_foldr_reverse, Nat.ofDigits_eq_foldr]
  congr 1
  funext d n
  rw [Nat.cast_id]
  omega

theorem value_eq_signed (sign : List Char) (values : List Nat) :
    Numeral.value ⟨decide (sign = ['-']), values⟩ = signed sign values := by
  simp only [Numeral.value, signed, magnitude_eq_ofDigits, decide_eq_true_eq]

theorem ofDigits_eq_zero_iff (values : List Nat) :
    Nat.ofDigits 10 values = 0 ↔ ∀ d ∈ values, d = 0 := by
  induction values with
  | nil => simp
  | cons d values ih =>
      rw [Nat.ofDigits_cons, List.forall_mem_cons, ← ih]
      omega

theorem signed_ne_zero_iff (sign : List Char) (values : List Nat) :
    signed sign values ≠ 0 ↔ ∃ d ∈ values, d ≠ 0 := by
  have hzero : signed sign values = 0 ↔ Nat.ofDigits 10 values.reverse = 0 := by
    rw [signed]
    split <;> omega
  rw [ne_eq, hzero, ofDigits_eq_zero_iff]
  simp

/-! ### What is read -/

theorem leadingInt_eq_ok_iff {text : String} {n : Int} :
    leadingInt text = .ok n ↔ ReadsAs text n := by
  constructor
  · intro hread
    by_cases hdigit : BeginsWithDigit text.toList
    · obtain ⟨sign, values, hbegins⟩ := hdigit.exists_beginsWith
      rw [leadingInt_of_beginsWith hbegins, value_eq_signed] at hread
      split at hread
      · rename_i hlength
        cases hread
        exact .inl ⟨sign, values, hbegins, hlength, rfl⟩
      · cases hread
    · rw [leadingInt_of_not_beginsWithDigit hdigit] at hread
      cases hread
      exact .inr ⟨hdigit, rfl⟩
  · rintro (⟨sign, values, hbegins, hlength, rfl⟩ | ⟨hdigit, rfl⟩)
    · have hlimit : values.length ≤ Numeral.digitLimit := hlength
      rw [leadingInt_of_beginsWith hbegins, if_pos hlimit, value_eq_signed]
    · exact leadingInt_of_not_beginsWithDigit hdigit

theorem switchLine_eq_on_iff {text tag : String} :
    Setting.switchLine tag (some text) = .ok (tag ++ " ON")
      ↔ ∃ n, leadingInt text = .ok n ∧ n ≠ 0 := by
  rw [Setting.switchLine, map_eq_ok_iff]
  refine exists_congr fun n => and_congr_right fun _ => ?_
  rw [String.append_right_inj]
  by_cases hzero : n = 0
  · simp [hzero]
  · simp [hzero]

/-- **A text reads as the numeral at its front.** It reads as an integer if it begins with a numeral
of the integer that is not too long, and as zero if it begins with none. A switch is on if there is
such a numeral and its digits are not all zero. -/
theorem leadingInt_reads (text : String) :
    (∀ n, leadingInt text = .ok n ↔ ReadsAs text n)
      ∧ ∀ tag, Setting.switchLine tag (some text) = .ok (tag ++ " ON")
        ↔ ∃ sign values, BeginsWith text.toList sign values ∧ values.length ≤ 4300
          ∧ ∃ d ∈ values, d ≠ 0 := by
  refine ⟨fun n => leadingInt_eq_ok_iff, fun tag => ?_⟩
  rw [switchLine_eq_on_iff]
  constructor
  · rintro ⟨n, hread, hzero⟩
    rcases leadingInt_eq_ok_iff.mp hread with ⟨sign, values, hbegins, hlength, rfl⟩ | ⟨-, rfl⟩
    · exact ⟨sign, values, hbegins, hlength, (signed_ne_zero_iff sign values).mp hzero⟩
    · exact absurd rfl hzero
  · rintro ⟨sign, values, hbegins, hlength, hdigit⟩
    refine ⟨signed sign values, ?_, (signed_ne_zero_iff sign values).mpr hdigit⟩
    exact leadingInt_eq_ok_iff.mpr (.inl ⟨sign, values, hbegins, hlength, rfl⟩)

/-- Blanks of two kinds, a sign, digits of three scripts, and a circled digit, which is no decimal
digit. -/
example : leadingInt "\t\u3000-0٤२7①" = .ok (-427) := by decide

end JuceBuild.Text
