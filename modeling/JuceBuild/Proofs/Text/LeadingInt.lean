import JuceBuild.Text.LeadingInt
import Mathlib.Data.List.Forall2
import Mathlib.Data.List.TakeWhile

/-!
# The number that a text begins with

A text begins with a numeral if there is a digit behind blanks and a sign, and the numeral goes on
up to the first character that is no digit. The digits may be of any scripts, mixed at will, and
leading zeros count. A text without one reads as a number too, so reading fails for one reason only:
the numeral has more digits than one may have.
-/

namespace JuceBuild.Text

def isDigit (c : Char) : Bool := (digitValue? c).isSome

/-- Blanks, a sign if there is one, and a run of digits that is longer than a numeral may be. -/
def BeginsOversized (text : List Char) : Prop :=
  ∃ blanks sign digits rest, text = blanks ++ (sign ++ (digits ++ rest))
    ∧ (∀ c ∈ blanks, isBlank c = true) ∧ sign ∈ [[], ['-'], ['+']]
    ∧ (∀ c ∈ digits, isDigit c = true) ∧ Numeral.digitLimit < digits.length

/-- Blanks, a sign if there is one, digits with the values, and behind them what is no digit. -/
def BeginsWith (text sign : List Char) (values : List Nat) : Prop :=
  ∃ blanks digits rest, text = blanks ++ (sign ++ (digits ++ rest))
    ∧ (∀ c ∈ blanks, isBlank c = true) ∧ sign ∈ [[], ['-'], ['+']]
    ∧ List.Forall₂ (fun c d => digitValue? c = some d) digits values ∧ values ≠ []
    ∧ ∀ c ∈ rest.head?, isDigit c = false

/-- Blanks, a sign if there is one, and a digit. -/
def BeginsWithDigit (text : List Char) : Prop :=
  ∃ blanks sign digit rest, text = blanks ++ (sign ++ digit :: rest)
    ∧ (∀ c ∈ blanks, isBlank c = true) ∧ sign ∈ [[], ['-'], ['+']] ∧ isDigit digit = true

theorem beginsOversized_of_digits {digits : List Char} (hdigits : ∀ c ∈ digits, isDigit c = true)
    (hlength : Numeral.digitLimit < digits.length) : BeginsOversized digits :=
  ⟨[], [], digits, [], by simp, by simp, by simp, hdigits, hlength⟩

/-! ### Digits -/

theorem isDigit_of_forall₂ {digits : List Char} {values : List Nat}
    (hdigits : List.Forall₂ (fun c d => digitValue? c = some d) digits values) :
    ∀ c ∈ digits, isDigit c = true := by
  induction hdigits with
  | nil => exact List.forall_mem_nil _
  | cons hc _ ih =>
      refine List.forall_mem_cons.mpr ⟨?_, ih⟩
      rw [isDigit, hc]
      rfl

theorem isBlank_eq_false_of_isDigit {c : Char} (hdigit : isDigit c = true) : isBlank c = false := by
  have hapart : ∀ first ∈ digitZeros, ∀ range ∈ blankRanges,
      first + 9 < range.1 ∨ range.2 < first := by decide
  rw [isDigit, digitValue?, Option.isSome_map, List.find?_isSome] at hdigit
  obtain ⟨first, hfirst, hin⟩ := hdigit
  rw [isBlank, inRanges, List.any_eq_false]
  intro range hrange hblank
  have := hapart first hfirst range hrange
  simp only [Bool.and_eq_true, decide_eq_true_eq] at hin hblank
  omega

theorem isDigit_head?_dropWhile (text : List Char) :
    ∀ c ∈ (text.dropWhile isDigit).head?, isDigit c = false := by
  intro c hc
  have hstop := List.head?_dropWhile_not isDigit text
  rwa [Option.mem_def.mp hc] at hstop

theorem forall₂_leadingDigits (text : List Char) :
    List.Forall₂ (fun c d => digitValue? c = some d) (text.takeWhile isDigit)
      (leadingDigits text) := by
  induction text with
  | nil => exact .nil
  | cons c text ih =>
      rw [leadingDigits, List.takeWhile_cons, isDigit]
      cases hc : digitValue? c with
      | none => exact .nil
      | some d => exact .cons hc ih

theorem length_leadingDigits (text : List Char) :
    (leadingDigits text).length = (text.takeWhile isDigit).length :=
  (forall₂_leadingDigits text).length_eq.symm

theorem le_length_leadingDigits {digits : List Char} (hdigits : ∀ c ∈ digits, isDigit c = true)
    (rest : List Char) : digits.length ≤ (leadingDigits (digits ++ rest)).length := by
  rw [length_leadingDigits, List.takeWhile_append_of_pos hdigits, List.length_append]
  exact Nat.le_add_right _ _

theorem leadingDigits_append {digits rest : List Char} {values : List Nat}
    (hdigits : List.Forall₂ (fun c d => digitValue? c = some d) digits values)
    (hrest : ∀ c ∈ rest.head?, isDigit c = false) : leadingDigits (digits ++ rest) = values := by
  induction hdigits with
  | nil =>
      cases rest with
      | nil => rfl
      | cons c rest =>
          have hc := hrest c rfl
          rw [isDigit, Option.isSome_eq_false_iff, Option.isNone_iff_eq_none] at hc
          rw [List.nil_append, leadingDigits, hc]
  | @cons c d digits values hc _ ih =>
      rw [List.cons_append, leadingDigits, hc]
      exact congrArg (d :: ·) ih

theorem exists_of_leadingDigits_ne_nil {text : List Char} (hdigits : leadingDigits text ≠ []) :
    ∃ c rest, text = c :: rest ∧ isDigit c = true := by
  cases text with
  | nil => exact absurd rfl hdigits
  | cons c rest =>
      refine ⟨c, rest, rfl, ?_⟩
      rw [isDigit, Option.isSome_iff_ne_none]
      intro hnone
      rw [leadingDigits, hnone] at hdigits
      exact hdigits rfl

/-! ### Signs -/

theorem exists_sign (text : List Char) :
    ∃ sign rest, sign ∈ [[], ['-'], ['+']] ∧ text = sign ++ rest
      ∧ leadingSign text = (decide (sign = ['-']), rest) := by
  rw [leadingSign.eq_def]
  split
  · exact ⟨['-'], _, by decide, rfl, rfl⟩
  · exact ⟨['+'], _, by decide, rfl, rfl⟩
  · exact ⟨[], _, by decide, rfl, rfl⟩

theorem leadingSign_append {sign text : List Char} {c : Char} (hsign : sign ∈ [[], ['-'], ['+']])
    (hdigit : isDigit c = true) :
    leadingSign (sign ++ c :: text) = (decide (sign = ['-']), c :: text) := by
  simp only [List.mem_cons, List.not_mem_nil, or_false] at hsign
  obtain rfl | rfl | rfl := hsign
  · rw [List.nil_append, leadingSign.eq_def]
    split
    · rename_i heq
      cases heq
      exact absurd hdigit (by decide)
    · rename_i heq
      cases heq
      exact absurd hdigit (by decide)
    · rfl
  · rfl
  · rfl

theorem dropWhile_blanks {blanks sign text : List Char} {c : Char}
    (hblanks : ∀ c ∈ blanks, isBlank c = true) (hsign : sign ∈ [[], ['-'], ['+']])
    (hdigit : isDigit c = true) :
    (blanks ++ (sign ++ c :: text)).dropWhile isBlank = sign ++ c :: text := by
  rw [List.dropWhile_append_of_pos hblanks]
  simp only [List.mem_cons, List.not_mem_nil, or_false] at hsign
  obtain rfl | rfl | rfl := hsign
  · exact List.dropWhile_cons_of_neg (by rw [isBlank_eq_false_of_isDigit hdigit]; decide)
  · exact List.dropWhile_cons_of_neg (by decide)
  · exact List.dropWhile_cons_of_neg (by decide)

/-! ### Numerals -/

section Numerals

variable {text sign : List Char} {values : List Nat}

/-- From a digit on, the numeral takes all the digits there are. -/
theorem beginsWith_leadingDigits {blanks : List Char} {c : Char}
    (hblanks : ∀ c ∈ blanks, isBlank c = true) (hsign : sign ∈ [[], ['-'], ['+']])
    (hdigit : isDigit c = true) (rest : List Char) :
    BeginsWith (blanks ++ (sign ++ c :: rest)) sign (leadingDigits (c :: rest)) := by
  refine ⟨blanks, (c :: rest).takeWhile isDigit, (c :: rest).dropWhile isDigit, ?_, hblanks, hsign,
    forall₂_leadingDigits _, ?_, isDigit_head?_dropWhile _⟩
  · rw [List.takeWhile_append_dropWhile]
  · apply List.ne_nil_of_length_pos
    rw [length_leadingDigits, List.takeWhile_cons_of_pos hdigit]
    exact Nat.succ_pos _

theorem BeginsWithDigit.exists_beginsWith (hdigit : BeginsWithDigit text) :
    ∃ sign values, BeginsWith text sign values := by
  obtain ⟨blanks, sign, c, rest, rfl, hblanks, hsign, hc⟩ := hdigit
  exact ⟨sign, _, beginsWith_leadingDigits hblanks hsign hc rest⟩

theorem leadingNumeral?_eq_some_iff {numeral : Numeral} :
    leadingNumeral? text = some numeral
      ↔ numeral.negative = (leadingSign (text.dropWhile isBlank)).1
        ∧ numeral.digits = leadingDigits (leadingSign (text.dropWhile isBlank)).2
        ∧ numeral.digits ≠ [] := by
  rw [leadingNumeral?]
  obtain ⟨negative, digits⟩ := numeral
  generalize leadingSign (text.dropWhile isBlank) = signed
  obtain ⟨negative', rest⟩ := signed
  dsimp only
  cases leadingDigits rest with
  | nil => simp_all
  | cons d others => simp_all [eq_comm]

theorem leadingNumeral?_of_beginsWith (hbegins : BeginsWith text sign values) :
    leadingNumeral? text = some ⟨decide (sign = ['-']), values⟩ := by
  obtain ⟨blanks, digits, rest, rfl, hblanks, hsign, hdigits, hne, hrest⟩ := hbegins
  have hread := leadingDigits_append hdigits hrest
  -- The first digit is no blank and no sign, so the run is found behind both.
  obtain ⟨c, more, hcons, hc⟩ := exists_of_leadingDigits_ne_nil (hread.symm ▸ hne)
  rw [hcons] at hread ⊢
  rw [leadingNumeral?_eq_some_iff, dropWhile_blanks hblanks hsign hc, leadingSign_append hsign hc]
  exact ⟨rfl, hread.symm, hne⟩

theorem leadingNumeral?_eq_none (hdigit : ¬ BeginsWithDigit text) :
    leadingNumeral? text = none := by
  rw [Option.eq_none_iff_forall_ne_some]
  intro numeral hnumeral
  obtain ⟨-, hdigits, hne⟩ := leadingNumeral?_eq_some_iff.mp hnumeral
  obtain ⟨sign, rest, hsign, htext, hread⟩ := exists_sign (text.dropWhile isBlank)
  rw [hdigits, hread] at hne
  obtain ⟨c, more, rfl, hc⟩ := exists_of_leadingDigits_ne_nil hne
  apply hdigit
  refine ⟨text.takeWhile isBlank, sign, c, more, ?_, ?_, hsign, hc⟩
  · rw [← htext, List.takeWhile_append_dropWhile]
  · exact fun d hd => List.mem_takeWhile_imp hd

end Numerals

/-! ### Numbers -/

variable {text : String}

theorem leadingInt_of_beginsWith {sign : List Char} {values : List Nat}
    (hbegins : BeginsWith text.toList sign values) :
    leadingInt text
      = if values.length ≤ Numeral.digitLimit
        then .ok (Numeral.value ⟨decide (sign = ['-']), values⟩) else .error ⟨values.length⟩ := by
  rw [leadingInt, leadingNumeral?_of_beginsWith hbegins]

theorem leadingInt_of_not_beginsWithDigit (hdigit : ¬ BeginsWithDigit text.toList) :
    leadingInt text = .ok 0 := by
  rw [leadingInt, leadingNumeral?_eq_none hdigit]

/-- **Reading a number fails exactly on overlong numerals.** -/
theorem exists_leadingInt_eq_error_iff :
    (∃ e, leadingInt text = .error e) ↔ BeginsOversized text.toList := by
  constructor
  · rintro ⟨e, herror⟩
    by_cases hdigit : BeginsWithDigit text.toList
    · obtain ⟨sign, values, hbegins⟩ := hdigit.exists_beginsWith
      rw [leadingInt_of_beginsWith hbegins] at herror
      obtain ⟨blanks, digits, rest, htext, hblanks, hsign, hdigits, -, -⟩ := hbegins
      split at herror
      · cases herror
      · rename_i hlength
        refine ⟨blanks, sign, digits, rest, htext, hblanks, hsign, isDigit_of_forall₂ hdigits, ?_⟩
        rw [hdigits.length_eq]
        exact Nat.lt_of_not_le hlength
    · rw [leadingInt_of_not_beginsWithDigit hdigit] at herror
      cases herror
  · rintro ⟨blanks, sign, digits, rest, htext, hblanks, hsign, hdigits, hlength⟩
    have hlong := Nat.lt_of_lt_of_le hlength (le_length_leadingDigits hdigits rest)
    obtain ⟨c, more, rfl⟩ := List.exists_cons_of_length_pos (Nat.zero_lt_of_lt hlength)
    have hc := hdigits c List.mem_cons_self
    have hbegins := beginsWith_leadingDigits hblanks hsign hc (more ++ rest)
    rw [List.cons_append] at htext hlong
    rw [leadingInt_of_beginsWith (htext ▸ hbegins), if_neg (Nat.not_le_of_lt hlong)]
    exact ⟨_, rfl⟩

end JuceBuild.Text
