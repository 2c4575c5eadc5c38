import JuceBuild.Proofs.Xml.Content

/-!
# Reading a declaration for UTF-8

A declaration consists of ASCII characters, so it can be read before the encoding is known, and what
comes after it is found by counting octets. A declaration for UTF-8 changes nothing about the
encoding.
-/

namespace JuceBuild.Xml

/-! ### ASCII characters -/

def IsAscii (text : List Char) : Prop := ∀ c ∈ text, c.toNat < 128

theorem isAscii_nil : IsAscii [] := fun _ hc => absurd hc List.not_mem_nil

theorem isAscii_append {left right : List Char} (hleft : IsAscii left) (hright : IsAscii right) :
    IsAscii (left ++ right) := List.forall_mem_append.mpr ⟨hleft, hright⟩

theorem isAscii_cons {c : Char} {text : List Char} (hc : c.toNat < 128) (htext : IsAscii text) :
    IsAscii (c :: text) := List.forall_mem_cons.mpr ⟨hc, htext⟩

theorem toNat_of_isSpace {c : Char} (hspace : isSpace c = true) :
    0 < c.toNat ∧ c.toNat < 128 := by
  obtain rfl | rfl | rfl | rfl := eq_of_isSpace hspace <;> decide

theorem isAscii_whiteSpace {blank : List Char} (hblank : IsWhiteSpace blank) : IsAscii blank :=
  fun c hc => (toNat_of_isSpace (hblank c hc)).2

theorem encode_cons_ascii {c : Char} (hc : c.toNat < 128) (text : List Char) :
    Text.Utf8.encode (c :: text) = UInt8.ofNat c.toNat :: Text.Utf8.encode text := by
  rw [Text.Utf8.encode_cons, Text.Utf8.utf8EncodeChar_ascii hc, List.singleton_append]

theorem length_encode_ascii {text : List Char} (htext : IsAscii text) :
    (Text.Utf8.encode text).length = text.length := by
  induction text with
  | nil => rw [Text.Utf8.encode_nil]; rfl
  | cons c text ih =>
      obtain ⟨hc, hrest⟩ := List.forall_mem_cons.mp htext
      rw [encode_cons_ascii hc, List.length_cons, List.length_cons, ih hrest]

theorem leadingAscii_encode_append {text : List Char} (htext : IsAscii text) (rest : List Char) :
    Encoding.utf8.leadingAscii (Text.Utf8.encode (text ++ rest))
      = text ++ Encoding.utf8.leadingAscii (Text.Utf8.encode rest) := by
  induction text with
  | nil => rfl
  | cons c text ih =>
      obtain ⟨hc, hrest⟩ := List.forall_mem_cons.mp htext
      have hoctet : (UInt8.ofNat c.toNat).toNat = c.toNat :=
        UInt8.toNat_ofNat_of_lt' (Nat.lt_trans hc (by decide))
      have hsmall : UInt8.ofNat c.toNat < 0x80 := by
        rw [UInt8.lt_iff_toNat_lt, hoctet]
        exact hc
      rw [List.cons_append, encode_cons_ascii hc, Encoding.leadingAscii, if_pos hsmall, hoctet,
        Char.ofNat_toNat, ih hrest, List.cons_append]
      all_goals exact nofun

/-- What comes after ASCII characters is found by counting characters. -/
theorem drop_encode_append {text : List Char} (htext : IsAscii text) (rest : List Char) :
    (Text.Utf8.encode (text ++ rest)).drop
        (((text ++ Encoding.utf8.leadingAscii (Text.Utf8.encode rest)).length
          - (Encoding.utf8.leadingAscii (Text.Utf8.encode rest)).length)
            * Encoding.utf8.unitSize)
      = Text.Utf8.encode rest := by
  rw [List.length_append, Nat.add_sub_cancel, Encoding.unitSize, Nat.mul_one,
    Text.Utf8.encode_append, ← length_encode_ascii htext, List.drop_left]
  exact nofun

/-! ### Settings -/

theorem dropStart?_append (start rest : List Char) :
    dropStart? start (start ++ rest) = some rest := by
  rw [dropStart?, if_pos (List.isPrefixOf_iff_prefix.mpr (List.prefix_append start rest)),
    List.drop_left]

namespace XmlDeclaration

theorem isValueChar_eq_isPlainChar (c : Char) : isValueChar c = isPlainChar c := by
  rw [isValueChar, isPlainChar, isPlainStart, Char.isAlphanum]
  ac_rfl

theorem setting?_append {name value : String} {text : List Char}
    (hname : isPlainName name = true) (hvalue : ∀ c ∈ value.toList, isPlainChar c = true)
    (htext : SettingText name value text) (rest : List Char) :
    setting? name (text ++ rest) = some (value, rest) := by
  obtain ⟨hne, hbefore, hleft, hright, hquote⟩ := htext
  rename_i before left right quote
  have hquoteSpace : isSpace quote = false := by
    obtain rfl | rfl := hquote <;> rfl
  have hquoteValue : ¬isValueChar quote = true := by
    obtain rfl | rfl := hquote <;> decide
  have hall : ∀ c ∈ value.toList, isValueChar c = true := by
    intro c hc
    rw [isValueChar_eq_isPlainChar]
    exact hvalue c hc
  simp only [List.append_assoc, List.cons_append, List.nil_append]
  rw [setting?, head?_whiteSpace hne hbefore, Bool.not_true, if_neg Bool.false_ne_true,
    skipSpace_append hbefore, skipSpace_name hname, dropStart?_append]
  simp only [skipSpace_append hleft, skipSpace_append hright, skipSpace_cons (c := '=') rfl,
    skipSpace_cons hquoteSpace, List.takeWhile_append_of_pos hall,
    List.dropWhile_append_of_pos hall, List.takeWhile_cons_of_neg hquoteValue,
    List.dropWhile_cons_of_neg hquoteValue, List.append_nil, hquote, List.head?_cons, and_self,
    if_true, String.ofList_toList, List.drop_one, List.tail_cons]

theorem setting?_eq_none {name : String} {text : List Char}
    (htext : dropStart? name.toList (skipSpace text) = none) : setting? name text = none := by
  rw [setting?, htext]
  split <;> rfl

/-- What a setting that may be left out comes to, and the text after it. -/
def optionalSetting (name : String) (text : List Char) : Option String × List Char :=
  match setting? name text with
  | some (value, rest) => (some value, rest)
  | none => (none, text)

/-- Whether a setting is left out shows in what comes after the white space. -/
theorem exists_optionalSetting_append {name : String} {IsValue : String → Prop}
    {text rest : List Char} (hname : isPlainName name = true)
    (hvalues : ∀ value, IsValue value → ∀ c ∈ value.toList, isPlainChar c = true)
    (htext : OptionalText name IsValue text)
    (hrest : dropStart? name.toList (skipSpace rest) = none) :
    ∃ value?, optionalSetting name (text ++ rest) = (value?, rest)
      ∧ ∀ value ∈ value?, IsValue value := by
  obtain rfl | ⟨value, hvalue, htext⟩ := htext
  · refine ⟨none, ?_, nofun⟩
    rw [optionalSetting, List.nil_append, setting?_eq_none hrest]
  · refine ⟨some value, ?_, ?_⟩
    · rw [optionalSetting, setting?_append hname (hvalues value hvalue) htext]
    · rintro other ⟨⟩
      exact hvalue

theorem read?_eq (text : List Char) :
    read? text = match setting? "version" text with
      | none => none
      | some (_, afterVersion) =>
        let encoding := optionalSetting "encoding" afterVersion
        let standalone := optionalSetting "standalone" encoding.2
        if encoding.1.any fun name => !name.toList.head?.any Char.isAlpha then none
        else if standalone.1.any fun answer => answer ≠ "yes" && answer ≠ "no" then none
        else
          match skipSpace standalone.2 with
          | '?' :: '>' :: rest => some (⟨encoding.1, standalone.1 = some "yes"⟩, rest)
          | _ => none := rfl

/-! ### Declarations -/

theorem isPlainChar_of_toLower {c : Char} (hc : isPlainChar c.toLower = true) :
    isPlainChar c = true := by
  obtain heq | halpha := Text.toLower_eq_or_isAlpha c
  · rwa [heq] at hc
  · simp only [isPlainChar, isPlainStart, halpha, Bool.true_or]

/-- The name of UTF-8 in upper case, in lower case or in both. -/
theorem chars_of_toLower_eq {name : String} (hname : name.toLower = "utf-8") :
    (∀ c ∈ name.toList, isPlainChar c = true) ∧ name.toList.head?.any Char.isAlpha = true := by
  have hchars : name.toList.map Char.toLower = "utf-8".toList := by
    rw [← Text.toList_toLower, hname]
  constructor
  · intro c hc
    have hplain : ∀ d ∈ "utf-8".toList, isPlainChar d = true := List.all_eq_true.mp rfl
    refine isPlainChar_of_toLower (hplain _ ?_)
    rw [← hchars]
    exact List.mem_map_of_mem hc
  · cases hcases : name.toList with
    | nil =>
        rw [hcases] at hchars
        cases hchars
    | cons c rest =>
        rw [hcases] at hchars
        have hlower : c.toLower = 'u' := (List.cons.inj hchars).1
        rw [List.head?_cons, Option.any_some]
        obtain heq | halpha := Text.toLower_eq_or_isAlpha c
        · rw [← heq, hlower]
          rfl
        · exact halpha

theorem isPlainChar_version : ∀ c ∈ "1.0".toList, isPlainChar c = true := List.all_eq_true.mp rfl

theorem isPlainChar_encoding (name : String) (hname : name.toLower = "utf-8") :
    ∀ c ∈ name.toList, isPlainChar c = true := (chars_of_toLower_eq hname).1

theorem isPlainChar_answer (answer : String) (hanswer : answer ∈ ["yes", "no"]) :
    ∀ c ∈ answer.toList, isPlainChar c = true := by
  simp only [List.mem_cons, List.not_mem_nil, or_false] at hanswer
  obtain rfl | rfl := hanswer <;> exact List.all_eq_true.mp rfl

theorem skipSpace_setting {name value : String} {text : List Char}
    (hname : isPlainName name = true) (htext : SettingText name value text) (rest : List Char) :
    ∃ more, skipSpace (text ++ rest) = name.toList ++ more := by
  obtain ⟨-, hbefore, -, -, -⟩ := htext
  simp only [List.append_assoc]
  rw [skipSpace_append hbefore, skipSpace_name hname]
  exact ⟨_, rfl⟩

theorem read?_append {declaration : List Char} (hdeclaration : DeclarationText declaration)
    (rest : List Char) :
    ∃ encoding? isStandalone, read? (declaration ++ rest) = some (⟨encoding?, isStandalone⟩, rest)
      ∧ ∀ name ∈ encoding?, name.toLower = "utf-8" := by
  obtain ⟨hversion, hencoding, hstandalone, hblank⟩ := hdeclaration
  rename_i version encoding standalone blank
  have hend : skipSpace (blank ++ '?' :: '>' :: rest) = '?' :: '>' :: rest := by
    rw [skipSpace_append hblank, skipSpace_cons rfl]
  have hnoStandalone : dropStart? "standalone".toList (skipSpace (blank ++ '?' :: '>' :: rest))
      = none := by
    rw [hend]
    rfl
  have hnoEncoding : dropStart? "encoding".toList
      (skipSpace (standalone ++ (blank ++ '?' :: '>' :: rest))) = none := by
    obtain rfl | ⟨answer, -, htext⟩ := hstandalone
    · rw [List.nil_append, hend]
      rfl
    · obtain ⟨more, hskip⟩ := skipSpace_setting (by decide) htext (blank ++ '?' :: '>' :: rest)
      rw [hskip]
      rfl
  obtain ⟨encoding?, hencodingRead, hnames⟩ := exists_optionalSetting_append (by decide)
    isPlainChar_encoding hencoding hnoEncoding
  obtain ⟨standalone?, hstandaloneRead, hgiven⟩ := exists_optionalSetting_append (by decide)
    isPlainChar_answer hstandalone hnoStandalone
  have hletter : (encoding?.any fun name => !name.toList.head?.any Char.isAlpha) = false := by
    cases encoding? with
    | none => rfl
    | some name =>
        rw [Option.any_some, (chars_of_toLower_eq (hnames name rfl)).2]
        rfl
  have hanswer : (standalone?.any fun answer => answer ≠ "yes" && answer ≠ "no") = false := by
    cases standalone? with
    | none => rfl
    | some answer =>
        have hmem := hgiven answer rfl
        simp only [List.mem_cons, List.not_mem_nil, or_false] at hmem
        obtain rfl | rfl := hmem <;> rfl
  refine ⟨encoding?, standalone? = some "yes", ?_, hnames⟩
  simp only [List.append_assoc, List.cons_append, List.nil_append]
  rw [read?_eq, setting?_append (by decide) isPlainChar_version hversion]
  dsimp only
  rw [hencodingRead]
  dsimp only
  rw [hstandaloneRead]
  dsimp only
  rw [hletter, if_neg Bool.false_ne_true, hanswer, if_neg Bool.false_ne_true, hend]
  rfl

/-! ### Declarations among octets -/

theorem isAscii_of_isPlainChar {text : List Char} (htext : ∀ c ∈ text, isPlainChar c = true) :
    IsAscii text := by
  intro c hc
  have hcode := toNat_of_isPlainChar (htext c hc)
  omega

theorem isAscii_setting {name value : String} {text : List Char}
    (hname : isPlainName name = true) (hvalue : ∀ c ∈ value.toList, isPlainChar c = true)
    (htext : SettingText name value text) : IsAscii text := by
  obtain ⟨-, hbefore, hleft, hright, hquote⟩ := htext
  rename_i quote
  have hquoteCode : quote.toNat < 128 := by
    obtain rfl | rfl := hquote <;> decide
  have hquoted := isAscii_cons hquoteCode (isAscii_append (isAscii_of_isPlainChar hvalue)
    (isAscii_cons hquoteCode isAscii_nil))
  exact isAscii_append (isAscii_whiteSpace hbefore)
    (isAscii_append (isAscii_of_isPlainChar fun c hc => isPlainChar_of_mem hname hc)
      (isAscii_append (isAscii_whiteSpace hleft) (isAscii_cons (c := '=') (by decide)
        (isAscii_append (isAscii_whiteSpace hright) hquoted))))

theorem isAscii_optional {name : String} {IsValue : String → Prop} {text : List Char}
    (hname : isPlainName name = true)
    (hvalues : ∀ value, IsValue value → ∀ c ∈ value.toList, isPlainChar c = true)
    (htext : OptionalText name IsValue text) : IsAscii text := by
  obtain rfl | ⟨value, hvalue, htext⟩ := htext
  · exact isAscii_nil
  · exact isAscii_setting hname (hvalues value hvalue) htext

theorem isAscii_declaration {declaration : List Char}
    (hdeclaration : DeclarationText declaration) : IsAscii declaration := by
  obtain ⟨hversion, hencoding, hstandalone, hblank⟩ := hdeclaration
  exact isAscii_append (isAscii_setting (by decide) isPlainChar_version hversion)
    (isAscii_append (isAscii_optional (by decide) isPlainChar_encoding hencoding)
      (isAscii_append (isAscii_optional (by decide) isPlainChar_answer hstandalone)
        (isAscii_append (isAscii_whiteSpace hblank) (isAscii_cons (c := '?') (by decide)
          (isAscii_cons (c := '>') (by decide) isAscii_nil)))))

/-- A declaration begins with white space. -/
theorem head?_declaration {declaration : List Char} (hdeclaration : DeclarationText declaration)
    (rest : List Char) : (declaration ++ rest).head?.any isSpace = true := by
  obtain ⟨⟨hne, hbefore, -, -, -⟩, -, -, -⟩ := hdeclaration
  simp only [List.append_assoc]
  exact head?_whiteSpace hne hbefore _

end XmlDeclaration

theorem Encoding.declared_utf8 {name : String} (hname : name.toLower = "utf-8") :
    Encoding.utf8.declared name = .ok (some .utf8) := by
  rw [declared, hname]
  rfl

end JuceBuild.Xml
