import JuceBuild.Proofs.Text.Case
import JuceBuild.Proofs.Xml.Document
import JuceBuild.Proofs.Xml.Written

/-!
# Reading what is written

Each reader takes from the front of a text what has been written there and leaves what comes after
it. Names, values and the attributes of a tag are read one after the other; tags and what stands
between them make up content.
-/

namespace JuceBuild.Xml

/-! ### Characters -/

theorem eq_of_isSpace {c : Char} (hspace : isSpace c = true) :
    c = ' ' ∨ c = '\t' ∨ c = '\n' ∨ c = '\r' := by
  simpa [isSpace, or_assoc] using hspace

/-- What ends a name: white space or a mark of the markup. -/
def isStop (c : Char) : Bool := isSpace c || c ∈ ['=', '>', '/', ';']

theorem isNameChar_of_isStop {c : Char} (hstop : isStop c = true) :
    Alphabet.standard.isNameChar c = false := by
  simp only [isStop, isSpace, Bool.or_eq_true, decide_eq_true_eq, List.mem_cons,
    List.not_mem_nil, or_false, or_assoc] at hstop
  obtain rfl | rfl | rfl | rfl | rfl | rfl | rfl | rfl := hstop <;> decide +kernel

theorem inRanges_of_mem {ranges : List (Nat × Nat)} {c : Char} (range : Nat × Nat)
    (hrange : range ∈ ranges) (hfirst : range.1 ≤ c.toNat) (hlast : c.toNat ≤ range.2) :
    Text.inRanges ranges c = true := by
  rw [Text.inRanges, List.any_eq_true]
  exact ⟨range, hrange, by simp [hfirst, hlast]⟩

theorem isNameStart_of_isPlainStart {c : Char} (hstart : isPlainStart c = true) :
    Alphabet.standard.isNameStart c = true := by
  simp only [isPlainStart, Bool.or_eq_true, Text.isAlpha_iff, decide_eq_true_eq] at hstart
  simp only [Alphabet.isNameStart, Bool.or_eq_true, decide_eq_true_eq]
  obtain (⟨hfirst, hlast⟩ | ⟨hfirst, hlast⟩) | hline := hstart
  · exact .inl (.inr (inRanges_of_mem (0x41, 0x5A) (by decide) hfirst hlast))
  · exact .inl (.inr (inRanges_of_mem (0x61, 0x7A) (by decide) hfirst hlast))
  · exact .inl (.inl hline)

theorem isNameChar_of_isPlainChar {c : Char} (hplain : isPlainChar c = true) :
    Alphabet.standard.isNameChar c = true := by
  simp only [isPlainChar, Char.isDigit, Bool.or_eq_true, Bool.and_eq_true, decide_eq_true_eq,
    UInt32.le_iff_toNat_le] at hplain
  simp only [Alphabet.isNameChar, Bool.or_eq_true, decide_eq_true_eq]
  obtain ((hstart | ⟨hfirst, hlast⟩) | hhyphen) | hstop := hplain
  · exact .inl (.inl (.inl (isNameStart_of_isPlainStart hstart)))
  · exact .inr (inRanges_of_mem (0x30, 0x39) (by decide) hfirst hlast)
  · exact .inl (.inl (.inr hhyphen))
  · exact .inl (.inr hstop)

/-! ### Names -/

/-- What may stand after a name. -/
def Stops (text : List Char) : Prop := ∃ c rest, text = c :: rest ∧ isStop c = true

theorem stops_cons {c : Char} (hstop : isStop c = true) (rest : List Char) : Stops (c :: rest) :=
  ⟨c, rest, rfl, hstop⟩

theorem stops_append {blank text : List Char} (hblank : IsWhiteSpace blank) (htext : Stops text) :
    Stops (blank ++ text) := by
  cases blank with
  | nil => exact htext
  | cons c blank =>
      have hspace : isSpace c = true := hblank c List.mem_cons_self
      exact stops_cons (by rw [isStop, hspace, Bool.true_or]) _

theorem exists_of_isPlainName {name : String} (hname : isPlainName name = true) :
    ∃ c rest, name.toList = c :: rest ∧ isPlainStart c = true
      ∧ ∀ d ∈ rest, isPlainChar d = true := by
  rw [isPlainName] at hname
  cases hchars : name.toList with
  | nil =>
      rw [hchars] at hname
      cases hname
  | cons c rest =>
      rw [hchars] at hname
      simp only [Bool.and_eq_true, List.all_eq_true] at hname
      exact ⟨c, rest, rfl, hname⟩

theorem isPlainChar_of_mem {name : String} {c : Char} (hname : isPlainName name = true)
    (hc : c ∈ name.toList) : isPlainChar c = true := by
  obtain ⟨first, more, hchars, hstart, hmore⟩ := exists_of_isPlainName hname
  rw [hchars, List.mem_cons] at hc
  obtain rfl | hc := hc
  · rw [isPlainChar, hstart, Bool.true_or, Bool.true_or, Bool.true_or]
  · exact hmore c hc

theorem name_append_ne {name : String} {c : Char} {rest other : List Char}
    (hname : isPlainName name = true) (hc : isPlainStart c = false) :
    name.toList ++ rest ≠ c :: other := by
  obtain ⟨first, more, hchars, hstart, -⟩ := exists_of_isPlainName hname
  intro heq
  rw [hchars, List.cons_append, List.cons.injEq] at heq
  rw [heq.1, hc] at hstart
  cases hstart

theorem name?_append {name : String} {rest : List Char} (hname : isPlainName name = true)
    (hrest : Stops rest) :
    Alphabet.standard.name? (name.toList ++ rest) = some (name.toList, rest) := by
  obtain ⟨c, more, hchars, hstart, hmore⟩ := exists_of_isPlainName hname
  obtain ⟨stop, rest, rfl, hstop⟩ := hrest
  have hall : ∀ d ∈ more, Alphabet.standard.isNameChar d = true :=
    fun d hd => isNameChar_of_isPlainChar (hmore d hd)
  have hnone : ¬Alphabet.standard.isNameChar stop = true :=
    Bool.eq_false_iff.mp (isNameChar_of_isStop hstop)
  rw [hchars, List.cons_append, Alphabet.name?, if_pos (isNameStart_of_isPlainStart hstart),
    List.takeWhile_append_of_pos hall, List.dropWhile_append_of_pos hall,
    List.takeWhile_cons_of_neg hnone, List.dropWhile_cons_of_neg hnone, List.append_nil]

theorem qualifiedName?_append {name : String} {rest : List Char} (hname : isPlainName name = true)
    (hrest : Stops rest) :
    Alphabet.standard.qualifiedName? (name.toList ++ rest) = some (name.toList, rest) := by
  rw [Alphabet.qualifiedName?, name?_append hname hrest]
  obtain ⟨stop, rest, rfl, hstop⟩ := hrest
  split
  · rename_i heq
    cases heq
  · rename_i heq
    cases heq
    exact absurd hstop (by decide)
  · rename_i heq
    cases heq
    rfl

/-! ### White space -/

theorem isWhiteSpace_nil : IsWhiteSpace [] := fun _ hc => absurd hc List.not_mem_nil

theorem head?_whiteSpace {blank : List Char} (hne : blank ≠ []) (hblank : IsWhiteSpace blank)
    (rest : List Char) : (blank ++ rest).head?.any isSpace = true := by
  obtain ⟨c, blank, rfl⟩ := List.exists_cons_of_ne_nil hne
  exact hblank c List.mem_cons_self

theorem skipSpace_append {blank : List Char} (hblank : IsWhiteSpace blank) (text : List Char) :
    skipSpace (blank ++ text) = skipSpace text := by
  rw [skipSpace, skipSpace, List.dropWhile_append_of_pos hblank]

theorem skipSpace_cons {c : Char} (hspace : isSpace c = false) (text : List Char) :
    skipSpace (c :: text) = c :: text := by
  rw [skipSpace, List.dropWhile_cons_of_neg (Bool.eq_false_iff.mp hspace)]

theorem skipSpace_name {name : String} (hname : isPlainName name = true) (text : List Char) :
    skipSpace (name.toList ++ text) = name.toList ++ text := by
  obtain ⟨c, rest, hchars, hstart, -⟩ := exists_of_isPlainName hname
  have hspace : isSpace c = false := by
    rw [Bool.eq_false_iff]
    intro hspace
    obtain rfl | rfl | rfl | rfl := eq_of_isSpace hspace <;> exact absurd hstart (by decide)
  rw [hchars, List.cons_append, skipSpace_cons hspace]

/-! ### Values -/

/-- What a character of a value is read as. -/
def pieceOf : Char → Piece
  | '&' => .entity "amp"
  | '<' => .entity "lt"
  | '>' => .entity "gt"
  | '"' => .entity "quot"
  | c => .char c

def rawOf (entry : String × String) : RawAttribute := ⟨entry.1, entry.2.toList.map pieceOf⟩

theorem reference?_name (name : String) (hname : isPlainName name = true) (rest : List Char) :
    reference? .standard (name.toList ++ ';' :: rest) = some (.entity name, rest) := by
  have hread := name?_append hname (stops_cons (c := ';') rfl rest)
  rw [reference?]
  · simp only [hread, String.ofList_toList]
  · exact fun other => name_append_ne hname rfl
  · exact fun other => name_append_ne hname rfl

theorem valuePieces?_of_reference? {text rest : List Char} {piece : Piece}
    (hread : reference? .standard text = some (piece, rest)) :
    valuePieces? .standard ('&' :: text) = (valuePieces? .standard rest).map (piece :: ·) := by
  rw [valuePieces?]
  split
  · rename_i hnone
    rw [hread] at hnone
    cases hnone
  · rename_i hsome
    rw [hread] at hsome
    cases hsome
    rfl

theorem valuePieces?_escaped (c : Char) (rest : List Char) :
    valuePieces? .standard (escaped c ++ rest)
      = (valuePieces? .standard rest).map (pieceOf c :: ·) := by
  unfold escaped
  split
  · exact valuePieces?_of_reference? (reference?_name "amp" (by decide) rest)
  · exact valuePieces?_of_reference? (reference?_name "lt" (by decide) rest)
  · exact valuePieces?_of_reference? (reference?_name "gt" (by decide) rest)
  · exact valuePieces?_of_reference? (reference?_name "quot" (by decide) rest)
  · exact valuePieces?_of_reference? rfl
  · exact valuePieces?_of_reference? rfl
  · exact valuePieces?_of_reference? rfl
  · rename_i hamp hlt hgt hquot htab hfeed hreturn
    have hspace : (if isSpace c then ' ' else c) = c := by
      split
      · rename_i hspace
        obtain rfl | rfl | rfl | rfl := eq_of_isSpace hspace
        · rfl
        · exact absurd rfl htab
        · exact absurd rfl hfeed
        · exact absurd rfl hreturn
      · rfl
    have hpiece : pieceOf c = .char c := by rw [pieceOf] <;> assumption
    rw [List.singleton_append, valuePieces?, hspace, hpiece]
    · exact hlt
    · exact hamp
    · exact fun rest hc => absurd hc hreturn

theorem valuePieces?_flatMap_escaped (value : List Char) :
    valuePieces? .standard (value.flatMap escaped) = some (value.map pieceOf) := by
  induction value with
  | nil => rw [List.flatMap_nil, valuePieces?, List.map_nil]
  | cons c value ih =>
      rw [List.flatMap_cons, valuePieces?_escaped, ih, List.map_cons]
      rfl

theorem quote_notMem_escaped (c : Char) : '"' ∉ escaped c := by
  unfold escaped
  split
  case h_8 hamp hlt hgt hquot htab hfeed hreturn =>
    rw [List.mem_singleton]
    exact fun heq => hquot heq.symm
  all_goals decide

theorem quotedText?_append (quote : Char) (hquote : quote = '"' ∨ quote = '\'')
    {value : List Char} (hvalue : quote ∉ value) (rest : List Char) :
    quotedText? (quote :: (value ++ quote :: rest)) = some (value, rest) := by
  have hall : ∀ c ∈ value, decide (c ≠ quote) = true := by
    intro c hc
    rw [decide_eq_true_eq]
    exact fun heq => hvalue (heq ▸ hc)
  rw [quotedText?, if_pos hquote, List.dropWhile_append_of_pos hall,
    List.takeWhile_append_of_pos hall]
  simp

/-! ### Tags -/

theorem attribute?_append {name : String} {left right : List Char} (value : String)
    (hname : isPlainName name = true) (hleft : IsWhiteSpace left) (hright : IsWhiteSpace right)
    (rest : List Char) :
    attribute? .standard (name.toList ++ (left ++ '=' :: (right ++
        '"' :: (value.toList.flatMap escaped ++ '"' :: rest))))
      = some (rawOf (name, value), rest) := by
  have hstops : Stops (left ++ '=' :: (right ++
      '"' :: (value.toList.flatMap escaped ++ '"' :: rest))) :=
    stops_append hleft (stops_cons rfl _)
  have hvalue : '"' ∉ value.toList.flatMap escaped := by
    rw [List.mem_flatMap]
    rintro ⟨c, -, hc⟩
    exact quote_notMem_escaped c hc
  rw [attribute?, qualifiedName?_append hname hstops]
  simp only [skipSpace_append hleft, skipSpace_append hright, skipSpace_cons (c := '=') rfl,
    skipSpace_cons (c := '"') rfl, quotedText?_append '"' (.inl rfl) hvalue,
    valuePieces?_flatMap_escaped, Option.map_some, String.ofList_toList, rawOf]

theorem tagEnd?_name {name : String} (hname : isPlainName name = true) (rest : List Char) :
    tagEnd? (name.toList ++ rest) = none := by
  rw [tagEnd?]
  · exact fun other => name_append_ne hname rfl
  · exact fun other => name_append_ne hname rfl

theorem tagRest?_append {attributes : List (String × String)} {text tail rest : List Char}
    {isEmpty : Bool} (hattributes : AttributesText attributes text)
    (hnames : ∀ entry ∈ attributes, isPlainName entry.1 = true)
    (htail : tagEnd? (skipSpace tail) = some (isEmpty, rest)) :
    tagRest? .standard (text ++ tail) = some (attributes.map rawOf, isEmpty, rest) := by
  induction hattributes with
  | nil =>
      rw [List.nil_append, tagRest?, htail]
      rfl
  | @cons name value attributes before left right text hne hbefore hleft hright _ ih =>
      have hname : isPlainName name = true := hnames _ List.mem_cons_self
      have ih := ih fun entry hentry => hnames entry (List.mem_cons_of_mem _ hentry)
      have hattribute := attribute?_append value hname hleft hright (text ++ tail)
      simp only [List.append_assoc, List.cons_append]
      rw [tagRest?, skipSpace_append hbefore, skipSpace_name hname, tagEnd?_name hname,
        if_pos (head?_whiteSpace hne hbefore _)]
      dsimp only
      split
      · rename_i hread
        rw [hattribute] at hread
        cases hread
      · rename_i hread
        rw [hattribute] at hread
        cases hread
        rw [ih]
        rfl

end JuceBuild.Xml
