import JuceBuild.Module.Reference
import JuceBuild.Proofs.Text.Lines
import JuceBuild.Proofs.Text.Utf8

/-!
# Lines of a module header

A header is searched line by line, and no line has a say in what another one declares. Headers come
in any encoding and with any line ends, mixed ones among them, so this is about octets: the octets
of a fragment are the same fragment alone and among others. Three things could go wrong where
fragments meet. A sequence that is cut off could swallow the line end; it does not, since a line end
is ASCII. A carriage return could become one line end with the line feed that the next fragment
begins with; then only an empty line is lost. And a line boundary of another kind cuts a fragment,
but the same way alone and among others.
-/

namespace JuceBuild.ModuleHeader

open Text (isLineBoundary isWordChar)

/-- The characters that a header is read as, or a fragment of one. -/
def characters (content : ByteArray) : List Char := Text.Utf8.decodeLenient content.data.toList

theorem options_eq (content : ByteArray) : options content = optionsOf (characters content) := rfl

/-! ### Options of a text -/

/-- Lines that are empty declare nothing, so line boundaries count one by one. -/
theorem optionsOf_eq (text : List Char) :
    optionsOf text = (text.splitOnP isLineBoundary).filterMap optionOf? :=
  Text.filterMap_lines_normalizeNewlines rfl text

theorem optionsOf_append_cons {c : Char} (hc : isLineBoundary c = true) (text rest : List Char) :
    optionsOf (text ++ c :: rest) = optionsOf text ++ optionsOf rest := by
  rw [optionsOf_eq, optionsOf_eq, optionsOf_eq, List.splitOnP_append_cons text rest hc,
    List.filterMap_append]

theorem optionsOf_of_line {line : List Char} (hline : ∀ c ∈ line, isLineBoundary c = false) :
    optionsOf line = (optionOf? line).toList := by
  rw [optionsOf_eq, List.splitOnP_eq_singleton hline]
  cases hoption : optionOf? line with
  | none => rw [List.filterMap_cons_none hoption, List.filterMap_nil, Option.toList_none]
  | some option => rw [List.filterMap_cons_some hoption, List.filterMap_nil, Option.toList_some]

/-- A line declares the word characters behind the marker. -/
theorem optionOf?_marker_append {name tail : List Char} (hne : name ≠ [])
    (hname : ∀ c ∈ name, isWordChar c = true) (htail : tail.takeWhile isWordChar = []) :
    optionOf? (marker ++ (name ++ tail)) = some (String.ofList name) := by
  have hprefix : marker.isPrefixOf (marker ++ (name ++ tail)) = true :=
    List.isPrefixOf_iff_prefix.mpr (List.prefix_append _ _)
  rw [optionOf?, if_pos hprefix, List.drop_left, List.takeWhile_append_of_pos hname, htail,
    List.append_nil]
  split
  · contradiction
  · rfl

theorem optionOf?_eq_none {line : List Char}
    (hline : ∀ c, isWordChar c = true → ¬ marker ++ [c] <+: line) : optionOf? line = none := by
  rw [optionOf?]
  split
  · rename_i hprefix
    obtain ⟨rest, rfl⟩ := List.isPrefixOf_iff_prefix.mp hprefix
    rw [List.drop_left]
    cases rest with
    | nil => rfl
    | cons c rest =>
        have hc : ¬ isWordChar c = true := fun hc => hline c hc ⟨rest, List.append_assoc _ _ _⟩
        rw [List.takeWhile_cons_of_neg hc]
  · rfl

/-! ### Fragments of a header -/

/-- A line end, in one of the three conventions. -/
inductive LineEnd where
  | lf
  | crlf
  | cr
  deriving DecidableEq, Repr

def LineEnd.octets : LineEnd → ByteArray
  | .lf => "\n".toUTF8
  | .crlf => "\r\n".toUTF8
  | .cr => "\r".toUTF8

/-- A header of fragments: the first one, and the others with the line ends in front of them. -/
def joined (first : ByteArray) : List (LineEnd × ByteArray) → ByteArray
  | [] => first
  | (lineEnd, fragment) :: rest => first ++ lineEnd.octets ++ joined fragment rest

/-- A line boundary of one octet ends a line, whatever the octets before it are. -/
theorem optionsOf_append_octet {n : Nat} (hn : n < 128)
    (hboundary : isLineBoundary (Char.ofNat n) = true) (octets rest : List UInt8) :
    optionsOf (Text.Utf8.decodeLenient (octets ++ UInt8.ofNat n :: rest))
      = optionsOf (Text.Utf8.decodeLenient octets) ++ optionsOf (Text.Utf8.decodeLenient rest) := by
  have hascii : UInt8.ofNat n < 0x80 := by
    rw [UInt8.lt_iff_toNat_lt, UInt8.toNat_ofNat_of_lt' (Nat.lt_trans hn (by decide))]
    exact hn
  rw [Text.Utf8.decodeLenient_append_of_ascii hascii, Text.Utf8.decodeLenient_cons hn,
    optionsOf_append_cons hboundary]

theorem options_append_lineEnd (first : ByteArray) (lineEnd : LineEnd) (rest : ByteArray) :
    options (first ++ lineEnd.octets ++ rest) = options first ++ options rest := by
  rw [options, ByteArray.toList_data_append, ByteArray.toList_data_append, List.append_assoc]
  cases lineEnd with
  | lf =>
      have hlf : LineEnd.lf.octets.data.toList = [UInt8.ofNat 10] := rfl
      rw [hlf, List.singleton_append]
      exact optionsOf_append_octet (by decide) rfl first.data.toList rest.data.toList
  | crlf =>
      have hcrlf : LineEnd.crlf.octets.data.toList = [UInt8.ofNat 13, UInt8.ofNat 10] := rfl
      have hempty := optionsOf_append_octet (n := 10) (by decide) rfl [] rest.data.toList
      rw [Text.Utf8.decodeLenient_nil, List.nil_append] at hempty
      rw [hcrlf, List.cons_append, List.singleton_append, optionsOf_append_octet (by decide) rfl,
        hempty]
      rfl
  | cr =>
      have hcr : LineEnd.cr.octets.data.toList = [UInt8.ofNat 13] := rfl
      rw [hcr, List.singleton_append]
      exact optionsOf_append_octet (by decide) rfl first.data.toList rest.data.toList

theorem options_joined (first : ByteArray) (rest : List (LineEnd × ByteArray)) :
    options (joined first rest) = options first ++ rest.flatMap fun piece => options piece.2 := by
  induction rest generalizing first with
  | nil => rw [joined, List.flatMap_nil, List.append_nil]
  | cons piece rest ih =>
      obtain ⟨lineEnd, fragment⟩ := piece
      rw [joined, options_append_lineEnd, ih, List.flatMap_cons]

/-! ### One fragment -/

theorem isLineBoundary_of_isWordChar {c : Char} (hc : isWordChar c = true) :
    isLineBoundary c = false := by
  cases hboundary : isLineBoundary c with
  | false => rfl
  | true =>
      rw [isLineBoundary, decide_eq_true_eq] at hboundary
      have hnone : ['\n', '\x0b', '\x0c', '\r', '\x1c', '\x1d', '\x1e', '\u0085', '\u2028',
          '\u2029'].any isWordChar = false := by decide +kernel
      exact absurd hc (List.any_eq_false.mp hnone c hboundary)

theorem characters_toUTF8_append (text : String) (rest : ByteArray) :
    characters (text.toUTF8 ++ rest) = text.toList ++ characters rest := by
  have hoctets : text.toUTF8.data.toList = Text.Utf8.encode text.toList := by
    rw [Text.Utf8.encode, String.ofList_toList]
  rw [characters, ByteArray.toList_data_append, hoctets, Text.Utf8.decodeLenient_encode_append]
  rfl

theorem characters_toUTF8 (text : String) : characters text.toUTF8 = text.toList := by
  have hempty : characters ByteArray.empty = [] := Text.Utf8.decodeLenient_nil
  have happend := characters_toUTF8_append text ByteArray.empty
  rwa [ByteArray.append_empty, hempty, List.append_nil] at happend

/-- A fragment with the marker, a name and something in the line that is no part of the name. -/
theorem options_declaration {name : String} {tail : ByteArray} (hne : name ≠ "")
    (hname : ∀ c ∈ name.toList, isWordChar c = true)
    (htail : ∀ c ∈ characters tail, isLineBoundary c = false)
    (hend : ∀ c ∈ (characters tail).head?, isWordChar c = false) :
    options (("/** Config: " ++ name).toUTF8 ++ tail) = [name] := by
  have htext : ("/** Config: " ++ name).toList ++ characters tail
      = marker ++ (name.toList ++ characters tail) := by
    rw [String.toList_append, List.append_assoc]
    rfl
  have hline : ∀ c ∈ marker ++ (name.toList ++ characters tail), isLineBoundary c = false := by
    intro c hc
    rw [List.mem_append, List.mem_append] at hc
    rcases hc with hc | hc | hc
    · have hmarker : marker.any isLineBoundary = false := by decide
      exact Bool.eq_false_iff.mpr (List.any_eq_false.mp hmarker c hc)
    · exact isLineBoundary_of_isWordChar (hname c hc)
    · exact htail c hc
  have htake : (characters tail).takeWhile isWordChar = [] := by
    cases hcharacters : characters tail with
    | nil => rfl
    | cons c rest =>
        have hc := hend c (by rw [hcharacters, List.head?_cons, Option.mem_def])
        rw [List.takeWhile_cons_of_neg (by rw [hc]; exact Bool.false_ne_true)]
  have hnonempty : name.toList ≠ [] := mt String.toList_eq_nil_iff.mp hne
  rw [options_eq, characters_toUTF8_append, htext, optionsOf_of_line hline,
    optionOf?_marker_append hnonempty hname htake, String.ofList_toList, Option.toList_some]

/-- A fragment in one line without the marker, or without a name behind it. -/
theorem options_eq_nil {content : ByteArray}
    (hcontent : ∀ c ∈ characters content, isLineBoundary c = false)
    (hmarker : ∀ c, isWordChar c = true → ¬ marker ++ [c] <+: characters content) :
    options content = [] := by
  rw [options_eq, optionsOf_of_line hcontent, optionOf?_eq_none hmarker, Option.toList_none]

/-! ### Scanning -/

/-- **Headers are scanned line by line.** What a header declares is what its fragments declare, one
after the other, whatever their octets and the line ends between them are. A fragment of one line
declares the name behind the marker; without marker and name it declares nothing. -/
theorem scanHeader_joined :
    (∀ (store : FileStore) (path : Path) (first : ByteArray) (rest : List (LineEnd × ByteArray)),
      store.read path = .ok (joined first rest) →
        ModuleReference.scanHeader store path
          = .ok (options first ++ rest.flatMap fun piece => options piece.2))
    ∧ (∀ (name : String) (tail : ByteArray), name ≠ "" →
      (∀ c ∈ name.toList, isWordChar c = true) →
      (∀ c ∈ characters tail, isLineBoundary c = false) →
      (∀ c ∈ (characters tail).head?, isWordChar c = false) →
        options (("/** Config: " ++ name).toUTF8 ++ tail) = [name])
    ∧ ∀ content : ByteArray, (∀ c ∈ characters content, isLineBoundary c = false) →
      (∀ c, isWordChar c = true → ¬ marker ++ [c] <+: characters content) →
        options content = [] := by
  refine ⟨fun store path first rest hread => ?_, fun name tail => options_declaration,
    fun content => options_eq_nil⟩
  rw [ModuleReference.scanHeader, hread, ← options_joined]

/-- A header with a line that is cut off within a character, one that is not UTF-8, and one that
names no option. -/
def raggedStore : FileStore where
  entries := [(["juce_core.h"], .file (joined
    (("/** Config: " ++ "JUCE_USE_CURL").toUTF8 ++ ⟨#[0xE2, 0x82]⟩)
    [(.crlf, ("/** Config: " ++ "größe").toUTF8 ++ ⟨#[0xFF]⟩), (.cr, "/** Config: -".toUTF8)]))]
  cwd := []

theorem scanHeader_joined_ragged :
    ModuleReference.scanHeader raggedStore ⟨.root, ["juce_core.h"]⟩
      = .ok ["JUCE_USE_CURL", "größe"] := by
  obtain ⟨hjoined, hdeclared, hsilent⟩ := scanHeader_joined
  have hreplaced : ∀ c ∈ ['\ufffd'], isLineBoundary c = false := List.forall_mem_singleton.mpr rfl
  have hstop : ∀ c ∈ ['\ufffd'].head?, isWordChar c = false := by
    rintro _ ⟨⟩
    decide +kernel
  have htruncated : characters ⟨#[0xE2, 0x82]⟩ = ['\ufffd'] :=
    Text.Utf8.decodeLenient_of_next_eq_none rfl
  have hcurl := hdeclared "JUCE_USE_CURL" ⟨#[0xE2, 0x82]⟩ (by decide)
    (List.all_eq_true.mp (by decide +kernel)) (htruncated ▸ hreplaced) (htruncated ▸ hstop)
  have hinvalid : characters ⟨#[0xFF]⟩ = ['\ufffd'] :=
    Text.Utf8.decodeLenient_of_next_eq_none rfl
  have hsize := hdeclared "größe" ⟨#[0xFF]⟩ (by decide)
    (List.all_eq_true.mp (by decide +kernel)) (hinvalid ▸ hreplaced) (hinvalid ▸ hstop)
  have hnameless : characters "/** Config: -".toUTF8 = marker ++ ['-'] := characters_toUTF8 _
  have hline : (marker ++ ['-']).any isLineBoundary = false := by decide
  have hdash : ∀ c, isWordChar c = true → ¬ marker ++ [c] <+: marker ++ ['-'] := by
    intro c hc hprefix
    obtain rfl : c = '-' := by
      simpa using (List.prefix_append_right_inj marker).mp hprefix
    exact absurd hc (by decide +kernel)
  have hnone := hsilent "/** Config: -".toUTF8
    (hnameless ▸ fun c hc => Bool.eq_false_iff.mpr (List.any_eq_false.mp hline c hc))
    (hnameless ▸ hdash)
  rw [hjoined raggedStore _ _ _ rfl, hcurl, List.flatMap_cons, List.flatMap_cons, hsize, hnone]
  rfl

end JuceBuild.ModuleHeader
