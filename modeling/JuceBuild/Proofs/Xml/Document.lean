import JuceBuild.Proofs.Outcome
import JuceBuild.Xml.Document

/-!
# What a document declares

A document is refused for one reason only: its declaration names an encoding that is known but gives
no character to each single octet. Most of these use several octets for a character, and three more
do not decode every octet. Every other sequence of octets either is a document or is none.
-/

namespace JuceBuild.Xml

theorem content?_of_contentItem? {alphabet : Alphabet} {text rest : List Char}
    {item : Option Markup} (hitem : contentItem? alphabet text = some (item, rest)) :
    content? alphabet text = (content? alphabet rest).map (item.toList ++ ·) := by
  have hne : text.isEmpty = false := by
    cases text with
    | nil => cases hitem
    | cons c text => rfl
  rw [content?, hne, if_neg Bool.false_ne_true]
  split <;> simp_all

/-- The shortest document of a project, in octets. -/
def bareProject : ByteArray := "<JUCERPROJECT/>".toUTF8

/-- A document without a type is what the tags of its content are put together to. -/
theorem ofText?_of_content? {alphabet : Alphabet} {isStandalone : Bool} {text body : List Char}
    {items : List Markup} {tags : List Tag} (hcharacters : text.all isXmlChar = true)
    (hmisc : skipMisc? alphabet text = some body)
    (hdoctype : dropStart? "<!DOCTYPE".toList body = none)
    (hitems : content? alphabet body = some items)
    (hentities : (Doctype.empty isStandalone).entities.admits (Markup.entityNames items) = true)
    (htags : (Doctype.empty isStandalone).tags? (Doctype.empty isStandalone).entities items
      = some tags) :
    Node.ofText? alphabet isStandalone text = Node.ofTags? [] none tags := by
  rw [Node.ofText?, hcharacters, hmisc]
  simp only [guard, if_true, Option.pure_def, Option.bind_eq_bind, Option.bind_some, hdoctype,
    Option.isSome_none, Bool.false_eq_true, if_false, hitems, hentities, htags]

/-! ### Encodings that are refused -/

/-- The declaration that a document begins with, in the encoding that its first octets show. -/
def declaration? (octets : List UInt8) : Option XmlDeclaration :=
  let (detected, octets) := Encoding.detect octets
  match dropStart? "<?xml".toList (detected.leadingAscii octets) with
  | none => none
  | some rest =>
    if rest.head?.any isSpace then (XmlDeclaration.read? rest).map (·.1) else none

/-- The names, in lower case, that stand for an encoding which needs no table. -/
def builtInNames : List String :=
  ["utf-8", "us-ascii", "iso-8859-1", "utf-16", "utf-16be", "utf-16le"]

/-- The names of encodings that do not decode every octet. -/
def undecodableNames : List String := ["undefined", "idna", "punycode"]

/-- A declaration that names an encoding of several octets for a character, other than the ones that
documents are read in, or an encoding that does not decode every octet. -/
def DeclaresRefused (octets : List UInt8) : Prop :=
  ∃ declaration name, declaration? octets = some declaration
    ∧ declaration.encoding? = some name
    ∧ name.toLower ∉ builtInNames
    ∧ (CodePage.isMultiByte name = true ∨ CodePage.normalisedName name ∈ undecodableNames)

theorem RefusedEncoding.isSome_find?_iff {name : String} :
    (find? name).isSome = true
      ↔ CodePage.isMultiByte name = true
        ∨ CodePage.normalisedName name ∈ undecodableNames := by
  rw [find?, undecodableNames]
  cases CodePage.isMultiByte name with
  | true => simp
  | false =>
      rw [if_neg Bool.false_ne_true]
      split
      case h_4 hundefined hstrict hascii => simp_all
      all_goals simp_all

theorem Encoding.exists_declared_eq_error_iff {detected : Encoding} {name : String} :
    (∃ e, detected.declared name = .error e)
      ↔ name.toLower ∉ builtInNames ∧ (RefusedEncoding.find? name).isSome = true := by
  rw [declared, builtInNames]
  split
  case h_7 hutf8 hascii hlatin hutf16 hbig hlittle =>
    cases RefusedEncoding.find? name <;> simp_all
  all_goals simp_all

/-- **Reading a document fails exactly on encodings that are refused.** -/
theorem exists_ofOctets_eq_error_iff {octets : List UInt8} :
    (∃ e, Node.ofOctets octets = .error e) ↔ DeclaresRefused octets := by
  simp only [DeclaresRefused, ← RefusedEncoding.isSome_find?_iff]
  rw [declaration?, Node.ofOctets]
  generalize Encoding.detect octets = found
  obtain ⟨detected, octets⟩ := found
  dsimp only
  cases dropStart? "<?xml".toList (detected.leadingAscii octets) with
  | none => simp
  | some rest =>
      dsimp only
      by_cases hspace : rest.head?.any isSpace = true
      · rw [if_pos hspace, if_pos hspace]
        cases XmlDeclaration.read? rest with
        | none => simp
        | some read =>
            obtain ⟨⟨encoding?, isStandalone⟩, rest⟩ := read
            cases encoding? with
            | none => simp [Except.map]
            | some name =>
                simp [map_eq_error_iff, Encoding.exists_declared_eq_error_iff]
      · rw [if_neg hspace, if_neg hspace]
        simp

end JuceBuild.Xml
