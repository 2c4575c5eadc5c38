import JuceBuild.Xml.Doctype.Token

/-!
# Declarations of a document type

The internal subset of a document type is a list of declarations. Entities and attributes have an
effect on the content of the document; element types and notations only have to be well formed.
-/

namespace JuceBuild.Xml

/-- What an entity stands for. -/
inductive EntitySource where
  | text (value : List Char)
  | external
  deriving DecidableEq, Repr

/-- An attribute declared for an element type. Values of an attribute that is not character data
are normalised, and an identifier has no default. -/
structure AttributeDefinition where
  element : String
  name : String
  isCharacterData : Bool
  isIdentifier : Bool
  value? : Option (List Char)
  deriving DecidableEq, Repr

/-- A declaration that has an effect on what follows. -/
inductive Declaration where
  | entity (name : String) (source : EntitySource)
  | parameterEntity (value : List Char)
  | parameterReference
  | attribute (definition : AttributeDefinition)
  deriving DecidableEq, Repr

namespace Declaration

def isPublicIdChar (c : Char) : Bool :=
  c.isAlphanum || c ∈ " \r\n-'()+,./:=?;!*#@$_%".toList

/-- What follows a system or public identifier. -/
def afterExternalId? : List DoctypeToken → Option (List DoctypeToken)
  | .word .name "SYSTEM" :: .literal _ :: rest => some rest
  | .word .name "PUBLIC" :: .literal publicId :: .literal _ :: rest =>
    if publicId.all isPublicIdChar then some rest else none
  | _ => none

def entity? : List DoctypeToken → Option (List Declaration)
  | [.percent, .word .name _, .literal value] => some [.parameterEntity value]
  | .percent :: .word .name _ :: rest =>
    if afterExternalId? rest = some [] then some [] else none
  | [.word .name name, .literal value] => some [.entity name (.text value)]
  | .word .name name :: rest =>
    match afterExternalId? rest with
    | some [] => some [.entity name .external]
    | some [.word .name "NDATA", .word .name _] => some [.entity name .external]
    | _ => none
  | _ => none

def notationDeclaration? : List DoctypeToken → Option (List Declaration)
  | [.word .name _, .word .name "PUBLIC", .literal publicId] =>
    if publicId.all isPublicIdChar then some [] else none
  | .word .name _ :: rest => if afterExternalId? rest = some [] then some [] else none
  | _ => none

/-- What separates the particles of a group. -/
inductive Connector where
  | sequence
  | choice
  deriving DecidableEq, Repr

/-- What comes next in a content model: a particle, or what follows one. -/
inductive Expected where
  | particle
  | connector
  deriving DecidableEq, Repr

/-- Whether tokens end a content model inside groups with the given connectors, the innermost
first. A group has one kind of connector. -/
def isContentModel : Expected → List (Option Connector) → List DoctypeToken → Bool
  | .particle, groups, .openParen :: rest => isContentModel .particle (none :: groups) rest
  | .particle, groups, .word .name _ :: rest => isContentModel .connector groups rest
  | .particle, groups, .word .qualified _ :: rest => isContentModel .connector groups rest
  | .particle, groups, .repeated _ :: rest => isContentModel .connector groups rest
  | .connector, group :: groups, .comma :: rest =>
    group ≠ some .choice && isContentModel .particle (some .sequence :: groups) rest
  | .connector, group :: groups, .bar :: rest =>
    group ≠ some .sequence && isContentModel .particle (some .choice :: groups) rest
  | .connector, _ :: groups, .closeParen :: rest => isContentModel .connector groups rest
  | .connector, _ :: groups, .closeParenRepeated _ :: rest => isContentModel .connector groups rest
  | .connector, [], [] => true
  | _, _, _ => false

/-- Whether tokens end a mixed content model, from behind the keyword for text. -/
def isMixedTail : List DoctypeToken → Bool
  | .bar :: .word .name _ :: rest => isMixedTail rest
  | .bar :: .word .qualified _ :: rest => isMixedTail rest
  | [.closeParenRepeated '*'] => true
  | _ => false

def element? (body : List DoctypeToken) : Option (List Declaration) :=
  let isModel : Bool :=
    match body with
    | [.word .name _, model] | [.word .qualified _, model] =>
      model = .word .name "EMPTY" || model = .word .name "ANY"
    | [.word .name _, .openParen, .keyword "PCDATA", .closeParen]
    | [.word .qualified _, .openParen, .keyword "PCDATA", .closeParen] => true
    | .word .name _ :: .openParen :: .keyword "PCDATA" :: rest
    | .word .qualified _ :: .openParen :: .keyword "PCDATA" :: rest => isMixedTail rest
    | .word .name _ :: .openParen :: rest
    | .word .qualified _ :: .openParen :: rest => isContentModel .particle [none] rest
    | _ => false
  if isModel then some [] else none

/-- How far an attribute list has been read. -/
inductive AttributeStage where
  | start
  | type (name : String)
  | names (name : String)
  | value (name : String) (namesOnly : Bool)
  | separator (name : String) (namesOnly : Bool)
  | default (name : String) (isCharacterData isIdentifier : Bool)
  | fixed (name : String) (isCharacterData : Bool)
  deriving DecidableEq, Repr

/-- The types of attributes whose values are normalised, other than enumerations. -/
def normalisedTypes : List String :=
  ["ID", "IDREF", "IDREFS", "ENTITY", "ENTITIES", "NMTOKEN", "NMTOKENS"]

/-- The attributes that are declared for an element type from a stage on. -/
def attributes? (element : String) : AttributeStage → List DoctypeToken → Option (List Declaration)
  | .start, [] => some []
  | .start, .word .name name :: rest => attributes? element (.type name) rest
  | .start, .word .qualified name :: rest => attributes? element (.type name) rest
  | .type name, .openParen :: rest => attributes? element (.value name false) rest
  | .type name, .word .name type :: rest =>
    if type = "NOTATION" then attributes? element (.names name) rest
    else if type = "CDATA" then attributes? element (.default name true false) rest
    else if type ∈ normalisedTypes then attributes? element (.default name false (type = "ID")) rest
    else none
  | .names name, .openParen :: rest => attributes? element (.value name true) rest
  | .value name namesOnly, .word kind _ :: rest =>
    if namesOnly ∧ kind ≠ .name then none
    else attributes? element (.separator name namesOnly) rest
  | .separator name namesOnly, .bar :: rest => attributes? element (.value name namesOnly) rest
  | .separator name _, .closeParen :: rest => attributes? element (.default name false false) rest
  | .default name isCharacterData isIdentifier, .keyword word :: rest =>
    if word = "IMPLIED" ∨ word = "REQUIRED" then
      (attributes? element .start rest).map
        (.attribute ⟨element, name, isCharacterData, isIdentifier, none⟩ :: ·)
    else if word = "FIXED" then attributes? element (.fixed name isCharacterData) rest
    else none
  | .default name isCharacterData _, .literal value :: rest =>
    (attributes? element .start rest).map
      (.attribute ⟨element, name, isCharacterData, false, some value⟩ :: ·)
  | .fixed name isCharacterData, .literal value :: rest =>
    (attributes? element .start rest).map
      (.attribute ⟨element, name, isCharacterData, false, some value⟩ :: ·)
  | _, _ => none

def attributeList? : List DoctypeToken → Option (List Declaration)
  | .word .name element :: rest => attributes? element .start rest
  | .word .qualified element :: rest => attributes? element .start rest
  | _ => none

/-- A declaration by its keyword. -/
def ofBody? (keyword : String) (body : List DoctypeToken) : Option (List Declaration) :=
  if keyword = "ENTITY" then entity? body
  else if keyword = "ATTLIST" then attributeList? body
  else if keyword = "ELEMENT" then element? body
  else if keyword = "NOTATION" then notationDeclaration? body
  else none

/-- The declarations of an internal subset up to its closing bracket, inside a declaration that has
been read so far, or between declarations. -/
def subset? : Option (String × List DoctypeToken) → List DoctypeToken → Option (List Declaration)
  | none, [.closeBracket] => some []
  | none, .comment :: rest => subset? none rest
  | none, .parameterEntity :: rest => (subset? none rest).map (.parameterReference :: ·)
  | none, .declaration keyword :: rest => subset? (some (keyword, [])) rest
  | some (keyword, body), .declarationEnd :: rest =>
    match ofBody? keyword body.reverse with
    | none => none
    | some declarations => (subset? none rest).map (declarations ++ ·)
  | some (keyword, body), token :: rest => subset? (some (keyword, token :: body)) rest
  | _, _ => none

end Declaration

end JuceBuild.Xml
