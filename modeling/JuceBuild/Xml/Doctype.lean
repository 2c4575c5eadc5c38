import JuceBuild.Text.Split
import JuceBuild.Xml.Doctype.Declaration
import JuceBuild.Xml.Entity

/-!
# Document types

What a document's type declares: entities, and attributes with their types and defaults. A
document type that refers to declarations elsewhere is incomplete. From the first reference to a
parameter entity on, declarations of a document that does not stand alone have no effect.
-/

namespace JuceBuild.Xml

/-- What is known about a document from its type. -/
structure Doctype where
  entities : EntityTable
  attributes : List AttributeDefinition
  isStandalone : Bool
  isIncomplete : Bool
  isEffective : Bool
  deriving DecidableEq, Repr

/-- The runs of other characters, with one blank between them. -/
def collapseBlanks (value : List Char) : List Char :=
  [' '].intercalate ((Text.pieces [' '] (by simp) value).filter (· ≠ []))

/-- The text of an entity from its literal: references to characters are replaced, references to
entities are kept, line ends are line feeds, and a percent sign has no place. A carriage return that
a reference stands for is no line end, and is a blank wherever the text is read. -/
def entityText? (alphabet : Alphabet) : List Char → Option (List Char)
  | [] => some []
  | '%' :: _ => none
  | '&' :: rest =>
    match _h : reference? alphabet rest with
    | none => none
    | some (.char c, tail) =>
      (entityText? alphabet tail).map ((if c = '\r' then ' ' else c) :: ·)
    | some (.entity name, tail) =>
      (entityText? alphabet tail).map ('&' :: name.toList ++ ';' :: ·)
  | '\r' :: '\n' :: rest => (entityText? alphabet rest).map ('\n' :: ·)
  | '\r' :: rest => (entityText? alphabet rest).map ('\n' :: ·)
  | c :: rest => (entityText? alphabet rest).map (c :: ·)
termination_by text => text.length
decreasing_by
  all_goals try have := reference?_length_lt _h
  all_goals simp only [List.length_cons]; omega

namespace Doctype

def empty (isStandalone : Bool) : Doctype := ⟨[], [], isStandalone, false, true⟩

/-- Whether a reference to an undeclared entity is an error. -/
def isStrict (doctype : Doctype) : Bool := doctype.isStandalone || !doctype.isIncomplete

/-- The document type with an entity, unless the name has a meaning already. -/
def withEntity (doctype : Doctype) (name : String) (entity : Entity) : Doctype :=
  if (predefined? name).isSome || (doctype.entities.lookup name).isSome then doctype
  else { doctype with entities := doctype.entities ++ [(name, entity)] }

def declares (doctype : Doctype) (element name : String) : Bool :=
  doctype.attributes.any fun definition =>
    definition.element = element && definition.name = name

/-- The document type with an attribute. Of several definitions the first with a default counts,
and only if none came before it. -/
def withAttribute (doctype : Doctype) (definition : AttributeDefinition) : Doctype :=
  if (definition.value?.isSome || definition.isIdentifier) &&
      doctype.declares definition.element definition.name then doctype
  else { doctype with attributes := doctype.attributes ++ [definition] }

/-- A value with its references replaced, and its blanks collapsed unless it is character data. -/
def normalise? (doctype : Doctype) (entities : EntityTable) (isCharacterData : Bool)
    (pieces : List Piece) : Option (List Char) :=
  if entities.admits (Piece.entityNames pieces) then
    (expandPieces? doctype.isStrict entities pieces).map fun value =>
      if isCharacterData then value else collapseBlanks value
  else none

/-- The document type after one more declaration. -/
def declare? (alphabet : Alphabet) (doctype : Doctype) (declaration : Declaration) :
    Option Doctype :=
  if !doctype.isEffective then
    match declaration with
    | .parameterReference => some { doctype with isIncomplete := true }
    | _ => some doctype
  else
    match declaration with
    | .parameterReference =>
      some { doctype with isIncomplete := true, isEffective := doctype.isStandalone }
    | .parameterEntity value => (entityText? alphabet value).map fun _ => doctype
    | .entity name (.text value) =>
      (entityText? alphabet value).map fun value => doctype.withEntity name (.text value)
    | .entity name .external => some (doctype.withEntity name .external)
    | .attribute definition =>
      match definition.value? with
      | none => some (doctype.withAttribute definition)
      | some value =>
        match valuePieces? alphabet value with
        | none => none
        | some pieces =>
          (doctype.normalise? doctype.entities definition.isCharacterData pieces).map fun value =>
            doctype.withAttribute { definition with value? := some value }

def read? (alphabet : Alphabet) (isStandalone : Bool) (text : List Char) :
    Option (Doctype × List Char) :=
  match DoctypeToken.upToEnd? alphabet false text with
  | some (.declaration "DOCTYPE" :: .word kind _ :: tokens, rest) =>
    let externalId := tokens.takeWhile (· ≠ .openBracket)
    if kind = .nameToken then none
    else if externalId ≠ [] ∧ Declaration.afterExternalId? externalId ≠ some [] then none
    else
      let declarations? :=
        match tokens.dropWhile (· ≠ .openBracket) with
        | [] => some []
        | _ :: subset => Declaration.subset? none subset
      match declarations? with
      | none => none
      | some declarations =>
        let start := { empty isStandalone with isIncomplete := externalId ≠ [] }
        (declarations.foldlM (declare? alphabet) start).map (·, rest)
  | _ => none

end Doctype

end JuceBuild.Xml
