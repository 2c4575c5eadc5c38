import JuceBuild.Xml.Doctype

/-!
# Tags

Content with its entities replaced and its attributes completed: what is left are tags and the
presence of text. The tags inside the text of an entity belong together, each start with its end.
-/

namespace JuceBuild.Xml

/-- An item of content that refers to nothing. -/
inductive Tag where
  | start (name : String) (attributes : List (String × String))
  | finish (name : String)
  | text
  deriving DecidableEq, Repr

namespace Tag

/-- The elements that are left open after tags, the innermost first. -/
def openAfter? : List String → List Tag → Option (List String)
  | elements, [] => some elements
  | elements, .start name _ :: rest => openAfter? (name :: elements) rest
  | name :: elements, .finish name' :: rest =>
    if name = name' then openAfter? elements rest else none
  | [], .finish _ :: _ => none
  | elements, .text :: rest => openAfter? elements rest

/-- Whether each start has its end and the other way round. -/
def areBalanced (tags : List Tag) : Bool := openAfter? [] tags = some []

end Tag

namespace Doctype

/-- Whether an attribute is character data; an undeclared one is. -/
def isCharacterData (doctype : Doctype) (element name : String) : Bool :=
  match doctype.attributes.find? fun definition =>
    definition.element = element && definition.name = name with
  | none => true
  | some definition => definition.isCharacterData

/-- The attributes of an element that are not written but have a default. -/
def defaults (doctype : Doctype) (element : String) (written : List (String × String)) :
    List (String × String) :=
  doctype.attributes.filterMap fun definition =>
    if definition.element = element ∧ (written.lookup definition.name).isNone then
      definition.value?.map fun value => (definition.name, String.ofList value)
    else none

/-- The attributes of a tag: those written, each once, and the defaults. -/
def attributes? (doctype : Doctype) (entities : EntityTable) (element : String)
    (raw : List RawAttribute) : Option (List (String × String)) :=
  if (raw.map RawAttribute.name).Nodup then
    let written? := raw.mapM fun ⟨name, pieces⟩ =>
      (doctype.normalise? entities (doctype.isCharacterData element name) pieces).map
        fun value => (name, String.ofList value)
    written?.map fun written => written ++ doctype.defaults element written
  else none

/-- The tags of content. The text of an entity counts as text where it stands, whatever is in
it. -/
def tags? (doctype : Doctype) (entities : EntityTable) : List Markup → Option (List Tag)
  | [] => some []
  | .startTag name raw :: rest =>
    match doctype.attributes? entities name raw with
    | none => none
    | some attributes => (doctype.tags? entities rest).map (.start name attributes :: ·)
  | .emptyTag name raw :: rest =>
    match doctype.attributes? entities name raw with
    | none => none
    | some attributes =>
      (doctype.tags? entities rest).map (.start name attributes :: .finish name :: ·)
  | .endTag name :: rest => (doctype.tags? entities rest).map (.finish name :: ·)
  | .text :: rest => (doctype.tags? entities rest).map (.text :: ·)
  | .entity name :: rest =>
    if (predefined? name).isSome then (doctype.tags? entities rest).map (.text :: ·)
    else
      match _h : entities.lookup name with
      | some (.text value) =>
        match content? .standard value with
        | none => none
        | some inner =>
          match doctype.tags? (entities.opening name) inner with
          | none => none
          | some expanded =>
            if Tag.areBalanced expanded then
              (doctype.tags? entities rest).map (.text :: expanded ++ ·)
            else none
      | _ => none
termination_by items => (entities.closedCount, items.length)
decreasing_by
  all_goals first
    | exact Prod.Lex.left _ _ (EntityTable.closedCount_opening_lt _h)
    | exact Prod.Lex.right _ (by simp)

end Doctype

end JuceBuild.Xml
