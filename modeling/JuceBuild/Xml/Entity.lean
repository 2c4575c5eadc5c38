import JuceBuild.Xml.Reference

/-!
# Entities

The entities a document declares, and values with their references replaced by what the entities
stand for. An entity is open while its own text is read, and a reference to an open entity is
refused, so every replacement ends: each step inside opens one entity more. A few nested entities
can stand for a text beyond all bounds, so the size of a replacement is looked at first.
-/

namespace JuceBuild.Xml

/-- What an entity name stands for at a point of the document. -/
inductive Entity where
  | text (value : List Char)
  | external
  | opened
  deriving DecidableEq, Repr

def Entity.isText : Entity → Bool
  | .text _ => true
  | _ => false

abbrev EntityTable := List (String × Entity)

namespace EntityTable

/-- The number of entities that may still be opened. -/
def closedCount (entities : EntityTable) : Nat := entities.countP fun entry => entry.2.isText

/-- The table while the text of an entity is read. -/
def opening (entities : EntityTable) (name : String) : EntityTable :=
  entities.map fun entry => if entry.1 = name then (entry.1, .opened) else entry

theorem closedCount_opening_le (entities : EntityTable) (name : String) :
    (entities.opening name).closedCount ≤ entities.closedCount := by
  unfold closedCount opening
  rw [List.countP_map]
  refine List.countP_mono_left fun entry _ h => ?_
  simp only [Function.comp_apply] at h
  split at h
  · cases h
  · exact h

theorem closedCount_opening_lt {entities : EntityTable} {name : String} {value : List Char}
    (h : entities.lookup name = some (.text value)) :
    (entities.opening name).closedCount < entities.closedCount := by
  induction entities with
  | nil => cases h
  | cons entry rest ih =>
    obtain ⟨key, entity⟩ := entry
    rw [List.lookup_cons] at h
    by_cases hkey : name = key
    · subst hkey
      simp only [beq_self_eq_true, Option.some.injEq] at h
      have hrest := closedCount_opening_le rest name
      subst h
      simp only [closedCount, opening, List.map_cons, List.countP_cons, if_true, Entity.isText,
        Bool.false_eq_true, if_false] at hrest ⊢
      omega
    · have hbeq : (name == key) = false := beq_eq_false_iff_ne.mpr hkey
      rw [hbeq] at h
      have hlt := ih (by simpa using h)
      have hne : ¬ key = name := fun heq => hkey heq.symm
      simp only [closedCount, opening, List.map_cons, List.countP_cons, hne, if_false] at hlt ⊢
      omega

end EntityTable

def referredEntities : List Char → List String
  | [] => []
  | '&' :: rest =>
    match reference? .standard rest with
    | some (.entity name, _) => name :: referredEntities rest
    | _ => referredEntities rest
  | _ :: rest => referredEntities rest

namespace EntityTable

/-- The lengths of the texts of entities with references replaced down to a depth. -/
def sizes (entities : EntityTable) : (depth : Nat) → List (String × Nat)
  | 0 => []
  | depth + 1 =>
    let inner := sizes entities depth
    entities.map fun (name, entity) =>
      match entity with
      | .text value =>
        let replaced := (referredEntities value).map fun other => (inner.lookup other).getD 0
        (name, value.length + replaced.sum)
      | _ => (name, 0)

/-- The greatest length that the replacement of references may come to. -/
def sizeLimit : Nat := 8 * 1024 * 1024

/-- Whether references to entities stand for texts of a bearable length. -/
def admits (entities : EntityTable) (names : List String) : Bool :=
  let sizes := entities.sizes entities.length
  names.foldl (fun total name => total + (sizes.lookup name).getD 0) 0 ≤ sizeLimit

end EntityTable

def Piece.entityNames (pieces : List Piece) : List String :=
  pieces.filterMap fun piece =>
    match piece with
    | .char _ => none
    | .entity name => some name

/-- A value with its references replaced. Where `strict` holds every entity has to be declared;
otherwise a reference to an undeclared one stands for nothing. -/
def expandPieces? (strict : Bool) (entities : EntityTable) : List Piece → Option (List Char)
  | [] => some []
  | .char c :: rest => (expandPieces? strict entities rest).map (c :: ·)
  | .entity name :: rest =>
    match predefined? name with
    | some c => (expandPieces? strict entities rest).map (c :: ·)
    | none =>
      match _h : entities.lookup name with
      | none => if strict then none else expandPieces? strict entities rest
      | some (.text value) =>
        match valuePieces? .standard value with
        | none => none
        | some inner =>
          match expandPieces? strict (entities.opening name) inner with
          | none => none
          | some expanded => (expandPieces? strict entities rest).map (expanded ++ ·)
      | some _ => none
termination_by pieces => (entities.closedCount, pieces.length)
decreasing_by
  all_goals first
    | exact Prod.Lex.left _ _ (EntityTable.closedCount_opening_lt _h)
    | exact Prod.Lex.right _ (by simp)

end JuceBuild.Xml
