import JuceBuild.Text.Split

/-!
# Paths

A path is an anchor and a list of components. Reading a path from text drops empty and `.`
components and keeps `..`, which only a walk through the file store can resolve. Two leading
slashes are an anchor of their own; three or more are the same as one.
-/

namespace JuceBuild

inductive Anchor where
  | relative
  | root
  | doubleRoot
  deriving DecidableEq, Repr

def Anchor.text : Anchor → String
  | .relative => ""
  | .root => "/"
  | .doubleRoot => "//"

/-- An anchor with the components below it. -/
structure Path where
  anchor : Anchor
  parts : List String
  deriving DecidableEq, Repr

namespace Path

def anchorOf (text : List Char) : Anchor :=
  match (text.takeWhile (· = '/')).length with
  | 0 => .relative
  | 2 => .doubleRoot
  | _ => .root

def partsOf (text : List Char) : List String :=
  ((Text.pieces ['/'] (by simp) text).map String.ofList).filter fun part =>
    part ≠ "" && part ≠ "."

/-- The path that a text denotes. -/
def ofString (text : String) : Path := ⟨anchorOf text.toList, partsOf text.toList⟩

/-- The text of a path; the empty path is written as the current directory. -/
def toString (path : Path) : String :=
  match path.anchor, path.parts with
  | .relative, [] => "."
  | anchor, parts => anchor.text ++ Text.join "/" parts

def isAbsolute (path : Path) : Bool := path.anchor ≠ .relative

/-- The second path as seen from the first; an absolute second path replaces the first. -/
def join (base path : Path) : Path :=
  if path.isAbsolute then path else ⟨base.anchor, base.parts ++ path.parts⟩

def parent (path : Path) : Path := ⟨path.anchor, path.parts.dropLast⟩

def name (path : Path) : String := path.parts.getLast?.getD ""

/-- The end of a name from its last full stop, which is neither its first nor its last character. -/
def suffixOf (name : List Char) : List Char :=
  let tail := (name.reverse.takeWhile (· ≠ '.')).reverse
  if tail.length + 1 < name.length ∧ tail ≠ [] then '.' :: tail else []

def suffix (path : Path) : String := String.ofList (suffixOf path.name.toList)

/-- The components from the root at which a walk along the path begins. -/
def start (path : Path) (cwd : List String) : List String :=
  if path.isAbsolute then [] else cwd

/-- The path from the root, with `..` kept. -/
def absolute (path : Path) (cwd : List String) : Path :=
  if path.isAbsolute then path else ⟨.root, cwd ++ path.parts⟩

end Path

end JuceBuild
