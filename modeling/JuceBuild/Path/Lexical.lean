import JuceBuild.Path

/-!
# Lexical paths

Places as lists of components from the root, without `..`. A path is collapsed onto a place by
dropping a component for each `..`, whatever the file store holds, and the way from one place to
another climbs to where they part and descends from there.
-/

namespace JuceBuild

/-- Components from the root down, none of them `..`. -/
abbrev Place := List String

/-- One component further: up for `..`, down otherwise. The root is above itself. -/
def Place.step (place : Place) (part : String) : Place :=
  if part = ".." then place.dropLast else place ++ [part]

/-- The place a path denotes when every `..` undoes the component before it. -/
def Path.collapse (path : Path) (cwd : Place) : Place :=
  path.parts.foldl Place.step (path.start cwd)

/-- The components that lead from one place to another. -/
def Place.route : Place → Place → List String
  | a :: source, b :: target =>
    if a = b then route source target else (a :: source).map (fun _ => "..") ++ b :: target
  | source, target => source.map (fun _ => "..") ++ target

/-- The text of a route; the empty route is written as the current directory. -/
def routeText (route : List String) : String :=
  match route with
  | [] => "."
  | parts => Text.join "/" parts

def Place.path (place : Place) : Path := ⟨.root, place⟩

end JuceBuild
