/-!
# Blocks of a script

A command call over several lines: an opening line, indented lines, a closing parenthesis. An empty
line separates it from what follows.
-/

namespace JuceBuild

/-- A command call over several lines. -/
structure Block where
  opening : String
  body : List String
  deriving DecidableEq, Repr

namespace Block

def call (block : Block) : List String :=
  block.opening :: block.body.map ("  " ++ ·) ++ [")"]

/-- The lines of calls that stand together, and the empty line after them. -/
def linesTogether (blocks : List Block) : List String := blocks.flatMap call ++ [""]

def lines (block : Block) : List String := linesTogether [block]

end Block

end JuceBuild
