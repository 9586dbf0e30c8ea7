import TestAtlas.Terminal.Screen

/-!
A root with branches below it, joined by guide lines.
-/

namespace TestAtlas
namespace Terminal

/-- The labels are marked text. -/
structure Outline where
  root : String
  branches : List String

namespace Outline

/-- The cells of the guide lines. -/
def guideWidth : Nat := 4

/-- What stands before the first line of a branch. -/
def fork (strokes : Strokes) (last : Bool) : String :=
  if last then strokes.pick "└── " "`-- " else strokes.pick "├── " "+-- "

/-- What stands before the other lines of a branch. -/
def trunk (strokes : Strokes) (last : Bool) : String :=
  if last then "    " else strokes.pick "│   " "|   "

/-- The lines of a branch: a fork or an end before the first one, and what goes on below it. -/
def branchLines (strokes : Strokes) (last : Bool) (lines : Block) : Block :=
  match lines with
  | [] => []
  | first :: rest =>
      ((fork strokes last).toList ++ first) :: rest.map ((trunk strokes last).toList ++ ·)

/-- The lines of a label. Where there is no room for it, its markup is not looked at. -/
def labelLines (columns : Nat) (label : String) : Except PrintError Block :=
  if columns = 0 then .ok [] else paragraph columns label

def renderBranches (strokes : Strokes) (columns : Nat) : List String → Except PrintError Block
  | [] => .ok []
  | label :: rest => do
      let lines ← labelLines (columns - guideWidth) label
      return branchLines strokes rest.isEmpty lines ++ (← renderBranches strokes columns rest)

def render (strokes : Strokes) (columns : Nat) (outline : Outline) :
    Except PrintError Block := do
  let root ← labelLines columns outline.root
  return root ++ (← renderBranches strokes columns outline.branches)

end Outline
end Terminal
end TestAtlas
