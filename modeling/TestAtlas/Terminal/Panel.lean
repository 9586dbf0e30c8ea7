import TestAtlas.Terminal.Screen

/-!
Panels: text in a box with round corners, as wide as the screen, under a title.
In ASCII the corners are plus signs.
-/

namespace TestAtlas
namespace Terminal
namespace Panel

/-- The character of the lines above and below. -/
def edge (strokes : Strokes) : Char := strokes.pick '─' '-'

/-- A title between rules in so many cells. -/
def heading (strokes : Strokes) (cells : Nat) (title : List Char) : List Char :=
  let shown := crop cells (' ' :: title ++ [' '])
  let excess := cells - width shown
  rule (edge strokes) (excess / 2) ++ shown ++ rule (edge strokes) (excess - excess / 2)

/-- The line at the top; a narrow panel has no title. -/
def top (strokes : Strokes) (columns : Nat) (title : List Char) : List Char :=
  strokes.pick '╭' '+' :: (if columns ≤ 4 then rule (edge strokes) (columns - 2)
    else edge strokes :: heading strokes (columns - 4) title ++ [edge strokes]) ++
      [strokes.pick '╮' '+']

def bottom (strokes : Strokes) (columns : Nat) : List Char :=
  strokes.pick '╰' '+' :: rule (edge strokes) (columns - 2) ++ [strokes.pick '╯' '+']

def render (strokes : Strokes) (columns : Nat) (title : List Char) (body : List Char) : Block :=
  let side := strokes.pick '│' '|'
  let lines := (Paragraph.wrap (columns - 4) {} body).map fun line =>
    side :: ' ' :: resize (columns - 4) line ++ [' ', side]
  top strokes columns title :: lines ++ [bottom strokes columns]

end Panel
end Terminal
end TestAtlas
