import TestAtlas.Terminal.Cells
import TestAtlas.Text.Blank
import TestAtlas.Text.Lines
import TestAtlas.Text.Split

/-!
Text broken into lines that fit a number of cells. Lines end between words as
long as the words fit; a word that does not is folded or, where text is to be
cut, kept whole and then cut.
-/

namespace TestAtlas
namespace Terminal

/-- What happens to a line that does not fit. -/
inductive Overflow where
  | fold
  /-- The end is cut off, and an ellipsis shows it. -/
  | ellipsis
  deriving DecidableEq, Repr

/-- Where a line stands in the room that there is. -/
inductive Placement where
  /-- At the left, and the room after it is left as it is. -/
  | natural
  | left
  | center
  | right
  deriving DecidableEq, Repr

/-- How text is laid out in lines. -/
structure Layout where
  placement : Placement := .natural
  overflow : Overflow := .fold

namespace Paragraph

/-- A word with the blanks around it, and what follows. -/
def takeWord (text : List Char) : List Char × List Char :=
  let before := text.takeWhile Blank.isBlank
  let rest := text.dropWhile Blank.isBlank
  let word := rest.takeWhile fun c => !Blank.isBlank c
  let rest := rest.dropWhile fun c => !Blank.isBlank c
  (before ++ word ++ rest.takeWhile Blank.isBlank, rest.dropWhile Blank.isBlank)

/-- Nothing gets lost when a word is taken. -/
theorem takeWord_append (text : List Char) : (takeWord text).1 ++ (takeWord text).2 = text := by
  simp [takeWord, List.append_assoc, List.takeWhile_append_dropWhile]

theorem length_of_takeWord (text : List Char) (h : (takeWord text).1 ≠ []) :
    (takeWord text).2.length < text.length := by
  have eq := congrArg List.length (takeWord_append text)
  rw [List.length_append] at eq
  have := List.length_pos_iff.2 h
  omega

/-- The words of a line; the blanks before the first one and after each belong to them. -/
def words (text : List Char) : List (List Char) :=
  if _none : (takeWord text).1 = [] then []
  else (takeWord text).1 :: words (takeWord text).2
termination_by text.length
decreasing_by exact length_of_takeWord text _none

/-- The text without the blanks at its end. -/
def dropBlanks (text : List Char) : List Char := (text.reverse.dropWhile Blank.isBlank).reverse

/-- A word cut into pieces that fit; `taken` is the current piece in reverse, and `used` its cells.
What takes no cells is no piece at the end. -/
def chopFrom (room : Nat) (taken : List Char) (used : Nat) : List Glyph → List (List Char)
  | [] => if used = 0 then [] else [taken.reverse]
  | glyph :: rest =>
      if room < used + glyph.cells then
        taken.reverse :: chopFrom room glyph.chars.reverse glyph.cells rest
      else chopFrom room (glyph.chars.reverse ++ taken) (used + glyph.cells) rest

def chop (room : Nat) (word : List Char) : List (List Char) :=
  chopFrom room [] 0 (Glyph.ofText word)

/-- Lines in reverse, the current one in front, with the cells that are used in it. -/
structure Lines where
  current : List Char := []
  done : List (List Char) := []
  used : Nat := 0

namespace Lines

/-- Goes on in the current line. -/
def extend (lines : Lines) (word : List Char) : Lines :=
  { lines with current := lines.current ++ word, used := lines.used + width word }

/-- Starts a new line; the first line of all is not ended by this. -/
def startLine (lines : Lines) (word : List Char) : Lines where
  current := word
  done := if lines.current.isEmpty && lines.done.isEmpty then [] else lines.current :: lines.done
  used := width word

def add (room : Nat) (overflow : Overflow) (lines : Lines) (word : List Char) : Lines :=
  let needed := width (dropBlanks word)
  if lines.used + needed ≤ room then lines.extend word
  else if needed ≤ room || overflow = .ellipsis then lines.startLine word
  else
    match chop room word with
    | [] => { lines with current := lines.current ++ word }
    | pieces => pieces.foldl startLine lines

def toList (lines : Lines) : List (List Char) := (lines.current :: lines.done).reverse

end Lines

/-- The lines of a text without line ends. A text of blanks is one line. -/
def divide (room : Nat) (overflow : Overflow) (text : List Char) : List (List Char) :=
  match words text with
  | [] => [text]
  | ws => (ws.foldl (Lines.add room overflow) {}).toList

/-- The blanks at the end of a line that has more characters than there is room are dropped as far
as necessary. -/
def dropExcess (room : Nat) (line : List Char) : List Char :=
  let blankCount := (line.reverse.takeWhile Blank.isBlank).length
  line.take (line.length - min blankCount (line.length - room))

def ellipsis : Char := '…'

/-- The line cut to the room that there is. -/
def truncate (room : Nat) (overflow : Overflow) (line : List Char) : List Char :=
  if width line ≤ room then line
  else
    match overflow with
    | .fold => resize room line
    | .ellipsis => resize (room - 1) line ++ [ellipsis]

def place (room : Nat) (layout : Layout) (line : List Char) : List Char :=
  match layout.placement with
  | .natural => truncate room layout.overflow line
  | .left =>
      let line := truncate room layout.overflow line
      line ++ blanks (room - width line)
  | .center =>
      let line := truncate room layout.overflow (dropBlanks line)
      let excess := room - width line
      blanks (excess / 2) ++ line ++ blanks (excess - excess / 2)
  | .right =>
      let line := truncate room layout.overflow (dropBlanks line)
      blanks (room - width line) ++ line

def tabWidth : Nat := 8

/-- The line with a blank for each tab and more up to the next multiple of the tab width; `used` are
the cells before. -/
def expandTabs (used : Nat) : List (List Char) → List Char
  | [] => []
  | [last] => last
  | part :: rest =>
      let part := part ++ [' ']
      let reached := used + width part
      let filled := (reached + tabWidth - 1) / tabWidth * tabWidth
      part ++ blanks (filled - reached) ++ expandTabs filled rest

/-- The lines of a text in the room that there is; none if there is no room at all. -/
def wrap (room : Nat) (layout : Layout) (text : List Char) : List (List Char) :=
  if room = 0 then []
  else (Text.split ['\n'] text).flatMap fun line =>
    let line := expandTabs 0 (Text.split ['\t'] line)
    (divide room layout.overflow line).map fun l => place room layout (dropExcess room l)

/-- Whether a text is one line in the room that there is, and has no tabs. -/
def isOneLine (room : Nat) (overflow : Overflow) (text : List Char) : Bool :=
  !text.contains '\n' && !text.contains '\t' && (divide room overflow text).length == 1

/-- The cells of the longest line of a text as it stands. -/
def extent (text : List Char) : Nat :=
  ((Text.lines text).map width).foldl max 0

end Paragraph
end Terminal
end TestAtlas
