import TestAtlas.Data.Rounding
import TestAtlas.Terminal.Screen

/-!
Tables in a box with a heavy head, under a title. A column is as wide as its
longest cell; if the table is too wide for the screen, the widest columns shrink
first, down to the next widest, and so on.
-/

namespace TestAtlas
namespace Terminal

structure Column where
  heading : String
  placement : Placement := .left
  /-- The cells that the contents may take. -/
  maximum? : Option Nat := none

/-- The cells of a table are marked text. -/
structure Table where
  title : String
  columns : List Column
  rows : List (List String)

namespace Table

/-- The blanks at both sides of a cell's contents. -/
def padding : Nat := 2

/-- The width of a cell in the room that there is. -/
def cellWidth (room : Nat) (text : List Char) : Nat :=
  if room ≤ padding then room else min (Paragraph.extent text + padding) room

/-- The width of a column in the room that there is. -/
def columnWidth (room : Nat) (column : Column) (cells : List (List Char)) : Nat :=
  let widest := (cells.map (cellWidth room)).foldl max 0
  match column.maximum? with
  | none => widest
  | some limit => min widest (limit + padding)

/-- Shares out a reduction among values, some of which take part, each up to a limit. -/
def reduceFrom (left sharers : Nat) : List (Bool × Nat × Nat) → List Nat
  | [] => []
  | (shares, limit, value) :: rest =>
      if shares && 0 < sharers then
        let part := min limit (Rounding.quotient left sharers)
        (value - part) :: reduceFrom (left - part) (sharers - 1) rest
      else value :: reduceFrom left sharers rest

def reduce (total : Nat) (values : List (Bool × Nat × Nat)) : List Nat :=
  let values := values.map fun (shares, limit, value) => (shares && 0 < limit, limit, value)
  reduceFrom total (values.countP (·.1)) values

/-- Shrinks the widest columns until the table fits; `fuel` bounds the number of rounds. -/
def collapse (fuel room : Nat) (widths : List Nat) : List Nat :=
  match fuel with
  | 0 => widths
  | fuel + 1 =>
      let excess := total widths - room
      if excess = 0 then widths
      else
        let widest := widths.foldl max 0
        let next := (widths.filter (· != widest)).foldl max 0
        let limit := min excess (widest - next)
        collapse fuel room (reduce excess (widths.map fun w => (w == widest, limit, w)))

/-- The widths of the columns in the room that there is. -/
def columnWidths (room : Nat) (columns : List (Column × List (List Char))) : List Nat :=
  let natural := columns.map fun c => max 1 (columnWidth room c.1 c.2)
  if total natural ≤ room then natural
  else
    let shrunk := collapse (total natural) room natural
    let shrunk := if total shrunk ≤ room then shrunk
      else reduce (total shrunk - room) (shrunk.map fun w => (true, w, w))
    (shrunk.zip columns).map fun (w, c) => columnWidth w c.1 c.2

/-- The lines of a cell in a column of a width. -/
def cellLines (columnWidth : Nat) (placement : Placement) (text : List Char) : Block :=
  (Paragraph.wrap (columnWidth - padding) { placement, overflow := .ellipsis } text).map fun line =>
    ' ' :: resize (columnWidth - padding) line ++ [' ']

/-- The lines of a row between separators. -/
def rowLines (separator : Char) (cells : List (Nat × Block)) : Block :=
  let height := (cells.map fun c => c.2.length).foldl max 1
  (List.range height).map fun i =>
    separator :: cells.flatMap fun (w, lines) => (lines[i]?).getD (blanks w) ++ [separator]

/-- A line between rows. -/
def ruleLine (left middle separator right : Char) (widths : List Nat) : List Char :=
  left :: [separator].intercalate (widths.map (rule middle)) ++ [right]

/-- The columns with their headings and cells as they are shown. Where there is no room for the
contents of any, their markup is not looked at. -/
def shownColumns (room : Nat) (table : Table) :
    Except PrintError (List (Column × List Markup.Marked)) :=
  table.columns.zipIdx.mapM fun (column, i) => do
    let texts := column.heading :: table.rows.map (·.getD i "")
    let cells ← if room ≤ padding then pure (texts.map fun _ => { text := [] })
      else texts.mapM plain
    return (column, cells)

/-- The cell of a row, the headings being the first one. -/
def cell (i : Nat) (cells : List Markup.Marked) : Markup.Marked := cells.getD i { text := [] }

/-- Applies the styles in the cells of a row, as far as there is room for them. -/
def applyStyles (columns : List (Column × List Markup.Marked)) (widths : List Nat) (i : Nat) :
    Except PrintError Unit :=
  (widths.zip columns).forM fun (w, _, cells) => (cell i cells).apply (w - padding) .ellipsis

/-- The row of a number, the headings being the first one. -/
def row (columns : List (Column × List Markup.Marked)) (widths : List Nat) (i : Nat) :
    List (Nat × Block) :=
  (widths.zip columns).map fun (w, column, cells) =>
    (w, cellLines w column.placement (cell i cells).text)

def render (strokes : Strokes) (screen : Nat) (table : Table) : Except PrintError Block := do
  let borders := table.columns.length + 1
  let room := screen - borders
  let columns ← shownColumns room table
  let widths := columnWidths room (columns.map fun c => (c.1, c.2.map (·.text)))
  let title ← plain table.title
  let width := total widths + borders
  title.apply width .fold
  (List.range (table.rows.length + 1)).forM (applyStyles columns widths)
  let titleLines := Paragraph.wrap width { placement := .center } title.text
  let bodyLines := (List.range table.rows.length).flatMap fun i =>
    rowLines (strokes.pick '│' '|') (row columns widths (i + 1))
  return titleLines
    ++ [strokes.pick (ruleLine '┏' '━' '┳' '┓' widths) (ruleLine '+' '-' '-' '+' widths)]
    ++ rowLines (strokes.pick '┃' '|') (row columns widths 0)
    ++ [strokes.pick (ruleLine '┡' '━' '╇' '┩' widths) (ruleLine '|' '-' '+' '|' widths)]
    ++ bodyLines
    ++ [strokes.pick (ruleLine '└' '─' '┴' '┘' widths) (ruleLine '+' '-' '-' '+' widths)]

end Table
end Terminal
end TestAtlas
