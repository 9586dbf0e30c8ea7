/-!
The lines of a text. Besides the line feed there are other characters that end a
line, and a carriage return with a line feed after it is one line end.
-/

namespace TestAtlas
namespace Text

/-- Whether a character ends a line. -/
def isLineEnd (c : Char) : Bool :=
  let n := c.toNat
  (0xA ≤ n && n ≤ 0xD) || (0x1C ≤ n && n ≤ 0x1E) || n == 0x85 || n == 0x2028 || n == 0x2029

/-- The lines of a text; `current` is the start of the first one in reverse. -/
def linesFrom (current : List Char) : (text : List Char) → List (List Char)
  | [] => if current.isEmpty then [] else [current.reverse]
  | '\r' :: '\n' :: rest => current.reverse :: linesFrom [] rest
  | c :: rest =>
      if isLineEnd c then current.reverse :: linesFrom [] rest else linesFrom (c :: current) rest

/-- The lines of a text without their ends. After the last line end there is none, unless there is
something in it. -/
def lines (text : List Char) : List (List Char) := linesFrom [] text

/-- The last line of a text, which is empty if there is none. -/
def lastLine (text : String) : String :=
  String.ofList ((lines text.toList).getLast?.getD [])

end Text
end TestAtlas
