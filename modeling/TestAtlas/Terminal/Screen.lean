import TestAtlas.Terminal.Markup
import TestAtlas.Terminal.Paragraph
import TestAtlas.Terminal.Pictograph

/-!
What is printed on a terminal: lines that are cut to its columns, made from
marked text or from text as it stands.
-/

namespace TestAtlas
namespace Terminal

/-- A character that would move the cursor. -/
def movesCursor (c : Char) : Bool := c.toNat ∈ [7, 8, 11, 12, 13]

/-- The text without what would move the cursor. -/
def still (text : List Char) : List Char := text.filter fun c => !movesCursor c

/-- What is shown of a text. -/
def shown (text : List Char) : List Char := still (Pictograph.fillIn text)

/-- What is shown of a marked text. -/
def plain (markup : String) : Except PrintError Markup.Marked := Markup.read shown markup.toList

/-- Applies the styles of a text in the room that there is. A style over nothing is lost where the
text is broken into lines. -/
def Markup.Marked.apply (marked : Marked) (room : Nat) (overflow : Overflow) :
    Except PrintError Unit :=
  let whole := Paragraph.isOneLine room overflow marked.text
  if room = 0 then .ok ()
  else
    (marked.spans.filter fun span => whole || span.start < span.stop).forM fun span =>
      (Style.apply span.style).mapError .number

/-- A text between tags of a style. -/
def styled (style text : String) : String := "[" ++ style ++ "]" ++ text ++ "[/" ++ style ++ "]"

/-- Lines on a screen. -/
abbrev Block := List (List Char)

/-- A character as often as told. -/
def rule (c : Char) (n : Nat) : List Char := List.replicate n c

/-- What boxes and guides are drawn with. -/
inductive Strokes where
  | lines
  /-- Signs of ASCII, where not all lines can be written. -/
  | ascii
  deriving DecidableEq, Repr

def Strokes.pick {α : Type} (strokes : Strokes) (lines ascii : α) : α :=
  match strokes with
  | .lines => lines
  | .ascii => ascii

/-- What is printed, up to the first thing that cannot be. -/
structure Printout where
  text : String := ""
  /-- The text with all boxes and guides drawn in ASCII. -/
  coarse : String := text
  problem? : Option PrintError := none
  deriving DecidableEq, Repr

namespace Printout

/-- The lines of a block on a screen with so many columns; without columns nothing is printed. -/
def ofBlock (columns : Nat) (block : Except PrintError Block) : Printout :=
  match block with
  | .error e => { problem? := some e }
  | .ok lines =>
      if columns = 0 then {}
      else { text := String.ofList (lines.flatMap fun line => crop columns line ++ ['\n']) }

/-- The lines of a block that has to be drawn. -/
def ofDrawing (columns : Nat) (draw : Strokes → Except PrintError Block) : Printout :=
  { ofBlock columns (draw .lines) with coarse := (ofBlock columns (draw .ascii)).text }

/-- What is printed of something that may not be what it should be. -/
def ofAccess (printout : Except Misuse Printout) : Printout :=
  match printout with
  | .error m => { problem? := some (.misuse m) }
  | .ok printout => printout

/-- Goes on with another printout, unless something could not be printed before. -/
def andThen (first second : Printout) : Printout :=
  match first.problem? with
  | some _ => first
  | none =>
      { second with text := first.text ++ second.text, coarse := first.coarse ++ second.coarse }

def concat (printouts : List Printout) : Printout := printouts.foldl andThen {}

end Printout

/-- The lines of a marked text. -/
def paragraph (columns : Nat) (markup : String) : Except PrintError Block := do
  let marked ← plain markup
  marked.apply columns .fold
  return Paragraph.wrap columns {} marked.text

end Terminal
end TestAtlas
