import TestAtlas.Data.Access
import TestAtlas.Diagnostics

/-!
How urgent log entries are, and from which urgency on they are shown. A
threshold is given by name in any mixture of capital and small letters.
-/

namespace TestAtlas
namespace Log

def urgency : Severity → Nat
  | .info => 20
  | .warning => 30
  | .error => 40

def levelName : Severity → String
  | .info => "info"
  | .warning => "warning"
  | .error => "error"

/-- The letters outside the basic Latin block whose capital form lies in it. -/
def latinCapitals : List (Nat × String) := [
  (0xDF, "SS"), (0x131, "I"), (0x17F, "S"), (0xFB00, "FF"), (0xFB01, "FI"), (0xFB02, "FL"),
  (0xFB03, "FFI"), (0xFB04, "FFL"), (0xFB05, "ST"), (0xFB06, "ST")]

/-- The capital form of a letter, as far as it has one in the basic Latin block. -/
def capital (c : Char) : List Char :=
  match latinCapitals.find? (·.1 == c.toNat) with
  | some (_, form) => form.toList
  | none => [c.toUpper]

/-- The thresholds by name. -/
def thresholds : List (String × Nat) := [
  ("CRITICAL", 50), ("FATAL", 50), ("ERROR", 40), ("WARNING", 30), ("WARN", 30), ("INFO", 20),
  ("DEBUG", 10), ("NOTSET", 0)]

/-- The layout of plain lines has a name among those of the thresholds, but it is none. -/
def layoutName : String := "BASIC_FORMAT"

def layout : String := "%(levelname)s:%(name)s:%(message)s"

/-- So have the layouts in all their styles. -/
def layoutsName : String := "_STYLES"

def layouts : String :=
  "\x7b'%': (<class 'logging.PercentStyle'>, '%(levelname)s:%(name)s:%(message)s'), " ++
  "'\x7b': (<class 'logging.StrFormatStyle'>, " ++
  "'\x7blevelname\x7d:\x7bname\x7d:\x7bmessage\x7d'), " ++
  "'$': (<class 'logging.StringTemplateStyle'>, " ++
  "'$\x7blevelname\x7d:$\x7bname\x7d:$\x7bmessage\x7d')\x7d"

inductive LevelError where
  /-- What is given as a name is none. -/
  | notAName (misuse : Misuse)
  | unknown (text : String)
  /-- Neither a number nor a text stands under the name. -/
  | notALevel (shown : String)
  deriving DecidableEq, Repr

namespace LevelError

def kind : LevelError → String
  | notAName m => m.kind
  | unknown _ => "ValueError"
  | notALevel _ => "TypeError"

def message : LevelError → String
  | notAName m => m.message
  | unknown text => s!"Unknown level: {Quoted.quote text}"
  | notALevel shown => s!"Level not an integer or a valid string: {shown}"

end LevelError

/-- The threshold with a name; a name that nothing has stands for information. -/
def threshold (name : Value) : Except LevelError Nat :=
  match name with
  | .text name =>
      let capitals := String.ofList (name.toList.flatMap capital)
      if capitals = layoutName then .error (.unknown layout)
      else if capitals = layoutsName then .error (.notALevel layouts)
      else .ok (((thresholds.find? fun t => t.1 == capitals).map (·.2)).getD 20)
  | name => .error (.notAName (.noOperation name.kind "upper"))

end Log
end TestAtlas
