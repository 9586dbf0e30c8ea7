import TestAtlas.Data.Value
import TestAtlas.Text.Hex

/-!
Values as JSON on one line. Everything outside printable ASCII is escaped in
units of sixteen bits, so the text is the same in every encoding.
-/

namespace TestAtlas
namespace Json

/-- What stands between items and between a name and its value. -/
structure Style where
  item : String
  name : String

def Style.compact : Style := ⟨",", ":"⟩

def Style.spaced : Style := ⟨", ", ": "⟩

/-- The escape of a unit of sixteen bits. -/
def escapeUnit (u : Nat) : List Char := '\\' :: 'u' :: Hex.digits 4 u

def escapeChar (c : Char) : List Char :=
  if c = '"' then ['\\', '"']
  else if c = '\\' then ['\\', '\\']
  else if c = '\n' then ['\\', 'n']
  else if c = '\r' then ['\\', 'r']
  else if c = '\t' then ['\\', 't']
  else if c = '\x08' then ['\\', 'b']
  else if c = '\x0c' then ['\\', 'f']
  else if ' ' ≤ c ∧ c ≤ '~' then [c]
  else if c.toNat < 0x10000 then escapeUnit c.toNat
  else
    let n := c.toNat - 0x10000
    escapeUnit (0xD800 + n / 1024) ++ escapeUnit (0xDC00 + n % 1024)

def quote (s : String) : String :=
  String.ofList ('"' :: s.toList.flatMap escapeChar ++ ['"'])

mutual

def render (style : Style) : Value → String
  | .null => "null"
  | .bool true => "true"
  | .bool false => "false"
  | .int n => toString n
  | .decimal d => d.render .standard
  | .text s => quote s
  | .list items => "[" ++ String.intercalate style.item (renderItems style items) ++ "]"
  | .record fields => "\x7b" ++ String.intercalate style.item (renderFields style fields) ++ "\x7d"

def renderItems (style : Style) : List Value → List String
  | [] => []
  | v :: rest => render style v :: renderItems style rest

def renderFields (style : Style) : List (String × Value) → List String
  | [] => []
  | (name, v) :: rest =>
      (quote name ++ style.name ++ render style v) :: renderFields style rest

end

end Json
end TestAtlas
