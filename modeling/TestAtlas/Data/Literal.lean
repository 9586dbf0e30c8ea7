import TestAtlas.Data.Value
import TestAtlas.Text.Quoted

/-!
Values as literals, the way they are shown to a reader: texts in quotes, and
capital words for nothing and for truth values.
-/

namespace TestAtlas
namespace Literal

mutual

def render : Value → String
  | .null => "None"
  | .bool true => "True"
  | .bool false => "False"
  | .int n => toString n
  | .decimal d => d.render .standard
  | .text s => Quoted.quote s
  | .list items => "[" ++ String.intercalate ", " (renderItems items) ++ "]"
  | .record fields => "\x7b" ++ String.intercalate ", " (renderFields fields) ++ "\x7d"

def renderItems : List Value → List String
  | [] => []
  | v :: rest => render v :: renderItems rest

def renderFields : List (String × Value) → List String
  | [] => []
  | (name, v) :: rest => (Quoted.quote name ++ ": " ++ render v) :: renderFields rest

end

/-- A text as it stands, and any other value as a literal. -/
def display : Value → String
  | .text s => s
  | v => render v

end Literal
end TestAtlas
