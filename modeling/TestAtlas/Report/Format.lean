import TestAtlas.Data.Json
import TestAtlas.Terminal.Screen
import TestAtlas.Text.Casing
import TestAtlas.Text.Quoted

/-!
The formats of reports, and the printing that all reports share.
-/

namespace TestAtlas
namespace Report

open Terminal (Printout)

inductive Format where
  | plain
  /-- Boxes and tables on a terminal. -/
  | rich
  /-- One value on one line. -/
  | json
  /-- A value for each item on a line of its own. -/
  | jsonLines
  deriving DecidableEq, Repr

namespace Format

def name : Format → String
  | plain => "plain"
  | rich => "rich"
  | json => "json"
  | jsonLines => "jsonl"

def all : List Format := [plain, rich, json, jsonLines]

/-- No format has this name. -/
structure UnknownName where
  name : String
  deriving DecidableEq, Repr

def UnknownName.message (unknown : UnknownName) : String :=
  s!"{Quoted.quote unknown.name} is not a valid OutputFormat"

/-- The format with a name in any mixture of capital and small letters. -/
def ofName (name : String) : Except UnknownName Format :=
  let small := Casing.lower name
  match all.find? fun f => f.name == small with
  | some format => .ok format
  | none => .error ⟨small⟩

/-- The format that is asked for: JSON if that is wanted anyway, plain text where colour is not
wanted, and else the one of the name, or rich text if there is none. -/
def chosen (json noColor : Bool) (name? : Option String) : Format :=
  if json then .json
  else if noColor then .plain
  else
    match name?.map ofName with
    | some (.ok format) => format
    | _ => .rich

theorem ofName_name (format : Format) : ofName format.name = .ok format := by
  cases format <;> rfl

end Format

/-- A text that ends its last line. -/
def plainText (text : String) : Printout where
  text := if text.endsWith "\n" then text else text ++ "\n"

def plainLines (lines : List String) : Printout := plainText (String.intercalate "\n" lines)

def jsonText (value : Value) : Printout where
  text := Json.render .compact value ++ "\n"

/-- The items of a list, or any other value, each on a line. -/
def jsonLinesText (value : Value) : Printout :=
  let items := match value with
    | .list items => items
    | value => [value]
  { text := String.join (items.map fun item => Json.render .spaced item ++ "\n") }

/-- Records that each say what they are in front, unless a field of their own says it. -/
def jsonRecords (records : List (String × List (String × Value))) : Printout :=
  .concat (records.map fun (kind, fields) =>
    let own? := (Value.record fields).field? "type"
    jsonLinesText (.record (("type", own?.getD (.text kind)) ::
      fields.filter fun f => f.1 != "type")))

end Report
end TestAtlas
