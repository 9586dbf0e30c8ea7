import TestAtlas.Data.Literal
import TestAtlas.Report.Format
import TestAtlas.Terminal.Outline

/-!
The report on what an executable image imports and which program database it
refers to. It is a record, and structured formats give the record as it is.
-/

namespace TestAtlas
namespace Report

open Terminal (Printout Outline styled)

structure Imports where
  record : Value

namespace Imports

/-- An imported module and whether it lies beside the image. -/
def item (name : String) (found : Bool) : Value :=
  .record [("name", .text name), ("exists", .bool found)]

def ofImage (path : String) (database? : Option String) (imports : List (String × Bool)) :
    Imports where
  record := .record [
    ("path", .text path),
    ("pdb", (database?.map Value.text).getD .null),
    ("imports", .list (imports.map fun i => item i.1 i.2))]

/-- The path of the program database, or a dash if there is none. -/
def database (report : Imports) : Except Misuse String := do
  let value ← report.record.partOr "pdb" .null
  return if value.isTruthy then Literal.display value else "-"

def items (report : Imports) : Except Misuse (List Value) := do
  (← report.record.partOr "imports" (.list [])).row

/-- The name of an imported module and whether it was found. -/
def nameAndFound (item : Value) : Except Misuse (String × Bool) := do
  let found ← item.part "exists"
  return (Literal.display (← item.part "name"), found.isTruthy)

/-- Puts a report together from the path, the program database and the imported modules. -/
def combine {α : Type} (report : Imports)
    (make : String → String → List (String × Bool) → α) : Except Misuse α := do
  let path ← report.record.part "path"
  let database ← report.database
  return make (Literal.display path) database (← (← report.items).mapM nameAndFound)

def plainLines (path database : String) (imports : List (String × Bool)) : List String :=
  s!"path: {path}" :: s!"pdb: {database}" ::
    imports.map fun (name, found) => "  " ++ name ++ if found then "" else " (missing)"

def records (report : Imports) : Except Misuse (List (String × List (String × Value))) := do
  let database ← report.record.partOr "pdb" .null
  let imports ← (← report.items).mapM Value.fields
  return ("pdb", [("path", database)]) :: imports.map fun fields => ("import", fields)

/-- The branch of an imported module, with a word for whether it was found. -/
def branch (name : String) (found : Bool) : String :=
  let marker := if found then styled "green" "found" else styled "dim" "missing"
  styled "cyan" name ++ " " ++ marker

def outline (path database : String) (imports : List (String × Bool)) : Outline where
  root := styled "bold blue" path
  branches := (styled "magenta" "pdb:" ++ " " ++ database) ::
    imports.map fun (name, found) => branch name found

def present (columns : Nat) (format : Format) (report : Imports) : Printout :=
  match format with
  | .plain => .ofAccess ((report.combine plainLines).map Report.plainLines)
  | .rich => .ofAccess ((report.combine outline).map fun o =>
      .ofDrawing columns fun strokes => o.render strokes columns)
  | .json => jsonText report.record
  | .jsonLines => .ofAccess (report.records.map jsonRecords)

end Imports
end Report
end TestAtlas
