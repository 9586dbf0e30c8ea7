import TestAtlas.Report.Format
import TestAtlas.Terminal.Panel
import TestAtlas.Terminal.Table
import TestAtlas.Trait

/-!
The report on a search for a test: where it is defined and which traits it has,
or that it was not found.
-/

namespace TestAtlas
namespace Report

open Terminal (Printout Table paragraph styled)

structure Location where
  /-- What was sought, which should be a list of texts. -/
  signatures : Value
  found? : Option TestCase

namespace Location

/-- The report on a search with some signatures. -/
def ofSearch (signatures : List String) (found? : Option TestCase) : Location where
  signatures := .list (signatures.map .text)
  found?

def toValue (report : Location) : Value :=
  .record [
    ("signatures", report.signatures),
    ("found", .bool report.found?.isSome),
    ("location", (report.found?.map TestCase.toValue).getD .null)]

def sought (report : Location) : Except Misuse String := report.signatures.joined ", "

def plainLines (report : Location) : Except Misuse (List String) :=
  match report.found? with
  | none => report.sought.map fun sought => [s!"not found: {sought}"]
  | some test => .ok
      ([s!"symbol: {test.name}", s!"file: {test.file}", s!"line: {test.line}"]
        ++ test.traits.map fun t => s!"trait: {t.name}={t.value}")

def records (report : Location) : List (String × List (String × Value)) :=
  ("location", [("data", (report.found?.map TestCase.toValue).getD .null)]) ::
    match report.found? with
    | none => []
    | some test => test.traits.map fun t => ("trait", [("data", t.toValue)])

/-- The text, or a dash if it is empty. -/
def orDash (text : String) : String := if text.isEmpty then "-" else text

def summary (test : TestCase) : String :=
  s!"Symbol: {test.name}\nFile:   {orDash test.file}\nLine:   {test.line}"

def traitTable (traits : List Trait) : Table where
  title := styled "bold magenta" "Traits"
  columns := [{ heading := "Name" }, { heading := "Value" }]
  rows := traits.map fun t => [t.name, t.value]

def rich (columns : Nat) (report : Location) : Printout :=
  match report.found? with
  | none =>
      .ofAccess (report.sought.map fun sought =>
        .ofBlock columns
          (paragraph columns (styled "yellow" "No symbol found for" ++ " " ++ sought)))
  | some test =>
      let panel := Printout.ofDrawing columns fun strokes =>
        .ok (Terminal.Panel.render strokes columns "Test Location".toList
          (Terminal.still (summary test).toList))
      panel.andThen
        (if test.traits.isEmpty then {}
          else .ofDrawing columns fun strokes => (traitTable test.traits).render strokes columns)

def present (columns : Nat) (format : Format) (report : Location) : Printout :=
  match format with
  | .plain => .ofAccess (report.plainLines.map Report.plainLines)
  | .rich => report.rich columns
  | .json => jsonText report.toValue
  | .jsonLines => jsonRecords report.records

end Location
end Report
end TestAtlas
