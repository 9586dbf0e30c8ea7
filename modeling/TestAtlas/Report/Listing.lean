import TestAtlas.Report.Format
import TestAtlas.Symbol
import TestAtlas.Terminal.Panel
import TestAtlas.Terminal.Table

/-!
The report on the symbols of a binary, by category. All formats have the same
symbols in the same order.
-/

namespace TestAtlas
namespace Report

open Terminal (Printout Table styled)

/-- Categories with their symbols, each category once. -/
abbrev Listing := List (String × List Symbol)

namespace Listing

def toValue (listing : Listing) : Value :=
  .record (listing.map fun (category, symbols) => (category, .list (symbols.map Symbol.toValue)))

def plainLines (listing : Listing) : List String :=
  listing.flatMap fun (category, symbols) =>
    s!"{category}: {symbols.length}" ::
      symbols.map fun s => s!"  {s.name}\t{s.file}:{s.line}"

def records (listing : Listing) : List (String × List (String × Value)) :=
  listing.flatMap fun (category, symbols) =>
    symbols.map fun s => (category, [("symbol", s.toValue)])

/-- The number of symbols in all categories. -/
def size (listing : Listing) : Nat := (listing.flatMap (·.2)).length

def summary (listing : Listing) : String :=
  s!"Total Symbols: {listing.size}\n" ++ String.join (listing.map fun (category, symbols) =>
    s!"  • {Casing.title category}: {symbols.length}\n")

/-- The style of a category. -/
def style (category : String) : String :=
  if category = "tests" then "cyan" else if category = "traits" then "magenta" else "white"

/-- The cells that a symbol's name may take. -/
def nameLimit : Nat := 80

def symbolTable (category : String) (symbols : List Symbol) : Table where
  title := styled s!"bold {style category}" (Casing.title category)
  columns := [{ heading := "Symbol", maximum? := some nameLimit }, { heading := "File" },
    { heading := "Line", placement := .right }]
  rows := symbols.map fun s => [s.name, s.file, toString s.line]

/-- A table, followed by an empty line. -/
def richCategory (columns : Nat) (category : String) (symbols : List Symbol) : Printout :=
  if symbols.isEmpty then {}
  else
    (Printout.ofDrawing columns fun strokes =>
      (symbolTable category symbols).render strokes columns).andThen
      (.ofBlock columns (.ok [[]]))

def rich (columns : Nat) (listing : Listing) : Printout :=
  let panel := Printout.ofDrawing columns fun strokes =>
    .ok (Terminal.Panel.render strokes columns "Symbol Overview".toList
      (Terminal.still listing.summary.toList))
  .concat (panel ::
    listing.map fun (category, symbols) => richCategory columns category symbols)

def present (columns : Nat) (format : Format) (listing : Listing) : Printout :=
  match format with
  | .plain => Report.plainLines listing.plainLines
  | .rich => listing.rich columns
  | .json => jsonText listing.toValue
  | .jsonLines => jsonRecords listing.records

end Listing
end Report
end TestAtlas
