import TestAtlas.CommandLine.Arguments
import TestAtlas.Report.Selection
import TestAtlas.Settings

/-!
What a run is asked to do. There are three tasks with a grammar each, and some
options that all of them have.
-/

namespace TestAtlas
namespace CommandLine

open Report (Format Selection)

/-- Options of every task. -/
structure Common where
  format : Format := .plain
  quiet : Bool := false
  verbose : Bool := false
  debug : Bool := false
  deriving DecidableEq, Repr

/-- Options that go before the settings. -/
structure Choices where
  pathExtension? : Option String := none
  additional : List String := []
  noSymbols : Bool := false
  debug : Bool := false
  deriving DecidableEq, Repr

/-- The settings with what was chosen in their place. -/
def Choices.apply (choices : Choices) (settings : Settings) : Settings where
  pathExtension := choices.pathExtension? <|> settings.pathExtension
  additional := if choices.additional.isEmpty then settings.additional else choices.additional
  parseSymbols := settings.parseSymbols && !choices.noSymbols
  debug := settings.debug || choices.debug

inductive Task where
  | locate (path : String) (signatures : List String) (choices : Choices)
  | symbols (path : String) (database? : Option String) (selection : Selection) (choices : Choices)
  | imports (path : String)
  deriving DecidableEq, Repr

def Task.name : Task → String
  | locate .. => "locate"
  | symbols .. => "symbols"
  | imports _ => "imports"

structure Request where
  common : Common
  task : Task
  deriving DecidableEq, Repr

namespace Request

def program : String := "testlocator"

def version : String := "0.1.0"

def help : Switch := { names := ["-h", "--help"], effect := .help }

def textSwitch (name : String) : Switch := { names := [name], effect := .take .text }

def commonSwitches : List Switch := [
  help,
  { names := ["--format"], effect := .take (.choice (Format.all.map Format.name)) },
  { names := ["--json"] },
  { names := ["--no-color"] },
  { names := ["--quiet", "-q"] },
  { names := ["--verbose", "-v"] },
  { names := ["--debug"] }]

def pathPosition : Position := { name := "path" }

def locateGrammar : Grammar where
  program := program ++ " locate"
  switches := commonSwitches ++
    [textSwitch "--path-extension", textSwitch "--additional-pdb", { names := ["--no-symbols"] }]
  positions := [pathPosition, { name := "signatures", arity := .several }]

def symbolsGrammar : Grammar where
  program := program ++ " symbols"
  switches := commonSwitches ++ [
    textSwitch "--pdb",
    textSwitch "--path-extension",
    { names := ["--kind"], effect := .take (.choice ["all", "tests", "traits"]) },
    textSwitch "--search",
    { names := ["--limit"], effect := .take .integer }]
  positions := [pathPosition]

def importsGrammar : Grammar where
  program := program ++ " imports"
  switches := commonSwitches
  positions := [pathPosition]

/-- The grammars by the names of their tasks. -/
def tasks : List (String × Grammar) :=
  [("locate", locateGrammar), ("symbols", symbolsGrammar), ("imports", importsGrammar)]

def grammar : Grammar where
  program
  switches := [help, { names := ["--version"], effect := .version }]
  positions := [{ name := "cmd", arity := .remainder, content := .choice (tasks.map (·.1)) }]

def commonOf (a : Arguments) : Common where
  format := Format.chosen (a.isOn "--json") (a.isOn "--no-color")
    (some ((a.value? "--format").getD Format.plain.name))
  quiet := a.isOn "--quiet"
  verbose := a.isOn "--verbose"
  debug := a.isOn "--debug"

def choicesOf (a : Arguments) : Choices where
  pathExtension? := a.value? "--path-extension"
  additional := a.values "--additional-pdb"
  noSymbols := a.isOn "--no-symbols"
  debug := a.isOn "--debug"

def kindOf (a : Arguments) : Report.Kind :=
  match a.value? "--kind" with
  | some "tests" => .tests
  | some "traits" => .traits
  | _ => .all

def selectionOf (a : Arguments) : Selection where
  kind := kindOf a
  search? := (a.value? "--search").filter (· != "")
  limit? := (a.value? "--limit").bind Numeral.integer?

def taskOf (name : String) (a : Arguments) : Task :=
  let path := (a.value? "path").getD ""
  match name with
  | "locate" => .locate path (a.values "signatures") (choicesOf a)
  | "symbols" =>
      .symbols path ((a.value? "--pdb").filter (· != "")) (selectionOf a) (choicesOf a)
  | _ => .imports path

/-- Why there is no request, by the grammar that says so. -/
structure Refusal where
  grammar : Grammar
  reason : Early

/-- Reads by a grammar. -/
def readBy (grammar : Grammar) (arguments : List String) : Except Refusal Arguments :=
  (grammar.read arguments).mapError (⟨grammar, ·⟩)

/-- The request of a command line. The task has its own arguments; what is left over by it or
before it is refused. -/
def ofArguments (arguments : List String) : Except Refusal Request := do
  let outer ← readBy grammar arguments
  let words := outer.values "cmd"
  let name := words.headD ""
  let inner ← readBy (((tasks.find? (·.1 == name)).map (·.2)).getD importsGrammar) (words.drop 1)
  match outer.extra ++ inner.extra with
  | [] => return { common := commonOf inner, task := taskOf name inner }
  | extra => throw ⟨grammar, .refused (.unrecognized extra)⟩

end Request
end CommandLine
end TestAtlas
