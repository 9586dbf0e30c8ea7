import TestAtlas.Diagnostics
import TestAtlas.Files.Host
import TestAtlas.Text.Blank
import TestAtlas.Text.Casing

/-!
What a search is set to do. Variables of the surroundings decide over given
values whenever settings are made or copied, and a truth value that cannot be
read is remarked on and leaves the given one.
-/

namespace TestAtlas

structure Settings where
  /-- Directories to search for program databases. -/
  pathExtension : Option String := none
  /-- Patterns of further program databases. -/
  additional : List String := []
  parseSymbols : Bool := true
  debug : Bool := false
  deriving DecidableEq, Repr

namespace Settings

/-- The variables that decide over settings, as far as they are set. -/
structure Overrides where
  pathExtension : Option String := none
  additional : Option String := none
  parseSymbols : Option String := none
  debug : Option String := none
  deriving DecidableEq, Repr

def parseSymbolsName : String := "TESTLOCATOR_PARSE_SYMBOLS"

def debugName : String := "TESTLOCATOR_DEBUG"

variable {m : Type → Type} [Monad m]

def Overrides.read (host : Host m) : m Overrides := do
  return {
    pathExtension := ← host.variableNamed "TESTLOCATOR_PATH_EXTENSION"
    additional := ← host.variableNamed "TESTLOCATOR_ADDITIONAL_PDBS"
    parseSymbols := ← host.variableNamed parseSymbolsName
    debug := ← host.variableNamed debugName }

/-- The truth value that a word stands for, in any mixture of capital and small letters. -/
def truth? (word : String) : Option Bool :=
  let plain := Casing.lower (String.ofList (Blank.trim Blank.isBlank word.toList))
  if plain ∈ ["1", "true", "yes", "on"] then some true
  else if plain ∈ ["0", "false", "no", "off"] then some false
  else none

/-- The truth value of a setting, or the given one if the word stands for none. -/
def parseTruth (name word : String) (given : Bool) : Bool × List Entry :=
  match truth? word with
  | some b => (b, [])
  | none => (given, [.settingsWarning s!"Invalid boolean value for {name}: {word}"])

/-- The truth value that a variable decides on; an empty one decides nothing. -/
def overrideTruth (name : String) (word? : Option String) (given : Bool) : Bool × List Entry :=
  match word?.filter (· != "") with
  | some word => parseTruth name word given
  | none => (given, [])

/-- The patterns in a list with semicolons. -/
def patterns (list : String) : List String :=
  ((Text.pieces ';' list).map fun p => String.ofList (Blank.trim Blank.isBlank p.toList)).filter
    (· != "")

/-- The settings with the variables deciding over them. -/
def override (settings : Settings) (overrides : Overrides) : Settings × List Entry :=
  let (parseSymbols, first) :=
    overrideTruth parseSymbolsName overrides.parseSymbols settings.parseSymbols
  let (debug, second) := overrideTruth debugName overrides.debug settings.debug
  ({ pathExtension := overrides.pathExtension <|> settings.pathExtension
     additional := match overrides.additional.filter (· != "") with
       | some list => patterns list
       | none => settings.additional
     parseSymbols
     debug }, first ++ second)

/-- Stands for the directory of the executable. -/
def directoryPlaceholder : List Char := "$(ExecutableDir)".toList

/-- Stands for the name of the executable without its extension. -/
def namePlaceholder : List Char := "$(Executable)".toList

/-- The text with the directory filled in, and then the name. -/
def fillIn (directory name text : String) : String :=
  String.ofList (Text.replace namePlaceholder name.toList
    (Text.replace directoryPlaceholder directory.toList text.toList))

/-- A copy for an executable, whose path is as seen from the root, with the placeholders filled in.
The variables decide over the truth values of the copy. -/
def forExecutable (settings : Settings) (overrides : Overrides) (executable : String) :
    Settings × List Entry :=
  let fill := fillIn (Path.directory executable) (Path.stem (Path.name executable))
  let (copy, remarks) := settings.override overrides
  ({ copy with
      pathExtension := (settings.pathExtension.filter (· != "")).map fill
      additional := settings.additional.map fill }, remarks)

end Settings
end TestAtlas
