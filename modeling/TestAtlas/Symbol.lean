import TestAtlas.Data.Schema
import TestAtlas.Text.Split

/-!
Functions as debug information names them. A qualified name consists of scopes
and a last part, separated by double colons. The trait methods of a test class
carry a name and a value in their last part, ended by an appendix.
-/

namespace TestAtlas

/-- A function and where it is defined. -/
structure Symbol where
  name : String
  file : String := ""
  line : Int := 0
  deriving DecidableEq, Repr

namespace Symbol

def schema : Schema where
  name := "SourceFileLocation"
  fields := [
    { name := "symbol", kind := .text },
    { name := "source_file", kind := .text, default? := some (.text "") },
    { name := "line", kind := .integer, default? := some (.int 0) }]
  frozen := true

def toValue (symbol : Symbol) : Value :=
  .record [("symbol", .text symbol.name), ("source_file", .text symbol.file),
    ("line", .int symbol.line)]

/-- The symbol of a record that was checked. -/
def ofValue? (record : Value) : Option Symbol := do
  match ← record.field? "symbol", ← record.field? "source_file", ← record.field? "line" with
  | .text name, .text file, .int line => return { name, file, line }
  | _, _, _ => none

/-- What stands between the parts of a qualified name. -/
def separator : List Char := "::".toList

/-- What the name of a trait method ends in. -/
def traitAppendix : List Char := "_GTA_TRAIT".toList

/-- What the name of a test method ends in. -/
def testBody : List Char := "::TestBody".toList

/-- The pattern for test methods. -/
def testPattern : String := String.ofList ('*' :: testBody)

/-- The pattern for trait methods. -/
def traitPattern : String := String.ofList ('*' :: traitAppendix)

/-- The position of the last separator that ends before the last appendix. -/
def lastSeparator? (name : List Char) : Option Nat :=
  let stop := (Text.lastIndex? traitAppendix name).getD name.length
  Text.lastIndex? separator (name.take stop)

/-- The position at which a trait method's name and value start. -/
def payloadStart (symbol : Symbol) : Nat :=
  match lastSeparator? symbol.name.toList with
  | none => 0
  | some i => i + separator.length

/-- The scopes of a name with their separators; a name without scopes stands for itself. -/
def scope (symbol : Symbol) : List Char :=
  let name := symbol.name.toList
  match lastSeparator? name with
  | none => name
  | some i => name.take (i + separator.length)

end Symbol
end TestAtlas
