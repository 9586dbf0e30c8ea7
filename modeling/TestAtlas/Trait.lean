import TestAtlas.Symbol

/-!
Traits of tests. A trait method belongs to every test whose name starts with
the method's scopes; its last part is a name and a value around a separator,
and one that does not consist of exactly two such fields is malformed.
-/

namespace TestAtlas

/-- A name and a value attached to a test class. -/
structure Trait where
  name : String
  value : String
  deriving DecidableEq, Repr

namespace Trait

def schema : Schema where
  name := "Trait"
  fields := [{ name := "name", kind := .text }, { name := "value", kind := .text }]
  frozen := true

def toValue (t : Trait) : Value := .record [("name", .text t.name), ("value", .text t.value)]

/-- The trait of a record that was checked. -/
def ofValue? (record : Value) : Option Trait := do
  match ← record.field? "name", ← record.field? "value" with
  | .text name, .text value => return { name, value }
  | _, _ => none

/-- What stands between the name and the value of a trait. -/
def separator : List Char := "__GTA__".toList

/-- The part of a trait method's name between its scopes and its appendix. -/
def payload? (symbol : Symbol) : Option (List Char) :=
  let name := symbol.name.toList
  let start := symbol.payloadStart
  if start + Symbol.traitAppendix.length ≤ name.length then
    some ((name.take (name.length - Symbol.traitAppendix.length)).drop start)
  else
    none

/-- The trait that a method spells. -/
def decode? (symbol : Symbol) : Option Trait := do
  let payload ← payload? symbol
  match Text.split separator payload with
  | [name, value] => some ⟨String.ofList name, String.ofList value⟩
  | _ => none

/-- Whether a trait method belongs to a test. -/
def belongsTo (test method : Symbol) : Bool :=
  method.scope.isPrefixOf test.name.toList

/-- The traits of a test, in the order of the methods. -/
def all (test : Symbol) (methods : List Symbol) : List Trait :=
  (methods.filter (belongsTo test)).filterMap decode?

/-- The methods that belong to a test and are malformed. -/
def malformed (test : Symbol) (methods : List Symbol) : List Symbol :=
  (methods.filter (belongsTo test)).filter fun m => (decode? m).isNone

end Trait

/-- A test, where it is defined, and its traits. -/
structure TestCase where
  name : String
  file : String
  line : Int
  traits : List Trait := []
  deriving DecidableEq, Repr

namespace TestCase

def schema : Schema where
  name := "TestCaseLocation"
  fields := [
    { name := "symbol", kind := .text },
    { name := "source_file", kind := .text },
    { name := "line", kind := .integer },
    { name := "traits", kind := .records ["name", "value"], default? := some (.list []) }]
  frozen := false

def toValue (test : TestCase) : Value :=
  .record [("symbol", .text test.name), ("source_file", .text test.file), ("line", .int test.line),
    ("traits", .list (test.traits.map Trait.toValue))]

/-- The test of a record that was checked. -/
def ofValue? (record : Value) : Option TestCase := do
  let symbol ← Symbol.ofValue? record
  match ← record.field? "traits" with
  | .list traits =>
      return { symbol with traits := ← traits.mapM Trait.ofValue? }
  | _ => none

/-- A test method together with those of the trait methods that belong to it. -/
def ofSymbol (symbol : Symbol) (methods : List Symbol) : TestCase where
  name := symbol.name
  file := symbol.file
  line := symbol.line
  traits := Trait.all symbol methods

end TestCase
end TestAtlas
