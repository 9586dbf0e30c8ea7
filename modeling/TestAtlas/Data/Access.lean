import TestAtlas.Data.Value
import TestAtlas.Text.Quoted

/-!
Taking values apart whose kind is not known beforehand. What a value is not made
for is a misuse, and there is a message for each. A field can be taken from
exactly the records that have it (`part_eq_ok_iff`).
-/

namespace TestAtlas

namespace Value

/-- The kinds of values. -/
inductive Kind where
  | null
  | bool
  | int
  | decimal
  | text
  | list
  | record
  deriving DecidableEq, Repr

/-- What values of a kind are called. -/
def Kind.name : Kind → String
  | null => "NoneType"
  | bool => "bool"
  | int => "int"
  | decimal => "float"
  | text => "str"
  | list => "list"
  | record => "dict"

def kind : Value → Kind
  | null => .null
  | bool _ => .bool
  | int _ => .int
  | decimal _ => .decimal
  | text _ => .text
  | list _ => .list
  | record _ => .record

end Value

/-- Something that a kind of value is not made for. -/
inductive Misuse where
  | noField (name : String)
  /-- A name where a position is asked for. -/
  | nameForPosition (kind : Value.Kind)
  | noParts (kind : Value.Kind)
  | notARow (kind : Value.Kind)
  | noSize (kind : Value.Kind)
  | notARecord (kind : Value.Kind)
  | noOperation (kind : Value.Kind) (operation : String)
  /-- An operation that something other than a value does not have. -/
  | unknownOperation (owner operation : String)
  /-- A part that should have been a text. -/
  | notAText (position : Nat) (kind : Value.Kind)
  | notJoinable
  /-- Something that cannot go behind a text. -/
  | notAppendable (kind : Value.Kind)
  deriving DecidableEq, Repr

namespace Misuse

/-- The kind of error under which a misuse is reported. -/
def kind : Misuse → String
  | noField _ => "KeyError"
  | noOperation .. | unknownOperation .. => "AttributeError"
  | _ => "TypeError"

def message : Misuse → String
  | noField name => Quoted.quote name
  | nameForPosition .text => "string indices must be integers, not 'str'"
  | nameForPosition k => s!"{k.name} indices must be integers or slices, not str"
  | noParts k => s!"'{k.name}' object is not subscriptable"
  | notARow k => s!"'{k.name}' object is not iterable"
  | noSize k => s!"object of type '{k.name}' has no len()"
  | notARecord k => s!"'{k.name}' object is not a mapping"
  | noOperation k operation => s!"'{k.name}' object has no attribute '{operation}'"
  | unknownOperation owner operation => s!"'{owner}' object has no attribute '{operation}'"
  | notAText position k => s!"sequence item {position}: expected str instance, {k.name} found"
  | notJoinable => "can only join an iterable"
  | notAppendable k => s!"can only concatenate str (not \"{k.name}\") to str"

end Misuse

namespace Value

/-- The field of a record; no other value has fields. -/
def part (value : Value) (name : String) : Except Misuse Value :=
  match value with
  | record _ =>
      match value.field? name with
      | some v => .ok v
      | none => .error (.noField name)
  | text _ | list _ => .error (.nameForPosition value.kind)
  | _ => .error (.noParts value.kind)

/-- The field of a record, or a default if the record has none of this name. -/
def partOr (value : Value) (name : String) (default : Value) : Except Misuse Value :=
  match value with
  | record _ => .ok ((value.field? name).getD default)
  | _ => .error (.noOperation value.kind "get")

/-- What a value consists of: the items of a list, the characters of a text or the names of a
record's fields. -/
def row? : Value → Option (List Value)
  | list items => some items
  | text s => some (s.toList.map fun c => text (String.singleton c))
  | record fields => some (fields.map fun f => text f.1)
  | _ => none

def row (value : Value) : Except Misuse (List Value) :=
  match value.row? with
  | some items => .ok items
  | none => .error (.notARow value.kind)

/-- The fields of a record. -/
def fields (value : Value) : Except Misuse (List (String × Value)) :=
  match value with
  | record fields => .ok fields
  | _ => .error (.notARecord value.kind)

/-- The texts that a value consists of, with a separator between them. -/
def joined (separator : String) (value : Value) : Except Misuse String := do
  let some items := value.row? | throw .notJoinable
  let texts ← items.zipIdx.mapM fun (item, i) =>
    match item with
    | text s => .ok s
    | item => throw (.notAText i item.kind)
  return String.intercalate separator texts

/-- A record with a field of this name answers with it. -/
theorem part_eq_ok_iff {value v : Value} {name : String} :
    value.part name = .ok v ↔ value.field? name = some v := by
  cases value with
  | record fields => cases h : (record fields).field? name <;> simp [part, h]
  | _ => simp [part, field?]

end Value
end TestAtlas
