import TestAtlas.Data.Access
import TestAtlas.Data.IntegerText

/-!
Records whose fields are checked when they are filled in. Checking goes through
all fields in their order and reports every problem with its place; fields that
the record does not have are ignored.
-/

namespace TestAtlas

namespace Schema

/-- What is wrong with a field. -/
inductive Fault where
  | missing
  | notText
  | notInteger
  | unreadableInteger
  | fractionalInteger
  | hugeInteger
  | notList
  | notRecord
  | frozen
  deriving DecidableEq, Repr

/-- A step on the way to a field. -/
inductive Step where
  | field (name : String)
  | item (index : Nat)
  deriving DecidableEq, Repr

/-- What a fault is called where it is reported to a reader. -/
def Fault.message : Fault → String
  | missing => "Field required"
  | notText => "Input should be a valid string"
  | notInteger => "Input should be a valid integer"
  | unreadableInteger => "Input should be a valid integer, unable to parse string as an integer"
  | fractionalInteger => "Input should be a valid integer, got a number with a fractional part"
  | hugeInteger => "Unable to parse input string as an integer, exceeded maximum size"
  | notList => "Input should be a valid list"
  | notRecord => "Input should be a valid dictionary"
  | frozen => "Instance is frozen"

/-- A fault with its place and what was given there. For a field that is missing it is what should
have had it. -/
structure Problem where
  fault : Fault
  place : List Step
  given : Value
  deriving Repr

/-- What a field holds. A list of records names their fields, which are texts. -/
inductive Kind where
  | text
  | integer
  | records (fields : List String)
  deriving DecidableEq, Repr

structure Field where
  name : String
  kind : Kind
  default? : Option Value := none

def integerOfText (s : String) : Except Fault Int :=
  match IntegerText.parse s with
  | .ok n => .ok n
  | .error .unreadable => .error .unreadableInteger
  | .error .tooLong => .error .hugeInteger

/-- Decimals count as integers only below this size. -/
def decimalLimit : Nat := 0x8000000000000000

/-- A decimal without a fraction, unless it is too large. -/
def integerOfDecimal (d : Decimal) : Except Fault Int :=
  match (Binary.ofDecimal d).integer? with
  | none => .error .fractionalInteger
  | some n => if n.natAbs < decimalLimit then .ok n else .error .hugeInteger

/-- Truth values count as one and zero. -/
def checkInteger : Value → Except Fault Int
  | .int n => .ok n
  | .bool b => .ok (if b then 1 else 0)
  | .decimal d => integerOfDecimal d
  | .text s => integerOfText s
  | _ => .error .notInteger

def checkText : Value → Except Fault String
  | .text s => .ok s
  | _ => .error .notText

/-- Collects values, or else all problems. -/
def gather {α : Type} : List (Except (List Problem) α) → Except (List Problem) (List α)
  | [] => .ok []
  | first :: rest =>
      match first, gather rest with
      | .ok a, .ok more => .ok (a :: more)
      | .ok _, .error more => .error more
      | .error problems, .ok _ => .error problems
      | .error problems, .error more => .error (problems ++ more)

/-- A record whose fields are all texts and have to be there. -/
def checkTexts (place : List Step) (names : List String) (value : Value) :
    Except (List Problem) Value :=
  match value with
  | .record _ =>
      (gather (names.map fun name =>
        let here := place ++ [.field name]
        match value.field? name with
        | none => .error [⟨.missing, here, value⟩]
        | some v =>
            match checkText v with
            | .ok s => .ok (name, Value.text s)
            | .error fault => .error [⟨fault, here, v⟩])).map Value.record
  | _ => .error [⟨.notRecord, place, value⟩]

def checkKind (place : List Step) (kind : Kind) (value : Value) : Except (List Problem) Value :=
  match kind with
  | .text =>
      match checkText value with
      | .ok s => .ok (.text s)
      | .error fault => .error [⟨fault, place, value⟩]
  | .integer =>
      match checkInteger value with
      | .ok n => .ok (.int n)
      | .error fault => .error [⟨fault, place, value⟩]
  | .records names =>
      match value with
      | .list items =>
          (gather (items.zipIdx.map fun (v, i) =>
            checkTexts (place ++ [.item i]) names v)).map Value.list
      | _ => .error [⟨.notList, place, value⟩]

def checkField (given : Value) (field : Field) : Except (List Problem) (String × Value) :=
  let place := [Step.field field.name]
  match given.field? field.name, field.default? with
  | some v, _ => (checkKind place field.kind v).map (field.name, ·)
  | none, some v => .ok (field.name, v)
  | none, none => .error [⟨.missing, place, given⟩]

end Schema

/-- A kind of record. A frozen one cannot be changed once it is made. -/
structure Schema where
  name : String
  fields : List Schema.Field
  frozen : Bool

namespace Schema

/-- The record made from given fields. -/
def check (schema : Schema) (given : Value) : Except (List Problem) Value :=
  match given with
  | .record _ => (gather (schema.fields.map (checkField given))).map Value.record
  | _ => .error [⟨.notRecord, [], given⟩]

/-! The names that every record has besides those of its fields -/

/-- All fields together. -/
def fieldsName : String := "__dict__"

def schemaName : String := "__class__"

def closedNames : List String := ["__weakref__"]

def derivedNames : List String := ["__fields__", "__fields_set__"]

/-- Names that are derived as well, but a frozen record is frozen before that matters. -/
def openDerivedNames : List String := ["model_extra", "model_fields_set"]

/-- Why a field cannot be set. -/
inductive SetError where
  | frozen (problem : Problem)
  | unknown (schema field : String)
  /-- The field is worked out from others. -/
  | derived (schema field : String)
  /-- The field is not open to anyone. -/
  | closed (schema field : String)
  /-- Something other than a schema in the place of one. -/
  | notASchema (kind : Value.Kind)
  /-- Something other than a record in the place of all fields. -/
  | notFields (kind : Value.Kind)
  deriving Repr

namespace SetError

/-- The kind under which the error is reported. -/
def kind : SetError → String
  | frozen _ => "ValidationError"
  | unknown .. => "ValueError"
  | derived .. | closed .. => "AttributeError"
  | notASchema _ | notFields _ => "TypeError"

def message : SetError → String
  | frozen _ => ""
  | unknown schema field => s!"\"{schema}\" object has no field \"{field}\""
  | derived schema field => s!"property '{field}' of '{schema}' object has no setter"
  | closed schema field => s!"attribute '{field}' of '{schema}' objects is not writable"
  | notASchema kind => s!"{schemaName} must be set to a class, not '{kind.name}' object"
  | notFields kind => s!"{fieldsName} must be set to a dictionary, not a '{kind.name}'"

end SetError

end Schema

/-- A record that is being edited. What a field is set to is not checked. -/
structure Draft where
  schema : Schema
  fields : List (String × Value)
  /-- The fields that were set. -/
  edited : List String := []

namespace Draft

/-- The record made from given fields. -/
def ofFields (schema : Schema) (given : Value) : Except (List Schema.Problem) Draft := do
  let fields ← Schema.gather (schema.fields.map (Schema.checkField given))
  return { schema, fields }

/-- The record with other fields; what it has no field for is dropped. -/
def refill (draft : Draft) (fields : List (String × Value)) : Draft :=
  { draft with
    fields := fields.filter fun f => draft.schema.fields.any (·.name == f.1)
    edited := draft.schema.fields.map (·.name) }

/-- The record with a field of its schema set. -/
def put (draft : Draft) (name : String) (value : Value) : Draft :=
  { draft with
    fields :=
      if draft.fields.any (·.1 == name) then
        draft.fields.map fun f => if f.1 = name then (name, value) else f
      else draft.fields ++ [(name, value)]
    edited := name :: draft.edited }

/-- The record with something set that every record has. Other names with an underscore in front are
set aside and not shown. -/
def setOwn (draft : Draft) (name : String) (value : Value) : Except Schema.SetError Draft :=
  if name = Schema.fieldsName then
    match value with
    | .record fields => .ok (draft.refill fields)
    | value => .error (.notFields value.kind)
  else if name = Schema.schemaName then .error (.notASchema value.kind)
  else if Schema.closedNames.contains name then .error (.closed draft.schema.name name)
  else if Schema.derivedNames.contains name then .error (.derived draft.schema.name name)
  else .ok draft

/-- The record with a name set to a value. -/
def set (draft : Draft) (name : String) (value : Value) : Except Schema.SetError Draft :=
  if name.toList.head? = some '_' then draft.setOwn name value
  else if draft.schema.frozen then .error (.frozen ⟨.frozen, [.field name], value⟩)
  else if Schema.openDerivedNames.contains name then .error (.derived draft.schema.name name)
  else if draft.schema.fields.any (·.name == name) then .ok (draft.put name value)
  else .error (.unknown draft.schema.name name)

/-- Whether a field equals that of a checked record. A list of records that was put into the
field unchecked equals a checked one only if both are empty. -/
def fieldAgrees (draft : Draft) (checked : Value) (field : Schema.Field) : Bool :=
  match (Value.record draft.fields).field? field.name, checked.field? field.name with
  | some a, some b =>
      match field.kind with
      | .records _ =>
          if draft.edited.contains field.name then a.same (.list []) && b.same (.list [])
          else a.same b
      | _ => a.same b
  | _, _ => false

def agrees (draft : Draft) (checked : Value) : Bool :=
  draft.schema.fields.all (draft.fieldAgrees checked)

end Draft
end TestAtlas
