import TestAtlas.Data.Template
import TestAtlas.Log.Level

/-!
Log lines. A line is a record of what happened, how urgent it is, who says so
and the circumstances; it is written as such or laid out for reading, with the
circumstances in the order of their names. Some circumstances do not become part
of the line but decide how it is made.
-/

namespace TestAtlas
namespace Log

/-- Named values; a name occurs once. -/
abbrev Fields := List (String × Value)

/-- The fields with further ones, which replace those of the same name. -/
def Fields.update (fields further : Fields) : Fields :=
  (fields.filter fun f => !further.any fun g => g.1 == f.1) ++ further

/-- The value of a field, if there is one. -/
def Fields.get? (fields : Fields) (name : String) : Option Value :=
  (fields.find? fun f => f.1 == name).map (·.2)

/-- Why a line cannot be made. -/
inductive Problem where
  /-- A circumstance has the name of something that is there anyway. -/
  | taken (receiver name : String)
  | misuse (misuse : Misuse)
  /-- A record with a single field has no first item. -/
  | noFirst
  | template (problem : Template.Problem)
  /-- The event is no text that something could be put into. -/
  | notATemplate (event : Value.Kind) (values : Value.Kind)
  deriving DecidableEq, Repr

namespace Problem

/-- The kind of error under which a problem is reported. -/
def kind : Problem → String
  | misuse m => m.kind
  | noFirst => "KeyError"
  | template p => p.kind
  | taken .. | notATemplate .. => "TypeError"

def message : Problem → String
  | taken receiver name => s!"{receiver}() got multiple values for argument '{name}'"
  | misuse m => m.message
  | noFirst => "0"
  | template p => p.message
  | notATemplate event values =>
      s!"unsupported operand type(s) for %=: '{event.name}' and '{values.name}'"

end Problem

structure Line where
  severity : Severity
  /-- What happened, usually a text. -/
  event? : Option Value
  logger : String
  circumstances : Fields := []

namespace Line

/-- The names of circumstances that are not part of a line. -/
def steering : List String := ["exc_info", "stack_info"]

/-- A circumstance under this name says who made the line, which a plain value cannot. -/
def makerName : String := "_record"

/-- The values under this name are put into the places of the event. -/
def valuesName : String := "positional_args"

def eventName : String := "event"

/-- The fields of a line before anything is put into its event. What a line always has replaces
circumstances of the same name. -/
def fields (stamp? : Option String) (line : Line) : Fields :=
  Fields.update (line.circumstances.filter fun f => !steering.contains f.1)
    ((stamp?.map fun t => ("timestamp", Value.text t)).toList ++
      (line.event?.map fun e => (eventName, e)).toList ++
      [("level", .text (levelName line.severity)), ("logger", .text line.logger)])

/-- A record that is the only item of a list stands for itself. -/
def single (values : Value) : Except Problem Value :=
  match values with
  | .list [.record fields] => .ok (if fields.isEmpty then values else .record fields)
  | .list _ | .text _ => .ok values
  | .record fields => if fields.length = 1 then .error .noFirst else .ok values
  | values => .error (.misuse (.noSize values.kind))

/-- The event with values put into its places. -/
def fillEvent (event values : Value) : Except Problem Value :=
  match event with
  | .text template => ((Template.fill template values).map Value.text).mapError .template
  | event => .error (.notATemplate event.kind values.kind)

/-- The fields with the values for the event put into it. -/
def fill (fields : Fields) : Except Problem Fields :=
  match fields.get? valuesName with
  | none | some .null => .ok fields
  | some values =>
      let others := fields.filter fun f => f.1 != valuesName
      if !values.isTruthy then .ok others
      else do
        let values ← single values
        let event ← ((Value.record fields).part eventName).mapError .misuse
        return Fields.update others [(eventName, ← fillEvent event values)]

/-- The whole line, with the time if it is to be stamped. -/
def record (stamp? : Option String) (line : Line) : Except Problem Fields :=
  match (line.circumstances.get? makerName).getD .null with
  | .null => fill (line.fields stamp?)
  | maker => .error (.misuse (.noOperation maker.kind "name"))

/-- The text with blanks after it up to a length. -/
def padded (length : Nat) (text : String) : String :=
  text ++ String.ofList (List.replicate (length - text.length) ' ')

def levelWidth : Nat := 9

def eventWidth : Nat := 30

/-- Whether a text has to stand in quotes to be told apart from what surrounds it. -/
def needsQuotes (s : String) : Bool :=
  s.toList.any fun c => c ∈ [' ', '\t', '=', '\r', '\n', '"', '\'']

def showValue : Value → String
  | .text s => if needsQuotes s then Quoted.quote s else s
  | v => Literal.render v

/-- The fields that have places of their own in a laid out line. -/
def placed : List String :=
  ["timestamp", "level", "event", "logger", "logger_name", "stack", "exception"]

def showPlaced (fields : Fields) (name : String) (layOut : String → String) : List String :=
  ((fields.get? name).map fun v => layOut (Literal.display v)).toList

/-- A text that stands below a line, if there is one. -/
def attached (fields : Fields) (name : String) : Except Problem (Option String) :=
  match fields.get? name with
  | none | some .null => .ok none
  | some (.text s) => .ok (some s)
  | some v => .error (.misuse (.notAppendable v.kind))

/-- What stands below a line: a stack and an error, with a rule between them. -/
def below (fields : Fields) : Except Problem String := do
  let stack? ← attached fields "stack"
  let error? ← attached fields "exception"
  let rule := if error?.isSome then "\n\n" ++ String.ofList (List.replicate 79 '=') ++ "\n" else ""
  return (stack?.map fun s => "\n" ++ s ++ rule).getD "" ++ (error?.map ("\n" ++ ·)).getD ""

/-- Fields laid out for reading. -/
def layOutFields (fields : Fields) : Except Problem String := do
  let places := showPlaced fields "timestamp" id
    ++ showPlaced fields "level" (fun s => "[" ++ padded levelWidth s ++ "]")
    ++ showPlaced fields eventName (padded eventWidth)
    ++ showPlaced fields "logger" (fun s => "[" ++ s ++ "]")
    ++ showPlaced fields "logger_name" (fun s => "[" ++ s ++ "]")
  let others := (fields.filter fun f => !placed.contains f.1).mergeSort fun a b => a.1 ≤ b.1
  let parts := places ++ others.map fun f => f.1 ++ "=" ++ showValue f.2
  return String.intercalate " " (parts.filter (· != "")) ++ (← below fields) ++ "\n"

/-- The line laid out for reading. -/
def layOut (stamp? : Option String) (line : Line) : Except Problem String := do
  layOutFields (← line.record stamp?)

end Line
end Log
end TestAtlas
