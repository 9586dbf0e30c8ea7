import TestAtlas.Log.Line

/-!
Calls on a logger. A call says what happened and gives circumstances, which may
not have the names of what a call says anyway.
-/

namespace TestAtlas
namespace Log

/-- Something that a logger is asked to write. -/
structure Call where
  topic : Topic := .general
  severity : Severity
  event? : Option Value
  circumstances : Fields := []

namespace Call

/-- The name of the operation that is called. -/
def operation (topic : Topic) (severity : Severity) : String :=
  match topic with
  | .search => "debug_" ++ levelName severity
  | _ => levelName severity

def severities : List Severity := [.info, .warning, .error]

/-- The topic and the severity of an operation with a name. -/
def ofOperation (name : String) : Except Misuse (Topic × Severity) :=
  let all := [Topic.general, .search].flatMap fun topic => severities.map fun s => (topic, s)
  match all.find? fun (topic, severity) => operation topic severity == name with
  | some found => .ok found
  | none => .error (.unknownOperation "DiagnosticLogger" name)

theorem ofOperation_operation (severity : Severity) :
    ofOperation (operation .general severity) = .ok (.general, severity) ∧
      ofOperation (operation .search severity) = .ok (.search, severity) := by
  cases severity <;> exact ⟨rfl, rfl⟩

/-- The call that writes an entry. -/
def ofEntry (entry : Entry) : Call where
  topic := entry.topic
  severity := entry.severity
  event? := some (.text entry.message)
  circumstances := entry.context.map fun f => (f.1, .text f.2)

/-- Refuses circumstances with one of some names, which a receiver gives values itself. -/
def refuse (call : Call) (receiver : String) (names : List String) : Except Problem Unit :=
  match call.circumstances.find? fun f => names.contains f.1 with
  | some (name, _) => .error (.taken receiver name)
  | none => .ok ()

/-- Checks the names that are refused even where nothing is written. -/
def checkCall (call : Call) : Except Problem Unit :=
  call.refuse ("DiagnosticLogger." ++ operation call.topic call.severity) ["self", "message"]

/-- Checks the names that are refused where something may be written. -/
def checkWritten (call : Call) : Except Problem Unit := do
  call.refuse ("BoundLogger." ++ levelName call.severity) [Line.eventName]
  call.refuse "BoundLogger._proxy_to_logger" ["method_name"]

end Call
end Log
end TestAtlas
