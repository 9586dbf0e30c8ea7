import TestAtlas.Log.Level
import TestAtlas.Log.Line

/-!
How a log is set up: from which urgency on entries are shown, whether lines are
written as records, and whether they are stamped with the time. Options that
are not given have their usual values.
-/

namespace TestAtlas
namespace Log

structure Setup where
  threshold : Nat
  asRecords : Bool
  stamped : Bool
  deriving DecidableEq, Repr

/-- Why a log cannot be set up. -/
inductive SetupError where
  | unknownOption (name : String)
  | level (error : LevelError)
  deriving DecidableEq, Repr

namespace SetupError

def kind : SetupError → String
  | unknownOption _ => "TypeError"
  | level e => e.kind

def message : SetupError → String
  | unknownOption name => s!"configure_logging() got an unexpected keyword argument '{name}'"
  | level e => e.message

end SetupError

namespace Setup

/-- The options with their usual values. Colours do not matter where none are shown. -/
def options : Fields := [
  ("level", .text "INFO"), ("json_output", .bool false), ("add_timestamp", .bool true),
  ("colorize", .null)]

/-- The value of an option. -/
def option (given : Fields) (name : String) : Value :=
  ((given.get? name).orElse fun _ => options.get? name).getD .null

/-- The setup with the given options. -/
def ofOptions (given : Fields) : Except SetupError Setup :=
  match given.find? fun f => !options.any fun o => o.1 == f.1 with
  | some (name, _) => .error (.unknownOption name)
  | none =>
      match Log.threshold (option given "level") with
      | .error e => .error (.level e)
      | .ok threshold => .ok {
          threshold
          asRecords := (option given "json_output").isTruthy
          stamped := (option given "add_timestamp").isTruthy }

end Setup
end Log
end TestAtlas
