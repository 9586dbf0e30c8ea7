import TestAtlas.Log.Call

/-!
Which entries are shown. Entries below a threshold are not, and details of the
symbol search only to those who ask for them.
-/

namespace TestAtlas
namespace Log

structure Policy where
  threshold : Nat
  /-- Whether details of the symbol search are wanted. -/
  searchDetails : Bool := false
  deriving DecidableEq, Repr

namespace Policy

/-- Whether a call may be written at all. -/
def isActive (policy : Policy) (call : Call) : Bool :=
  call.topic != .search || policy.searchDetails

/-- The line of a call in some circumstances that hold anyway, if it is shown. -/
def line? (policy : Policy) (logger : String) (context : Fields) (call : Call) :
    Except Problem (Option Line) := do
  call.checkCall
  if !policy.isActive call then return none
  else
    call.checkWritten
    if urgency call.severity < policy.threshold then return none
    else return some {
      severity := call.severity
      event? := call.event?
      logger
      circumstances := Fields.update context call.circumstances }

/-- What an entry adds to a log that is laid out for reading. Remarks on the settings stand there
without anything around them. -/
def layOut (policy : Policy) (logger : String) (stamp? : Option String) (entry : Entry) :
    Except Problem String := do
  match ← policy.line? logger [] (.ofEntry entry) with
  | none => return ""
  | some line =>
      if entry.topic = .settings then return entry.message ++ "\n"
      else line.layOut stamp?

end Policy
end Log
end TestAtlas
