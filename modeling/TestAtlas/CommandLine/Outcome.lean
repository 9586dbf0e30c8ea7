import TestAtlas.CommandLine.Request
import TestAtlas.Log.Policy
import TestAtlas.Scan.Progress

/-!
What a run leaves behind: its exit code, what it printed, and what it said
aside. The code is the same for all formats as long as the report can be
printed.
-/

namespace TestAtlas
namespace CommandLine

open Terminal (Printout)

/-- What a task leaves behind. -/
structure Outcome where
  exit : Nat
  output : String := ""
  /-- The output with all boxes and guides drawn in ASCII. -/
  coarse : String := output
  /-- What happened on the way. -/
  events : List Event := []
  /-- What was said at the end. -/
  complaint : String := ""
  /-- Whether details of the symbol search are wanted. -/
  details : Bool := false
  /-- The settings common to all runs, if they were asked for. -/
  settings? : Option Settings := none
  deriving DecidableEq, Repr

namespace Outcome

def success : Nat := 0

/-- Something went wrong, or there was no test to be found. -/
def failed : Nat := 1

/-- A file that was named is none. -/
def misuse : Nat := 2

/-- A file could not be read, or there was none to read. -/
def unreadable : Nat := 3

def interrupted : Nat := 130

def ofComplaint (exit : Nat) (text : String) : Outcome :=
  { exit, complaint := (Report.plainText text).text }

/-- What is said about a failure that ends a run; those who want to know more are told its
kind. -/
def explain (verbose : Bool) (failure : Failure) : String :=
  if verbose then failure.report else s!"Error: {failure.message}\n"

def ofFailure (verbose : Bool) (failure : Failure) : Outcome :=
  { exit := failed, complaint := explain verbose failure }

/-- The outcome with a report; one that cannot be printed is a failure. -/
def ofPrintout (verbose : Bool) (exit : Nat) (printout : Printout) : Outcome :=
  match printout.problem? with
  | none => { exit, output := printout.text, coarse := printout.coarse }
  | some e =>
      { ofFailure verbose (.other e.kind e.message) with
        output := printout.text
        coarse := printout.coarse }

/-- The outcome after something had happened before. -/
def after (events : List Event) (outcome : Outcome) : Outcome :=
  { outcome with events := events ++ outcome.events }

def isOpening : Event → Bool
  | .opening .. => true
  | _ => false

/-- The outcome if the user interrupts the run when a program database is to be opened. -/
def interrupt (outcome : Outcome) : Outcome :=
  if outcome.events.any isOpening then
    { outcome with
      exit := interrupted
      output := ""
      coarse := ""
      events := outcome.events.takeWhile fun e => !isOpening e
      complaint := "\nInterrupted by user\n" }
  else outcome

/-- The threshold of the log. -/
def threshold (common : Common) : Nat :=
  if common.verbose then 10
  else if common.debug then 20
  else if common.quiet then 40
  else 30

/-- All that was said aside. -/
def aside (request : Request) (stamp : String) (outcome : Outcome) : String :=
  let policy : Log.Policy :=
    { threshold := threshold request.common, searchDetails := outcome.details }
  let logger := "testlocator.cli." ++ request.task.name
  let lines := (outcome.events.filterMap Event.entry?).map (policy.layOut logger (some stamp))
  String.join (lines.filterMap Except.toOption) ++ outcome.complaint

end Outcome
end CommandLine
end TestAtlas
