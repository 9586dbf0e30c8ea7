import TestAtlas.CommandLine.Perform

/-!
A run of the program: reading the command line, carrying out the task and
putting together what is printed and what is said aside.
-/

namespace TestAtlas
namespace CommandLine

variable {m : Type → Type} [Monad m]

/-- What is seen of a run. -/
structure Run where
  exit : Nat
  output : String := ""
  /-- The output with all boxes and guides drawn in ASCII. -/
  coarse : String := output
  aside : String := ""
  /-- Whether the command line itself ended the run. -/
  early : Bool := false
  settings? : Option Settings := none

namespace Run

/-- A short account of a grammar. -/
def usage (grammar : Grammar) : String :=
  let switches := grammar.switches.map fun s => "  " ++ String.intercalate ", " s.names
  let positions := String.intercalate " " (grammar.positions.map (·.name))
  s!"usage: {grammar.program} [options] {positions}\n\noptions:\n" ++
    String.join (switches.map (· ++ "\n"))

def ofRefusal (refusal : Request.Refusal) : Run :=
  match refusal.reason with
  | .help => { exit := 0, output := usage refusal.grammar, early := true }
  | .version => { exit := 0, output := s!"{Request.program} {Request.version}\n", early := true }
  | .refused problem =>
      { exit := 2, aside := s!"{refusal.grammar.program}: error: {problem.message}\n"
        early := true }

def ofOutcome (request : Request) (stamp : String) (outcome : Outcome) : Run where
  exit := outcome.exit
  output := outcome.output
  coarse := outcome.coarse
  aside := outcome.aside request stamp
  settings? := outcome.settings?

end Run

/-- Runs the program. Log lines have the given stamp; the user may interrupt the run when a
program database is to be opened. -/
def run (host : Host m) (stamp : String) (interrupted : Bool) (arguments : List String) :
    m Run := do
  match Request.ofArguments arguments with
  | .error refusal => return .ofRefusal refusal
  | .ok request =>
      let outcome ← request.perform host
      return .ofOutcome request stamp (if interrupted then outcome.interrupt else outcome)

end CommandLine
end TestAtlas
