import TestAtlas.Scan.Collaborators
import TestAtlas.Scan.Progress

/-!
Taking over the test and trait methods of one binary. Either all of them are
added or, when the program database is not found or cannot be read, none.
-/

namespace TestAtlas
namespace Scanner

variable {m : Type → Type} [Monad m] {Reader : Type}

/-- What is being worked on while a binary is scanned. -/
def context (binary database : String) : List (String × String) :=
  ("binary_path", binary) :: if database = "" then [] else [("pdb_path", database)]

/-- The test methods, then the trait methods, that a reader enumerates. -/
def enumerate (parties : Collaborators m Reader) (reader : Reader) :
    Except Failure (List Symbol × List Symbol) × List Entry :=
  match parties.functions reader Symbol.testPattern with
  | (.error failure, remarks, _) => (.error failure, remarks)
  | (.ok tests, remarks, reader) =>
      match parties.functions reader Symbol.traitPattern with
      | (.error failure, more, _) => (.error failure, remarks ++ more)
      | (.ok traits, more, _) => (.ok (tests, traits), remarks ++ more)

/-- Opens a reader, enumerates with it, and closes it in any case. -/
def read (parties : Collaborators m Reader) (binary database : String) :
    m (Except Failure (List Symbol × List Symbol) × List Event) := do
  let opening := Event.opening binary database
  match ← parties.openReader binary database with
  | .error failure => return (.error failure, [opening])
  | .ok reader =>
      let (outcome, remarks) := enumerate parties reader
      let said := remarks.map fun e => Event.remarked (e.within (context binary database))
      return (outcome, opening :: said ++ [.closed database])

def unreadable (binary database : String) (failure : Failure) : Entry :=
  (Entry.searchError ("Exception while resolving test locations and traits in " ++
    s!"'{binary}':\n{failure.report}")).within (context binary database)

def summary (binary database : String) (tests traits : List Symbol) : Entry :=
  .searchInfo (s!"Found {tests.length} test method symbols and {traits.length} " ++
    s!"trait symbols in binary {binary}, pdb {database}")

/-- Scans a binary with a program database, and gives the number of methods that were added. -/
def scanWith (parties : Collaborators m Reader) (binary database : String) : Search m Nat := do
  let (outcome, events) ← (monadLift (n := StateT Progress m) (read parties binary database) :
    StateT Progress m _)
  Search.emit events
  match outcome with
  | .error failure =>
      Search.remark [unreadable binary database failure]
      return 0
  | .ok (tests, traits) =>
      modify fun p => { p with table := (p.table.addTests tests).addTraits traits }
      Search.remark [summary binary database tests traits]
      return tests.length + traits.length

/-- Scans a binary, with the given program database or with the one that is found for it. -/
def scan (parties : Collaborators m Reader) (extension? : Option String) (binary : String)
    (database? : Option String) : Search m Nat := do
  match database? with
  | some database => scanWith parties binary database
  | none =>
      match ← Search.ask (parties.locate binary extension?) with
      | some database => scanWith parties binary database
      | none =>
          Search.remark [.searchWarning s!"No .pdb file found for '{binary}'"]
          return 0

end Scanner
end TestAtlas
