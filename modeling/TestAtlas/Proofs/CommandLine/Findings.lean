import TestAtlas.Proofs.CommandLine.Preparation

/-!
What a task comes to before anything is printed. It either ends, or there is a
document to be printed; only the printing depends on the format, and it can go
wrong only for rich text.
-/

namespace TestAtlas
namespace CommandLine

open Report (Format Selection)
open Terminal (Printout)

/-- What is to be printed. -/
inductive Document where
  | location (signatures : List String) (found? : Option TestCase)
  | listing (listing : Report.Listing)
  | imports (path : String) (database? : Option String) (modules : List (String × Bool))

def Document.present (columns : Nat) (format : Format) : Document → Printout
  | .location signatures found? =>
      (Report.Location.ofSearch signatures found?).present columns format
  | .listing categories => categories.present columns format
  | .imports path database? modules =>
      (Report.Imports.ofImage path database? modules).present columns format

/-- A document with the exit code that goes with it, and the search that it comes from. -/
structure Finding where
  document : Document
  exit : Nat
  search? : Option (Setup × List Event) := none

namespace Finding

def finish (finding : Finding) (outcome : Outcome) : Outcome :=
  match finding.search? with
  | none => outcome
  | some (setup, events) => setup.finish events outcome

/-- Whether a program database was to be opened on the way. -/
def opened (finding : Finding) : Bool :=
  (finding.finish { exit := finding.exit }).events.any Outcome.isOpening

end Finding

section

variable {m : Type → Type} [Monad m]

def Finding.print (host : Host m) (common : Common) (finding : Finding) : m Outcome :=
  finding.finish <$> outcomeOf host common finding.exit fun columns format =>
    finding.document.present columns format

/-- The investigation of a file, if the path leads to one. -/
def investigateFile (host : Host m) (verbose : Bool) (path : String)
    (task : String → m (Except Outcome Finding)) : m (Except Outcome Finding) := do
  match ← checkFile host path with
  | .error problem => return .error (problem.outcome verbose)
  | .ok path => task path

def investigateTest (host : Host m) (verbose : Bool) (signatures : List String)
    (prepared : Prepared) : m (Except Outcome Finding) :=
  let said := prepared.remarks.map Event.remarked
  match prepared.ready with
  | .error failure =>
      return .error (prepared.setup.finish (said ++ prepared.resolver.progress.events)
        (.ofFailure verbose failure))
  | .ok () => do
      let (found?, resolver) ← prepared.resolver.find (Collaborators.standard host) signatures
      return .ok {
        document := .location signatures found?
        exit := if found?.isSome then Outcome.success else Outcome.failed
        search? := some (prepared.setup, said ++ resolver.progress.events) }

def investigateDatabase (host : Host m) (verbose : Bool) (setup : Setup) (path : String)
    (selection : Selection) : Except Failure (Option String) × List Entry →
      m (Except Outcome Finding)
  | (.error failure, remarks) =>
      return .error (setup.finish (remarks.map .remarked) (.ofFailure verbose failure))
  | (.ok none, remarks) =>
      return .error (setup.finish (remarks.map .remarked)
        (.ofComplaint Outcome.unreadable s!"No .pdb file found for '{path}'"))
  | (.ok (some database), remarks) => do
      let search := Scanner.scan (Collaborators.standard host) setup.settings.pathExtension path
        (some database)
      match ← search.run.run {} with
      | (.error failure, progress) =>
          return .error (setup.finish (remarks.map .remarked ++ progress.events)
            (.ofFailure verbose failure))
      | (.ok _, progress) =>
          return .ok {
            document := .listing (selection.listing progress.table)
            exit := Outcome.success
            search? := some (setup, remarks.map .remarked ++ progress.events) }

def investigateSymbols (host : Host m) (verbose : Bool) (database? : Option String)
    (selection : Selection) (choices : Choices) (path : String) :
    m (Except Outcome Finding) := do
  let given? ← database?.mapM (checkFile host)
  match given? with
  | some (.error problem) => return .error (problem.outcome verbose)
  | _ =>
      let setup := Setup.make (← Settings.Overrides.read host) choices
      databaseFor host setup path database? >>= investigateDatabase host verbose setup path selection

def investigateImage (host : Host m) (verbose : Bool) (path : String) :
    m (Except Outcome Finding) := do
  match ← host.contents path with
  | .error e => return .error (.ofFailure verbose (.file e path))
  | .ok bytes =>
      match readImage bytes with
      | .error e =>
          return .error (.ofComplaint Outcome.unreadable s!"Error parsing PE image: {e.message}")
      | .ok (names, database?) =>
          let directory := Path.directory (← host.absolute path)
          let modules ← names.mapM fun name => do
            return (name, ← host.isFile (Path.join directory name))
          return .ok { document := .imports path database? modules, exit := Outcome.success }

/-- What a task comes to before anything is printed. -/
def Task.investigate (host : Host m) (verbose : Bool) : Task → m (Except Outcome Finding)
  | .locate path signatures choices =>
      investigateFile host verbose path fun path =>
        prepare host choices path >>= investigateTest host verbose signatures
  | .symbols path database? selection choices =>
      investigateFile host verbose path (investigateSymbols host verbose database? selection choices)
  | .imports path => investigateFile host verbose path (investigateImage host verbose)

/-- Prints what was found, unless the task has ended before. -/
def printFound (host : Host m) (common : Common) : Except Outcome Finding → m Outcome
  | .error outcome => pure outcome
  | .ok finding => finding.print host common

variable [LawfulMonad m]

theorem investigateFile_bind (host : Host m) (common : Common) (path : String)
    (task : String → m (Except Outcome Finding)) :
    investigateFile host common.verbose path task >>= printFound host common =
      withFile host common path fun path => task path >>= printFound host common := by
  rw [investigateFile, withFile, bind_assoc]
  congr 1
  funext checked
  cases checked with
  | error problem => exact pure_bind _ _
  | ok path => rfl

theorem investigateTest_bind (host : Host m) (common : Common) (signatures : List String)
    (prepared : Prepared) :
    investigateTest host common.verbose signatures prepared >>= printFound host common =
      conclude host common signatures prepared := by
  rw [investigateTest, conclude]
  cases prepared.ready with
  | error failure => exact pure_bind _ _
  | ok ready =>
      simp only [bind_assoc, pure_bind, printFound, Finding.print, Finding.finish,
        Document.present, map_eq_pure_bind]

/-- Lists the symbols of a program database, if one was found. -/
def listFound (host : Host m) (common : Common) (setup : Setup) (path : String)
    (selection : Selection) : Except Failure (Option String) × List Entry → m Outcome
  | (.error failure, remarks) =>
      return setup.finish (remarks.map .remarked) (.ofFailure common.verbose failure)
  | (.ok none, remarks) =>
      return setup.finish (remarks.map .remarked)
        (.ofComplaint Outcome.unreadable s!"No .pdb file found for '{path}'")
  | (.ok (some database), remarks) => do
      let (more, outcome) ← listSymbols host common setup path database selection
      return setup.finish (remarks.map .remarked ++ more) outcome

theorem investigateDatabase_bind (host : Host m) (common : Common) (setup : Setup) (path : String)
    (selection : Selection) (located : Except Failure (Option String) × List Entry) :
    investigateDatabase host common.verbose setup path selection located >>=
        printFound host common =
      listFound host common setup path selection located := by
  rcases located with ⟨failure | _ | database, remarks⟩
  · exact pure_bind _ _
  · exact pure_bind _ _
  · simp only [investigateDatabase, listFound, listSymbols, bind_assoc]
    congr 1
    funext answer
    obtain ⟨outcome, progress⟩ := answer
    cases outcome with
    | error failure => simp only [pure_bind, printFound]
    | ok n =>
        simp only [pure_bind, bind_assoc, printFound, Finding.print, Finding.finish,
          Document.present, map_eq_pure_bind]

theorem investigateImage_bind (host : Host m) (common : Common) (path : String) :
    withFile host common path (fun path =>
      investigateImage host common.verbose path >>= printFound host common) =
        imports host common path := by
  rw [withFile, imports]
  congr 1
  funext checked
  cases checked with
  | error problem => rfl
  | ok path =>
      simp only [investigateImage, bind_assoc]
      congr 1
      funext contents
      cases contents with
      | error e => exact pure_bind _ _
      | ok bytes =>
          dsimp only
          cases readImage bytes with
          | error e => exact pure_bind _ _
          | ok found =>
              simp only [bind_assoc, pure_bind, printFound, Finding.print, Document.present]
              congr 1
              funext directory
              congr 1
              funext modules
              exact id_map _

theorem investigateSymbols_bind (host : Host m) (common : Common) (path : String)
    (database? : Option String) (selection : Selection) (choices : Choices) :
    withFile host common path (fun path =>
      investigateSymbols host common.verbose database? selection choices path >>=
        printFound host common) =
      symbols host common path database? selection choices := by
  rw [withFile, symbols]
  congr 1
  funext checked
  cases checked with
  | error problem => rfl
  | ok path =>
      simp only [investigateSymbols, bind_assoc]
      congr 1
      funext given?
      rcases given? with _ | problem | given
      case some.error => exact pure_bind _ _
      all_goals
        simp only [bind_assoc, investigateDatabase_bind]
        congr 1
        funext overrides
        congr 1
        funext located
        rcases located with ⟨failure | _ | database, remarks⟩ <;> rfl

/-- A run is an investigation, which does not look at the format, and printing. -/
theorem perform_eq (host : Host m) (request : Request) :
    request.perform host =
      request.task.investigate host request.common.verbose >>= printFound host request.common := by
  obtain ⟨common, task⟩ := request
  cases task with
  | locate path signatures choices =>
      simp only [Request.perform, locate_eq, Task.investigate, investigateFile_bind, bind_assoc,
        investigateTest_bind]
  | symbols path database? selection choices =>
      simp only [Request.perform, Task.investigate, investigateFile_bind, investigateSymbols_bind]
  | imports path =>
      simp only [Request.perform, Task.investigate, investigateFile_bind, investigateImage_bind]

end

end CommandLine
end TestAtlas
