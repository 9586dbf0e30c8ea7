import TestAtlas.CommandLine.Outcome
import TestAtlas.CommandLine.ScreenWidth
import TestAtlas.Report.Imports
import TestAtlas.Report.Location
import TestAtlas.Resolver

/-!
Carrying out tasks on the files of a host.
-/

namespace TestAtlas
namespace CommandLine

open Report (Selection)

variable {m : Type → Type} [Monad m]

/-- Why a path that was given is of no use. -/
inductive PathProblem where
  | absent (path : String)
  | notAFile (path : String)
  | failure (failure : Failure)
  deriving DecidableEq, Repr

namespace PathProblem

def outcome (verbose : Bool) : PathProblem → Outcome
  | absent path => .ofComplaint Outcome.misuse s!"Error: File not found: {path}"
  | notAFile path => .ofComplaint Outcome.misuse s!"Error: Not a file: {path}"
  | failure f => .ofFailure verbose f

end PathProblem

/-- The path of a file without what is superfluous in it. -/
def checkFile (host : Host m) (path : String) : m (Except PathProblem String) := do
  let tidy := Path.tidy path
  match ← host.kind tidy with
  | .ok .file => return .ok tidy
  | .ok .directory => return .error (.notAFile path)
  | .error .nameTooLong => return .error (.failure (.file .nameTooLong tidy))
  | .error .denied => return .error (.failure (.file .denied tidy))
  | .error _ => return .error (.absent path)

/-- The settings of a run, and those that are common to all runs. -/
structure Setup where
  settings : Settings
  common : Settings
  remarks : List Entry

/-- Settings from the variables, copied, with what was chosen on the command line in their
place. -/
def Setup.make (overrides : Settings.Overrides) (choices : Choices) : Setup :=
  let (common, first) := ({} : Settings).override overrides
  let (copy, second) := common.override overrides
  { settings := choices.apply copy, common, remarks := first ++ second }

/-- The outcome of a task that worked with settings. -/
def Setup.finish (setup : Setup) (events : List Event) (outcome : Outcome) : Outcome :=
  { outcome.after (setup.remarks.map .remarked ++ events) with
    details := setup.settings.debug
    settings? := some setup.common }

/-- The outcome with a report. The screen is only looked at for rich text. -/
def outcomeOf (host : Host m) (common : Common) (exit : Nat)
    (present : Nat → Report.Format → Terminal.Printout) : m Outcome := do
  let hints ← if common.format = .rich then ScreenHints.read host else pure {}
  match hints.width with
  | .error problem =>
      return .ofFailure common.verbose (.other "ValueError" problem.message)
  | .ok columns => return .ofPrintout common.verbose exit (present columns common.format)

/-- Settings for an executable, seen from the working directory. -/
def settingsFor (host : Host m) (setup : Setup) (executable : String) :
    m (Settings × List Entry) := do
  return setup.settings.forExecutable (← Settings.Overrides.read host)
    (← host.absolute executable)

def locate (host : Host m) (common : Common) (path : String) (signatures : List String)
    (choices : Choices) : m Outcome := do
  match ← checkFile host path with
  | .error problem => return problem.outcome common.verbose
  | .ok path =>
      let setup := Setup.make (← Settings.Overrides.read host) choices
      let (settings, remarks) ← settingsFor host setup path
      let events := remarks.map Event.remarked
      let parties := Collaborators.standard host
      let resolver : Resolver := {
        executable := path, extension? := settings.pathExtension
        additional := settings.additional, matcher := .qualified }
      match ← resolver.start parties settings.parseSymbols with
      | (.error failure, resolver) =>
          return setup.finish (events ++ resolver.progress.events)
            (.ofFailure common.verbose failure)
      | (.ok (), resolver) =>
          let (found?, resolver) ← resolver.find parties signatures
          let report := Report.Location.ofSearch signatures found?
          let exit := if found?.isSome then Outcome.success else Outcome.failed
          return setup.finish (events ++ resolver.progress.events)
            (← outcomeOf host common exit fun columns format => report.present columns format)

/-- The program database to list symbols of: the one that is given or the one that is found. -/
def databaseFor (host : Host m) (setup : Setup) (path : String) (database? : Option String) :
    m (Except Failure (Option String) × List Entry) :=
  match database? with
  | some database => pure (.ok (some database), [])
  | none => Discovery.find host path setup.settings.pathExtension

/-- Lists the symbols of a binary whose program database is known. -/
def listSymbols (host : Host m) (common : Common) (setup : Setup) (path database : String)
    (selection : Selection) : m (List Event × Outcome) := do
  let search := Scanner.scan (Collaborators.standard host) setup.settings.pathExtension path
    (some database)
  match ← search.run.run {} with
  | (.error failure, progress) => return (progress.events, .ofFailure common.verbose failure)
  | (.ok _, progress) =>
      let listing := selection.listing progress.table
      return (progress.events,
        ← outcomeOf host common Outcome.success fun columns format =>
          listing.present columns format)

def symbols (host : Host m) (common : Common) (path : String) (database? : Option String)
    (selection : Selection) (choices : Choices) : m Outcome := do
  match ← checkFile host path with
  | .error problem => return problem.outcome common.verbose
  | .ok path =>
      let given? ← database?.mapM (checkFile host)
      match given? with
      | some (.error problem) => return problem.outcome common.verbose
      | _ =>
          let setup := Setup.make (← Settings.Overrides.read host) choices
          let (found, remarks) ← databaseFor host setup path database?
          let events := remarks.map Event.remarked
          match found with
          | .error failure => return setup.finish events (.ofFailure common.verbose failure)
          | .ok none =>
              return setup.finish events
                (.ofComplaint Outcome.unreadable s!"No .pdb file found for '{path}'")
          | .ok (some database) =>
              let (more, outcome) ← listSymbols host common setup path database selection
              return setup.finish (events ++ more) outcome

/-- What an image imports, and the program database it refers to. -/
def readImage (bytes : Array UInt8) : Except Pe.Error (List String × Option String) := do
  let image ← Pe.Image.parse bytes
  let imports ← image.imports
  return (imports, ← image.databasePath?)

def imports (host : Host m) (common : Common) (path : String) : m Outcome := do
  match ← checkFile host path with
  | .error problem => return problem.outcome common.verbose
  | .ok path =>
      match ← host.contents path with
      | .error e => return .ofFailure common.verbose (.file e path)
      | .ok bytes =>
          match readImage bytes with
          | .error e =>
              return .ofComplaint Outcome.unreadable s!"Error parsing PE image: {e.message}"
          | .ok (names, database?) =>
              let directory := Path.directory (← host.absolute path)
              let modules ← names.mapM fun name => do
                return (name, ← host.isFile (Path.join directory name))
              let report := Report.Imports.ofImage path database? modules
              outcomeOf host common Outcome.success fun columns format =>
                report.present columns format

def Request.perform (host : Host m) (request : Request) : m Outcome :=
  match request.task with
  | .locate path signatures choices => locate host request.common path signatures choices
  | .symbols path database? selection choices =>
      symbols host request.common path database? selection choices
  | .imports path => imports host request.common path

end CommandLine
end TestAtlas
