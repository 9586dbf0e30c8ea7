import TestAtlas.CommandLine.Run

/-!
How a search for a test is made ready. The settings that it works with come from
the command line and from variables, and the resolver that is started with them
is all that the search itself sees of either.
-/

namespace TestAtlas

variable {m : Type → Type} [Monad m]

/-- The variables and the working directory are the same whenever they are looked at. -/
structure Host.Steady (host : Host m) (environment : String → Option String)
    (directory : String) : Prop where
  variableNamed : ∀ name, host.variableNamed name = pure (environment name)
  workingDirectory : host.workingDirectory = pure directory

theorem Host.steady_value (host : Host Id) :
    host.Steady host.variableNamed host.workingDirectory where
  variableNamed _ := rfl
  workingDirectory := rfl

namespace Settings

def Overrides.ofEnvironment (environment : String → Option String) : Overrides where
  pathExtension := environment "TESTLOCATOR_PATH_EXTENSION"
  additional := environment "TESTLOCATOR_ADDITIONAL_PDBS"
  parseSymbols := environment parseSymbolsName
  debug := environment debugName

theorem Overrides.read_of_steady [LawfulMonad m] {host : Host m}
    {environment : String → Option String} {directory : String}
    (steady : host.Steady environment directory) :
    Overrides.read host = pure (.ofEnvironment environment) := by
  simp only [Overrides.read, steady.variableNamed, pure_bind, Overrides.ofEnvironment]

end Settings

namespace CommandLine

/-- The resolver for an executable, before it is started. -/
def resolverFor (executable : String) (settings : Settings) : Resolver where
  executable := executable
  extension? := settings.pathExtension
  additional := settings.additional
  matcher := .qualified

/-- A search that is ready, or has failed to become so. -/
structure Prepared where
  setup : Setup
  settings : Settings
  remarks : List Entry
  ready : Except Failure Unit
  resolver : Resolver

/-- Starts the resolver for an executable with settings. -/
def prepareWith (host : Host m) (setup : Setup) (path : String) :
    Settings × List Entry → m Prepared
  | (settings, remarks) => do
      let (ready, resolver) ←
        (resolverFor path settings).start (Collaborators.standard host) settings.parseSymbols
      return { setup, settings, remarks, ready, resolver }

def prepare (host : Host m) (choices : Choices) (path : String) : m Prepared := do
  let setup := Setup.make (← Settings.Overrides.read host) choices
  prepareWith host setup path (← settingsFor host setup path)

/-- What comes of the search. -/
def conclude (host : Host m) (common : Common) (signatures : List String)
    (prepared : Prepared) : m Outcome :=
  let said := prepared.remarks.map Event.remarked
  match prepared.ready with
  | .error failure =>
      return prepared.setup.finish (said ++ prepared.resolver.progress.events)
        (.ofFailure common.verbose failure)
  | .ok () => do
      let (found?, resolver) ← prepared.resolver.find (Collaborators.standard host) signatures
      let report := Report.Location.ofSearch signatures found?
      let exit := if found?.isSome then Outcome.success else Outcome.failed
      return prepared.setup.finish (said ++ resolver.progress.events)
        (← outcomeOf host common exit fun columns format => report.present columns format)

/-- A task for a file, if the path leads to one. -/
def withFile (host : Host m) (common : Common) (path : String) (task : String → m Outcome) :
    m Outcome := do
  match ← checkFile host path with
  | .error problem => return problem.outcome common.verbose
  | .ok path => task path

variable [LawfulMonad m]

theorem locate_eq (host : Host m) (common : Common) (path : String) (signatures : List String)
    (choices : Choices) :
    locate host common path signatures choices =
      withFile host common path fun path =>
        prepare host choices path >>= conclude host common signatures := by
  rw [locate, withFile]
  congr 1
  funext checked
  cases checked with
  | error problem => rfl
  | ok path =>
      simp only [prepare, prepareWith, bind_assoc]
      congr 1
      funext overrides
      congr 1
      funext (settings, remarks)
      simp only [pure_bind, resolverFor]
      congr 1
      funext (ready, resolver)
      cases ready <;> rfl

end CommandLine
end TestAtlas
