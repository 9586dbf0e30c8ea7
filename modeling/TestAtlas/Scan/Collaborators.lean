import TestAtlas.Discovery
import TestAtlas.Files.Pattern
import TestAtlas.Pdb.Session

/-!
What a search for symbols depends on: something that finds program databases,
something that reads them, something that resolves file patterns, and something
that lists imports. Each may fail; failures are values and do no harm by
themselves.
-/

namespace TestAtlas

/-- The parties of a search. A reader is opened for a binary and its program database, and
enumerating functions may change it. -/
structure Collaborators (m : Type → Type) (Reader : Type) where
  locate : (binary : String) → (extension? : Option String) →
    m (Except Failure (Option String) × List Entry)
  openReader : (binary database : String) → m (Except Failure Reader)
  functions : Reader → (pattern : String) → Except Failure (List Symbol) × List Entry × Reader
  filesMatching : (pattern : String) → m (Except Failure (List String) × List Entry)
  importsOf : (binary : String) → m (Except Failure (List String) × List Entry)
  isFile : (path : String) → m Bool

namespace Collaborators

variable {m : Type → Type} [Monad m]

/-- Opens a session on a file. -/
def openSession (host : Host m) (database : String) : m (Except Failure Pdb.Session) := do
  match ← host.contents database with
  | .error e => return .error (.file e database)
  | .ok bytes =>
      match (Pdb.Session.openFile bytes).run.run { path := database } with
      | (.ok (), session) => return .ok session
      | (.error e, _) => return .error (.database e)

/-- The symbols of a session, and what there was to say about them. -/
def sessionFunctions (session : Pdb.Session) (pattern : String) :
    Except Failure (List Symbol) × List Entry × Pdb.Session :=
  let (outcome, session) := (Pdb.Session.functions pattern).run.run { session with remarks := [] }
  (outcome.mapError .database, session.remarks, session)

/-- The parties that work on the files of a host. -/
def standard (host : Host m) : Collaborators m Pdb.Session where
  locate := Discovery.find host
  openReader _ := openSession host
  functions := sessionFunctions
  filesMatching := FilePattern.find host
  importsOf := Pe.importsOf host
  isFile := host.isFile

end Collaborators
end TestAtlas
