import TestAtlas.Pe.File

/-!
Where the program database of an executable is. There is a list of places to
look at, and the first one that is a file is the answer.
-/

namespace TestAtlas
namespace Discovery

variable {m : Type → Type} [Monad m]

/-- The non-empty directories of a search path. -/
def directories (searchPath : String) : List String :=
  (Text.pieces ':' searchPath).filter (· != "")

/-- The directories to search: those of an extension, then those of the path variable. -/
def searchPath (host : Host m) (extension? : Option String) : m (List String) := do
  let path := (← host.variableNamed "PATH").getD ""
  return directories (extension?.getD "") ++ directories path

/-- A place where a program database may be. -/
structure Candidate where
  path : String
  /-- How the place is called when all have been tried in vain. -/
  label : String
  /-- Whether the path is answered as seen from the root. -/
  fromRoot : Bool := false
  deriving DecidableEq, Repr

def Candidate.ofPath (path : String) : Candidate := { path, label := "\"" ++ path ++ "\"" }

/-- The path of the program database beside a binary. -/
def besideBinary (binary : String) : String := Path.stem binary ++ ".pdb"

/-- The places that depend on the name of the binary: beside it, in the working directory, and in
the given directories. -/
def namedCandidates (binary : String) (directories : List String) : List Candidate :=
  let beside := besideBinary binary
  let name := Path.name beside
  .ofPath beside :: { Candidate.ofPath name with fromRoot := true } ::
    directories.map fun d => .ofPath (Path.join d name)

/-- The first candidate that is a file. -/
def firstFile? (host : Host m) : List Candidate → m (Option Candidate)
  | [] => pure none
  | candidate :: rest => do
      if ← host.isFile candidate.path then return some candidate
      firstFile? host rest

def answer (host : Host m) (candidate : Candidate) : m String :=
  if candidate.fromRoot then host.absolute candidate.path else pure candidate.path

/-- How the place that the binary itself names is called. -/
def recordedLabel : String := "parsing from executable"

/-- The message that nothing was found, with the places in the order in which they were tried. -/
def attempts (candidates : List Candidate) : Entry :=
  .searchInfo ("Attempts to find pdb: " ++
    String.intercalate "::" (recordedLabel :: candidates.map (·.label)))

/-- The path of the program database of a binary. The place that the binary names comes first. -/
def find (host : Host m) (binary : String) (extension? : Option String) :
    m (Except Failure (Option String) × List Entry) := do
  match ← Pe.databaseOf host binary with
  | (.error failure, remarks) => return (.error failure, remarks)
  | (.ok recorded?, remarks) =>
      let recorded := recorded?.filter (· != "")
      match ← firstFile? host (recorded.map Candidate.ofPath).toList with
      | some candidate => return (.ok (some candidate.path), remarks)
      | none =>
          let candidates := namedCandidates binary (← searchPath host extension?)
          match ← firstFile? host candidates with
          | some candidate => return (.ok (some (← answer host candidate)), remarks)
          | none => return (.ok none, remarks ++ [attempts candidates])

end Discovery
end TestAtlas
