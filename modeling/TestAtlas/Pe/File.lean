import TestAtlas.Diagnostics
import TestAtlas.Failure
import TestAtlas.Files.Host
import TestAtlas.Pe.DebugInfo
import TestAtlas.Pe.Imports

/-!
Executable images in files. An image that cannot be read has no imports and
refers to no program database; it is remarked on and does no other harm.
-/

namespace TestAtlas
namespace Pe

variable {m : Type → Type} [Monad m]

/-- Reads something from the image in a file. Gives the value, or else the reason why the file
or the image cannot be read; a path that cannot name a file is a failure. -/
def readFile {α : Type} (host : Host m) (path : String) (read : Image → Except Error α) :
    m (Except Failure (Except String α)) := do
  match ← host.contents path with
  | .error .nullInPath => return .error (.file .nullInPath path)
  | .error e => return .ok (.error (e.message path))
  | .ok bytes => return .ok ((Image.parse bytes >>= read).mapError Error.message)

/-- The names of the modules that the image in a file imports. -/
def importsOf (host : Host m) (path : String) : m (Except Failure (List String) × List Entry) := do
  match ← readFile host path Image.imports with
  | .error failure => return (.error failure, [])
  | .ok (.ok names) => return (.ok names, [])
  | .ok (.error reason) =>
      return (.ok [], [.warning s!"Could not parse imports of '{path}': {reason}"])

/-- The path of the program database that the image in a file refers to. -/
def databaseOf (host : Host m) (path : String) :
    m (Except Failure (Option String) × List Entry) := do
  match ← readFile host path Image.databasePath? with
  | .error failure => return (.error failure, [])
  | .ok (.ok found) => return (.ok found, [])
  | .ok (.error reason) =>
      return (.ok none, [.searchWarning s!"Could not read PDB path from '{path}': {reason}"])

end Pe
end TestAtlas
