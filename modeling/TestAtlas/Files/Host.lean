import TestAtlas.Files.Error
import TestAtlas.Files.Path

/-!
The surroundings of a run: files, the working directory, and the variables and
home directories of the user. They are given by operations in any monad, so the
same code runs in a real file system and in one that is a value.
-/

namespace TestAtlas

/-- What a path leads to. -/
inductive FileKind where
  | file
  | directory
  deriving DecidableEq, Repr

structure Host (m : Type → Type) where
  /-- What a path leads to. -/
  kind : (path : String) → m (Except FileError FileKind)
  /-- The bytes of a file. -/
  contents : (path : String) → m (Except FileError (Array UInt8))
  /-- The names in a directory, in any order. -/
  names : (path : String) → m (Except FileError (List String))
  workingDirectory : m String
  variableNamed : (name : String) → m (Option String)
  /-- The home directory that the user database has for a user, by default for the current one. -/
  home? : (user : Option String) → m (Option String)

namespace Host

variable {m : Type → Type} [Monad m]

/-- Whether a path leads to a file. -/
def isFile (host : Host m) (path : String) : m Bool := do
  match ← host.kind path with
  | .ok .file => return true
  | _ => return false

/-- The path as seen from the root. -/
def absolute (host : Host m) (path : String) : m String := do
  return Path.absolute (← host.workingDirectory) path

end Host
end TestAtlas
