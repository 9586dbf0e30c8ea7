import TestAtlas.Diagnostics
import TestAtlas.Failure
import TestAtlas.Files.Host
import TestAtlas.Text.Glob

/-!
Files named by a pattern. Variables and a home directory in front are filled in
first; then the last component is a shell pattern and all before it is taken as
it stands.
-/

namespace TestAtlas
namespace FilePattern

variable {m : Type → Type} [Monad m]

/-- A part of a text with variables. -/
inductive Part where
  | text (c : Char)
  /-- A variable, and how the text refers to it. -/
  | reference (name written : List Char)
  deriving DecidableEq, Repr

/-- A character of a name that is not in braces. -/
def isNameChar (c : Char) : Bool := c.isAlphanum || c == '_'

def openBrace : Char := '\x7b'

def closeBrace : Char := '\x7d'

/-- The name that a dollar sign refers to, how long it is written, and what follows. -/
def reference? (rest : List Char) : Option (List Char × List Char × List Char) :=
  match rest with
  | [] => none
  | c :: inner =>
      if c = openBrace then
        match inner.dropWhile (· != closeBrace) with
        | [] => none
        | _ :: after =>
            let name := inner.takeWhile (· != closeBrace)
            some (name, c :: name ++ [closeBrace], after)
      else
        let name := rest.takeWhile isNameChar
        if name.isEmpty then none else some (name, name, rest.dropWhile isNameChar)

theorem length_of_reference? {rest name written after : List Char}
    (h : reference? rest = some (name, written, after)) : after.length ≤ rest.length := by
  cases rest with
  | nil => cases h
  | cons c inner =>
      simp only [reference?] at h
      split at h
      · have dropped := (List.dropWhile_sublist (l := inner) (· != closeBrace)).length_le
        split at h
        · cases h
        · rename_i eq
          simp only [Option.some.injEq, Prod.mk.injEq] at h
          rw [eq, List.length_cons, h.2.2] at dropped
          simp only [List.length_cons]
          omega
      · have dropped := (List.dropWhile_sublist (l := c :: inner) isNameChar).length_le
        split at h
        · cases h
        · simp only [Option.some.injEq, Prod.mk.injEq] at h
          rw [h.2.2] at dropped
          exact dropped

/-- The parts of a text. A dollar sign that refers to nothing stands for itself. -/
def parts (text : List Char) : List Part :=
  match text with
  | [] => []
  | c :: rest =>
      if c = '$' then
        match _found : reference? rest with
        | some (name, written, after) => .reference name ('$' :: written) :: parts after
        | none => .text c :: parts rest
      else .text c :: parts rest
termination_by text.length
decreasing_by
  · have := length_of_reference? _found
    simp only [List.length_cons]
    omega
  · simp
  · simp

/-- The text of a part; a variable that is not set is left as it is written. -/
def expandPart (host : Host m) : Part → m String
  | .text c => pure (String.singleton c)
  | .reference name written => do
      match ← host.variableNamed (String.ofList name) with
      | some value => return value
      | none => return String.ofList written

/-- The text with its variables filled in. What is filled in is not looked at again. -/
def expandVariables (host : Host m) (text : String) : m String := do
  let texts ← (parts text.toList).mapM (expandPart host)
  return String.join texts

/-- The home directory of a user. For the current one a variable goes before the database. -/
def home? (host : Host m) (user : String) : m (Option String) := do
  if user.isEmpty then
    match ← host.variableNamed "HOME" with
    | some home => return some home
    | none => host.home? none
  else host.home? (some user)

/-- The path with a user's home directory in place of a tilde in front. No user can be asked for
whose name holds a zero character. -/
def expandHome (host : Host m) (path : String) : m (Except Failure String) := do
  match path.toList with
  | '~' :: rest =>
      let user := rest.takeWhile (· != Path.separator)
      if user.contains '\x00' then return .error (.file .nullInPath path)
      else
        match ← home? host (String.ofList user) with
        | none => return .ok path
        | some home =>
            let trimmed := (home.toList.reverse.dropWhile (· == Path.separator)).reverse
            let expanded := String.ofList (trimmed ++ rest.dropWhile (· != Path.separator))
            return .ok (if expanded.isEmpty then "/" else expanded)
  | _ => return .ok path

/-- Inserts a text into an ascending list. -/
def insertSorted (text : String) : List String → List String
  | [] => [text]
  | t :: rest => if text ≤ t then text :: t :: rest else t :: insertSorted text rest

/-- The texts in ascending order. -/
def sort (texts : List String) : List String := texts.foldr insertSorted []

/-- The files in a directory whose name a pattern accepts, as paths in ascending order. -/
def filesIn (host : Host m) (directory pattern : String) (names : List String) :
    m (List String) := do
  let paths := (names.filter (Glob.accepts pattern)).map (Path.join directory)
  return sort (← paths.filterM host.isFile)

/-- The files that an expanded pattern names. A directory that is not there has no files; one that
cannot be listed is remarked on, with the pattern as it was written. -/
def findExpanded (host : Host m) (written expanded : String) : m (List String × List Entry) := do
  let directory ← host.absolute (Path.directory expanded)
  match ← host.names directory with
  | .ok names => return (← filesIn host directory (Path.name expanded) names, [])
  | .error .missing => return ([], [])
  | .error e =>
      return ([], [.error
        s!"Error while getting matching files for pattern {written}: {e.message directory}"])

/-- The files that a pattern names, as seen from the root. -/
def find (host : Host m) (pattern : String) :
    m (Except Failure (List String) × List Entry) := do
  match ← expandHome host (← expandVariables host pattern) with
  | .error failure => return (.error failure, [])
  | .ok expanded =>
      let (paths, remarks) ← findExpanded host pattern expanded
      return (.ok paths, remarks)

end FilePattern
end TestAtlas
