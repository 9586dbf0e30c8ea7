import Std.Time
import TestAtlas.CommandLine.Stream
import TestAtlas.Files.Account

/-!
The program on the files of a machine. The report goes to the standard output
and everything else to the standard error.
-/

namespace TestAtlas
namespace Machine

/-- Why the machine could not do what was asked, as far as files can be the reason. -/
def fileError : IO.Error → FileError
  | .permissionDenied _ number _ | .invalidArgument _ number _ | .inappropriateType _ number _ =>
      (FileError.ofNumber? number.toNat).getD .missing
  | _ => .missing

/-- Something done with a path, which has to be one that the machine can be asked about. -/
def withPath {α : Type} (path : String) (act : IO α) : IO (Except FileError α) := do
  if path.isEmpty then return .error .missing
  else if path.contains '\x00' then return .error .nullInPath
  else
    match ← act.toBaseIO with
    | .ok a => return .ok a
    | .error e => return .error (fileError e)

/-- What a path leads to. What is no regular file counts as a directory, for nothing can be read
from it. -/
def kind (path : String) : IO (Except FileError FileKind) :=
  withPath path do
    let metadata ← ((← IO.currentDir) / path).metadata
    return if metadata.type == .file then .file else .directory

def contents (path : String) : IO (Except FileError (Array UInt8)) :=
  withPath path do return (← IO.FS.readBinFile path).data

def names (path : String) : IO (Except FileError (List String)) :=
  withPath path do
    return (← ((← IO.currentDir) / path).readDir).toList.map (·.fileName)

/-- The text of a file; there is none in a file that cannot be read. -/
def text (path : String) : IO String := do
  match ← (IO.FS.readFile path).toBaseIO with
  | .ok s => return s
  | .error _ => return ""

/-- The number of the user who runs the program. -/
def userNumber? : IO (Option String) := do
  let fields := (Text.pieces '\n' (← text "/proc/self/status")).map (Text.pieces '\t')
  return fields.findSome? fun
    | "Uid:" :: number :: _ => some number
    | _ => none

def home? (user? : Option String) : IO (Option String) := do
  let accounts := Account.all (← text "/etc/passwd")
  match user? with
  | some user => return (accounts.find? (·.user == user)).map (·.home)
  | none =>
      let number? ← userNumber?
      return (accounts.find? (some ·.number == number?)).map (·.home)

def host : Host IO where
  kind
  contents
  names
  workingDirectory := return (← IO.currentDir).toString
  variableNamed name := IO.getEnv name
  home?

/-- The time at which the program was started. -/
def stamp : IO String := do
  let now := Std.Time.DateTime.ofTimestamp (← Std.Time.Timestamp.now) .UTC
  return now.format "uuuu-MM-dd'T'HH:mm:ss.SSSSSS'Z'"

end Machine
end TestAtlas

def main (arguments : List String) : IO UInt32 := do
  let run ← TestAtlas.CommandLine.run TestAtlas.Machine.host (← TestAtlas.Machine.stamp) false
    arguments
  IO.print run.output
  IO.eprint run.aside
  return (run.exitOn .unicode).toUInt32
