import TestAtlas.Bytes.Reader

/-!
What can be wrong with a program database.
-/

namespace TestAtlas
namespace Pdb

inductive Error where
  /-- The input ends too early. -/
  | truncated (cause : ReadError)
  /-- The file does not start as a container of streams does. -/
  | notContainer
  | zeroPageSize
  /-- A page of a stream lies past the end of the file. -/
  | pastEnd
  /-- A page lies where no file reaches. -/
  | unreachable
  | noStream (index : Int)
  | moduleListVersion
  | notOpen (path : String)
  deriving DecidableEq, Repr

namespace Error

def message : Error → String
  | truncated cause => cause.message
  | notContainer => "Not an MSF 7.00 program database"
  | zeroPageSize => "Invalid page size"
  | pastEnd => "Stream extends beyond end of file"
  | unreachable => "cannot fit 'int' into an offset-sized integer"
  | noStream index => s!"Stream {index} does not exist"
  | moduleListVersion => "Unsupported DBI stream version"
  | notOpen path => s!"PDB '{path}' is not open"

/-- Whether the input ran out, as opposed to holding something that is not understood. -/
def isTruncation : Error → Bool
  | truncated _ => true
  | _ => false

/-- Whether the position of a page is too large to be asked for. -/
def isUnreachable : Error → Bool
  | unreachable => true
  | _ => false

end Error

/-- The value that a reader takes off the front of the bytes. -/
def readFront {α : Type} (reader : Reader α) (bytes : Bytes) : Except Error α :=
  match reader.run bytes with
  | .ok (value, _) => .ok value
  | .error cause => .error (.truncated cause)

end Pdb
end TestAtlas
