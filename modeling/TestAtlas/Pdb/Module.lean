import TestAtlas.CodeView.LineInfo
import TestAtlas.Pdb.Container

/-!
The modules of a program database. The module list names each module and the
stream that holds its symbols and its line information, one after the other
with a part in between that is not used.
-/

namespace TestAtlas
namespace Pdb

open CodeView (Procedure LineInfo)

/-- A compiled module with what its stream tells about it. -/
structure Module where
  name : String
  procedures : List Procedure := []
  info : LineInfo := {}
  deriving DecidableEq, Repr

/-- An entry of the module list. -/
structure ModuleEntry where
  name : Bytes
  objectName : Bytes
  stream : Nat
  symbolBytes : Nat
  skippedBytes : Nat
  lineBytes : Nat
  deriving DecidableEq, Repr

namespace ModuleEntry

def fixedSize : Nat := 64

def read : Reader ModuleEntry := do
  Reader.skip 4
  Reader.skip 28
  Reader.skip 2
  let stream ← Reader.u16
  let symbolBytes ← Reader.u32
  let skippedBytes ← Reader.u32
  let lineBytes ← Reader.u32
  Reader.skip 16
  let name ← Reader.terminated
  let objectName ← Reader.terminated
  return { name, objectName, stream, symbolBytes, skippedBytes, lineBytes }

/-- The number of bytes of an entry together with its padding. -/
def size (entry : ModuleEntry) : Nat :=
  paddedSize (fixedSize + (entry.name.length + 1) + (entry.objectName.length + 1))

/-- The stream number of a module without a stream. -/
def noStream : Nat := 0xFFFF

/-- The module of an entry, read from its stream if it has one. -/
def load (container : Container) (entry : ModuleEntry) : Except Error Module := do
  let name := Utf8.decode entry.name
  if entry.stream = noStream then return { name }
  let data ← container.stream entry.stream
  let procedures ← (Procedure.parse data entry.symbolBytes).mapError .truncated
  let start := entry.symbolBytes + entry.skippedBytes
  match ({} : LineInfo).add ((data.drop start).take entry.lineBytes) with
  | (info, none) => return { name, procedures, info }
  | (_, some cause) => throw (.truncated cause)

end ModuleEntry

namespace Module

/-- The number of the stream that holds the module list. -/
def listStream : Int := 3

/-- What opens the module list: a version and the size of the list. -/
def readListHeader : Reader (Int × Int) := do
  let version ← Reader.i32
  Reader.skip 20
  let size ← Reader.i32
  Reader.skip 36
  return (version, size)

/-- Walks the entries in the `declared` bytes of the list, which may be more than there are.
`found` is in reverse. -/
def walk (container : Container) (found : List Module) (declared : Nat) (bytes : Bytes) :
    Except Error (List Module) :=
  if declared = 0 then .ok found.reverse
  else do
    let entry ← readFront ModuleEntry.read bytes
    let module ← entry.load container
    walk container (module :: found) (declared - entry.size) (bytes.drop entry.size)
termination_by declared
decreasing_by
  have : ModuleEntry.fixedSize ≤ entry.size :=
    Nat.le_trans (by omega) (le_paddedSize _)
  simp only [ModuleEntry.fixedSize] at this
  omega

/-- The modules of a program database, in the order of the module list. -/
def all (container : Container) : Except Error (List Module) := do
  let data ← container.stream listStream
  let (version, size) ← readFront readListHeader data
  if version ≠ -1 then throw .moduleListVersion
  walk container [] size.toNat (data.drop 64)

end Module
end Pdb
end TestAtlas
