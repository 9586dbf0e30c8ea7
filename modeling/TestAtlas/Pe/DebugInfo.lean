import TestAtlas.Pe.Image

/-!
The program database that an image refers to. The debug directory is a table
of entries; one of the right type points at a record with the file name.
-/

namespace TestAtlas
namespace Pe

/-- An entry of the debug directory. -/
structure DebugEntry where
  type : Nat
  position : Nat
  deriving DecidableEq, Repr

namespace DebugEntry

def size : Nat := 28

def read : Reader DebugEntry := do
  Reader.skip 12
  let type ← Reader.u32
  Reader.skip 8
  let position ← Reader.u32
  return { type, position }

/-- The type of entries for debug information in a file of its own. -/
def codeView : Nat := 2

/-- Whether the entry points at a record that may name a program database. -/
def isReference (entry : DebugEntry) : Bool :=
  entry.type == codeView && entry.position != 0

/-- The signature of a record that names a program database. -/
def recordSignature : Nat := 0x53445352

/-- The file name in the record of an entry, if the record has the right signature. The record
is read as a whole before its signature is looked at. -/
def fileName? (file : Array UInt8) (entry : DebugEntry) : Except Error (Option String) := do
  let signature ← readRecord file entry.position 24 do
    let signature ← Reader.u32
    Reader.skip 20
    return signature
  let name ← readText file (entry.position + 24)
  return if signature = recordSignature then some name else none

/-- The file name of the first entry that gives one. -/
def firstFileName? (file : Array UInt8) : List DebugEntry → Except Error (Option String)
  | [] => .ok none
  | entry :: rest =>
      if entry.isReference then
        match entry.fileName? file with
        | .error e => .error e
        | .ok (some name) => .ok (some name)
        | .ok none => firstFileName? file rest
      else firstFileName? file rest

end DebugEntry

namespace Image

/-- The number of the data directory for debug information. -/
def debugDirectory : Int := 6

/-- The entries of the debug directory. -/
def debugEntries (image : Image) (directory : DataDirectory) : Except Error (List DebugEntry) := do
  let position ← image.readPosition directory.address
  readTable image.file DebugEntry.size DebugEntry.read (directory.size / DebugEntry.size) position

/-- The path of the program database that the image refers to. -/
def databasePath? (image : Image) : Except Error (Option String) := do
  match ← image.directory? debugDirectory with
  | none => return none
  | some directory => DebugEntry.firstFileName? image.file (← image.debugEntries directory)

end Image
end Pe
end TestAtlas
