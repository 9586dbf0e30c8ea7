import TestAtlas.Pe.Error
import TestAtlas.Text.Utf8

/-!
An executable image: its headers, its sections and the way from
addresses of the loaded image to positions in the file. The headers come in a
narrow and a wide form, told apart by a number in front.
-/

namespace TestAtlas
namespace Pe

/-- Where a table of the image is loaded, and how large it is. -/
structure DataDirectory where
  address : Nat
  size : Nat
  deriving DecidableEq, Repr

def DataDirectory.read : Reader DataDirectory := do
  let address ← Reader.u32
  let size ← Reader.u32
  return { address, size }

/-- A part of the file and where it is loaded. -/
structure Section where
  name : Bytes
  virtualSize : Nat
  address : Nat
  rawSize : Nat
  position : Nat
  deriving DecidableEq, Repr

def Section.read : Reader Section := do
  let name ← Reader.fixed 8
  let virtualSize ← Reader.u32
  let address ← Reader.u32
  let rawSize ← Reader.u32
  let position ← Reader.u32
  Reader.skip 16
  return { name, virtualSize, address, rawSize, position }

/-- Whether a section is loaded over an address. -/
def Section.covers (s : Section) (address : Int) : Bool :=
  (s.address : Int) ≤ address && address < s.address + max s.virtualSize s.rawSize

structure FileHeader where
  machine : Nat
  sectionCount : Nat
  optionalSize : Nat
  characteristics : Nat

def FileHeader.size : Nat := 20

def FileHeader.read : Reader FileHeader := do
  let machine ← Reader.u16
  let sectionCount ← Reader.u16
  Reader.skip 12
  let optionalSize ← Reader.u16
  let characteristics ← Reader.u16
  return { machine, sectionCount, optionalSize, characteristics }

/-- The two forms of the optional header. -/
inductive Form where
  | narrow
  | wide
  deriving DecidableEq, Repr

def Form.ofMagic? (magic : Nat) : Option Form :=
  if magic = 0x10B then some .narrow
  else if magic = 0x20B then some .wide
  else none

structure OptionalHeader where
  imageBase : Nat
  headersSize : Nat
  directoryCount : Nat

/-- The number of bytes of the optional header up to the data directories. -/
def OptionalHeader.size : Form → Nat
  | .narrow => 96
  | .wide => 112

def OptionalHeader.read (form : Form) : Reader OptionalHeader := do
  let imageBase ← match form with
    | .narrow => do Reader.skip 28; Reader.u32
    | .wide => do Reader.skip 24; Reader.u64
  Reader.skip 28
  let headersSize ← Reader.u32
  Reader.skip (match form with | .narrow => 28 | .wide => 44)
  let directoryCount ← Reader.u32
  return { imageBase, headersSize, directoryCount }

structure Image where
  file : Array UInt8
  machine : Nat
  characteristics : Nat
  form : Form
  imageBase : Nat
  headersSize : Nat
  directories : List DataDirectory
  sections : List Section

/-- Reads `size` bytes of the file at a position as one record. -/
def readRecord {α : Type} (file : Array UInt8) (position size : Nat) (reader : Reader α) :
    Except Error α :=
  match reader.run (slice file position size) with
  | .ok (value, _) => .ok value
  | .error cause => .error (.truncated cause)

/-- Reads `count` records of `size` bytes each. -/
def readTable {α : Type} (file : Array UInt8) (size : Nat) (reader : Reader α) :
    (count position : Nat) → Except Error (List α)
  | 0, _ => .ok []
  | count + 1, position => do
      let first ← readRecord file position size reader
      let rest ← readTable file size reader count (position + size)
      return first :: rest

/-- The terminated text at a position of the file. -/
def readText (file : Array UInt8) (position : Nat) : Except Error String := do
  let text ← readRecord file position (file.size - position) Reader.terminated
  return Utf8.decode text

namespace Image

def dosSignature : Nat := 0x5A4D

def signature : Nat := 0x4550

/-- The most data directories that are looked at. -/
def maxDirectories : Nat := 16

/-- Reads the headers and the section table, which stands where the file header says. -/
def parse (file : Array UInt8) : Except Error Image := do
  let (dos, start) ← readRecord file 0 64 do
    let dos ← Reader.u16
    Reader.skip 58
    let start ← Reader.u32
    return (dos, start)
  if dos ≠ dosSignature then throw .noDosSignature
  if (← readRecord file start 4 (Reader.lone 4)) ≠ signature then throw .noSignature
  let header ← readRecord file (start + 4) FileHeader.size FileHeader.read
  let optional := start + 4 + FileHeader.size
  let magic ← readRecord file optional 2 (Reader.lone 2)
  match Form.ofMagic? magic with
  | none => throw (.unknownMagic magic)
  | some form =>
      let size := OptionalHeader.size form
      let base ← readRecord file optional size (OptionalHeader.read form)
      let directories ← readTable file 8 DataDirectory.read
        (min base.directoryCount maxDirectories) (optional + size)
      let sections ← readTable file 40 Section.read header.sectionCount
        (optional + header.optionalSize)
      return {
        file, form, directories, sections
        machine := header.machine
        characteristics := header.characteristics
        imageBase := base.imageBase
        headersSize := base.headersSize }

/-- The data directory with this number, counted from the end if it is negative. One without an
address or a size counts as absent. -/
def directory? (image : Image) (index : Int) : Except Error (Option DataDirectory) :=
  let count : Int := image.directories.length
  if count ≤ index then .ok none
  else
    let place := if index < 0 then index + count else index
    if place < 0 then .error .noDirectory
    else
      match image.directories[place.toNat]? with
      | some d => .ok (if d.address = 0 ∨ d.size = 0 then none else some d)
      | none => .ok none

/-- The position in the file of an address of the loaded image: through the first section that
covers it, or else unchanged inside the headers. -/
def position (image : Image) (address : Int) : Except Error Int :=
  match image.sections.find? (·.covers address) with
  | some s => .ok (address - s.address + s.position)
  | none => if address < image.headersSize then .ok address else .error (.unmapped address)

/-- The position in the file of an address, for reading there. -/
def readPosition (image : Image) (address : Int) : Except Error Nat := do
  let position ← image.position address
  if position < 0 then throw (.negativePosition position)
  return position.toNat

/-- The terminated text at an address of the loaded image. -/
def textAt (image : Image) (address : Int) : Except Error String := do
  readText image.file (← image.readPosition address)

end Image
end Pe
end TestAtlas
