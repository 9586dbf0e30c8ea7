import TestAtlas.Pdb.Error
import TestAtlas.Text.Utf8

/-!
A container of numbered streams in one file. The file consists of pages of one
size; a stream is a size and a list of pages in any order. The directory that
lists the streams is itself spread over pages, which the block map lists.
-/

namespace TestAtlas
namespace Pdb

/-- The size of a stream and the pages that hold it. -/
structure Extent where
  size : Nat
  pages : List Nat
  deriving DecidableEq, Repr

/-- A file together with its stream directory. -/
structure Container where
  file : Array UInt8
  pageSize : Nat
  extents : List Extent

namespace Container

/-- How a file of this format starts. -/
def signature : Bytes := Utf8.ascii "Microsoft C/C++ MSF 7.00\r\n\x1aDS" ++ [0, 0, 0]

structure Header where
  signature : Bytes
  pageSize : Nat
  directorySize : Nat
  blockMapPage : Nat

def Header.size : Nat := 56

def Header.read : Reader Header := do
  let signature ← Reader.fixed 32
  let pageSize ← Reader.u32
  Reader.skip 8
  let directorySize ← Reader.u32
  Reader.skip 4
  let blockMapPage ← Reader.u32
  return { signature, pageSize, directorySize, blockMapPage }

/-- The number of pages that hold `size` bytes. -/
def pageCount (pageSize size : Nat) : Nat := (size + pageSize - 1) / pageSize

/-- The bytes of a page, fewer if the file ends inside it. -/
def page (file : Array UInt8) (pageSize index : Nat) : Bytes :=
  slice file (index * pageSize) pageSize

/-- Files end below this position. -/
def positionLimit : Nat := 0x8000000000000000

/-- Whether no file reaches to a page. -/
def isUnreachable (file : Array UInt8) (pageSize index : Nat) : Bool :=
  max file.size positionLimit ≤ index * pageSize

/-- The first `size` bytes of the pages put together. -/
def readPages (file : Array UInt8) (pageSize : Nat) (extent : Extent) : Except Error Bytes :=
  if extent.pages.any (isUnreachable file pageSize) then .error .unreachable
  else
    let data := (extent.pages.flatMap (page file pageSize)).take extent.size
    if data.length < extent.size then .error .pastEnd else .ok data

/-- The recorded size of a stream that is not there; it counts as empty. -/
def nilSize : Nat := 0xFFFFFFFF

/-- The list of streams: their number, their sizes, then the pages of each. -/
def readDirectory (pageSize : Nat) : Reader (List Extent) := do
  let count ← Reader.lone 4
  let sizes ← Reader.array count
  sizes.mapM fun recorded => do
    let size := if recorded = nilSize then 0 else recorded
    let pages ← Reader.array (pageCount pageSize size)
    return { size, pages }

/-- Opens a container by reading its header, its block map and its directory. -/
def parse (file : Array UInt8) : Except Error Container := do
  let header ← readFront Header.read (slice file 0 Header.size)
  if header.signature ≠ signature then throw .notContainer
  if header.pageSize = 0 then throw .zeroPageSize
  let pageSize := header.pageSize
  if isUnreachable file pageSize header.blockMapPage then throw .unreachable
  let mapped := pageCount pageSize header.directorySize
  let blockMap ← readFront (Reader.array mapped)
    (slice file (header.blockMapPage * pageSize) (4 * mapped))
  let directory ← readPages file pageSize { size := header.directorySize, pages := blockMap }
  let extents ← readFront (readDirectory pageSize) directory
  return { file, pageSize, extents }

/-- The extent of the stream with this number. -/
def extent? (container : Container) (index : Int) : Option Extent :=
  if index < 0 then none else container.extents[index.toNat]?

/-- The bytes of the stream with this number. -/
def stream (container : Container) (index : Int) : Except Error Bytes :=
  match container.extent? index with
  | none => .error (.noStream index)
  | some extent => readPages container.file container.pageSize extent

end Container
end Pdb
end TestAtlas
