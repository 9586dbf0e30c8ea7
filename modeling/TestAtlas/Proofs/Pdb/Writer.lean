import Mathlib.Algebra.GroupWithZero.Nat
import TestAtlas.Pdb.NamedStream
import TestAtlas.Proofs.CodeView.LineTables
import TestAtlas.Proofs.CodeView.Procedures
import TestAtlas.Proofs.CodeView.Subsections
import TestAtlas.Proofs.Pdb.ModuleList
import TestAtlas.Proofs.Text.Utf8

/-!
A writer of small program databases: modules with their functions, each of which
may have a source line. Streams are put on consecutive pages, behind them the
directory and behind that the block map.
-/

namespace TestAtlas
namespace Pdb
namespace Writer

open LittleEndian
open CodeView (LineEntry LineInfo Procedure)

/-- A function as it is written. The file counts only for a function with a line. -/
structure Function where
  name : String
  file : String
  line? : Option Nat
  deriving DecidableEq, Repr

def pad4 (bytes : Bytes) : Bytes :=
  bytes ++ List.replicate (paddedSize bytes.length - bytes.length) 0

/-- A text with the zero byte that ends it. -/
def text (s : String) : Bytes := Utf8.encode s ++ [0]

/-- The source files of functions with a line, each once, in the order in which they occur. -/
def files (modules : List (List Function)) : List String :=
  ((modules.flatten.filter (·.line?.isSome)).map (·.file)).eraseDups

def strings (files : List String) : Bytes := 0 :: files.flatMap text

def stringOffset (files : List String) (file : String) : Nat :=
  (strings (files.take (files.idxOf file))).length

/-- Every function starts a stretch of 256 addresses. -/
def address (index : Nat) : Nat := 0x1000 + 0x100 * index

def codeSize : Nat := 0x50

/-- A procedure record up to the end of the name. -/
def procedureBytes (index : Nat) (f : Function) : Bytes :=
  List.replicate 12 0 ++ (encode 4 codeSize ++ (List.replicate 12 0 ++
    (encode 4 (address index) ++ (encode 2 1 ++ ([0] ++ text f.name)))))

/-- The padding of a procedure record, which with its four bytes in front ends at a multiple of
four. -/
def procedurePadding (bytes : Bytes) : Bytes :=
  List.replicate (paddedSize (bytes.length + 4) - (bytes.length + 4)) 0

def procedureBody (index : Nat) (f : Function) : Bytes :=
  procedureBytes index f ++ procedurePadding (procedureBytes index f)

/-- The record of a procedure and the one that ends it. -/
def procedureRecords (index : Nat) (f : Function) : Bytes :=
  Procedure.writeRecord 0x1110 (procedureBody index f) ++ Procedure.writeRecord 0x0006 []

def procedureList (functions : List Function) : Bytes :=
  functions.zipIdx.flatMap fun (f, index) => procedureRecords index f

def symbolBytes (functions : List Function) : Bytes :=
  encode 4 Procedure.formatNumber ++ procedureList functions

def codeStart (index : Nat) : LineEntry.Header := { offset := address index, segment := 1 }

/-- A block with one line, which is marked as a statement. -/
def lineBlock (files : List String) (file : String) (line : Nat) : LineEntry.Written where
  fileId := 8 * files.idxOf file
  records := [(0, line ||| 0x80000000)]

def lineTable (files : List String) (index : Nat) (file : String) (line : Nat) : Bytes :=
  LineEntry.writeTable (codeStart index) (encode 2 0 ++ encode 4 codeSize)
    [lineBlock files file line]

def lineSubsection (files : List String) (index : Nat) (f : Function) : Bytes :=
  match f.line? with
  | none => []
  | some line => LineInfo.writeSubsection LineInfo.lineKind (lineTable files index f.file line)

def checksumEntry (files : List String) (file : String) : Bytes :=
  encode 4 (stringOffset files file) ++ [0, 0, 0, 0]

def checksumTable (files : List String) : Bytes := files.flatMap (checksumEntry files)

def checksumSubsection (files : List String) : Bytes :=
  if files = [] then []
  else LineInfo.writeSubsection LineInfo.checksumKind (checksumTable files)

def lineBytes (files : List String) (functions : List Function) : Bytes :=
  checksumSubsection files ++
    functions.zipIdx.flatMap fun (f, index) => lineSubsection files index f

def moduleStream (files : List String) (functions : List Function) : Bytes :=
  symbolBytes functions ++ lineBytes files functions

def firstModuleStream : Nat := 5

def moduleName (index : Nat) : String := s!"module{index}.obj"

def objectName : String := "test.lib"

def entry (files : List String) (index : Nat) (functions : List Function) : ModuleEntry where
  name := Utf8.encode (moduleName index)
  objectName := Utf8.encode objectName
  stream := firstModuleStream + index
  symbolBytes := (symbolBytes functions).length
  skippedBytes := 0
  lineBytes := (lineBytes files functions).length

def zeros : ModuleEntry.Unread where
  opened := List.replicate 4 0
  contribution := List.replicate 28 0
  flags := List.replicate 2 0
  rest := List.replicate 16 0
  length_opened := List.length_replicate
  length_contribution := List.length_replicate
  length_flags := List.length_replicate
  length_rest := List.length_replicate

def moduleList (files : List String) (modules : List (List Function)) : Bytes :=
  modules.zipIdx.flatMap fun (functions, index) => pad4 ((entry files index functions).write zeros)

/-- What opens the stream with the module list; only its first number and the size of the list are
read. -/
def listHead (size : Nat) : Bytes :=
  encode 4 0xFFFFFFFF ++
    ((encode 4 19990903 ++ encode 4 1 ++ encode 2 0xFFFF ++ encode 2 0 ++ encode 2 0xFFFF ++
      encode 2 0 ++ encode 2 0xFFFF ++ encode 2 0) ++
    (encode 4 size ++ (List.replicate 30 0 ++ encode 2 0x8664 ++ encode 4 0)))

def listStream (files : List String) (modules : List (List Function)) : Bytes :=
  listHead (moduleList files modules).length ++ moduleList files modules

/-- The stream with the map of named streams, which has the one name of the string table. -/
def namesStream (number : Nat) : Bytes :=
  (encode 4 20000404 ++ encode 4 0x12345678 ++ encode 4 1 ++ List.replicate 16 0) ++
    encode 4 (text StringTable.streamName).length ++ text StringTable.streamName ++
    encode 4 1 ++ encode 4 1 ++ encode 4 1 ++ encode 4 1 ++ encode 4 0 ++
    encode 4 0 ++ encode 4 number ++ encode 4 0

def stringStream (files : List String) : Bytes :=
  encode 4 StringTable.signature ++ encode 4 1 ++ encode 4 (strings files).length ++
    strings files ++ (encode 4 0 ++ encode 4 0)

/-- The streams of a program database, by their numbers. -/
def streams (modules : List (List Function)) : List Bytes :=
  [[], namesStream (firstModuleStream + modules.length), [],
    listStream (files modules) modules, []] ++
    modules.map (moduleStream (files modules)) ++ [stringStream (files modules)]

def pageSize : Nat := 0x200

def padPage (bytes : Bytes) : Bytes :=
  bytes ++ List.replicate (Container.pageCount pageSize bytes.length * pageSize - bytes.length) 0

def pagesFrom (start : Nat) (bytes : Bytes) : List Nat :=
  List.range' start (Container.pageCount pageSize bytes.length)

/-- The streams on consecutive pages from `start` on. -/
def place (start : Nat) : List Bytes → List Container.PlacedStream
  | [] => []
  | bytes :: rest =>
      { content? := some bytes, pages := pagesFrom start bytes } ::
        place (start + Container.pageCount pageSize bytes.length) rest

/-- The first page behind streams that are put on pages from `start` on. -/
def pageBehind (start : Nat) (streams : List Bytes) : Nat :=
  start + (streams.map fun bytes => Container.pageCount pageSize bytes.length).sum

/-- The pages in front of the first stream: the header's and two that are free. -/
def firstPage : Nat := 3

def directory (streams : List Bytes) : Bytes :=
  Container.writeDirectory (place firstPage streams)

def directoryPage (streams : List Bytes) : Nat := pageBehind firstPage streams

def blockMap (streams : List Bytes) : List Nat :=
  pagesFrom (directoryPage streams) (directory streams)

def blockMapPage (streams : List Bytes) : Nat :=
  pageBehind (directoryPage streams) [directory streams]

def pageTotal (streams : List Bytes) : Nat :=
  pageBehind (blockMapPage streams) [(blockMap streams).flatMap (encode 4)]

def header (streams : List Bytes) : Bytes :=
  Container.signature ++ encode 4 pageSize ++ (encode 4 1 ++ encode 4 (pageTotal streams)) ++
    encode 4 (directory streams).length ++ encode 4 0 ++ encode 4 (blockMapPage streams)

/-- A file with the given streams. -/
def container (streams : List Bytes) : Bytes :=
  padPage (header streams) ++ List.replicate (2 * pageSize) 0 ++ streams.flatMap padPage ++
    padPage (directory streams) ++ padPage ((blockMap streams).flatMap (encode 4))

def database (modules : List (List Function)) : Bytes := container (streams modules)

end Writer
end Pdb
end TestAtlas
