import TestAtlas.CodeView.Procedure

/-!
Line numbers of code addresses. A line table covers one stretch of code and
holds blocks of entries, each block for one file. The line of a procedure is
that of the lowest address inside its code for which there is an entry.
-/

namespace TestAtlas
namespace CodeView

/-- The source line that starts at an address. The file is named by the offset of its entry in
the checksum table. -/
structure LineEntry where
  segment : Int
  address : Int
  line : Int
  fileId : Int
  deriving DecidableEq, Repr

namespace LineEntry

/-- Whether the entry lies in the code of a procedure, which has at least one byte. -/
def liesIn (procedure : Procedure) (entry : LineEntry) : Bool :=
  entry.segment == procedure.segment && procedure.offset ≤ entry.address
    && entry.address < procedure.offset + max procedure.length 1

/-- The entry with the lowest address, the earliest if several have it. -/
def lowest? : List LineEntry → Option LineEntry
  | [] => none
  | entry :: rest =>
      some (rest.foldl (fun best e => if e.address < best.address then e else best) entry)

/-- The entry at which a procedure starts. -/
def forProcedure? (lines : List LineEntry) (procedure : Procedure) : Option LineEntry :=
  lowest? (lines.filter (liesIn procedure))

/-- What opens a line table. -/
structure Header where
  offset : Nat
  segment : Nat

def Header.read : Reader Header := do
  let offset ← Reader.u32
  let segment ← Reader.u16
  Reader.skip 6
  return { offset, segment }

/-- What opens a block. -/
structure Block where
  fileId : Nat
  lineCount : Nat
  size : Nat

/-- The number of bytes that open a block. -/
def Block.headerSize : Nat := 12

def Block.read : Reader Block := do
  let fileId ← Reader.u32
  let lineCount ← Reader.u32
  let size ← Reader.u32
  return { fileId, lineCount, size }

/-- Twenty-four bits hold the line. -/
def lineLimit : Nat := 0x1000000

/-- One line record: an offset to the start of the table's code, and flags whose low
twenty-four bits are the line. -/
def read (header : Header) (fileId : Nat) : Reader LineEntry := do
  let offset ← Reader.u32
  let flags ← Reader.u32
  return {
    segment := header.segment
    address := header.offset + offset
    line := flags % lineLimit
    fileId }

/-- Reads `count` line records onto `found`, which is in reverse. -/
def readMany (header : Header) (fileId : Nat) :
    (count : Nat) → (found : List LineEntry) → Bytes → Except ReadError (List LineEntry)
  | 0, found, _ => .ok found
  | count + 1, found, bytes => do
      let (entry, rest) ← (read header fileId).run bytes
      readMany header fileId count (entry :: found) rest

/-- Walks blocks for as long as there are bytes for what opens one. A block says how far it
reaches, independently of the records that are read from it; one that is shorter than what
opens it ends the walk. -/
def walk (header : Header) (found : List LineEntry) (bytes : Bytes) :
    Except ReadError (List LineEntry) :=
  match _opened : bytes.drop (Block.headerSize - 1) with
  | [] => .ok found.reverse
  | _ :: _ => do
      let (block, records) ← Block.read.run bytes
      if _short : block.size < Block.headerSize then return found.reverse
      let found ← readMany header block.fileId block.lineCount found records
      walk header found (bytes.drop block.size)
termination_by bytes.length
decreasing_by
  have nonempty := congrArg List.length _opened
  simp only [List.length_drop, List.length_cons, Block.headerSize] at nonempty _short ⊢
  omega

/-- The entries of a line table. -/
def parse (body : Bytes) : Except ReadError (List LineEntry) := do
  let (header, blocks) ← Header.read.run body
  walk header [] blocks

end LineEntry
end CodeView
end TestAtlas
