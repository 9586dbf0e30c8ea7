import TestAtlas.Bytes.Reader
import TestAtlas.Text.Utf8

/-!
The procedures of a module's symbol stream. A stream starts with the number of
its record format, then come records that each give their own length; the four
kinds of procedure records are decoded and all others are stepped over.
-/

namespace TestAtlas
namespace CodeView

/-- A procedure and the code it occupies. -/
structure Procedure where
  name : String
  segment : Int
  offset : Int
  length : Int
  deriving DecidableEq, Repr

namespace Procedure

/-- The kinds of records that describe a procedure, local or global, with its type named by
index or by identifier. -/
def kinds : List Nat := [0x110F, 0x1110, 0x1146, 0x1147]

/-- The body of a procedure record: thirty-five fixed bytes and a terminated name. -/
def read : Reader Procedure := do
  Reader.skip 12
  let length ← Reader.u32
  Reader.skip 12
  let offset ← Reader.u32
  let segment ← Reader.u16
  Reader.skip 1
  let name ← Reader.terminated
  return { name := Utf8.decode name, segment, offset, length }

/-- The length and the kind that open a record. The length does not count its own two bytes. -/
def readHeader : Reader (Nat × Nat) := do
  let length ← Reader.u16
  let kind ← Reader.u16
  return (length, kind)

/-- The body of a record, if it is one of a procedure. -/
def read? (kind : Nat) (body : Bytes) : Except ReadError (Option Procedure) :=
  if kind ∈ kinds then do
    let (procedure, _) ← read.run body
    return some procedure
  else
    return none

/-- Walks records for as long as a header fits into the `declared` bytes, which may be more than
there are. A length that leaves no room for the kind ends the walk. `found` is in reverse. -/
def walk (found : List Procedure) (declared : Nat) (bytes : Bytes) :
    Except ReadError (List Procedure) :=
  if _room : declared < 4 then .ok found.reverse
  else do
    let ((length, kind), body) ← readHeader.run bytes
    if length < 2 then return found.reverse
    let procedure? ← read? kind body
    walk (procedure?.toList ++ found) (declared - (2 + length)) (bytes.drop (2 + length))
termination_by declared
decreasing_by omega

/-- The number of the record format. -/
def formatNumber : Nat := 4

/-- The procedures in the first `symbolBytes` bytes of a symbol stream. -/
def parse (data : Bytes) (symbolBytes : Nat) : Except ReadError (List Procedure) :=
  if symbolBytes < 4 then .ok []
  else do
    let (format, records) ← (Reader.lone 4).run (data.take symbolBytes)
    if format ≠ formatNumber then return []
    walk [] (symbolBytes - 4) records

end Procedure
end CodeView
end TestAtlas
