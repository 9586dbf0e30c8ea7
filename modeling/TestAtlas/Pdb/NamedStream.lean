import TestAtlas.Pdb.Container

/-!
Streams that are found by name. The map from names to stream numbers is a hash
table written out as it is: a buffer with the names, a bit for each bucket that
is in use, and a pair of name offset and stream number for each of those.
-/

namespace TestAtlas
namespace Pdb

/-- Stream numbers by name, with ascending names. -/
abbrev NamedStreams := List (String × Nat)

namespace NamedStreams

/-- The map with the number of one name set. -/
def insert (name : String) (number : Nat) : NamedStreams → NamedStreams
  | [] => [(name, number)]
  | (n, m) :: rest =>
      if name < n then (name, number) :: (n, m) :: rest
      else if name = n then (name, number) :: rest
      else (n, m) :: insert name number rest

def find? (map : NamedStreams) (name : String) : Option Nat :=
  (List.find? (fun e => e.1 == name) map).map (·.2)

/-- The buckets below `capacity` whose bit is set, in ascending order. -/
def buckets (capacity : Nat) (present : List Nat) : List Nat :=
  present.zipIdx.flatMap fun (word, index) =>
    (List.range 32).filterMap fun bit =>
      if word.testBit bit && 32 * index + bit < capacity then some (32 * index + bit) else none

/-- The number of the stream that holds the map. -/
def streamNumber : Int := 1

/-- Reads the pair of each bucket; of two buckets with one name the later decides. -/
def readPairs (names : Bytes) : (buckets : List Nat) → (map : NamedStreams) → Reader NamedStreams
  | [], map => pure map
  | _ :: rest, map => do
      let key ← Reader.lone 4
      let number ← Reader.lone 4
      readPairs names rest (insert (Utf8.decodeAt names key) number map)

def read : Reader NamedStreams := do
  Reader.skip 28
  let nameBytes ← Reader.lone 4
  let names ← Reader.upTo nameBytes
  let _entries ← Reader.lone 4
  let capacity ← Reader.lone 4
  let present ← Reader.array (← Reader.lone 4)
  let _deleted ← Reader.array (← Reader.lone 4)
  readPairs names (buckets capacity present) []

/-- The named streams of a program database. -/
def all (container : Container) : Except Error NamedStreams := do
  let data ← container.stream streamNumber
  readFront read data

end NamedStreams

/-- The texts of a program database, each terminated and found by its offset. -/
abbrev StringTable := Bytes

namespace StringTable

/-- The name of the stream that holds the string table. -/
def streamName : String := "/names"

def signature : Nat := 0xEFFEEFFE

def readHeader : Reader (Nat × Nat) := do
  let signature ← Reader.u32
  Reader.skip 4
  let size ← Reader.u32
  return (signature, size)

/-- The string table; without a stream for it, or with one of another format, it is empty. -/
def load (container : Container) : Except Error StringTable := do
  match (← NamedStreams.all container).find? streamName with
  | none => return []
  | some number =>
      let data ← container.stream number
      let (found, size) ← readFront readHeader data
      if found = signature then return (data.drop 12).take size
      return []

end StringTable
end Pdb
end TestAtlas
