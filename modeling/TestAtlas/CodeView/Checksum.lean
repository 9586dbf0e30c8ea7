import TestAtlas.Bytes.Reader

/-!
The checksum table of a module. Line blocks name a file by the offset of its
entry in this table, and the entry gives the offset of the file's name in the
string table. Maps from entry to name offsets are lists with ascending keys.
-/

namespace TestAtlas
namespace CodeView

/-- Offsets of file names by the offsets of the files' entries, with ascending keys. -/
abbrev Checksums := List (Nat × Nat)

namespace Checksums

/-- Both maps in one; where both have a key, the newer map decides. -/
def overlay : (older newer : Checksums) → Checksums
  | [], newer => newer
  | older, [] => older
  | (k, v) :: older, (l, w) :: newer =>
      if k < l then (k, v) :: overlay older ((l, w) :: newer)
      else if k = l then (l, w) :: overlay older newer
      else (l, w) :: overlay ((k, v) :: older) newer
termination_by older newer => older.length + newer.length

/-- The name offset of an entry. -/
def find? (map : Checksums) (entry : Int) : Option Nat :=
  (List.find? (fun e => (e.1 : Int) == entry) map).map (·.2)

/-- The number of bytes that open an entry. -/
def headerSize : Nat := 6

/-- Walks the entries of a table, the next of which starts at `offset`. The checksum that
follows an entry's six bytes is padded, and the last one may be cut off. `found` is in reverse. -/
def walk (found : Checksums) (offset : Nat) (bytes : Bytes) : Checksums :=
  match _shape : bytes with
  | a :: b :: c :: d :: size :: _ :: _ =>
      let step := paddedSize (headerSize + size.toNat)
      walk ((offset, LittleEndian.decode [a, b, c, d]) :: found) (offset + step) (bytes.drop step)
  | _ => found.reverse
termination_by bytes.length
decreasing_by
  have : headerSize ≤ paddedSize (headerSize + size.toNat) :=
    Nat.le_trans (Nat.le_add_right ..) (le_paddedSize _)
  subst _shape
  simp only [headerSize, List.length_drop, List.length_cons] at this ⊢
  omega

/-- The map that a checksum table spells. -/
def parse (body : Bytes) : Checksums := walk [] 0 body

end Checksums
end CodeView
end TestAtlas
