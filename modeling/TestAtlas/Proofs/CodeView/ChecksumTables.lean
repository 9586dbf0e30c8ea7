import TestAtlas.Proofs.Bytes.Reading
import TestAtlas.Proofs.CodeView.Checksums

/-!
Checksum tables that are written, and what a cursor finds in any bytes. A table
gives the positions at which its entries start. In other bytes the cursor may come
to lie past the end; it stops there, and what it has found by then is aligned.
-/

namespace TestAtlas
namespace CodeView
namespace Checksums

open LittleEndian

/-- An entry as it is written, with the bytes behind it up to the next multiple of four. -/
structure Written where
  name : Nat
  kind : UInt8
  checksum : Bytes
  padding : Bytes
  name_lt : name < limit 4
  short : checksum.length < limit 1
  padded : headerSize + checksum.length + padding.length =
    paddedSize (headerSize + checksum.length)

namespace Written

def bare (entry : Written) : Bytes :=
  encode 4 entry.name ++ (UInt8.ofNat entry.checksum.length :: entry.kind :: entry.checksum)

def write (entry : Written) : Bytes := entry.bare ++ entry.padding

theorem toNat_length (entry : Written) :
    (UInt8.ofNat entry.checksum.length).toNat = entry.checksum.length := by
  rw [UInt8.toNat_ofNat']
  exact Nat.mod_eq_of_lt entry.short

theorem length_write (entry : Written) :
    entry.write.length = paddedSize (headerSize + entry.checksum.length) := by
  rw [← entry.padded]
  simp only [write, bare, List.length_append, length_encode, List.length_cons, headerSize]
  omega

end Written

/-- A table of entries, one after the other. The last one may go without its padding or without
some of it. -/
inductive Spells : List Written → Bytes → Prop
  | nil : Spells [] []
  | last (entry : Written) {padding : Bytes} (begins : padding <+: entry.padding) :
      Spells [entry] (entry.bare ++ padding)
  | cons (entry : Written) {others : List Written} {rest : Bytes} (behind : Spells others rest) :
      Spells (entry :: others) (entry.write ++ rest)

/-- The offsets of the names, by where the entries start if the first one starts at `start`. -/
def located (start : Nat) : List Written → Checksums
  | [] => []
  | entry :: others => (start, entry.name) :: located (start + entry.write.length) others

theorem walk_of_few (found : Checksums) (offset : Nat) {bytes : Bytes}
    (few : bytes.length < headerSize) : walk found offset bytes = found.reverse := by
  rw [walk]
  rintro a b c d size kind rest rfl
  simp only [List.length_cons, headerSize] at few
  omega

theorem walk_last (found : Checksums) (offset : Nat) (entry : Written) {padding : Bytes}
    (begins : padding <+: entry.padding) :
    walk found offset (entry.bare ++ padding) = ((offset, entry.name) :: found).reverse := by
  have least := begins.length_le
  have padded := entry.padded
  rw [Written.bare, List.append_assoc, List.cons_append, List.cons_append,
    walk_header found offset _ _ entry.name_lt, entry.toNat_length]
  refine walk_of_few _ _ ?_
  rw [List.length_drop, List.length_append]
  simp only [headerSize] at padded ⊢
  omega

theorem walk_of_spells {entries : List Written} {bytes : Bytes} (spells : Spells entries bytes)
    (found : Checksums) (offset : Nat) :
    walk found offset bytes = found.reverse ++ located offset entries := by
  induction spells generalizing found offset with
  | nil => rw [walk_of_few found offset (by decide), located, List.append_nil]
  | last entry begins => rw [walk_last found offset entry begins, List.reverse_cons]; rfl
  | cons entry _ ih =>
      have first := walk_entry found offset _ entry.kind entry.name_lt entry.toNat_length.symm
        entry.padded
      rw [Written.write, Written.bare, List.append_assoc (encode 4 entry.name), List.cons_append,
        List.cons_append, first, ih, List.reverse_cons, List.append_assoc, located,
        entry.length_write]
      rfl

/-- What opens an entry: the offset of the file's name and the size of the checksum. -/
def readHeader : Reader (Nat × Nat) := do
  let name ← Reader.u32
  let size ← Reader.u8
  Reader.skip 1
  return (name, size)

/-- How a cursor goes through a table. Where there is room for what opens an entry, this is read,
and the cursor comes to the next multiple of four behind the checksum. -/
inductive Course (body : Bytes) : (position : Nat) → Checksums → Prop
  | ends {position : Nat} (few : body.length < position + headerSize) : Course body position []
  | entry {position name size : Nat} {rest : Bytes} {map : Checksums}
      (room : position + headerSize ≤ body.length)
      (read : readHeader.run (body.drop position) = .ok ((name, size), rest))
      (next : Course body (paddedSize (position + headerSize + size)) map) :
      Course body position ((position, name) :: map)

variable {body : Bytes} {map other : Checksums} {position : Nat}

/-- Where there is room, the header can be read, and it is what stands there. -/
theorem readHeader_of_room {bytes : Bytes} (room : headerSize ≤ bytes.length) :
    ∃ name size kind rest, name < limit 4 ∧ bytes = encode 4 name ++ (size :: kind :: rest) ∧
      readHeader.run bytes = .ok ((name, UInt8.toNat size), rest) := by
  match bytes, room with
  | a :: b :: c :: d :: size :: kind :: rest, _ =>
      have name_lt : decode [a, b, c, d] < limit 4 := decode_lt rfl
      have spelled : encode 4 (decode [a, b, c, d]) = [a, b, c, d] := encode_decode rfl
      exact ⟨decode [a, b, c, d], size, kind, rest, name_lt, by rw [spelled]; rfl, rfl⟩

/-- Every entry takes the cursor further, so it comes to an end. -/
theorem exists_course (body : Bytes) (position : Nat) : ∃ map, Course body position map := by
  induction left : body.length - position using Nat.strongRecOn generalizing position with
  | ind _ ih =>
      subst left
      by_cases room : position + headerSize ≤ body.length
      · have here : headerSize ≤ (body.drop position).length := by
          rw [List.length_drop]
          omega
        obtain ⟨name, size, kind, rest, -, -, read⟩ := readHeader_of_room here
        have further : position < paddedSize (position + headerSize + size.toNat) :=
          Nat.lt_of_lt_of_le (by simp only [headerSize]; omega) (le_paddedSize _)
        have less : body.length - paddedSize (position + headerSize + size.toNat) <
            body.length - position := by
          simp only [headerSize] at room
          omega
        obtain ⟨map, next⟩ := ih _ less _ rfl
        exact ⟨_, .entry room read next⟩
      · exact ⟨[], .ends (Nat.lt_of_not_le room)⟩

/-- Behind an aligned position, to pad from the start of the table is to pad from there. -/
theorem paddedSize_add (aligned : 4 ∣ position) (n : Nat) :
    paddedSize (position + n) = position + paddedSize n := by
  simp only [paddedSize]
  omega

/-- Every entry starts at a multiple of four and has room for what opens it. -/
theorem Course.keys (course : Course body position map) (aligned : 4 ∣ position) :
    ∀ entry ∈ map, 4 ∣ entry.1 ∧ entry.1 + headerSize ≤ body.length := by
  induction course with
  | ends _ => exact List.forall_mem_nil _
  | entry room _ _ ih =>
      exact List.forall_mem_cons.mpr ⟨⟨aligned, room⟩, ih (Nat.dvd_mul_left ..)⟩

/-- From a multiple of four on, the cursor finds what a walk over the bytes that are left finds. -/
theorem Course.walk_eq (course : Course body position map) (aligned : 4 ∣ position)
    (found : Checksums) :
    walk found position (body.drop position) = found.reverse ++ map := by
  induction course generalizing found with
  | @ends position few =>
      rw [walk_of_few found position, List.append_nil]
      rw [List.length_drop]
      simp only [headerSize] at few ⊢
      omega
  | @entry position name size rest map room read next ih =>
      have here : headerSize ≤ (body.drop position).length := by
        rw [List.length_drop]
        omega
      obtain ⟨name, size, kind, rest, name_lt, whole, read'⟩ := readHeader_of_room here
      cases read.symm.trans read'
      have step := paddedSize_add aligned (headerSize + size.toNat)
      rw [← Nat.add_assoc] at step
      have behind : body.drop (paddedSize (position + headerSize + size.toNat)) =
          rest.drop (paddedSize (headerSize + size.toNat) - headerSize) := by
        have past : paddedSize (headerSize + size.toNat) =
            headerSize + (paddedSize (headerSize + size.toNat) - headerSize) :=
          (Nat.add_sub_cancel' (Nat.le_trans (Nat.le_add_right ..) (le_paddedSize _))).symm
        rw [step, ← List.drop_drop, whole, past, ← List.drop_drop, ← past]
        rfl
      rw [whole, walk_header found position size kind name_lt, ← behind, ← step,
        ih (Nat.dvd_mul_left ..), List.reverse_cons, List.append_assoc]
      rfl

theorem Course.eq_parse (course : Course body 0 map) : map = parse body :=
  (course.walk_eq (Nat.dvd_zero 4) []).symm

theorem course_parse (body : Bytes) : Course body 0 (parse body) := by
  obtain ⟨map, course⟩ := exists_course body 0
  rwa [← course.eq_parse]

/-- A table gives the position at which each of its entries starts, with the offset of the file's
name. In any bytes the cursor reads what opens an entry without fail and comes to an end, and there
is only one map that it finds; its keys are multiples of four, at least eight apart, with room for
what opens an entry. -/
theorem offsets_of_table :
    (∀ (entries : List Written) (body : Bytes), Spells entries body →
      parse body = located 0 entries) ∧
    ∀ body : Bytes,
      (∀ map, Course body 0 map ↔ map = parse body) ∧
      (∀ entry ∈ parse body, 4 ∣ entry.1 ∧ entry.1 + 6 ≤ body.length) ∧
      (parse body).Pairwise fun first second => first.1 + 8 ≤ second.1 := by
  refine ⟨fun entries body spells => walk_of_spells spells [] 0, fun body => ⟨fun map => ?_,
    (course_parse body).keys (Nat.dvd_zero 4), spaced_parse body⟩⟩
  exact ⟨Course.eq_parse, fun same => same ▸ course_parse body⟩

/-- Three entries, with one, three and two bytes to the next multiple of four; the last two of them
are missing, or the last one is. -/
theorem offsets_of_table_unpadded :
    let first : Written := {
      name := 0xFFFFFFFF, kind := 1, checksum := [1, 2, 3, 4, 5, 6, 7, 8, 9], padding := [0]
      name_lt := by decide, short := by decide, padded := by decide }
    let second : Written := {
      name := 7, kind := 2, checksum := [1, 2, 3], padding := [10, 20, 30]
      name_lt := by decide, short := by decide, padded := by decide }
    let third : Written := {
      name := 8, kind := 0, checksum := [], padding := [0, 0]
      name_lt := by decide, short := by decide, padded := by decide }
    parse (first.write ++ (second.write ++ third.bare)) = [(0, 0xFFFFFFFF), (16, 7), (28, 8)] ∧
      parse (first.write ++ (second.write ++ (third.bare ++ [0]))) =
        [(0, 0xFFFFFFFF), (16, 7), (28, 8)] := by
  intro first second third
  have bare : Spells [third] (third.bare ++ []) := .last third List.nil_prefix
  have short : Spells [third] (third.bare ++ [0]) := .last third (List.prefix_append [0] [0])
  rw [List.append_nil] at bare
  exact ⟨offsets_of_table.1 _ _ (.cons first (.cons second bare)),
    offsets_of_table.1 _ _ (.cons first (.cons second short))⟩

end Checksums
end CodeView
end TestAtlas
