import Mathlib.Data.List.Forall2
import TestAtlas.Proofs.Bytes.Stretch
import TestAtlas.Proofs.CodeView.LineTables

/-!
Where the entries of a line table are read, against the sizes that its blocks announce.
The walk goes on as the sizes say, but the number of records that it reads from a block
is not bounded by them.
-/

namespace TestAtlas

open LittleEndian

namespace CodeView

namespace LineEntry

variable {header : Header} {fileId count start : Nat} {body bytes : Bytes}
  {found entries : List LineEntry}

/-- What opens a block that starts here. -/
def blockAt (body : Bytes) (start : Nat) : Block where
  fileId := numberAt 4 body start
  lineCount := numberAt 4 body (start + 4)
  size := numberAt 4 body (start + 8)

/-- A block in its line table. -/
structure Placed where
  start : Nat
  block : Block

namespace Placed

/-- What the block announces as its own. -/
def extent (placed : Placed) : Stretch := ⟨placed.start, placed.block.size⟩

/-- Where its records are read. -/
def records (placed : Placed) : List Stretch :=
  Stretch.row (placed.start + Block.headerSize) 8 placed.block.lineCount

end Placed

/-- The blocks that a walk comes to from a place on. Where the next one starts depends on the sizes
alone. -/
def blocksFrom (body : Bytes) (start : Nat) : List Placed :=
  if _room : start + Block.headerSize ≤ body.length then
    if _short : (blockAt body start).size < Block.headerSize then []
    else ⟨start, blockAt body start⟩ :: blocksFrom body (start + (blockAt body start).size)
  else []
termination_by body.length - start
decreasing_by
  simp only [Block.headerSize] at _room _short
  omega

theorem spans_record (header : Header) (fileId : Nat) : Reader.Spans (read header fileId) 8 :=
  .bind (.field 4) fun _ => .bind (.field 4) fun _ => .pure _

theorem of_run_block {block : Block} {rest : Bytes}
    (opened : Block.read.run (body.drop start) = .ok (block, rest)) :
    block = blockAt body start ∧ rest = body.drop (start + Block.headerSize) := by
  obtain ⟨first, middle, read, opened⟩ := Reader.of_run_bind opened
  obtain ⟨rfl, rfl⟩ := Reader.of_run_number read
  obtain ⟨second, middle, read, opened⟩ := Reader.of_run_bind opened
  obtain ⟨rfl, rfl⟩ := Reader.of_run_number read
  obtain ⟨third, middle, read, opened⟩ := Reader.of_run_bind opened
  obtain ⟨rfl, rfl⟩ := Reader.of_run_number read
  cases opened
  simp only [blockAt, numberAt, List.drop_drop, Block.headerSize, and_self]

/-- Where records are read is bounded by nothing but the bytes that are there. -/
theorem of_readMany (read : readMany header fileId count found (body.drop start) = .ok entries)
    (inside : start ≤ body.length) :
    ∃ new, entries = new.reverse ++ found ∧
      List.Forall₂ (fun record entry => (LineEntry.read header fileId).ReadsAt entry body record)
        (Stretch.row start 8 count) new := by
  induction count generalizing start found with
  | zero =>
      cases read
      exact ⟨[], rfl, .nil⟩
  | succ count ih =>
      simp only [readMany, bind, Except.bind] at read
      split at read
      · cases read
      rename_i result taken
      obtain ⟨reads, behind⟩ := (spans_record header fileId).readsAt inside taken
      rw [behind] at read
      obtain ⟨new, rfl, others⟩ := ih read reads.inside
      refine ⟨result.1 :: new, ?_, .cons reads others⟩
      rw [List.reverse_cons, List.append_assoc]
      rfl

/-- The records that are read from a place on, each with its block. -/
def recordsFrom (body : Bytes) (start : Nat) : List (Placed × Stretch) :=
  (blocksFrom body start).flatMap fun placed => placed.records.map (placed, ·)

theorem of_walk_of_room (room : start + Block.headerSize ≤ body.length)
    (read : walk header found (body.drop start) = .ok entries) :
    if (blockAt body start).size < Block.headerSize then entries = found.reverse
    else ∃ more,
      readMany header (blockAt body start).fileId (blockAt body start).lineCount found
        (body.drop (start + Block.headerSize)) = .ok more ∧
      walk header more (body.drop (start + (blockAt body start).size)) = .ok entries := by
  have enough : Block.headerSize ≤ (body.drop start).length := by
    rw [List.length_drop]
    omega
  rw [walk_of_room header found enough] at read
  cases opened : Block.read.run (body.drop start) with
  | error cause =>
      rw [opened] at read
      cases read
  | ok result =>
      obtain ⟨block, rest⟩ := of_run_block opened
      simp only [opened, block, rest, bind, Except.bind, List.drop_drop] at read
      split at read
      · rename_i short
        cases read
        rw [if_pos short]
      · rename_i long
        rw [if_neg long]
        split at read
        · cases read
        · rename_i more taken
          exact ⟨more, taken, read⟩

/-- A walk that gives entries has read one for each record of the blocks that it came to. -/
theorem of_walk (read : walk header found (body.drop start) = .ok entries) :
    ∃ new, entries = found.reverse ++ new ∧
      List.Forall₂ (fun record entry =>
        (LineEntry.read header record.1.block.fileId).ReadsAt entry body record.2)
        (recordsFrom body start) new := by
  rw [recordsFrom]
  -- The list of blocks stops where the walk does, so the induction is on the list.
  fun_induction blocksFrom body start generalizing found with
  | case1 start room short =>
      have stopped := of_walk_of_room room read
      rw [if_pos short] at stopped
      exact ⟨[], stopped.trans (List.append_nil _).symm, .nil⟩
  | case2 start room long ih =>
      have opened := of_walk_of_room room read
      rw [if_neg long] at opened
      obtain ⟨more, taken, read⟩ := opened
      obtain ⟨new, rfl, reads⟩ := of_readMany taken room
      obtain ⟨behind, rfl, others⟩ := ih read
      refine ⟨new ++ behind, ?_, ?_⟩
      · rw [List.reverse_append, List.reverse_reverse, List.append_assoc]
      · rw [List.flatMap_cons]
        exact List.rel_append (List.forall₂_map_left_iff.mpr reads) others
  | case3 start room =>
      have few : (body.drop start).length < Block.headerSize := by
        rw [List.length_drop]
        simp only [Block.headerSize] at room ⊢
        omega
      rw [walk_of_few header found few] at read
      cases read
      exact ⟨[], (List.append_nil _).symm, .nil⟩

def Header.size : Nat := 12

def blocks (body : Bytes) : List Placed := blocksFrom body Header.size

def records (body : Bytes) : List (Placed × Stretch) := recordsFrom body Header.size

/-- Every record lies in its own block. -/
def Confined (body : Bytes) : Prop := ∀ record ∈ records body, record.2.Within record.1.extent

theorem spans_header : Reader.Spans Header.read Header.size :=
  .bind (.field 4) fun _ => .bind (.field 2) fun _ => .bind (.skip 6) fun _ => .pure _

/-- The entries of a line table, with the records that they are read from. -/
theorem of_parse (parsed : parse body = .ok entries) :
    ∃ header, Header.read.ReadsAt header body ⟨0, Header.size⟩ ∧
      List.Forall₂ (fun record entry =>
        (LineEntry.read header record.1.block.fileId).ReadsAt entry body record.2)
        (records body) entries := by
  rw [parse] at parsed
  cases opened : Header.read.run body with
  | error cause =>
      rw [opened] at parsed
      cases parsed
  | ok result =>
      rw [opened] at parsed
      have opened : Header.read.run (body.drop 0) = .ok result := opened
      obtain ⟨header, behind⟩ := spans_header.readsAt (Nat.zero_le _) opened
      rw [Nat.zero_add] at behind
      change walk result.1 [] result.2 = _ at parsed
      rw [behind] at parsed
      obtain ⟨new, rfl, reads⟩ := of_walk parsed
      exact ⟨result.1, header, reads⟩

theorem of_mem_blocksFrom {placed : Placed} (member : placed ∈ blocksFrom body start) :
    start ≤ placed.start ∧ Block.headerSize ≤ placed.block.size := by
  fun_induction blocksFrom body start with
  | case1 start room short => cases member
  | case2 start room long ih =>
      rcases List.mem_cons.mp member with rfl | member
      · exact ⟨Nat.le_refl _, Nat.le_of_not_lt long⟩
      · obtain ⟨behind, large⟩ := ih member
        exact ⟨Nat.le_trans (Nat.le_add_right ..) behind, large⟩
  | case3 start room => cases member

theorem pairwise_blocksFrom (body : Bytes) (start : Nat) :
    (blocksFrom body start).Pairwise fun first second => first.extent.Before second.extent := by
  fun_induction blocksFrom body start with
  | case1 start room short => exact .nil
  | case2 start room long ih =>
      exact .cons (fun placed member => (of_mem_blocksFrom member).1) ih
  | case3 start room => exact .nil

/-- Records are confined exactly where every block announces enough for the number of records that
it gives. -/
theorem confined_iff (body : Bytes) :
    Confined body ↔ ∀ placed ∈ blocks body,
      Block.headerSize + 8 * placed.block.lineCount ≤ placed.block.size := by
  simp only [Confined, records, recordsFrom, List.forall_mem_flatMap, List.forall_mem_map]
  refine forall₂_congr fun placed member => ?_
  have large := (of_mem_blocksFrom member).2
  have early : placed.extent.start ≤ placed.start + Block.headerSize := Nat.le_add_right ..
  rw [Placed.records, Stretch.row_within_iff early]
  simp only [Placed.extent, Stretch.stop]
  omega

/-- Records that are confined lie side by side. -/
theorem pairwise_of_confined (confined : Confined body) :
    (records body).Pairwise fun first second => first.2.Before second.2 := by
  simp only [Confined, records, recordsFrom, List.forall_mem_flatMap, List.forall_mem_map]
    at confined
  rw [records, recordsFrom, List.pairwise_flatMap]
  refine ⟨fun placed _ => List.pairwise_map.mpr (Stretch.pairwise_row ..), ?_⟩
  refine (pairwise_blocksFrom body _).imp_of_mem fun {first second} left right apart => ?_
  simp only [List.forall_mem_map]
  intro record inside record' inside'
  exact apart.of_within (confined first left record inside) (confined second right record' inside')

theorem length_of_mem_records {record : Placed × Stretch} (member : record ∈ records body) :
    record.2.length = 8 := by
  obtain ⟨placed, -, inside⟩ := List.mem_flatMap.mp member
  obtain ⟨stretch, inside', rfl⟩ := List.mem_map.mp inside
  exact (Stretch.within_row inside').1

/-- Entries that are read from records side by side are at most as many as fit into the table. -/
theorem length_le_of_confined (parsed : parse body = .ok entries) (confined : Confined body) :
    entries.length ≤ body.length / 8 := by
  obtain ⟨header, -, reads⟩ := of_parse parsed
  have apart : ((records body).map Prod.snd).Pairwise Stretch.Before :=
    List.pairwise_map.mpr (pairwise_of_confined confined)
  have wide : ∀ stretch ∈ (records body).map Prod.snd, 8 ≤ stretch.length :=
    List.forall_mem_map.mpr fun record member => Nat.le_of_eq (length_of_mem_records member).symm
  have read : ∀ record ∈ records body, ∃ entry,
      (LineEntry.read header record.1.block.fileId).ReadsAt entry body record.2 :=
    ((List.forall₂_and_left (records body) entries).mp
      (reads.imp fun _ entry read => ⟨⟨entry, read⟩, read⟩)).1
  have inside : ∀ stretch ∈ (records body).map Prod.snd, stretch.Within ⟨0, body.length⟩ := by
    refine List.forall_mem_map.mpr fun record member => ⟨Nat.zero_le _, ?_⟩
    obtain ⟨entry, read⟩ := read record member
    exact Nat.le_trans read.inside (Nat.le_add_left ..)
  rw [← reads.length_eq, Nat.le_div_iff_mul_le (by decide), ← List.length_map Prod.snd]
  exact Stretch.length_mul_le apart wide inside

end LineEntry

end CodeView
end TestAtlas
