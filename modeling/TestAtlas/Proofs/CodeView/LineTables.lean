import TestAtlas.CodeView.Line
import TestAtlas.Proofs.Bytes.Reading

/-!
Line tables that are written as blocks of records. A table is read as one entry
for each record, in the order of the blocks and of their records.
-/

namespace TestAtlas
namespace CodeView

open LittleEndian

namespace LineEntry

/-- One block of a line table: a file, the records and what else is in the block. -/
structure Written where
  fileId : Nat
  records : List (Nat × Nat)
  extra : Bytes := []

namespace Written

def writeRecord (record : Nat × Nat) : Bytes := encode 4 record.1 ++ encode 4 record.2

def size (block : Written) : Nat :=
  Block.headerSize + 8 * block.records.length + block.extra.length

def write (block : Written) : Bytes :=
  encode 4 block.fileId ++ encode 4 block.records.length ++ encode 4 block.size ++
    (block.records.flatMap writeRecord ++ block.extra)

/-- The entry that a record stands for. -/
def entry (header : Header) (fileId : Nat) (record : Nat × Nat) : LineEntry where
  segment := header.segment
  address := header.offset + record.1
  line := record.2 % lineLimit
  fileId := fileId

def entries (header : Header) (block : Written) : List LineEntry :=
  block.records.map (entry header block.fileId)

/-- The numbers of a block fit their fields. -/
structure Fits (block : Written) : Prop where
  fileId : block.fileId < limit 4
  size : block.size < limit 4
  records : ∀ record ∈ block.records, record.1 < limit 4 ∧ record.2 < limit 4

end Written

theorem reads_record (header : Header) (fileId : Nat) {record : Nat × Nat}
    (first : record.1 < limit 4) (second : record.2 < limit 4) :
    Reader.Reads (read header fileId) (Written.entry header fileId record)
      (Written.writeRecord record) :=
  .bind (.field first) (.bind_pure (.field second) rfl)

theorem readMany_records (header : Header) (fileId : Nat) (found : List LineEntry)
    {records : List (Nat × Nat)}
    (h : ∀ record ∈ records, record.1 < limit 4 ∧ record.2 < limit 4) (rest : Bytes) :
    readMany header fileId records.length found (records.flatMap Written.writeRecord ++ rest) =
      .ok ((records.map (Written.entry header fileId)).reverse ++ found) := by
  induction records generalizing found with
  | nil => rfl
  | cons record others ih =>
      obtain ⟨first, second⟩ := h record List.mem_cons_self
      rw [List.length_cons, List.flatMap_cons, List.append_assoc, readMany,
        reads_record header fileId first second]
      change readMany header fileId others.length _ _ = _
      rw [ih _ fun other hm => h other (List.mem_cons_of_mem _ hm), List.map_cons,
        List.reverse_cons, List.append_assoc]
      rfl

/-- A walk over a line table ends where no further block is opened. -/
theorem walk_of_few (header : Header) (found : List LineEntry) {bytes : Bytes}
    (few : bytes.length < Block.headerSize) : walk header found bytes = .ok found.reverse := by
  have nothing : bytes.drop (Block.headerSize - 1) = [] :=
    List.drop_eq_nil_of_le (Nat.le_sub_one_of_lt few)
  rw [walk]
  split
  · rfl
  · rename_i here
    rw [nothing] at here
    cases here

/-- Where there is room for what opens a block, a walk reads it. -/
theorem walk_of_room (header : Header) (found : List LineEntry) {bytes : Bytes}
    (room : Block.headerSize ≤ bytes.length) :
    walk header found bytes = (do
      let (block, records) ← Block.read.run bytes
      if block.size < Block.headerSize then return found.reverse
      let found ← readMany header block.fileId block.lineCount found records
      walk header found (bytes.drop block.size)) := by
  rw [walk]
  split
  · rename_i nothing
    have length := congrArg List.length nothing
    simp only [List.length_drop, List.length_nil, Block.headerSize] at length room
    omega
  · cases Block.read.run bytes with
    | error cause => rfl
    | ok opened =>
        simp only [bind, Except.bind]
        split <;> rfl

namespace Written

variable {block : Written}

theorem length_records (records : List (Nat × Nat)) :
    (records.flatMap writeRecord).length = 8 * records.length := by
  induction records with
  | nil => rfl
  | cons record others ih =>
      rw [List.flatMap_cons, List.length_append, ih, writeRecord, List.length_append,
        length_encode, length_encode, List.length_cons]
      omega

@[simp] theorem length_write (block : Written) : block.write.length = block.size := by
  simp only [write, List.length_append, length_encode, length_records, size, Block.headerSize]
  omega

theorem reads_block (fits : block.Fits) :
    Reader.Reads Block.read
      { fileId := block.fileId, lineCount := block.records.length, size := block.size }
      (encode 4 block.fileId ++ encode 4 block.records.length ++ encode 4 block.size) := by
  have counted : block.records.length < limit 4 := by
    refine Nat.lt_of_le_of_lt ?_ fits.size
    rw [size]
    omega
  rw [List.append_assoc]
  exact .bind (.field fits.fileId) (.bind (.field counted) (.bind_pure (.field fits.size) rfl))

theorem walk_write (header : Header) (found : List LineEntry) (fits : block.Fits)
    (rest : Bytes) :
    walk header found (block.write ++ rest) =
      walk header ((block.entries header).reverse ++ found) rest := by
  have room : Block.headerSize ≤ (block.write ++ rest).length := by
    rw [List.length_append, length_write, size]
    omega
  have front : Block.read.run (block.write ++ rest) = .ok
      ({ fileId := block.fileId, lineCount := block.records.length, size := block.size },
        block.records.flatMap writeRecord ++ (block.extra ++ rest)) := by
    have read := reads_block fits (block.records.flatMap writeRecord ++ block.extra ++ rest)
    rwa [← List.append_assoc, List.append_assoc (block.records.flatMap writeRecord)] at read
  have long : ¬ block.size < Block.headerSize := by
    rw [size]
    omega
  -- The next block is found by the size alone, whatever was read of this one.
  have next : (block.write ++ rest).drop block.size = rest :=
    List.drop_left' (length_write block)
  rw [walk_of_room header found room, front]
  simp only [bind, Except.bind, if_neg long, readMany_records header block.fileId found
    fits.records, next]
  rfl

end Written

theorem walk_blocks (header : Header) (found : List LineEntry) {blocks : List Written}
    {leftover : Bytes} (fits : ∀ block ∈ blocks, block.Fits)
    (few : leftover.length < Block.headerSize) :
    walk header found (blocks.flatMap Written.write ++ leftover) =
      .ok (found.reverse ++ blocks.flatMap (Written.entries header)) := by
  induction blocks generalizing found with
  | nil =>
      rw [List.flatMap_nil, List.nil_append, walk_of_few header found few, List.flatMap_nil,
        List.append_nil]
  | cons block others ih =>
      rw [List.flatMap_cons, List.append_assoc,
        Written.walk_write header found (fits block List.mem_cons_self),
        ih _ fun other hm => fits other (List.mem_cons_of_mem _ hm), List.reverse_append,
        List.reverse_reverse, List.append_assoc, List.flatMap_cons]

/-- A line table as it is written; the part behind its first two numbers is not looked at. -/
def writeTable (header : Header) (unused : Bytes) (blocks : List Written) : Bytes :=
  encode 4 header.offset ++ (encode 2 header.segment ++ unused) ++ blocks.flatMap Written.write

theorem parse_writeTable {header : Header} {unused leftover : Bytes} {blocks : List Written}
    (ho : header.offset < limit 4) (hs : header.segment < limit 2) (hu : unused.length = 6)
    (fits : ∀ block ∈ blocks, block.Fits) (few : leftover.length < Block.headerSize) :
    parse (writeTable header unused blocks ++ leftover) =
      .ok (blocks.flatMap (Written.entries header)) := by
  have opened : Reader.Reads Header.read header
      (encode 4 header.offset ++ (encode 2 header.segment ++ unused)) :=
    .bind (.field ho) (.bind (.field hs) (.bind_pure (.skip hu) rfl))
  rw [parse, writeTable, List.append_assoc, opened]
  exact walk_blocks header [] fits few

/-- A complete line table. Behind its blocks there may be a few bytes in which no further block is
opened. -/
structure Table where
  header : Header
  flags : Nat
  codeSize : Nat
  blocks : List Written
  leftover : Bytes
  offset_lt : header.offset < limit 4
  segment_lt : header.segment < limit 2
  fits : ∀ block ∈ blocks, block.Fits
  few : leftover.length < Block.headerSize

def Table.write (table : Table) : Bytes :=
  writeTable table.header (encode 2 table.flags ++ encode 4 table.codeSize) table.blocks ++
    table.leftover

/-- A line table is read as one entry for each record, block by block and within a block in the
order of the records. The entry has the segment of the table, the file of its own block, the low
twenty-four bits of the record's flags as its line and the unbounded sum of both offsets as its
address. What else stands in the blocks and behind them does not matter. -/
theorem entries_of_table (table : Table) :
    parse table.write = .ok (table.blocks.flatMap fun block =>
      block.records.map fun (offset, flags) => {
        segment := table.header.segment
        address := (table.header.offset : Int) + (offset : Int)
        line := ((flags % 0x1000000 : Nat) : Int)
        fileId := block.fileId }) := by
  have unread : (encode 2 table.flags ++ encode 4 table.codeSize).length = 6 := by
    rw [List.length_append, length_encode, length_encode]
  exact parse_writeTable table.offset_lt table.segment_lt unread table.fits table.few

/-- Addresses may pass what four bytes hold. A block may be empty, or carry more than its records,
and what is left over may look like the start of a block. -/
theorem entries_of_table_wide :
    let table : Table := {
      header := { offset := 0xFFFFFFFF, segment := 2 }, flags := 1, codeSize := 80
      blocks := [
        { fileId := 8, records := [(0xFFFFFFFF, 0x80000007), (0, 0xFFFFFFFF)], extra := [1, 2, 3] },
        { fileId := 16, records := [], extra := [4] },
        { fileId := 24, records := [(1, 9)] }]
      leftover := [24, 0, 0, 0, 1, 0, 0, 0, 20, 0, 0]
      offset_lt := by decide, segment_lt := by decide
      fits := by
        simp only [List.mem_cons, List.not_mem_nil, or_false, forall_eq_or_imp, forall_eq]
        exact ⟨⟨by decide, by decide, by decide⟩, ⟨by decide, by decide, by decide⟩,
          by decide, by decide, by decide⟩
      few := by decide }
    parse table.write = .ok [
      { segment := 2, address := 0x1FFFFFFFE, line := 7, fileId := 8 },
      { segment := 2, address := 0xFFFFFFFF, line := 0xFFFFFF, fileId := 8 },
      { segment := 2, address := 0x100000000, line := 9, fileId := 24 }] := by
  intro table
  exact entries_of_table table

end LineEntry

end CodeView
end TestAtlas
