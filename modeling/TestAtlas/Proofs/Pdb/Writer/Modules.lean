import TestAtlas.Proofs.Pdb.Writer.Strings

/-!
The stream of a module is read as the module's functions, each with the entry of
its line, and as the offsets of all files' names.
-/

namespace TestAtlas
namespace Pdb
namespace Writer

open LittleEndian
open CodeView (Checksums LineEntry LineInfo Procedure)

variable {files : List String} {functions : List Function} {file : String} {f : Function}
  {i : Nat}

/-- The procedure that a function is written as. -/
def procedure (index : Nat) (f : Function) : Procedure where
  name := f.name
  segment := 1
  offset := address index
  length := codeSize

def procedures (functions : List Function) : List Procedure :=
  functions.zipIdx.map fun (f, index) => procedure index f

/-- The entry of a function's line, if the function has one. -/
def lineEntries (files : List String) (index : Nat) (f : Function) : List LineEntry :=
  match f.line? with
  | none => []
  | some line =>
      [{ segment := 1, address := address index, line := line,
         fileId := (8 * files.idxOf f.file : Nat) }]

/-- The name offsets of all files; the entry of each takes eight bytes. -/
def checksums (files : List String) : Checksums :=
  files.zipIdx.map fun (file, index) => (8 * index, stringOffset files file)

def info (files : List String) (functions : List Function) : LineInfo where
  lines := functions.zipIdx.flatMap fun (f, index) => lineEntries files index f
  checksums := checksums files

/-- The module that a list of functions is written as. -/
def module (files : List String) (index : Nat) (functions : List Function) : Module where
  name := moduleName index
  procedures := procedures functions
  info := info files functions

theorem exists_getElem_of_mem_zipIdx {α : Type} {items : List α} {item : α}
    (h : (item, i) ∈ items.zipIdx) : ∃ inside : i < items.length, items[i] = item :=
  List.getElem?_eq_some_iff.mp (List.mk_mem_zipIdx_iff_getElem?.mp h)

theorem spells_procedureRecords (plain : '\x00' ∉ f.name.toList) (inside : address i < limit 4)
    (short : (procedureBody i f).length + 2 < limit 2) :
    Procedure.Spells (procedureRecords i f) [procedure i f] := by
  have body : Reader.Reads Procedure.read
      { procedure i f with name := Utf8.decode (Utf8.encode f.name) } (procedureBytes i f) :=
    Procedure.reads_body (Utf8.zero_not_mem_encode plain) (by decide) inside (by decide)
      List.length_replicate List.length_replicate rfl
  rw [Utf8.decode_encode] at body
  have start : Procedure.Spells (Procedure.writeRecord 0x1110 (procedureBody i f))
      [procedure i f] := .procedure body short (by decide)
  exact start.append (.other (by decide) (by decide) (by decide))

/-- The numbers in the stream of a module fit their fields, and its names do not end early. -/
structure FitsStream (functions : List Function) : Prop where
  name : ∀ f ∈ functions, '\x00' ∉ f.name.toList
  line : ∀ f ∈ functions, ∀ line, f.line? = some line → line < LineEntry.lineLimit
  address : ∀ i < functions.length, address i < limit 4
  record : ∀ (i : Nat) (h : i < functions.length),
    (procedureBody i functions[i]).length + 2 < limit 2

theorem length_symbolBytes (functions : List Function) :
    (symbolBytes functions).length = 4 + (procedureList functions).length := by
  rw [symbolBytes, List.length_append, length_encode]

theorem spells_procedureList (fits : FitsStream functions) :
    Procedure.Spells (procedureList functions) (procedures functions) := by
  rw [procedures, List.map_eq_flatMap]
  refine .flatMap fun (f, i) member => ?_
  obtain ⟨inside, rfl⟩ := exists_getElem_of_mem_zipIdx member
  exact spells_procedureRecords (fits.name _ (List.getElem_mem inside)) (fits.address i inside)
    (fits.record i inside)

theorem parse_moduleStream (fits : FitsStream functions) :
    Procedure.parse (moduleStream files functions) (symbolBytes functions).length =
      .ok (procedures functions) := by
  have none : ([] : Bytes).length < 4 := by decide
  have parsed := (spells_procedureList fits).parse none (lineBytes files functions)
  rw [List.append_nil] at parsed
  rw [length_symbolBytes]
  exact parsed

/-- The mark of a statement lies above the bits of the line. -/
theorem marked_mod {line : Nat} (h : line < LineEntry.lineLimit) :
    (line ||| 0x80000000) % LineEntry.lineLimit = line := by
  change (line ||| 0x80000000) % 2 ^ 24 = line
  change line < 2 ^ 24 at h
  rw [Nat.or_mod_two_pow, Nat.mod_eq_of_lt h]
  exact Nat.or_zero line

theorem marked_lt {line : Nat} (h : line < LineEntry.lineLimit) :
    line ||| 0x80000000 < limit 4 := by
  change line ||| 0x80000000 < 2 ^ 32
  exact Nat.or_lt_two_pow (Nat.lt_trans h (by decide)) (by decide)

theorem fits_lineBlock {line : Nat} (known : 8 * files.idxOf file < limit 4)
    (small : line < LineEntry.lineLimit) : (lineBlock files file line).Fits where
  fileId := known
  size := by
    change 20 < limit 4
    decide
  records := by
    intro record member
    rw [List.mem_singleton.mp member]
    exact ⟨Nat.pow_pos (by decide), marked_lt small⟩

theorem entries_lineBlock {line : Nat} (small : line < LineEntry.lineLimit)
    (h : f.line? = some line) :
    (lineBlock files f.file line).entries (codeStart i) = lineEntries files i f := by
  have value : ((line ||| 0x80000000 : Nat) : Int) % LineEntry.lineLimit = line := by
    rw [← Int.natCast_emod, marked_mod small]
  simp only [LineEntry.Written.entries, lineBlock, List.map_cons, List.map_nil,
    LineEntry.Written.entry, codeStart, lineEntries, h, value, Int.natCast_zero, Int.add_zero,
    Int.natCast_one]

theorem length_lineTable (files : List String) (index : Nat) (file : String) (line : Nat) :
    (lineTable files index file line).length = 32 := rfl

theorem parse_lineTable {line : Nat} (inside : address i < limit 4)
    (known : 8 * files.idxOf f.file < limit 4) (small : line < LineEntry.lineLimit)
    (h : f.line? = some line) :
    LineEntry.parse (lineTable files i f.file line) = .ok (lineEntries files i f) := by
  have fits : ∀ block ∈ [lineBlock files f.file line], block.Fits := by
    intro block member
    rw [List.mem_singleton.mp member]
    exact fits_lineBlock known small
  have one : (codeStart i).segment < limit 2 := Nat.one_lt_two_pow (by decide : 16 ≠ 0)
  have none : ([] : Bytes).length < LineEntry.Block.headerSize := by decide
  have parsed := LineEntry.parse_writeTable (show (codeStart i).offset < limit 4 from inside) one
    (show (encode 2 0 ++ encode 4 codeSize).length = 6 from rfl) fits none
  rw [List.append_nil, List.flatMap_singleton, entries_lineBlock small h] at parsed
  exact parsed

theorem takes_lineSubsection (inside : address i < limit 4)
    (small : ∀ line, f.line? = some line →
      line < LineEntry.lineLimit ∧ 8 * files.idxOf f.file < limit 4) :
    LineInfo.Takes (lineSubsection files i f) (LineInfo.withLines (lineEntries files i f)) := by
  cases h : f.line? with
  | none =>
      simp only [lineSubsection, lineEntries, h, LineInfo.withLines_nil]
      exact .nil
  | some line =>
      obtain ⟨below, known⟩ := small line h
      have length := length_lineTable files i f.file line
      have whole : 4 ∣ (lineTable files i f.file line).length := by
        rw [length]
        decide
      have short : (lineTable files i f.file line).length < limit 4 := by
        rw [length]
        decide
      simp only [lineSubsection, h]
      exact .lines short whole (parse_lineTable inside known below h)

@[simp] theorem length_checksumTable (files names : List String) :
    (names.flatMap (checksumEntry files)).length = 8 * names.length := by
  induction names with
  | nil => rfl
  | cons name rest ih =>
      rw [List.flatMap_cons, List.length_append, ih, checksumEntry, List.length_append,
        length_encode, List.length_cons, List.length_cons, List.length_cons, List.length_cons,
        List.length_cons, List.length_nil]
      omega

/-- The entries of a walk that has seen `start` files. -/
theorem walk_checksums {names : List String} (start : Nat) (found : Checksums)
    (small : ∀ name ∈ names, stringOffset files name < limit 4) :
    Checksums.walk found (8 * start) (names.flatMap (checksumEntry files)) =
      found.reverse ++
        (names.zipIdx start).map fun (name, index) => (8 * index, stringOffset files name) := by
  induction names generalizing start found with
  | nil =>
      rw [List.flatMap_nil, List.zipIdx_nil, List.map_nil, List.append_nil, Checksums.walk]
      intro _ _ _ _ _ _ _ short
      cases short
  | cons name rest ih =>
      have plain : Checksums.headerSize + ([] : Bytes).length + ([0, 0] : Bytes).length =
        paddedSize (Checksums.headerSize + ([] : Bytes).length) := rfl
      have first := Checksums.walk_entry found (8 * start) 0 0 (small name List.mem_cons_self) rfl
        plain (rest.flatMap (checksumEntry files))
      have next := ih (start + 1) ((8 * start, stringOffset files name) :: found)
        fun other hm => small other (List.mem_cons_of_mem _ hm)
      rw [List.reverse_cons, List.append_assoc] at next
      exact first.trans next

theorem parse_checksumTable (small : ∀ name ∈ files, stringOffset files name < limit 4) :
    Checksums.parse (checksumTable files) = checksums files :=
  walk_checksums 0 [] small

theorem find?_zipIdx (files : List String) {names : List String} (start : Nat)
    (h : file ∈ names) :
    Checksums.find?
      ((names.zipIdx start).map fun (name, index) => (8 * index, stringOffset files name))
      ((8 * (start + names.idxOf file) : Nat) : Int) = some (stringOffset files file) := by
  induction names generalizing start with
  | nil => cases h
  | cons name rest ih =>
      rw [List.zipIdx_cons, List.map_cons, Checksums.find?, List.find?_cons, List.idxOf_cons]
      by_cases same : name = file
      · rw [same, beq_self_eq_true, cond_true, Nat.add_zero, beq_self_eq_true]
        rfl
      · have behind : file ∈ rest := (List.mem_cons.mp h).resolve_left (Ne.symm same)
        have other : ((8 * start : Nat) : Int) ≠
            ((8 * (start + (rest.idxOf file + 1)) : Nat) : Int) := by omega
        have next := ih (start + 1) behind
        rw [Nat.add_assoc, Nat.add_comm 1] at next
        rw [beq_false_of_ne same, cond_false, beq_false_of_ne other]
        exact next

/-- The entry of a file gives the offset of the file's name. -/
theorem find?_checksums (h : file ∈ files) :
    (checksums files).find? ((8 * files.idxOf file : Nat) : Int) =
      some (stringOffset files file) := by
  have found := find?_zipIdx files 0 h
  rwa [Nat.zero_add] at found

theorem add_lineBytes (inside : ∀ i < functions.length, address i < limit 4)
    (small : ∀ f ∈ functions, ∀ line, f.line? = some line →
      line < LineEntry.lineLimit ∧ 8 * files.idxOf f.file < limit 4)
    (offsets : ∀ name ∈ files, stringOffset files name < limit 4)
    (few : (checksumTable files).length < limit 4) :
    ({} : LineInfo).add (lineBytes files functions) = (info files functions, none) := by
  have lines : LineInfo.Takes (functions.zipIdx.flatMap fun (f, i) => lineSubsection files i f)
      (LineInfo.withLines (functions.zipIdx.flatMap fun (f, i) => lineEntries files i f)) := by
    refine .flatMap_lines fun (f, i) member => ?_
    obtain ⟨below, same⟩ := exists_getElem_of_mem_zipIdx member
    exact takes_lineSubsection (inside i below) (small f (same ▸ List.getElem_mem below))
  have table : LineInfo.Takes (checksumSubsection files)
      (if files = [] then id else LineInfo.withChecksums (checksums files)) := by
    rw [checksumSubsection]
    split
    · exact .nil
    · have whole : 4 ∣ (checksumTable files).length := by
        rw [checksumTable, length_checksumTable]
        omega
      rw [← parse_checksumTable offsets]
      exact .checksums few whole
  -- Without files there is no checksum table, and the map of its entries is empty.
  rw [lineBytes, (table.append lines).whole]
  by_cases none : files = []
  · subst none
    rfl
  · rw [if_neg none]
    simp only [Function.comp_apply, LineInfo.withChecksums, Checksums.nil_overlay]
    rfl

end Writer
end Pdb
end TestAtlas
