import Mathlib
import TestAtlas.Proofs.CodeView.LinePlaces
import TestAtlas.Proofs.CodeView.ProcedurePlaces

/-!
Procedures and line entries against the stretches of bytes that are announced for them:
what they are read from, and when it lies in its own record or block.
-/

namespace TestAtlas
namespace CodeView

/-- Each procedure and each line entry is read from one stretch of the bytes: that of a record in
turn, from its fixed part to the end of its name, and the eight bytes of a line record in turn.
Records and blocks announce stretches that lie side by side. What is read lies in the stretch that
was announced for it exactly where a record's length has room for the fixed part and the name, and
a block's size for as many line records as it gives; then nothing is read twice, and there are at
most as many line entries as fit into the table. -/
theorem readings_confined_iff (data : Bytes) (symbolBytes : Nat) (body : Bytes) :
    (∀ procedures, Procedure.parse data symbolBytes = .ok procedures →
      let declared := data.take symbolBytes
      let records := Procedure.records declared symbolBytes
      List.Forall₂ (fun placed procedure =>
        Procedure.read.ReadsAt procedure declared (placed.body declared)) records procedures ∧
      records.Pairwise (fun first second => first.extent.Before second.extent) ∧
      (Procedure.Confined declared symbolBytes ↔ ∀ placed ∈ records,
        2 + (35 + ((placed.name declared).length + 1)) ≤ placed.length) ∧
      (Procedure.Confined declared symbolBytes → records.Pairwise fun first second =>
        (first.body declared).Before (second.body declared))) ∧
    ∀ entries, LineEntry.parse body = .ok entries →
      (∃ header, LineEntry.Header.read.ReadsAt header body ⟨0, 12⟩ ∧
        List.Forall₂ (fun record entry =>
          (LineEntry.read header record.1.block.fileId).ReadsAt entry body record.2)
          (LineEntry.records body) entries) ∧
      (LineEntry.blocks body).Pairwise (fun first second => first.extent.Before second.extent) ∧
      (LineEntry.Confined body ↔ ∀ placed ∈ LineEntry.blocks body,
        12 + 8 * placed.block.lineCount ≤ placed.block.size) ∧
      (LineEntry.Confined body →
        (LineEntry.records body).Pairwise (fun first second => first.2.Before second.2) ∧
        entries.length ≤ body.length / 8) := by
  refine ⟨fun procedures parsed => ?_, fun entries parsed => ?_⟩
  · exact ⟨Procedure.of_parse parsed, Procedure.pairwise_records _ _, Procedure.confined_iff _ _,
      Procedure.pairwise_of_confined⟩
  · refine ⟨LineEntry.of_parse parsed, LineEntry.pairwise_blocksFrom _ _,
      LineEntry.confined_iff body, fun confined => ?_⟩
    exact ⟨LineEntry.pairwise_of_confined confined,
      LineEntry.length_le_of_confined parsed confined⟩

/-- A procedure record that announces its kind and nothing else, and what is read behind it. -/
def bareRecord : Bytes := [4, 0, 0, 0, 2, 0, 0x10, 0x11] ++ List.replicate 36 0

/-- A line table with two blocks that announce no room for records but give some. -/
def crowdedTable : Bytes :=
  List.replicate 12 0 ++ [1, 0, 0, 0, 5, 0, 0, 0, 12, 0, 0, 0] ++
    [2, 0, 0, 0, 4, 0, 0, 0, 12, 0, 0, 0] ++ List.replicate 32 0

/-- A procedure that is read from behind its record, and nine line entries of two blocks in a table
that has room for eight; what opens the second block is read as a line of the first one's file. -/
theorem readings_confined_iff_unconfined :
    let procedure : Procedure := { name := "", segment := 0, offset := 0, length := 0 }
    let entry (file : Int) : LineEntry := { segment := 0, address := 0, line := 0, fileId := file }
    let entries : List LineEntry :=
      [{ entry 1 with address := 2, line := 4 }, { entry 1 with address := 12 }] ++
        List.replicate 3 (entry 1) ++ List.replicate 4 (entry 2)
    (Procedure.parse bareRecord 44 = .ok [procedure] ∧
      ¬ Procedure.Confined (bareRecord.take 44) 44) ∧
    LineEntry.parse crowdedTable = .ok entries ∧ ¬ LineEntry.Confined crowdedTable ∧
      crowdedTable.length / 8 < entries.length := by
  intro procedure entry entries
  have parsed : Procedure.parse bareRecord 44 = .ok [procedure] := by cbv
  have parsed' : LineEntry.parse crowdedTable = .ok entries := by cbv
  have records : Procedure.records (bareRecord.take 44) 44 =
      [{ start := 4, length := 2, kind := 0x1110 }] := by cbv
  have blocks : LineEntry.blocks crowdedTable =
      [{ start := 12, block := { fileId := 1, lineCount := 5, size := 12 } },
        { start := 24, block := { fileId := 2, lineCount := 4, size := 12 } }] := by cbv
  refine ⟨⟨parsed, fun confined => ?_⟩, parsed', fun confined => ?_, by decide⟩
  · have room := ((readings_confined_iff bareRecord 44 []).1 _ parsed).2.2.1.mp confined
    rw [records, List.forall_mem_singleton] at room
    change _ ≤ 2 at room
    omega
  · have room := ((readings_confined_iff [] 0 crowdedTable).2 _ parsed').2.2.1.mp confined
    rw [blocks] at room
    exact absurd (room _ List.mem_cons_self) (by decide)

end CodeView
end TestAtlas
