import Mathlib.Data.List.Perm.Basic
import TestAtlas.Proofs.CodeView.Accumulation
import TestAtlas.Proofs.CodeView.LineTables

/-!
Line information in another order. Line tables may stand anywhere between the
other subsections, and their blocks in any order: the same entries are found, and
they refer to the same files.
-/

namespace TestAtlas
namespace CodeView

open LittleEndian

/-- The same entries, in whatever order, and the same files. -/
structure LineInfo.Reordered (info other : LineInfo) : Prop where
  lines : info.lines.Perm other.lines
  checksums : other.checksums = info.checksums

/-- A line table with its blocks in another order. -/
structure LineEntry.Table.Reordered (table other : LineEntry.Table) : Prop where
  header : other.header = table.header
  blocks : table.blocks.Perm other.blocks

theorem LineEntry.Table.Reordered.perm {table other : LineEntry.Table}
    (reordered : table.Reordered other) :
    ∃ entries others, LineEntry.parse table.write = .ok entries ∧
      LineEntry.parse other.write = .ok others ∧ entries.Perm others := by
  refine ⟨_, _, entries_of_table table, entries_of_table other, ?_⟩
  rw [reordered.header]
  exact reordered.blocks.flatMap_right _

namespace LineInfo

variable {info other later : LineInfo}

namespace Reordered

theorem takeOver (reordered : info.Reordered other) (kind : Nat) (body : Bytes) :
    (info.takeOver kind body).1.Reordered (other.takeOver kind body).1 ∧
      (other.takeOver kind body).2 = (info.takeOver kind body).2 := by
  rw [LineInfo.takeOver, LineInfo.takeOver, addSubsection, addSubsection]
  by_cases checksums : kind = checksumKind
  · rw [if_pos checksums, if_pos checksums]
    exact ⟨⟨reordered.lines, congrArg (Checksums.overlay · _) reordered.checksums⟩, rfl⟩
  rw [if_neg checksums, if_neg checksums]
  by_cases lines : kind = lineKind
  · rw [if_pos lines, if_pos lines]
    cases LineEntry.parse body with
    | error cause => exact ⟨reordered, rfl⟩
    | ok entries => exact ⟨⟨reordered.lines.append_right entries, reordered.checksums⟩, rfl⟩
  · rw [if_neg lines, if_neg lines]
    exact ⟨reordered, rfl⟩

/-- What is taken over later comes behind what there is, in whatever order that is. -/
theorem add (reordered : info.Reordered other) (bytes : Bytes) :
    (info.add bytes).1.Reordered (other.add bytes).1 ∧
      (other.add bytes).2 = (info.add bytes).2 := by
  induction size : bytes.length using Nat.strongRecOn generalizing bytes info other with
  | ind _ ih =>
      subst size
      by_cases few : bytes.length < headerSize
      · rw [add_of_few info few, add_of_few other few]
        exact ⟨reordered, rfl⟩
      obtain ⟨kind, length, rest, known, short, rfl⟩ := exists_header (Nat.le_of_not_lt few)
      obtain ⟨taken, same⟩ := reordered.takeOver kind (rest.take length)
      rw [add_header known short, add_header known short]
      generalize info.takeOver kind (rest.take length) = result at taken same ⊢
      generalize other.takeOver kind (rest.take length) = result' at taken same ⊢
      obtain ⟨next, _ | cause⟩ := result <;> obtain ⟨next', stopped⟩ := result' <;> cases same
      · refine ih _ ?_ taken _ rfl
        simp only [List.length_append, length_encode, List.length_drop]
        omega
      · exact ⟨taken, rfl⟩

end Reordered

namespace Subsection

variable {subsections others : List Subsection}

/-- The same subsections in another order: a line table may change places with what stands beside
it, and so may the blocks of a line table. -/
inductive Rearranged : List Subsection → List Subsection → Prop where
  | refl (subsections : List Subsection) : Rearranged subsections subsections
  | blocks {first second : Subsection} {table other : LineEntry.Table}
      (kind : first.kind = lineKind) (body : first.body = table.write)
      (kind' : second.kind = lineKind) (body' : second.body = other.write)
      (reordered : table.Reordered other) (rest : List Subsection) :
      Rearranged (first :: rest) (second :: rest)
  | swap {first second : Subsection} (lines : first.kind = lineKind ∨ second.kind = lineKind)
      (rest : List Subsection) : Rearranged (first :: second :: rest) (second :: first :: rest)
  | cons (subsection : Subsection) {first second : List Subsection}
      (rest : Rearranged first second) : Rearranged (subsection :: first) (subsection :: second)
  | trans {first second third : List Subsection} (front : Rearranged first second)
      (back : Rearranged second third) : Rearranged first third

theorem table_of_lines {subsection : Subsection} (lines : subsection.kind = lineKind) :
    subsection.table = [] := by
  rw [table, lines]
  exact if_neg (by decide)

theorem entries_of_parse {subsection : Subsection} {entries : List LineEntry}
    (lines : subsection.kind = lineKind) (parsed : LineEntry.parse subsection.body = .ok entries) :
    subsection.entries = entries := by
  rw [Subsection.entries, if_pos lines, parsed]
  rfl

namespace Rearranged

theorem isSound (rearranged : Rearranged subsections others)
    (sound : ∀ subsection ∈ subsections, subsection.IsSound) :
    ∀ subsection ∈ others, subsection.IsSound := by
  induction rearranged with
  | refl _ => exact sound
  | blocks _ _ _ body' _ rest =>
      refine List.forall_mem_cons.mpr ⟨fun _ => ?_, (List.forall_mem_cons.mp sound).2⟩
      rw [body']
      exact ⟨_, LineEntry.entries_of_table _⟩
  | swap _ rest =>
      obtain ⟨first, second, sound⟩ :=
        And.imp_right List.forall_mem_cons.mp (List.forall_mem_cons.mp sound)
      exact List.forall_mem_cons.mpr ⟨second, List.forall_mem_cons.mpr ⟨first, sound⟩⟩
  | cons _ _ ih =>
      obtain ⟨first, sound⟩ := List.forall_mem_cons.mp sound
      exact List.forall_mem_cons.mpr ⟨first, ih sound⟩
  | trans _ _ front back => exact back (front sound)

theorem entries (rearranged : Rearranged subsections others) :
    (subsections.flatMap entries).Perm (others.flatMap entries) := by
  induction rearranged with
  | refl _ => exact .refl _
  | blocks kind body kind' body' reordered rest =>
      obtain ⟨_, _, parsed, parsed', perm⟩ := reordered.perm
      rw [List.flatMap_cons, List.flatMap_cons, entries_of_parse kind (body ▸ parsed),
        entries_of_parse kind' (body' ▸ parsed')]
      exact perm.append_right _
  | swap _ rest =>
      simp only [List.flatMap_cons, ← List.append_assoc]
      exact List.perm_append_comm.append_right _
  | cons subsection _ ih => exact ih.append_left _
  | trans _ _ front back => exact front.trans back

/-- Line tables do not take part in laying checksum tables over one another. -/
theorem tables (rearranged : Rearranged subsections others) (checksums : Checksums) :
    (others.map table).foldl Checksums.overlay checksums =
      (subsections.map table).foldl Checksums.overlay checksums := by
  induction rearranged generalizing checksums with
  | refl _ => rfl
  | blocks kind _ kind' _ _ rest =>
      rw [List.map_cons, List.map_cons, table_of_lines kind, table_of_lines kind']
  | swap lines rest =>
      simp only [List.map_cons, List.foldl_cons]
      obtain kind | kind := lines <;> simp only [table_of_lines kind, Checksums.overlay_nil]
  | cons subsection _ ih => exact ih _
  | trans _ _ front back => exact (back checksums).trans (front checksums)

theorem contribute (rearranged : Rearranged subsections others) (info : LineInfo) :
    (contribute subsections info).Reordered (contribute others info) :=
  ⟨rearranged.entries.append_left info.lines, rearranged.tables info.checksums⟩

end Rearranged

/-- A walk that is not stopped came to no malformed line table. -/
theorem isSound_of_add {rest : Bytes}
    (added : info.add (subsections.flatMap write ++ rest) = (later, none)) :
    ∀ subsection ∈ subsections, subsection.IsSound := by
  induction subsections generalizing info with
  | nil => exact List.forall_mem_nil _
  | cons subsection others ih =>
      rw [List.flatMap_cons, List.append_assoc, add_write] at added
      have sound : subsection.IsSound := by
        intro lines
        cases parsed : LineEntry.parse subsection.body with
        | ok entries => exact ⟨entries, rfl⟩
        | error cause =>
            rw [LineInfo.takeOver, lines, addSubsection_malformed parsed] at added
            cases added
      rw [LineInfo.takeOver, addSubsection_of_sound sound] at added
      exact List.forall_mem_cons.mpr ⟨sound, ih added⟩

end Subsection

/-- Line information that differs in the order of line tables, or of their blocks, up to a place
behind which it is the same. -/
def Rearranged (bytes others : Bytes) : Prop :=
  ∃ (first second : List Subsection) (rest : Bytes), Subsection.Rearranged first second ∧
    bytes = first.flatMap Subsection.write ++ rest ∧
    others = second.flatMap Subsection.write ++ rest

theorem add_of_rearranged {bytes others : Bytes} (rearranged : Rearranged bytes others)
    (added : info.add bytes = (later, none)) :
    ∃ later', info.add others = (later', none) ∧ later.Reordered later' := by
  obtain ⟨first, second, rest, rearranged, rfl, rfl⟩ := rearranged
  have sound := Subsection.isSound_of_add added
  rw [Subsection.takes_sound sound] at added
  obtain ⟨reordered, same⟩ := (rearranged.contribute info).add rest
  rw [added] at reordered same
  rw [Subsection.takes_sound (rearranged.isSound sound)]
  exact ⟨_, Prod.ext rfl same, reordered⟩

end LineInfo
end CodeView
end TestAtlas
