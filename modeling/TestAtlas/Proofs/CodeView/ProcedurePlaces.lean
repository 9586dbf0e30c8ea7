import Mathlib.Data.List.Forall2
import TestAtlas.Proofs.Bytes.Stretch
import TestAtlas.CodeView.Procedure

/-!
Where the procedures of a symbol stream are read, against the lengths that its records
announce. The walk goes on as the lengths say, but the fixed part and the name are read
from whatever stands behind the kind of a record.
-/

namespace TestAtlas

open LittleEndian

namespace CodeView

namespace Procedure

variable {data bytes rest : Bytes} {declared symbolBytes start : Nat} {procedure : Procedure}
  {found procedures : List Procedure}

/-- A record in its symbol stream. -/
structure Placed where
  start : Nat
  length : Nat
  kind : Nat

/-- What opens a record that starts here. -/
def recordAt (data : Bytes) (start : Nat) : Placed where
  start
  length := numberAt 2 data start
  kind := numberAt 2 data (start + 2)

/-- The size of what stands in front of the name in the body of a procedure record. -/
def fixedSize : Nat := 35

namespace Placed

/-- What the record announces as its own. Its length does not count itself. -/
def extent (placed : Placed) : Stretch := ⟨placed.start, 2 + placed.length⟩

/-- The name that stands in the record, or else behind it. -/
def name (placed : Placed) (data : Bytes) : Bytes :=
  (data.drop (placed.start + 4 + fixedSize)).takeWhile (· != 0)

/-- Where the procedure of a record is read, up to the zero byte that ends the name. -/
def body (placed : Placed) (data : Bytes) : Stretch :=
  ⟨placed.start + 4, fixedSize + ((placed.name data).length + 1)⟩

end Placed

/-- The records that a walk comes to from a place on. -/
def recordsFrom (data : Bytes) (declared start : Nat) : List Placed :=
  if _room : start + 4 ≤ declared then
    if (recordAt data start).length < 2 then []
    else recordAt data start ::
      recordsFrom data declared (start + (2 + (recordAt data start).length))
  else []
termination_by declared - start

/-- The records of procedures in a symbol stream of which so many bytes are declared. -/
def records (data : Bytes) (declared : Nat) : List Placed :=
  if numberAt 4 data 0 = formatNumber then
    (recordsFrom data declared 4).filter fun placed => placed.kind ∈ kinds
  else []

/-- The fixed part and the whole name of every procedure lie in its own record. -/
def Confined (data : Bytes) (declared : Nat) : Prop :=
  ∀ placed ∈ records data declared, (placed.body data).Within placed.extent

/-- The fixed part of the body of a procedure record: length, offset and segment. -/
def readFixed : Reader (Nat × Nat × Nat) := do
  Reader.skip 12
  let length ← Reader.u32
  Reader.skip 12
  let offset ← Reader.u32
  let segment ← Reader.u16
  Reader.skip 1
  return (length, offset, segment)

theorem spans_fixed : Reader.Spans readFixed fixedSize :=
  .bind (.skip 12) fun _ => .bind (.field 4) fun _ => .bind (.skip 12) fun _ =>
    .bind (.field 4) fun _ => .bind (.field 2) fun _ => .bind (.skip 1) fun _ => .pure _

theorem read_eq : read = (do
    let (length, offset, segment) ← readFixed
    let name ← Reader.terminated
    return { name := Utf8.decode name, segment, offset, length }) := by
  simp only [read, readFixed, bind_assoc, pure_bind]

/-- How far a procedure is read is up to its name alone. -/
theorem readsAt_of_read {placed : Placed}
    (taken : read.run (data.drop (placed.start + 4)) = .ok (procedure, rest)) :
    read.ReadsAt procedure data (placed.body data) := by
  rw [read_eq] at taken ⊢
  obtain ⟨numbers, middle, fixed, taken⟩ := Reader.of_run_bind taken
  obtain ⟨room, rfl, reads⟩ := spans_fixed _ _ _ fixed
  obtain ⟨name, behind, terminated, taken⟩ := Reader.of_run_bind taken
  cases taken
  obtain ⟨same, ended, plain⟩ := Reader.of_run_terminated terminated
  -- The bytes behind the fixed part begin with the name, wherever the record ends.
  obtain rfl : name = placed.name data := by rw [same, List.drop_drop, Placed.name]
  have size : (placed.name data ++ [0]).length = (placed.name data).length + 1 :=
    List.length_append
  have whole : (placed.body data).of data =
      (data.drop (placed.start + 4)).take fixedSize ++ (placed.name data ++ [0]) := by
    change (data.drop (placed.start + 4)).take (fixedSize + _) = _
    rw [List.take_add, ended, List.take_left' size]
  refine ⟨?_, ?_⟩
  · have length := congrArg List.length ended
    rw [List.length_append, size] at length
    simp only [List.length_drop] at length room
    simp only [Stretch.stop, Placed.body]
    omega
  · rw [whole]
    exact reads.bind (.bind_pure (.terminated plain) rfl)

theorem of_run_header {length kind : Nat} {body : Bytes}
    (opened : readHeader.run (data.drop start) = .ok ((length, kind), body)) :
    length = (recordAt data start).length ∧ kind = (recordAt data start).kind ∧
      body = data.drop (start + 4) := by
  obtain ⟨first, middle, read, opened⟩ := Reader.of_run_bind opened
  obtain ⟨rfl, rfl⟩ := Reader.of_run_number read
  obtain ⟨second, middle, read, opened⟩ := Reader.of_run_bind opened
  obtain ⟨rfl, rfl⟩ := Reader.of_run_number read
  cases opened
  simp only [recordAt, numberAt, List.drop_drop, and_self]

theorem of_read? {placed : Placed} {procedure? : Option Procedure}
    (read : read? placed.kind (data.drop (placed.start + 4)) = .ok procedure?) :
    List.Forall₂ (fun placed procedure => Procedure.read.ReadsAt procedure data (placed.body data))
      ([placed].filter fun placed => placed.kind ∈ kinds) procedure?.toList := by
  rw [read?] at read
  split at read
  · rename_i known
    cases taken : Procedure.read.run (data.drop (placed.start + 4)) with
    | error cause =>
        rw [taken] at read
        cases read
    | ok result =>
        rw [taken] at read
        cases read
        rw [List.filter_singleton, decide_eq_true known]
        exact .cons (readsAt_of_read taken) .nil
  · rename_i unknown
    cases read
    rw [List.filter_singleton, decide_eq_false unknown]
    exact .nil

theorem of_walk_of_room (room : start + 4 ≤ declared)
    (read : walk found (declared - start) (data.drop start) = .ok procedures) :
    if (recordAt data start).length < 2 then procedures = found.reverse
    else ∃ procedure?, read? (recordAt data start).kind (data.drop (start + 4)) = .ok procedure? ∧
      walk (procedure?.toList ++ found) (declared - (start + (2 + (recordAt data start).length)))
        (data.drop (start + (2 + (recordAt data start).length))) = .ok procedures := by
  rw [walk, dif_neg (by omega)] at read
  cases opened : readHeader.run (data.drop start) with
  | error cause =>
      rw [opened] at read
      cases read
  | ok result =>
      obtain ⟨length, kind, rest⟩ := of_run_header opened
      simp only [opened, length, kind, rest, bind, Except.bind, List.drop_drop, Nat.sub_sub]
        at read
      split at read
      · rename_i short
        cases read
        rw [if_pos short]
      · rename_i long
        rw [if_neg long]
        split at read
        · cases read
        · rename_i procedure? taken
          exact ⟨procedure?, taken, read⟩

/-- A walk that gives procedures has read one for each procedure record that it came to. -/
theorem of_walk (read : walk found (declared - start) (data.drop start) = .ok procedures) :
    ∃ new, procedures = found.reverse ++ new ∧
      List.Forall₂ (fun placed procedure =>
        Procedure.read.ReadsAt procedure data (placed.body data))
        ((recordsFrom data declared start).filter fun placed => placed.kind ∈ kinds) new := by
  fun_induction recordsFrom data declared start generalizing found with
  | case1 start room short =>
      have stopped := of_walk_of_room room read
      rw [if_pos short] at stopped
      exact ⟨[], stopped.trans (List.append_nil _).symm, .nil⟩
  | case2 start room long ih =>
      have opened := of_walk_of_room room read
      rw [if_neg long] at opened
      obtain ⟨procedure?, taken, read⟩ := opened
      obtain ⟨behind, rfl, others⟩ := ih read
      refine ⟨procedure?.toList ++ behind, ?_, ?_⟩
      · rw [List.reverse_append, List.append_assoc]
        cases procedure? <;> rfl
      · rw [← List.singleton_append, List.filter_append]
        exact List.rel_append (of_read? taken) others
  | case3 start room =>
      rw [walk, dif_pos (by omega)] at read
      cases read
      exact ⟨[], (List.append_nil _).symm, .nil⟩

/-- The procedures of a symbol stream, with the records that they are read from. -/
theorem of_parse (parsed : parse data symbolBytes = .ok procedures) :
    List.Forall₂ (fun placed procedure =>
      Procedure.read.ReadsAt procedure (data.take symbolBytes)
        (placed.body (data.take symbolBytes)))
      (records (data.take symbolBytes) symbolBytes) procedures := by
  rw [parse] at parsed
  split at parsed
  · rename_i short
    cases parsed
    have nothing : recordsFrom (data.take symbolBytes) symbolBytes 4 = [] := by
      rw [recordsFrom, dif_neg (by omega)]
    rw [records, nothing, List.filter_nil, ite_self]
    exact .nil
  · cases opened : (Reader.lone 4).run (data.take symbolBytes) with
    | error cause =>
        rw [opened] at parsed
        cases parsed
    | ok result =>
        obtain ⟨format, rest⟩ := Reader.of_run_number opened
        simp only [opened, format, rest, bind, Except.bind] at parsed
        rw [records, numberAt, List.drop_zero]
        split at parsed
        · rename_i unknown
          cases parsed
          rw [if_neg unknown]
          exact .nil
        · rename_i known
          rw [if_pos (Decidable.not_not.mp known)]
          obtain ⟨new, rfl, reads⟩ := of_walk parsed
          exact reads

theorem le_of_mem_recordsFrom {placed : Placed} (member : placed ∈ recordsFrom data declared start) :
    start ≤ placed.start := by
  fun_induction recordsFrom data declared start with
  | case1 start room short => cases member
  | case2 start room long ih =>
      rcases List.mem_cons.mp member with rfl | member
      · exact Nat.le_refl _
      · exact Nat.le_trans (Nat.le_add_right ..) (ih member)
  | case3 start room => cases member

theorem pairwise_recordsFrom (data : Bytes) (declared start : Nat) :
    (recordsFrom data declared start).Pairwise fun first second =>
      first.extent.Before second.extent := by
  fun_induction recordsFrom data declared start with
  | case1 start room short => exact .nil
  | case2 start room long ih =>
      exact .cons (fun placed member => le_of_mem_recordsFrom member) ih
  | case3 start room => exact .nil

theorem pairwise_records (data : Bytes) (declared : Nat) :
    (records data declared).Pairwise fun first second => first.extent.Before second.extent := by
  rw [records]
  split
  · exact (pairwise_recordsFrom data declared 4).filter _
  · exact .nil

/-- Procedures are confined exactly where the length of every record has room for the fixed part
and the name. -/
theorem confined_iff (data : Bytes) (declared : Nat) :
    Confined data declared ↔ ∀ placed ∈ records data declared,
      2 + (fixedSize + ((placed.name data).length + 1)) ≤ placed.length := by
  refine forall₂_congr fun placed member => ?_
  simp only [Stretch.Within, Stretch.stop, Placed.body, Placed.extent]
  omega

theorem pairwise_of_confined (confined : Confined data declared) :
    (records data declared).Pairwise fun first second =>
      (first.body data).Before (second.body data) :=
  (pairwise_records data declared).imp_of_mem fun left right apart =>
    apart.of_within (confined _ left) (confined _ right)

end Procedure

end CodeView
end TestAtlas
