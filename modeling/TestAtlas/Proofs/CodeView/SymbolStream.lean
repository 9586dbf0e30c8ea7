import Mathlib.Data.List.Basic
import TestAtlas.Proofs.CodeView.Procedures

/-!
Symbol streams that are written as records of any kinds. A stream is read as the
procedures of its procedure records, in their order; what the other records hold
and what stands behind the declared bytes does not matter.
-/

namespace TestAtlas
namespace CodeView

open LittleEndian

/-- The record of a procedure as it is written. The parts that are not decoded are links to other
records and places in the code. -/
structure ProcedureRecord where
  kind : Nat
  links : Bytes
  length : Nat
  places : Bytes
  offset : Nat
  segment : Nat
  flags : UInt8
  name : Bytes
  padding : Bytes
  known : kind ∈ Procedure.kinds
  length_links : links.length = 12
  length_lt : length < limit 4
  length_places : places.length = 12
  offset_lt : offset < limit 4
  segment_lt : segment < limit 2
  plain : 0 ∉ name
  short : 35 + (name.length + 1) + padding.length ≤ 65533

namespace ProcedureRecord

/-- Thirty-five fixed bytes and the terminated name. -/
def body (record : ProcedureRecord) : Bytes :=
  record.links ++ (encode 4 record.length ++ (record.places ++ (encode 4 record.offset ++
    (encode 2 record.segment ++ ([record.flags] ++ (record.name ++ [0]))))))

def procedure (record : ProcedureRecord) : Procedure where
  name := Utf8.decode record.name
  segment := record.segment
  offset := record.offset
  length := record.length

def write (record : ProcedureRecord) : Bytes :=
  Procedure.writeRecord record.kind (record.body ++ record.padding)

theorem length_body (record : ProcedureRecord) :
    record.body.length = 35 + (record.name.length + 1) := by
  simp only [body, List.length_append, length_encode, record.length_links, record.length_places,
    List.length_singleton]
  omega

theorem spells_write (record : ProcedureRecord) :
    Procedure.Spells record.write [record.procedure] := by
  have reads : Reader.Reads Procedure.read record.procedure record.body :=
    Procedure.reads_body record.plain record.length_lt record.offset_lt record.segment_lt
      record.length_links record.length_places rfl
  -- The written length counts the two bytes of the kind as well.
  have short : (record.body ++ record.padding).length + 2 < limit 2 := by
    have bound := record.short
    rw [List.length_append, length_body]
    change _ < 65536
    omega
  exact .procedure reads short record.known

end ProcedureRecord

/-- A record of any other kind, with any payload. -/
structure OtherRecord where
  kind : Nat
  payload : Bytes
  kind_lt : kind < limit 2
  other : kind ∉ Procedure.kinds
  short : payload.length ≤ 65533

def OtherRecord.write (record : OtherRecord) : Bytes :=
  Procedure.writeRecord record.kind record.payload

theorem OtherRecord.spells_write (record : OtherRecord) : Procedure.Spells record.write [] := by
  have short : record.payload.length + 2 < limit 2 := by
    have bound := record.short
    change _ < 65536
    omega
  exact .other short record.kind_lt record.other

inductive SymbolRecord where
  | procedure (record : ProcedureRecord)
  | other (record : OtherRecord)

namespace SymbolRecord

def write : SymbolRecord → Bytes
  | procedure record => record.write
  | other record => record.write

/-- The procedure that the record describes. -/
def procedure? : SymbolRecord → Option Procedure
  | procedure record => some record.procedure
  | other _ => none

theorem spells_write (record : SymbolRecord) :
    Procedure.Spells record.write record.procedure?.toList := by
  cases record with
  | procedure record => exact record.spells_write
  | other record => exact record.spells_write

theorem spells_records (records : List SymbolRecord) :
    Procedure.Spells (records.flatMap write) (records.filterMap procedure?) := by
  rw [List.filterMap_eq_flatMap_toList]
  exact .flatMap fun record _ => record.spells_write

end SymbolRecord

namespace Procedure

/-- The number that opens a stream of the known format. -/
def signature : Bytes := [4, 0, 0, 0]

theorem encode_formatNumber : encode 4 formatNumber = signature := by decide

theorem reads_number {data : Bytes} (room : 4 ≤ data.length) :
    (Reader.lone 4).run data = .ok (decode (data.take 4), data.drop 4) := by
  have length : (data.take 4).length = 4 := List.length_take_of_le room
  have read := Reader.Reads.lone (decode_lt length) (data.drop 4)
  rwa [encode_decode length, List.take_append_drop] at read

theorem parse_of_other_signature {data : Bytes} (room : 4 ≤ data.length)
    (other : data.take 4 ≠ signature) (symbolBytes : Nat) :
    parse data symbolBytes = .ok [] := by
  rw [parse]
  split
  · rfl
  · rename_i declared
    have start : (data.take symbolBytes).take 4 = data.take 4 := by
      rw [List.take_take, Nat.min_eq_left (Nat.le_of_not_lt declared)]
    have unknown : decode (data.take 4) ≠ formatNumber := by
      intro same
      have spelled := encode_decode (List.length_take_of_le room)
      rw [same, encode_formatNumber] at spelled
      exact other spelled.symm
    have enough : 4 ≤ (data.take symbolBytes).length := by
      rw [List.length_take]
      omega
    rw [reads_number enough, start]
    simp only [bind, Except.bind, if_pos unknown]
    rfl

theorem parse_records (records : List SymbolRecord) {leftover : Bytes}
    (few : leftover.length ≤ 3) (rest : Bytes) :
    parse (signature ++ records.flatMap SymbolRecord.write ++ leftover ++ rest)
        (signature ++ records.flatMap SymbolRecord.write ++ leftover).length =
      .ok (records.filterMap SymbolRecord.procedure?) := by
  have parsed := (SymbolRecord.spells_records records).parse (Nat.lt_succ_of_le few) rest
  rw [encode_formatNumber] at parsed
  simp only [List.length_append]
  exact parsed

/-- A stream of any records is read as the procedures of its procedure records, whatever the other
records hold, with up to three bytes left behind them and any bytes behind what is declared. A
stream of another format holds no procedures, nor does one that is too short for its number. -/
theorem procedures_of_records :
    (∀ (records : List SymbolRecord) (leftover rest : Bytes), leftover.length ≤ 3 →
      let stream := signature ++ records.flatMap SymbolRecord.write ++ leftover
      parse (stream ++ rest) stream.length = .ok (records.filterMap SymbolRecord.procedure?)) ∧
    (∀ (data : Bytes) (symbolBytes : Nat), 4 ≤ data.length → data.take 4 ≠ signature →
      parse data symbolBytes = .ok []) ∧
    ∀ (data : Bytes) (symbolBytes : Nat), symbolBytes < 4 → parse data symbolBytes = .ok [] :=
  ⟨fun records _ rest few => parse_records records few rest,
    fun _ symbolBytes room other => parse_of_other_signature room other symbolBytes,
    fun _ _ short => if_pos short⟩

/-- A record of another kind may hold the bytes of a procedure record, a name may be malformed and
be followed by padding. -/
theorem procedures_of_records_nested :
    let links : Bytes := List.replicate 12 7
    let procedure : ProcedureRecord := {
      kind := 0x1110, links, length := 16, places := links, offset := 32, segment := 1, flags := 0
      name := [0x66, 0xFF], padding := [0, 1, 2]
      known := by decide, length_links := rfl, length_lt := by decide, length_places := rfl
      offset_lt := by decide, segment_lt := by decide, plain := by decide, short := by decide }
    let wrapper : OtherRecord := {
      kind := 0x1101, payload := procedure.write
      kind_lt := by decide, other := by decide, short := by decide }
    let records : List SymbolRecord := [.other wrapper, .procedure procedure]
    let stream := signature ++ records.flatMap SymbolRecord.write ++ [1, 2, 3]
    parse (stream ++ procedure.write) stream.length =
        .ok [{ name := "f\uFFFD", segment := 1, offset := 32, length := 16 }] ∧
      parse [5, 0, 0, 0] 4 = .ok [] ∧ parse procedure.write 3 = .ok [] := by
  intro links procedure wrapper records stream
  have malformed : Utf8.decode [0x66, 0xFF] = "f\uFFFD" := by
    simp [Utf8.decode, Utf8.chars, Utf8.Lead.ofByte?, Utf8.continuation, Utf8.replacement]
  refine ⟨?_, procedures_of_records.2.1 _ 4 (by decide) (by decide),
    procedures_of_records.2.2 procedure.write 3 (by decide)⟩
  rw [← malformed]
  exact procedures_of_records.1 records [1, 2, 3] procedure.write (by decide)

end Procedure
end CodeView
end TestAtlas
