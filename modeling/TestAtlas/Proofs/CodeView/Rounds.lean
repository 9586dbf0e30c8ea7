import TestAtlas.Proofs.Bytes.Rounds
import TestAtlas.Proofs.CodeView.LinePlaces
import TestAtlas.Proofs.CodeView.ProcedurePlaces
import TestAtlas.Proofs.CodeView.Subsections

/-!
The rounds in which symbol streams, line information and line tables are read, with the
cursor as a place in all of the bytes. Each is what a step of the walk over the bytes
that are left is, and each has its smallest step.
-/

namespace TestAtlas
namespace CodeView

variable {cursor : Nat}

namespace Procedure

variable {data : Bytes} {symbolBytes : Nat}

/-- What is looked at in front of the records: that there is room for the number of the record
format, and that it is the right one. -/
def opening (data : Bytes) (symbolBytes : Nat) :
    Except (Except ReadError (List Procedure)) Unit :=
  if symbolBytes < 4 then .error (.ok [])
  else
    match (Reader.lone 4).run (data.take symbolBytes) with
    | .error cause => .error (.error cause)
    | .ok (format, _) => if format ≠ formatNumber then .error (.ok []) else .ok ()

/-- One record of a symbol stream. The next one is where its length says. -/
def round (data : Bytes) (symbolBytes : Nat) (found : List Procedure) (cursor : Nat) :
    Round (List Procedure) (Except ReadError (List Procedure)) :=
  if symbolBytes < cursor + 4 then .ended (.ok found.reverse)
  else
    match readHeader.run ((data.take symbolBytes).drop cursor) with
    | .error cause => .ended (.error cause)
    | .ok ((length, kind), body) =>
        if length < 2 then .ended (.ok found.reverse)
        else
          match read? kind body with
          | .error cause => .ended (.error cause)
          | .ok procedure? => .further (procedure?.toList ++ found) (cursor + (2 + length))

theorem of_round_further {found found' : List Procedure} {cursor' : Nat}
    (goes : round data symbolBytes found cursor = .further found' cursor') :
    cursor + 4 ≤ symbolBytes ∧ ∃ length procedure?, 2 ≤ length ∧
      found' = Option.toList procedure? ++ found ∧ cursor' = cursor + (2 + length) := by
  rw [round] at goes
  split at goes
  · cases goes
  rename_i room
  split at goes
  · cases goes
  split at goes
  · cases goes
  rename_i long
  split at goes
  · cases goes
  rename_i procedure? _
  cases goes
  exact ⟨Nat.le_of_not_lt room, _, procedure?, Nat.le_of_not_lt long, rfl, rfl⟩

theorem eq_of_round_ended {found items : List Procedure}
    (ends : round data symbolBytes found cursor = .ended (.ok items)) : items = found.reverse := by
  rw [round] at ends
  split at ends
  · cases ends
    rfl
  split at ends
  · cases ends
  split at ends
  · cases ends
    rfl
  split at ends <;> cases ends

theorem advances_round (data : Bytes) (symbolBytes : Nat) :
    Round.Advances (round data symbolBytes) 4 symbolBytes := by
  intro found cursor found' cursor' goes
  obtain ⟨room, length, -, long, -, rfl⟩ := of_round_further goes
  exact ⟨room, by omega⟩

theorem collects_round (data : Bytes) (symbolBytes : Nat) :
    Round.Collects (round data symbolBytes) where
  ended found cursor items ends := by
    rw [eq_of_round_ended ends, List.length_reverse]
  further found cursor found' cursor' goes := by
    obtain ⟨-, -, procedure?, -, rfl, -⟩ := of_round_further goes
    rw [List.length_append, Nat.add_comm]
    exact Nat.add_le_add_left Option.length_toList_le _

/-- A round is a step of the walk over the bytes that are left. -/
theorem computes_round (data : Bytes) (symbolBytes : Nat) :
    Round.Computes (round data symbolBytes) (fun _ => True) fun found cursor =>
      walk found (symbolBytes - cursor) ((data.take symbolBytes).drop cursor) where
  step found cursor _ := by
    by_cases room : symbolBytes < cursor + 4
    · rw [walk, dif_pos (by omega), round, if_pos room]
      rfl
    · rw [walk, dif_neg (by omega), round, if_neg room]
      cases readHeader.run ((data.take symbolBytes).drop cursor) with
      | error cause => rfl
      | ok result =>
          obtain ⟨⟨length, kind⟩, body⟩ := result
          simp only [bind, Except.bind]
          split
          · rfl
          · cases read? kind body with
            | error cause => rfl
            | ok procedure? => rw [List.drop_drop, Nat.sub_sub, Round.finish]
  keeps _ _ _ _ _ _ := trivial

theorem parse_eq (data : Bytes) (symbolBytes : Nat) :
    parse data symbolBytes = Round.through (opening data symbolBytes) fun _ =>
      walk [] (symbolBytes - 4) ((data.take symbolBytes).drop 4) := by
  rw [parse, opening]
  split
  · rfl
  · cases opened : (Reader.lone 4).run (data.take symbolBytes) with
    | error cause => rfl
    | ok result =>
        obtain ⟨format, records⟩ := result
        obtain ⟨-, rfl⟩ := Reader.of_run_number opened
        simp only [bind, Except.bind]
        split <;> rfl

theorem exists_linear_parse (data : Bytes) (symbolBytes : Nat) :
    ∃ places, Round.Linear (opening data symbolBytes) (fun _ => round data symbolBytes) [] 4 4
      symbolBytes places (parse data symbolBytes) := by
  rw [parse_eq]
  exact Round.exists_linear _ (fun _ => advances_round data symbolBytes) (Nat.succ_pos 3)
    (fun _ => computes_round data symbolBytes) trivial []

theorem eq_nil_of_opening {items : List Procedure}
    (ends : opening data symbolBytes = .error (.ok items)) : items = [] := by
  rw [opening] at ends
  split at ends
  · cases ends
    rfl
  split at ends
  · cases ends
  split at ends <;> cases ends
  rfl

theorem length_parse_le {procedures : List Procedure}
    (parsed : parse data symbolBytes = .ok procedures) : procedures.length ≤ symbolBytes / 4 := by
  obtain ⟨places, linear⟩ := exists_linear_parse data symbolBytes
  rw [parsed] at linear
  exact linear.length_le (fun _ => collects_round data symbolBytes) fun _ => eq_nil_of_opening

end Procedure

namespace LineInfo

variable {data : Bytes}

/-- One subsection. The next one is where its length says, rounded up to a multiple of four. -/
def round (data : Bytes) (info : LineInfo) (cursor : Nat) :
    Round LineInfo (LineInfo × Option ReadError) :=
  if data.length < cursor + headerSize then .ended (info, none)
  else
    let length := numberAt 4 data (cursor + 4)
    let start := cursor + headerSize
    match info.addSubsection (numberAt 4 data cursor) ((data.drop start).take length) with
    | .error cause => .ended (info, some cause)
    | .ok later => .further later (start + paddedSize length)

theorem advances_round (data : Bytes) : Round.Advances (round data) 8 data.length := by
  intro info cursor later cursor' goes
  rw [round] at goes
  split at goes
  · cases goes
  rename_i room
  dsimp only at goes
  split at goes
  · cases goes
  cases goes
  simp only [headerSize] at room ⊢
  omega

/-- Where there is room for what opens a subsection, this is read. -/
theorem add_of_room (info : LineInfo) {bytes : Bytes} (room : headerSize ≤ bytes.length) :
    info.add bytes =
      match info.addSubsection (numberAt 4 bytes 0)
        ((bytes.drop headerSize).take (numberAt 4 bytes 4)) with
      | .error cause => (info, some cause)
      | .ok later => later.add (bytes.drop (headerSize + paddedSize (numberAt 4 bytes 4))) := by
  rw [add]
  split
  · rename_i nothing
    have length := congrArg List.length nothing
    simp only [List.length_drop, List.length_nil, headerSize] at length room
    omega
  · rename_i byte rest here
    have behind : rest = bytes.drop headerSize := by
      have tail := congrArg List.tail here
      rw [List.tail_drop] at tail
      exact tail.symm
    rw [behind, ← List.drop_drop]
    rfl

theorem computes_round (data : Bytes) :
    Round.Computes (round data) (fun _ => True) fun info cursor => info.add (data.drop cursor) where
  step info cursor _ := by
    by_cases few : data.length < cursor + headerSize
    · rw [round, if_pos few, add_of_few]
      · rfl
      · rw [List.length_drop]
        simp only [headerSize] at few ⊢
        omega
    · have room : headerSize ≤ (data.drop cursor).length := by
        rw [List.length_drop]
        omega
      rw [round, if_neg few, add_of_room info room]
      simp only [numberAt, List.drop_drop, Nat.add_zero, Nat.add_assoc]
      split <;> rfl
  keeps _ _ _ _ _ _ := trivial

theorem exists_linear_add (info : LineInfo) (data : Bytes) :
    ∃ places, Round.Linear (.ok ()) (fun _ => round data) info 0 8 data.length places
      (info.add data) :=
  Round.exists_linear (.ok ()) (fun _ => advances_round data) (Nat.succ_pos 7)
    (fun _ => computes_round data) trivial info

end LineInfo

namespace LineEntry

variable {body : Bytes} {header : Header}

/-- What is read in front of the blocks. -/
def opening (body : Bytes) : Except (Except ReadError (List LineEntry)) Header :=
  match Header.read.run body with
  | .error cause => .error (.error cause)
  | .ok (header, _) => .ok header

/-- One block with its records. The next one is where its size says. -/
def round (body : Bytes) (header : Header) (found : List LineEntry) (cursor : Nat) :
    Round (List LineEntry) (Except ReadError (List LineEntry)) :=
  if body.length < cursor + Block.headerSize then .ended (.ok found.reverse)
  else
    match Block.read.run (body.drop cursor) with
    | .error cause => .ended (.error cause)
    | .ok (block, records) =>
        if block.size < Block.headerSize then .ended (.ok found.reverse)
        else
          match readMany header block.fileId block.lineCount found records with
          | .error cause => .ended (.error cause)
          | .ok more => .further more (cursor + block.size)

theorem advances_round (body : Bytes) (header : Header) :
    Round.Advances (round body header) 12 body.length := by
  intro found cursor found' cursor' goes
  rw [round] at goes
  split at goes
  · cases goes
  rename_i room
  split at goes
  · cases goes
  split at goes
  · cases goes
  rename_i long
  split at goes
  · cases goes
  cases goes
  simp only [Block.headerSize] at room long
  omega

theorem computes_round (body : Bytes) (header : Header) :
    Round.Computes (round body header) (fun _ => True) fun found cursor =>
      walk header found (body.drop cursor) where
  step found cursor _ := by
    by_cases few : body.length < cursor + Block.headerSize
    · rw [round, if_pos few, walk_of_few]
      · rfl
      · rw [List.length_drop]
        simp only [Block.headerSize] at few ⊢
        omega
    · have room : Block.headerSize ≤ (body.drop cursor).length := by
        rw [List.length_drop]
        omega
      rw [round, if_neg few, walk_of_room header found room]
      cases Block.read.run (body.drop cursor) with
      | error cause => rfl
      | ok result =>
          obtain ⟨block, records⟩ := result
          simp only [bind, Except.bind]
          split
          · rfl
          · cases readMany header block.fileId block.lineCount found records with
            | error cause => rfl
            | ok more => rw [List.drop_drop, Round.finish]
  keeps _ _ _ _ _ _ := trivial

theorem parse_eq (body : Bytes) :
    parse body = Round.through (opening body) fun header =>
      walk header [] (body.drop Header.size) := by
  rw [parse, opening]
  cases opened : Header.read.run body with
  | error cause => rfl
  | ok result =>
      obtain ⟨header, rest⟩ := result
      obtain ⟨-, rfl, -⟩ := spans_header _ _ _ opened
      rfl

theorem exists_linear_parse (body : Bytes) :
    ∃ places, Round.Linear (opening body) (round body) [] 12 12 body.length places
      (parse body) := by
  rw [parse_eq]
  exact Round.exists_linear _ (advances_round body) (Nat.succ_pos 11) (computes_round body)
    trivial []

end LineEntry

end CodeView
end TestAtlas
