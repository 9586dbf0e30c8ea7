import TestAtlas.CodeView.Procedure
import TestAtlas.Proofs.Bytes.Reading

/-!
Symbol records that are written one after the other. Whatever follows, a walk
takes from each of them the procedure that it describes, if any.
-/

namespace TestAtlas
namespace CodeView
namespace Procedure

open LittleEndian

variable {a b body : Bytes} {kind : Nat} {ps qs : List Procedure}

/-- A record as it is written; its length counts the kind but not itself. -/
def writeRecord (kind : Nat) (body : Bytes) : Bytes :=
  encode 2 (body.length + 2) ++ encode 2 kind ++ body

@[simp] theorem length_writeRecord (kind : Nat) (body : Bytes) :
    (writeRecord kind body).length = 2 + (body.length + 2) := by
  simp only [writeRecord, List.length_append, length_encode]
  omega

theorem reads_header {length kind : Nat} (hl : length < limit 2) (hk : kind < limit 2) :
    Reader.Reads readHeader (length, kind) (encode 2 length ++ encode 2 kind) :=
  .bind (.field hl) (.bind_pure (.field hk) rfl)

/-- The body of a procedure record: what lies between its numbers does not matter. -/
theorem reads_body {name : Bytes} {length offset segment : Nat} {first second third : Bytes}
    (plain : 0 ∉ name) (hl : length < limit 4) (ho : offset < limit 4)
    (hs : segment < limit 2) (h₁ : first.length = 12) (h₂ : second.length = 12)
    (h₃ : third.length = 1) :
    Reader.Reads read { name := Utf8.decode name, segment, offset, length }
      (first ++ (encode 4 length ++ (second ++ (encode 4 offset ++ (encode 2 segment ++
        (third ++ (name ++ [0]))))))) :=
  .bind (.skip h₁) <| .bind (.field hl) <| .bind (.skip h₂) <| .bind (.field ho) <|
    .bind (.field hs) <| .bind (.skip h₃) <| .bind_pure (.terminated plain) rfl

/-- A walk takes these procedures from the bytes and goes on behind them. -/
def Spells (bytes : Bytes) (ps : List Procedure) : Prop :=
  ∀ found more rest,
    walk found (bytes.length + more) (bytes ++ rest) = walk (ps.reverse ++ found) more rest

namespace Spells

theorem nil : Spells [] [] := by
  intro found more rest
  rw [List.length_nil, Nat.zero_add]
  rfl

theorem append (ha : Spells a ps) (hb : Spells b qs) : Spells (a ++ b) (ps ++ qs) := by
  intro found more rest
  rw [List.length_append, Nat.add_assoc, List.append_assoc, ha, hb, List.reverse_append,
    List.append_assoc]

theorem flatMap {γ : Type} {items : List γ} {write : γ → Bytes} {found : γ → List Procedure}
    (h : ∀ item ∈ items, Spells (write item) (found item)) :
    Spells (items.flatMap write) (items.flatMap found) := by
  induction items with
  | nil => exact nil
  | cons item rest ih =>
      exact (h item List.mem_cons_self).append
        (ih fun other hm => h other (List.mem_cons_of_mem _ hm))

theorem record (procedure? : Option Procedure) (short : body.length + 2 < limit 2)
    (known : kind < limit 2) (decoded : ∀ rest, read? kind (body ++ rest) = .ok procedure?) :
    Spells (writeRecord kind body) procedure?.toList := by
  intro found more rest
  have room : ¬ (writeRecord kind body).length + more < 4 := by
    rw [length_writeRecord]
    omega
  have opened : readHeader.run (writeRecord kind body ++ rest) =
      .ok ((body.length + 2, kind), body ++ rest) := by
    rw [writeRecord, List.append_assoc]
    exact reads_header short known (body ++ rest)
  -- The declared bytes shrink by as much as the walk moves on.
  have behind : (writeRecord kind body ++ rest).drop (2 + (body.length + 2)) = rest := by
    rw [← length_writeRecord kind body, List.drop_left]
  have left : (writeRecord kind body).length + more - (2 + (body.length + 2)) = more := by
    rw [length_writeRecord, Nat.add_sub_cancel_left]
  rw [walk, dif_neg room, opened]
  simp only [bind, Except.bind, decoded, behind, left, Nat.not_lt.mpr (Nat.le_add_left 2 _),
    ↓reduceIte]
  cases procedure? <;> rfl

/-- A record of any other kind is stepped over. -/
theorem other (short : body.length + 2 < limit 2) (known : kind < limit 2) (h : kind ∉ kinds) :
    Spells (writeRecord kind body) [] := by
  refine record none short known fun rest => ?_
  rw [read?, if_neg h]
  rfl

/-- The padding behind the name of a procedure is not looked at. -/
theorem procedure {padding : Bytes} {p : Procedure} (reads : Reader.Reads read p body)
    (short : (body ++ padding).length + 2 < limit 2) (h : kind ∈ kinds) :
    Spells (writeRecord kind (body ++ padding)) [p] := by
  have known : kind < limit 2 := by
    simp only [kinds, List.mem_cons, List.not_mem_nil, or_false] at h
    change kind < 0x10000
    omega
  refine record (some p) short known fun rest => ?_
  rw [read?, if_pos h, List.append_assoc, reads (padding ++ rest)]
  rfl

/-- Behind the records there may be up to three bytes in which no header fits. -/
theorem parse {bytes leftover : Bytes} (h : Spells bytes ps) (few : leftover.length < 4)
    (rest : Bytes) :
    parse (encode 4 formatNumber ++ bytes ++ leftover ++ rest)
      (4 + bytes.length + leftover.length) = .ok ps := by
  have start : (encode 4 formatNumber ++ bytes ++ leftover ++ rest).take
      (4 + bytes.length + leftover.length) = encode 4 formatNumber ++ (bytes ++ leftover) := by
    rw [← List.append_assoc, List.take_left' (by simp only [List.length_append, length_encode])]
  have format : (Reader.lone 4).run (encode 4 formatNumber ++ (bytes ++ leftover)) =
      .ok (formatNumber, bytes ++ leftover) := Reader.Reads.lone (by decide) _
  have left : 4 + bytes.length + leftover.length - 4 = bytes.length + leftover.length := by omega
  rw [Procedure.parse, if_neg (by omega), start, format, left]
  simp only [bind, Except.bind, ne_eq, not_true_eq_false, ↓reduceIte]
  rw [h [], walk, dif_pos few, List.append_nil, List.reverse_reverse]

end Spells
end Procedure
end CodeView
end TestAtlas
