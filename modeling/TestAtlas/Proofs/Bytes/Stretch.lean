import TestAtlas.Proofs.Bytes.Reading

/-!
Stretches of a byte string, given by where they start and how long they are, and
what is read from them. Stretches that lie side by side find only so much room.
-/

namespace TestAtlas

structure Stretch where
  start : Nat
  length : Nat
  deriving DecidableEq, Repr

namespace Stretch

variable {inner outer other first second whole : Stretch} {stretches : List Stretch}
  {start width count : Nat}

/-- The first place behind a stretch. -/
def stop (stretch : Stretch) : Nat := stretch.start + stretch.length

/-- The bytes of a stretch, as far as they are there. -/
def of (stretch : Stretch) (bytes : Bytes) : Bytes :=
  (bytes.drop stretch.start).take stretch.length

def Within (inner outer : Stretch) : Prop :=
  outer.start ≤ inner.start ∧ inner.stop ≤ outer.stop

/-- The first of two stretches ends where the second one starts, or earlier. -/
def Before (first second : Stretch) : Prop := first.stop ≤ second.start

instance : DecidableRel Within := fun _ _ => inferInstanceAs (Decidable (_ ∧ _))

instance : DecidableRel Before := fun _ _ => inferInstanceAs (Decidable (_ ≤ _))

/-- Whether a place is in a stretch. -/
def Contains (stretch : Stretch) (place : Int) : Prop :=
  (stretch.start : Int) ≤ place ∧ place < stretch.stop

/-- No place is in both stretches. -/
def Apart (first second : Stretch) : Prop :=
  ∀ place, first.Contains place → ¬ second.Contains place

instance (stretch : Stretch) (place : Int) : Decidable (stretch.Contains place) :=
  inferInstanceAs (Decidable (_ ∧ _))

/-- Stretches that are not empty are apart if one of them ends before the other. -/
theorem apart_iff : first.Apart second ↔
    first.length = 0 ∨ second.length = 0 ∨ first.Before second ∨ second.Before first := by
  simp only [Apart, Contains, Before, stop]
  constructor
  · intro apart
    -- The one that starts later has its first place in the other, unless that has ended.
    have behind := apart (max first.start second.start)
    omega
  · intro cases place left right
    omega

instance : DecidableRel Apart := fun _ _ => decidable_of_iff _ apart_iff.symm

theorem Apart.symm (apart : first.Apart second) : second.Apart first :=
  fun place left right => apart place right left

/-- What lies in two stretches is apart as they are. -/
theorem Before.of_within (apart : first.Before second) (left : inner.Within first)
    (right : other.Within second) : inner.Before other :=
  Nat.le_trans left.2 (Nat.le_trans apart right.1)

/-- Stretches of one width that lie side by side have room in what they lie in. -/
theorem length_mul_le (apart : stretches.Pairwise Before)
    (wide : ∀ stretch ∈ stretches, width ≤ stretch.length)
    (inside : ∀ stretch ∈ stretches, stretch.Within whole) :
    stretches.length * width ≤ whole.length := by
  induction stretches generalizing whole with
  | nil => exact Nat.le_trans (Nat.le_of_eq (Nat.zero_mul _)) (Nat.zero_le _)
  | cons first rest ih =>
      obtain ⟨front, apart⟩ := List.pairwise_cons.mp apart
      obtain ⟨enough, wide⟩ := List.forall_mem_cons.mp wide
      obtain ⟨⟨from_start, to_stop⟩, inside⟩ := List.forall_mem_cons.mp inside
      -- The others lie in what is left behind the first one.
      have left : ∀ other ∈ rest, other.Within ⟨first.stop, whole.stop - first.stop⟩ := by
        refine fun other member => ⟨front other member, ?_⟩
        have ends := (inside other member).2
        simp only [stop] at ends to_stop ⊢
        omega
      have behind := ih apart wide left
      rw [List.length_cons, Nat.succ_mul]
      simp only [stop] at behind from_start to_stop
      omega

/-- `count` stretches of one width side by side. -/
def row (start width : Nat) : (count : Nat) → List Stretch
  | 0 => []
  | count + 1 => ⟨start, width⟩ :: row (start + width) width count

theorem within_row {stretch : Stretch} (member : stretch ∈ row start width count) :
    stretch.length = width ∧ stretch.Within ⟨start, count * width⟩ := by
  induction count generalizing start with
  | zero => cases member
  | succ count ih =>
      rcases List.mem_cons.mp member with rfl | member
      · refine ⟨rfl, Nat.le_refl _, ?_⟩
        simp only [stop, Nat.succ_mul]
        omega
      · obtain ⟨wide, from_start, to_stop⟩ := ih member
        refine ⟨wide, ?_⟩
        simp only [Within, stop, Nat.succ_mul] at from_start to_stop ⊢
        omega

theorem pairwise_row (start width count : Nat) : (row start width count).Pairwise Before := by
  induction count generalizing start with
  | zero => exact List.Pairwise.nil
  | succ count ih =>
      exact List.pairwise_cons.mpr ⟨fun _ member => (within_row member).2.1, ih _⟩

/-- A row lies in a stretch that starts no later exactly if its end does, unless it is empty. -/
theorem row_within_iff (early : outer.start ≤ start) :
    (∀ stretch ∈ row start width count, stretch.Within outer) ↔
      count = 0 ∨ start + count * width ≤ outer.stop := by
  induction count generalizing start with
  | zero => exact ⟨fun _ => .inl rfl, fun _ => List.forall_mem_nil _⟩
  | succ count ih =>
      rw [row, List.forall_mem_cons, ih (Nat.le_trans early (Nat.le_add_right ..))]
      simp only [Within, stop, Nat.succ_mul]
      constructor
      · rintro ⟨⟨-, fits⟩, rfl | behind⟩ <;> omega
      · omega

end Stretch

/-- The number that `width` bytes at a place spell. -/
def numberAt (width : Nat) (bytes : Bytes) (place : Nat) : Nat :=
  LittleEndian.decode ((bytes.drop place).take width)

namespace Reader

variable {α : Type} {reader : Reader α} {value : α} {bytes rest : Bytes}

/-- The reader takes the bytes of a stretch, all of which are there, and gives the value whatever
stands behind them. -/
structure ReadsAt (reader : Reader α) (value : α) (bytes : Bytes) (stretch : Stretch) : Prop where
  inside : stretch.stop ≤ bytes.length
  reads : Reads reader value (stretch.of bytes)

/-- A reader of a fixed number of bytes reads those. -/
theorem Spans.readsAt {start count : Nat} (spans : Spans reader count)
    (inside : start ≤ bytes.length)
    (read : reader.run (bytes.drop start) = .ok (value, rest)) :
    ReadsAt reader value bytes ⟨start, count⟩ ∧ rest = bytes.drop (start + count) := by
  obtain ⟨room, behind, reads⟩ := spans _ _ _ read
  rw [List.length_drop] at room
  rw [List.drop_drop] at behind
  refine ⟨⟨?_, reads⟩, behind⟩
  simp only [Stretch.stop]
  omega

end Reader
end TestAtlas
