import TestAtlas.Pe.Imports
import TestAtlas.Proofs.Bytes.Reading

/-!
The walk along the import table, one descriptor after the other, up to its end or
to the first failure. Every descriptor takes room in the file, so there is an end.
-/

namespace TestAtlas
namespace Pe
namespace Image

variable {image : Image} {file : Array UInt8} {position : Nat}

/-- How a walk along the import table goes: the names on the way, and the failure that ends it, if
any. -/
inductive Walk (image : Image) :
    (position : Nat) → (names : List String) → (failure? : Option Error) → Prop
  | unread {position : Nat} {e : Error} (read : readDescriptor image.file position = .error e) :
      Walk image position [] (some e)
  | last {position : Nat} (read : readDescriptor image.file position = .ok 0) :
      Walk image position [] none
  | unnamed {position address : Nat} {e : Error}
      (read : readDescriptor image.file position = .ok address) (named : address ≠ 0)
      (spelled : image.textAt address = .error e) : Walk image position [] (some e)
  | entry {position address : Nat} {text : String} {names : List String} {failure? : Option Error}
      (read : readDescriptor image.file position = .ok address) (named : address ≠ 0)
      (spelled : image.textAt address = .ok text)
      (rest : Walk image (position + descriptorSize) names failure?) :
      Walk image position (text :: names) failure?

/-- What a walk gives: all names, or none if it failed. -/
def walked (names : List String) : Option Error → Except Error (List String)
  | none => .ok names
  | some e => .error e

/-- The walk comes to an end, as every descriptor on the way takes room in the file. -/
theorem exists_walk (image : Image) (position : Nat) :
    ∃ names failure?, Walk image position names failure? := by
  fun_induction walkImports image [] position with
  | case1 found position e read => exact ⟨[], some e, .unread read⟩
  | case2 found position read => exact ⟨[], none, .last read⟩
  | case3 found position address read named e spelled =>
      exact ⟨[], some e, .unnamed read named spelled⟩
  | case4 found position address read named text spelled ih =>
      obtain ⟨names, failure?, walk⟩ := ih
      exact ⟨text :: names, failure?, .entry read named spelled walk⟩

theorem walkImports_of_error {e : Error} (read : readDescriptor image.file position = .error e)
    (found : List String) : walkImports image found position = .error e := by
  rw [walkImports.eq_def]
  split
  · rename_i same
    cases read.symm.trans same
    rfl
  · rename_i same
    cases read.symm.trans same

theorem walkImports_of_ok {address : Nat}
    (read : readDescriptor image.file position = .ok address) (found : List String) :
    walkImports image found position =
      if address = 0 then .ok found.reverse
      else image.textAt address >>= fun text =>
        walkImports image (text :: found) (position + descriptorSize) := by
  rw [walkImports.eq_def]
  split
  · rename_i same
    cases read.symm.trans same
  · rename_i same
    cases read.symm.trans same
    split
    · rfl
    · cases image.textAt address <;> rfl

theorem Walk.walkImports_eq {names : List String} {failure? : Option Error}
    (walk : Walk image position names failure?) (found : List String) :
    walkImports image found position = walked (found.reverse ++ names) failure? := by
  induction walk generalizing found with
  | unread read => exact walkImports_of_error read found
  | last read => rw [walkImports_of_ok read, if_pos rfl, List.append_nil, walked]
  | unnamed read named spelled =>
      rw [walkImports_of_ok read, if_neg named, spelled]
      rfl
  | entry read named spelled rest ih =>
      rw [walkImports_of_ok read, if_neg named, spelled]
      change walkImports image (_ :: found) _ = _
      rw [ih, List.reverse_cons, List.append_assoc]
      rfl

/-- A descriptor that is read lies in the file as a whole. -/
theorem le_of_readDescriptor {address : Nat}
    (read : readDescriptor file position = .ok address) :
    position + descriptorSize ≤ file.size := by
  rw [readDescriptor, readRecord] at read
  split at read
  · rename_i value rest taken
    have takes : Reader.Takes (do
        Reader.skip 12
        let name ← Reader.u32
        Reader.skip 4
        return name) descriptorSize :=
      .bind (.skip 12) fun _ => .bind (.field 4) fun _ => .bind (.skip 4) fun _ => .pure _
    have length := takes _ _ _ taken
    rw [slice_eq_take_drop, List.length_take, List.length_drop, Array.length_toList] at length
    simp only [descriptorSize] at length ⊢
    omega
  · cases read

/-- The names of a walk have their descriptors side by side in the file. -/
theorem Walk.length_le {names : List String} {failure? : Option Error}
    (walk : Walk image position names failure?) :
    names.length * descriptorSize ≤ image.file.size - position := by
  induction walk with
  | unread _ | last _ | unnamed _ _ _ => exact Nat.zero_le _
  | entry read _ _ _ ih =>
      have inside := le_of_readDescriptor read
      rw [List.length_cons, Nat.succ_mul]
      omega

theorem Walk.length_le_div {names : List String} {failure? : Option Error}
    (walk : Walk image position names failure?) :
    names.length ≤ image.file.size / descriptorSize := by
  rw [Nat.le_div_iff_mul_le (by decide)]
  exact Nat.le_trans walk.length_le (Nat.sub_le ..)

end Image
end Pe
end TestAtlas
