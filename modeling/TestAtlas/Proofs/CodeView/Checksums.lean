import TestAtlas.CodeView.Checksum

/-!
Checksum tables that are written, and tables as maps. The keys of a table ascend,
and in several maps laid over one another the newest that has a key decides.
-/

namespace TestAtlas
namespace CodeView
namespace Checksums

open LittleEndian

variable {map older newer : Checksums}

/-- A walk reads what opens an entry and goes on behind the padding of the checksum, as far as that
is there. -/
theorem walk_header {name : Nat} (found : Checksums) (offset : Nat) (size kind : UInt8)
    (hn : name < limit 4) (rest : Bytes) :
    let step := paddedSize (headerSize + size.toNat)
    walk found offset (encode 4 name ++ (size :: kind :: rest)) =
      walk ((offset, name) :: found) (offset + step) (rest.drop (step - headerSize)) := by
  intro step
  have spelled : encode 4 name = [UInt8.ofNat name, UInt8.ofNat (name / 256),
      UInt8.ofNat (name / 256 / 256), UInt8.ofNat (name / 256 / 256 / 256)] := rfl
  have read : decode [UInt8.ofNat name, UInt8.ofNat (name / 256),
      UInt8.ofNat (name / 256 / 256), UInt8.ofNat (name / 256 / 256 / 256)] = name :=
    decode_encode hn
  have past : step = headerSize + (step - headerSize) :=
    (Nat.add_sub_cancel' (Nat.le_trans (Nat.le_add_right ..) (le_paddedSize _))).symm
  rw [spelled]
  simp only [List.cons_append, List.nil_append]
  rw [walk]
  simp only [read]
  change walk _ _ (List.drop step _) = _
  rw [past, ← List.drop_drop, ← past]
  rfl

/-- A checksum is padded, but the padding of the last one may be missing. -/
theorem walk_entry {name : Nat} {checksum padding : Bytes} (found : Checksums) (offset : Nat)
    (size kind : UInt8) (hn : name < limit 4)
    (hs : checksum.length = size.toNat)
    (padded : headerSize + checksum.length + padding.length =
      paddedSize (headerSize + checksum.length)) (rest : Bytes) :
    walk found offset (encode 4 name ++ (size :: kind :: (checksum ++ padding)) ++ rest) =
      walk ((offset, name) :: found) (offset + paddedSize (headerSize + checksum.length)) rest := by
  have behind : (checksum ++ padding ++ rest).drop
      (paddedSize (headerSize + checksum.length) - headerSize) = rest := by
    refine List.drop_left' ?_
    rw [← padded, List.length_append]
    omega
  rw [List.append_assoc, List.cons_append, List.cons_append, walk_header found offset size kind hn,
    ← hs, behind]

/-- Every entry of a table takes at least eight bytes. -/
def Spaced (map : Checksums) : Prop := map.Pairwise fun a b => a.1 + 8 ≤ b.1

theorem spaced_walk (found : Checksums) (offset : Nat) (bytes : Bytes)
    (h : Spaced found.reverse) (below : ∀ entry ∈ found, entry.1 + 8 ≤ offset) :
    Spaced (walk found offset bytes) := by
  fun_induction walk found offset bytes with
  | case1 found offset a b c d size kind rest step ih =>
      have far : offset + 8 ≤ offset + step := by
        simp only [step, paddedSize, headerSize]
        omega
      refine ih ?_ ?_
      · rw [List.reverse_cons]
        refine List.pairwise_append.mpr ⟨h, List.pairwise_singleton _ _, ?_⟩
        intro entry member last same
        rw [List.mem_singleton.mp same]
        exact below entry (List.mem_reverse.mp member)
      · refine List.forall_mem_cons.mpr ⟨far, fun entry member => ?_⟩
        exact Nat.le_trans (below entry member) (Nat.le_trans (Nat.le_add_right ..) far)
  | case2 => exact h

theorem spaced_parse (body : Bytes) : Spaced (parse body) :=
  spaced_walk [] 0 body List.Pairwise.nil (List.forall_mem_nil _)

theorem nil_overlay (map : Checksums) : overlay [] map = map := by rw [overlay]

theorem overlay_nil (map : Checksums) : overlay map [] = map := by
  cases map with
  | nil => exact nil_overlay []
  | cons entry others =>
      rw [overlay]
      exact List.cons_ne_nil _ _

theorem find?_cons (k v : Nat) (map : Checksums) (entry : Int) :
    find? ((k, v) :: map) entry = if (k : Int) = entry then some v else find? map entry := by
  rw [find?, List.find?_cons]
  by_cases same : (k : Int) = entry
  · rw [if_pos same, beq_iff_eq.mpr same]
    rfl
  · rw [if_neg same, beq_eq_false_iff_ne.mpr same]
    rfl

theorem find?_eq_none {k : Nat} (h : ∀ entry ∈ map, k < entry.1) : find? map k = none := by
  rw [find?, Option.map_eq_none_iff, List.find?_eq_none]
  intro entry member same
  have above := h entry member
  rw [beq_iff_eq] at same
  omega

/-- A map with ascending keys that is laid over another one decides wherever it has a key. -/
theorem find?_overlay (h : newer.Pairwise fun a b => a.1 < b.1) (entry : Int) :
    (overlay older newer).find? entry = (newer.find? entry).or (older.find? entry) := by
  fun_induction overlay older newer with
  | case1 newer => exact Option.or_none.symm
  | case2 older _ => rfl
  | case3 k v older l w newer less ih =>
      rw [find?_cons k v, find?_cons k v, ih h]
      by_cases same : (k : Int) = entry
      · have missing : find? ((l, w) :: newer) entry = none := by
          rw [← same]
          refine find?_eq_none (List.forall_mem_cons.mpr ⟨less, fun other member => ?_⟩)
          exact Nat.lt_trans less (List.rel_of_pairwise_cons h member)
        rw [missing, if_pos same, if_pos same]
        rfl
      · rw [if_neg same, if_neg same]
  | case4 v older k w newer _ ih =>
      rw [find?_cons k w, find?_cons k w, find?_cons k v, ih h.of_cons]
      split <;> rfl
  | case5 k v older l w newer _ _ ih =>
      rw [find?_cons l w, find?_cons l w, ih h.of_cons]
      split <;> rfl

/-- Of several maps with ascending keys, each laid over the ones before, the last decides. -/
theorem find?_foldl_overlay {maps : List Checksums}
    (h : ∀ map ∈ maps, map.Pairwise fun a b => a.1 < b.1) (older : Checksums) (entry : Int) :
    (maps.foldl overlay older).find? entry =
      (maps.reverse.findSome? (·.find? entry)).or (older.find? entry) := by
  induction maps generalizing older with
  | nil => rfl
  | cons map others ih =>
      obtain ⟨first, h⟩ := List.forall_mem_cons.mp h
      rw [List.foldl_cons, ih h, find?_overlay first, List.reverse_cons, List.findSome?_append,
        Option.or_assoc]
      simp only [List.findSome?_cons, List.findSome?_nil]
      cases map.find? entry <;> rfl

end Checksums
end CodeView
end TestAtlas
