import TestAtlas.Pdb.Container
import TestAtlas.Proofs.Bytes.Reading

/-!
Byte strings that are spread over pages of a file. The pages may come in any
order; all but the last hold a full page of bytes each, and the file may end
right behind the bytes of the last.
-/

namespace TestAtlas
namespace Pdb

theorem of_readFront {α : Type} {reader : Reader α} {bytes : Bytes} {value : α}
    (read : readFront reader bytes = .ok value) :
    ∃ rest, reader.run bytes = .ok (value, rest) := by
  rw [readFront] at read
  split at read
  · rename_i value rest taken
    cases read
    exact ⟨rest, taken⟩
  · cases read

namespace Container

open LittleEndian

variable {file : Array UInt8} {pageSize : Nat} {pages : List Nat} {data : Bytes}

/-- Every slice of the bytes lies at the start of its page. -/
structure Stored (file : Array UInt8) (pageSize : Nat) (pages : List Nat) (data : Bytes) :
    Prop where
  count : pages.length = pageCount pageSize data.length
  slices : ∀ (k : Nat) (h : k < pages.length),
    (data.drop (k * pageSize)).take pageSize <+: file.toList.drop (pages[k] * pageSize)

theorem pageCount_zero (positive : 0 < pageSize) : pageCount pageSize 0 = 0 := by
  rw [pageCount, Nat.zero_add]
  exact Nat.div_eq_of_lt (Nat.sub_lt positive Nat.one_pos)

theorem pageCount_of_pos {size : Nat} (positive : 0 < pageSize) (h : 0 < size) :
    pageCount pageSize size = pageCount pageSize (size - pageSize) + 1 := by
  simp only [pageCount]
  by_cases small : size ≤ pageSize
  · have one : (size + pageSize - 1) / pageSize = 1 :=
      Nat.div_eq_of_lt_le (by omega) (by omega)
    rw [one, Nat.sub_eq_zero_of_le small, Nat.zero_add,
      Nat.div_eq_of_lt (Nat.sub_lt positive Nat.one_pos)]
  · rw [← Nat.add_div_right _ positive]
    congr 1
    omega

theorem lt_of_lt_pageCount {size k : Nat} (positive : 0 < pageSize)
    (h : k < pageCount pageSize size) : k * pageSize < size := by
  have bound := (Nat.le_div_iff_mul_le positive).mp (Nat.succ_le_of_lt h)
  rw [Nat.succ_mul] at bound
  omega

theorem not_isUnreachable_of_lt {index : Nat} (h : index * pageSize < file.size) :
    isUnreachable file pageSize index = false := by
  simp only [isUnreachable, decide_eq_false_iff_not]
  omega

/-- A file reaches past the start of bytes that lie in it. -/
theorem lt_size_of_begins {offset : Nat} (h : data <+: file.toList.drop offset)
    (nonempty : data ≠ []) : offset < file.size := by
  have length := h.length_le
  have size : file.toList.length = file.size := Array.length_toList
  rw [List.length_drop, size] at length
  have := List.length_pos_iff.mpr nonempty
  omega

theorem Stored.not_any_isUnreachable (stored : Stored file pageSize pages data)
    (positive : 0 < pageSize) : pages.any (isUnreachable file pageSize) = false := by
  rw [List.any_eq_false]
  intro page member
  obtain ⟨k, h, rfl⟩ := List.getElem_of_mem member
  rw [not_isUnreachable_of_lt (lt_size_of_begins (stored.slices k h) ?_)]
  · exact Bool.false_ne_true
  · have inside := lt_of_lt_pageCount positive (stored.count ▸ h)
    rw [← List.length_pos_iff, List.length_take, List.length_drop]
    omega

theorem Stored.tail {page : Nat} {rest : List Nat} (positive : 0 < pageSize)
    (stored : Stored file pageSize (page :: rest) data) :
    Stored file pageSize rest (data.drop pageSize) := by
  have some : 0 < data.length := by
    refine Nat.pos_of_ne_zero fun empty => ?_
    have count := stored.count
    rw [empty, pageCount_zero positive] at count
    cases count
  refine ⟨?_, fun k h => ?_⟩
  · have count := stored.count
    rw [pageCount_of_pos positive some, List.length_cons] at count
    rw [List.length_drop]
    omega
  · have slice := stored.slices (k + 1) (Nat.succ_lt_succ h)
    rwa [List.getElem_cons_succ, Nat.succ_mul, Nat.add_comm, ← List.drop_drop] at slice

/-- The pages put together begin with the bytes. -/
theorem Stored.take_pages (stored : Stored file pageSize pages data) (positive : 0 < pageSize) :
    (pages.flatMap (page file pageSize)).take data.length = data := by
  induction pages generalizing data with
  | nil =>
      have count := stored.count
      have empty : data.length = 0 := by
        refine Nat.eq_zero_of_not_pos fun some => ?_
        rw [pageCount_of_pos positive some] at count
        cases count
      rw [List.length_eq_zero_iff.mp empty]
      rfl
  | cons page rest ih =>
      have first := stored.slices 0 (Nat.zero_lt_succ _)
      rw [Nat.zero_mul, List.drop_zero, List.getElem_cons_zero] at first
      rw [List.flatMap_cons]
      -- A page that is not full is the last one: behind its bytes there may be others or none.
      by_cases full : pageSize ≤ data.length
      · have whole : Container.page file pageSize page = data.take pageSize :=
          slice_of_begins first (List.length_take_of_le full)
        rw [whole, List.take_append, List.length_take_of_le full, List.take_take,
          Nat.min_eq_right full, ← List.length_drop, ih (stored.tail positive),
          List.take_append_drop]
      · rw [List.take_of_length_le (Nat.le_of_not_le full)] at first
        obtain ⟨more, split⟩ := first
        have begins : (Container.page file pageSize page).take data.length = data := by
          rw [Container.page, slice_eq_take_drop, ← split, List.take_take,
            Nat.min_eq_left (Nat.le_of_not_le full), List.take_left]
        have length : data.length ≤ (Container.page file pageSize page).length := by
          have := congrArg List.length begins
          rw [List.length_take] at this
          omega
        rw [List.take_append_of_le_length length, begins]

/-- Bytes that are stored on pages are read back from them. -/
theorem readPages_of_stored (stored : Stored file pageSize pages data) (positive : 0 < pageSize) :
    readPages file pageSize { size := data.length, pages } = .ok data := by
  simp only [readPages, stored.not_any_isUnreachable positive, stored.take_pages positive,
    Nat.lt_irrefl, Bool.false_eq_true, ↓reduceIte]

end Container
end Pdb
end TestAtlas
