import Mathlib.Algebra.GroupWithZero.Nat
import TestAtlas.Proofs.Pdb.Paging

/-!
Where the bytes of a stream lie in the file. Byte `k` of a stream has its place
on page `k / pageSize` of the stream's list. A stream is answered if its pages
hold enough bytes altogether, so a page that the end of the file cuts short is
noticed if it is the last of the list, but may go unnoticed elsewhere: then the
bytes of the pages behind it move up.
-/

namespace TestAtlas
namespace Pdb

namespace Container

variable {file : Array UInt8} {pageSize k : Nat} {pages : List Nat} {container : Container}
  {extent : Extent}

/-- What holds of every container that was opened: pages are not empty, and every stream has as
many pages as its size needs. -/
structure WellFormed (container : Container) : Prop where
  pageSize_pos : 0 < container.pageSize
  count : ∀ extent ∈ container.extents,
    extent.pages.length = pageCount container.pageSize extent.size

theorem yields_readDirectory (pageSize : Nat) :
    Reader.Yields (readDirectory pageSize) fun extents =>
      ∀ extent ∈ extents, extent.pages.length = pageCount pageSize extent.size := by
  refine (Reader.Yields.any _).bind fun count _ => ?_
  refine (Reader.Yields.any _).bind fun sizes _ => ?_
  exact .mapM (fun recorded => (Reader.Yields.array _).bind fun pages length => .pure length) sizes

theorem wellFormed_of_parse (parsed : parse file = .ok container) :
    container.file = file ∧ container.WellFormed := by
  simp only [parse, bind, Except.bind] at parsed
  split at parsed
  · cases parsed
  rename_i header _
  split at parsed
  · cases parsed
  split at parsed
  · cases parsed
  rename_i positive
  split at parsed
  · cases parsed
  split at parsed
  · cases parsed
  split at parsed
  · cases parsed
  split at parsed
  · cases parsed
  rename_i extents read
  cases parsed
  refine ⟨rfl, Nat.pos_of_ne_zero positive, ?_⟩
  obtain ⟨rest, taken⟩ := of_readFront read
  exact yields_readDirectory header.pageSize _ _ _ taken

/-- The number of bytes that a page has in the file. -/
def held (file : Array UInt8) (pageSize index : Nat) : Nat :=
  min pageSize (file.size - index * pageSize)

theorem length_page (file : Array UInt8) (pageSize index : Nat) :
    (page file pageSize index).length = held file pageSize index := by
  rw [page, slice_eq_take_drop, List.length_take, List.length_drop, Array.length_toList, held]

theorem getElem?_page (file : Array UInt8) {index : Nat} (h : k < pageSize) :
    (page file pageSize index)[k]? = file[index * pageSize + k]? := by
  rw [page, slice_eq_take_drop, List.getElem?_take_of_lt h, List.getElem?_drop,
    Array.getElem?_toList]

theorem length_flatMap_page (file : Array UInt8) (pageSize : Nat) (pages : List Nat) :
    (pages.flatMap (page file pageSize)).length = (pages.map (held file pageSize)).sum := by
  rw [List.length_flatMap]
  simp only [length_page]

theorem sum_held_le (file : Array UInt8) (pageSize : Nat) (pages : List Nat) :
    (pages.map (held file pageSize)).sum ≤ pages.length * pageSize := by
  induction pages with
  | nil => exact Nat.zero_le _
  | cons first rest ih =>
      have bound : held file pageSize first ≤ pageSize := Nat.min_le_left ..
      rw [List.map_cons, List.sum_cons, List.length_cons, Nat.succ_mul]
      omega

/-- What one page does not hold is missing from all pages together. -/
theorem sum_held_add_le (file : Array UInt8) (pageSize : Nat) {page : Nat} (member : page ∈ pages) :
    (pages.map (held file pageSize)).sum + pageSize ≤
      pages.length * pageSize + held file pageSize page := by
  induction pages with
  | nil => cases member
  | cons first rest ih =>
      rw [List.map_cons, List.sum_cons, List.length_cons, Nat.succ_mul]
      rcases List.mem_cons.mp member with rfl | behind
      · have := sum_held_le file pageSize rest
        omega
      · have := ih behind
        have bound : held file pageSize first ≤ pageSize := Nat.min_le_left ..
        omega

/-- The place in the file of byte `k` of what is spread over pages. -/
def place (pageSize : Nat) (pages : List Nat) (k : Nat) : Nat :=
  pages.getD (k / pageSize) 0 * pageSize + k % pageSize

/-- Some page before the last one is cut short by the end of the file. -/
def CutShort (file : Array UInt8) (pageSize : Nat) (pages : List Nat) : Prop :=
  ∃ page ∈ pages.dropLast, held file pageSize page < pageSize

theorem length_page_of_not_cutShort {first second : Nat} {rest : List Nat}
    (whole : ¬ CutShort file pageSize (first :: second :: rest)) :
    (page file pageSize first).length = pageSize := by
  rw [length_page]
  have bound : held file pageSize first ≤ pageSize := Nat.min_le_left ..
  have enough : ¬ held file pageSize first < pageSize := by
    intro short
    exact whole ⟨first, List.mem_cons_self, short⟩
  omega

theorem not_cutShort_tail {first : Nat} {rest : List Nat}
    (whole : ¬ CutShort file pageSize (first :: rest)) : ¬ CutShort file pageSize rest := by
  rintro ⟨page, member, short⟩
  cases rest with
  | nil => cases member
  | cons second others => exact whole ⟨page, List.mem_cons_of_mem _ member, short⟩

/-- If none but the last page is short, the pages put together have every byte from its place. -/
theorem getElem?_flatMap_page (positive : 0 < pageSize) (whole : ¬ CutShort file pageSize pages)
    (h : k < pages.length * pageSize) :
    (pages.flatMap (page file pageSize))[k]? = file[place pageSize pages k]? := by
  rw [place]
  induction pages generalizing k with
  | nil => simp at h
  | cons first rest ih =>
      rw [List.flatMap_cons]
      -- The byte is in the first page, or else in the pages behind it, one page less far on.
      by_cases inside : k < pageSize
      · rw [Nat.div_eq_of_lt inside, Nat.mod_eq_of_lt inside, List.getD_cons_zero,
          ← getElem?_page file inside]
        cases rest with
        | nil => rw [List.flatMap_nil, List.append_nil]
        | cons second others =>
            have full := length_page_of_not_cutShort whole
            rw [List.getElem?_append_left (by rwa [full])]
      · have behind := Nat.le_of_not_lt inside
        rw [Nat.div_eq_sub_div positive behind, Nat.mod_eq_sub_mod behind, List.getD_cons_succ]
        cases rest with
        | nil => simp at h; omega
        | cons second others =>
            have full := length_page_of_not_cutShort whole
            rw [List.getElem?_append_right (by rwa [full]), full]
            refine ih (not_cutShort_tail whole) ?_
            rw [List.length_cons, Nat.succ_mul] at h
            omega

/-- The pages have room for all bytes, and without the last of them there would not be enough. -/
theorem room_of_pageCount {size : Nat} (positive : 0 < pageSize)
    (count : pages.length = pageCount pageSize size) :
    size ≤ pages.length * pageSize ∧ pages.length * pageSize < size + pageSize := by
  have split := Nat.div_add_mod (size + pageSize - 1) pageSize
  have remainder := Nat.mod_lt (size + pageSize - 1) positive
  rw [count, pageCount, Nat.mul_comm]
  omega

/-- A stream is answered exactly if its pages together hold as many bytes as it has, on whichever
of them bytes are missing. -/
theorem readPages_eq_ok_iff (positive : 0 < pageSize)
    (count : extent.pages.length = pageCount pageSize extent.size) (data : Bytes) :
    readPages file pageSize extent = .ok data ↔
      extent.size ≤ (extent.pages.map (held file pageSize)).sum ∧
        data = (extent.pages.flatMap (page file pageSize)).take extent.size := by
  have length := length_flatMap_page file pageSize extent.pages
  rw [readPages]
  constructor
  · intro answered
    split at answered
    · cases answered
    dsimp only at answered
    split at answered
    · cases answered
    rename_i enough
    cases answered
    rw [List.length_take] at enough
    exact ⟨by omega, rfl⟩
  · rintro ⟨covered, rfl⟩
    -- If one page held nothing, the others could not make up for it: there is none to spare.
    have reachable : extent.pages.any (isUnreachable file pageSize) = false := by
      rw [List.any_eq_false]
      intro page member unreachable
      have bound := of_decide_eq_true unreachable
      have missing := sum_held_add_le file pageSize member
      have needed := (room_of_pageCount positive count).2
      have nothing : held file pageSize page = 0 := by
        rw [held]
        omega
      omega
    have enough : ¬ ((extent.pages.flatMap (page file pageSize)).take extent.size).length <
        extent.size := by
      rw [List.length_take]
      omega
    rw [reachable, if_neg Bool.false_ne_true, if_neg enough]

/-- Every byte that is answered is the one at its place in the file. -/
def Exact (file : Array UInt8) (pageSize : Nat) (extent : Extent) (data : Bytes) : Prop :=
  data.length = extent.size ∧ ∀ k < extent.size,
    place pageSize extent.pages k < file.size ∧
      data[k]? = file[place pageSize extent.pages k]?

theorem exact_of_not_cutShort (positive : 0 < pageSize)
    (count : extent.pages.length = pageCount pageSize extent.size)
    (whole : ¬ CutShort file pageSize extent.pages)
    (covered : extent.size ≤ (extent.pages.map (held file pageSize)).sum) :
    Exact file pageSize extent
      ((extent.pages.flatMap (page file pageSize)).take extent.size) := by
  have length := length_flatMap_page file pageSize extent.pages
  refine ⟨by rw [List.length_take]; omega, fun k inside => ?_⟩
  have room := (room_of_pageCount positive count).1
  have same := getElem?_flatMap_page positive whole (Nat.lt_of_lt_of_le inside room)
  rw [List.getElem?_take_of_lt inside, same]
  refine ⟨?_, rfl⟩
  have found : k < (extent.pages.flatMap (page file pageSize)).length := by omega
  rw [List.getElem?_eq_getElem found] at same
  exact (Array.getElem?_eq_some_iff.mp same.symm).1

/-- The last byte of a page that is cut short has its place past the end of the file. -/
theorem exists_place_of_cutShort (positive : 0 < pageSize)
    (count : extent.pages.length = pageCount pageSize extent.size)
    (short : CutShort file pageSize extent.pages) :
    ∃ k < extent.size, file.size ≤ place pageSize extent.pages k := by
  obtain ⟨page, member, lacking⟩ := short
  obtain ⟨j, before, rfl⟩ := List.getElem_of_mem member
  rw [List.getElem_dropLast] at lacking
  rw [List.length_dropLast] at before
  refine ⟨j * pageSize + (pageSize - 1), ?_, ?_⟩
  · have needed := (room_of_pageCount positive count).2
    have below : (j + 2) * pageSize ≤ extent.pages.length * pageSize :=
      Nat.mul_le_mul_right pageSize (by omega)
    rw [Nat.add_mul] at below
    omega
  · have last : pageSize - 1 < pageSize := Nat.sub_lt positive Nat.one_pos
    have on : (j * pageSize + (pageSize - 1)) / pageSize = j := by
      rw [Nat.mul_comm, Nat.mul_add_div positive, Nat.div_eq_of_lt last, Nat.add_zero]
    have at_ : (j * pageSize + (pageSize - 1)) % pageSize = pageSize - 1 := by
      rw [Nat.mul_comm, Nat.mul_add_mod, Nat.mod_eq_of_lt last]
    have inside : j < extent.pages.length := by omega
    rw [place, on, at_, List.getD_eq_getElem?_getD, List.getElem?_eq_getElem inside,
      Option.getD_some]
    rw [held] at lacking
    omega

/-- A stream that is answered has its recorded number of bytes, and it is answered with every byte
from its place if all of them have their place in the file. But it is also answered if a page
before the last is cut short and the pages together still hold enough; exactly then there are bytes
that do not come from their place. -/
theorem stream_exact_iff {file : Array UInt8} {container : Container}
    (parsed : parse file = .ok container) {index : Int} {extent : Extent}
    (found : container.extent? index = some extent) :
    let place := place container.pageSize extent.pages
    let exact := Exact file container.pageSize extent
    (∀ data, container.stream index = .ok data → data.length = extent.size) ∧
    ((∀ k < extent.size, place k < file.size) →
      ∃ data, container.stream index = .ok data ∧ exact data) ∧
    ((∀ data, container.stream index = .ok data → exact data) ↔
      ¬ (CutShort file container.pageSize extent.pages ∧
        extent.size ≤ (extent.pages.map (held file container.pageSize)).sum)) := by
  obtain ⟨rfl, positive, counts⟩ := wellFormed_of_parse parsed
  have member : extent ∈ container.extents := by
    rw [extent?] at found
    split at found
    · cases found
    · exact List.mem_of_getElem? found
  have count := counts extent member
  have answered (data : Bytes) : container.stream index = .ok data ↔
      extent.size ≤ (extent.pages.map (held container.file container.pageSize)).sum ∧
        data = (extent.pages.flatMap (page container.file container.pageSize)).take
          extent.size := by
    rw [stream, found]
    exact readPages_eq_ok_iff positive count data
  have length := length_flatMap_page container.file container.pageSize extent.pages
  refine ⟨fun data answer => ?_, fun inside => ?_, ?_⟩
  · obtain ⟨covered, rfl⟩ := (answered data).mp answer
    rw [List.length_take]
    omega
  · have whole : ¬ CutShort container.file container.pageSize extent.pages := by
      intro short
      obtain ⟨k, below, past⟩ := exists_place_of_cutShort positive count short
      exact Nat.lt_irrefl _ (Nat.lt_of_lt_of_le (inside k below) past)
    -- If bytes were missing, the first of them would have no place in the file.
    have covered : extent.size ≤
        (extent.pages.map (held container.file container.pageSize)).sum := by
      refine Nat.le_of_not_lt fun missing => ?_
      have room := (room_of_pageCount positive count).1
      have same := getElem?_flatMap_page positive whole (Nat.lt_of_lt_of_le missing room)
      rw [← length, List.getElem?_eq_none (Nat.le_refl _)] at same
      have past := Array.getElem?_eq_none_iff.mp same.symm
      rw [length] at past
      exact Nat.lt_irrefl _ (Nat.lt_of_lt_of_le (inside _ missing) past)
    exact ⟨_, (answered _).mpr ⟨covered, rfl⟩,
      exact_of_not_cutShort positive count whole covered⟩
  · constructor
    · rintro right ⟨short, covered⟩
      obtain ⟨k, below, past⟩ := exists_place_of_cutShort positive count short
      have answer := right _ ((answered _).mpr ⟨covered, rfl⟩)
      exact Nat.lt_irrefl _ (Nat.lt_of_lt_of_le (answer.2 k below).1 past)
    · intro sound data answer
      obtain ⟨covered, rfl⟩ := (answered data).mp answer
      exact exact_of_not_cutShort positive count (fun short => sound ⟨short, covered⟩) covered

/-- A stream of five bytes in pages of four. The file ends with the second byte of its first page,
and its second page, of which one byte is needed, has three more. -/
def slack : Array UInt8 :=
  (signature ++ [4, 0, 0, 0] ++ List.replicate 8 0 ++ [16, 0, 0, 0] ++ List.replicate 4 0 ++
    [14, 0, 0, 0] ++ [18, 0, 0, 0, 19, 0, 0, 0, 20, 0, 0, 0, 21, 0, 0, 0] ++
    [1, 0, 0, 0, 5, 0, 0, 0, 23, 0, 0, 0, 22, 0, 0, 0] ++ [97, 98, 99, 100] ++ [88, 89]).toArray

def slackContainer : Container where
  file := slack
  pageSize := 4
  extents := [⟨5, [23, 22]⟩]

set_option maxRecDepth 10000 in
theorem parse_slack : parse slack = .ok slackContainer := rfl

/-- The end of the first page is missing, and the bytes of the second one stand in its place. -/
theorem stream_exact_slack :
    parse slack = .ok slackContainer ∧ slackContainer.extent? 0 = some ⟨5, [23, 22]⟩ ∧
      slackContainer.stream 0 = .ok [88, 89, 97, 98, 99] ∧
      ¬ Exact slack 4 ⟨5, [23, 22]⟩ [88, 89, 97, 98, 99] := by
  have found : slackContainer.extent? 0 = some ⟨5, [23, 22]⟩ := rfl
  have answer : slackContainer.stream 0 = .ok [88, 89, 97, 98, 99] := rfl
  obtain ⟨-, -, exactly⟩ := stream_exact_iff parse_slack found
  refine ⟨parse_slack, found, answer, fun right => ?_⟩
  refine exactly.mp (fun data again => ?_) ⟨⟨23, by decide, by decide +kernel⟩, by decide +kernel⟩
  rw [answer] at again
  cases again
  exact right

end Container
end Pdb
end TestAtlas
