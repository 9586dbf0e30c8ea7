import TestAtlas.Proofs.Pdb.Writer

/-!
The file that is written for a list of streams is laid out as a container with
these streams.
-/

namespace TestAtlas
namespace Pdb
namespace Writer

open LittleEndian
open Container (PlacedStream Stored pageCount)

theorem pageSize_pos : 0 < pageSize := by decide

theorem le_pageCount_mul (size : Nat) : size ≤ pageCount pageSize size * pageSize := by
  simp only [pageCount, pageSize]
  omega

@[simp] theorem length_padPage (bytes : Bytes) :
    (padPage bytes).length = pageCount pageSize bytes.length * pageSize := by
  rw [padPage, List.length_append, List.length_replicate,
    Nat.add_sub_of_le (le_pageCount_mul bytes.length)]

@[simp] theorem length_pagesFrom (start : Nat) (bytes : Bytes) :
    (pagesFrom start bytes).length = pageCount pageSize bytes.length := List.length_range'

theorem stored_pagesFrom {file : Array UInt8} {start : Nat} {bytes : Bytes}
    (before after : Bytes) (h : file.toList = before ++ padPage bytes ++ after)
    (length : before.length = start * pageSize) :
    Stored file pageSize (pagesFrom start bytes) bytes := by
  refine ⟨length_pagesFrom start bytes, fun k inside => ?_⟩
  have number : (pagesFrom start bytes)[k] = start + k :=
    (List.getElem_range' ..).trans (congrArg (start + ·) (Nat.one_mul k))
  have counted : k < pageCount pageSize bytes.length := by rwa [length_pagesFrom] at inside
  have within := Container.lt_of_lt_pageCount pageSize_pos counted
  -- In front of the page stand the earlier parts of the file and the earlier slices.
  have behind : file.toList.drop ((start + k) * pageSize) =
      bytes.drop (k * pageSize) ++ ((padPage bytes).drop bytes.length ++ after) := by
    rw [h, Nat.add_mul, ← length, ← List.drop_drop, List.append_assoc, List.drop_left, padPage,
      List.drop_left, List.append_assoc, List.drop_append_of_le_length (Nat.le_of_lt within)]
  rw [number, behind]
  exact (List.take_prefix _ _).trans (List.prefix_append _ _)

theorem stored_place {file : Array UInt8} {start : Nat} {streams : List Bytes}
    (before after : Bytes) (h : file.toList = before ++ streams.flatMap padPage ++ after)
    (length : before.length = start * pageSize) :
    ∀ stream ∈ place start streams, Stored file pageSize stream.pages stream.bytes := by
  induction streams generalizing start before with
  | nil => intro stream member; cases member
  | cons bytes rest ih =>
      rw [List.flatMap_cons] at h
      intro stream member
      rcases List.mem_cons.mp member with rfl | member
      · refine stored_pagesFrom before (rest.flatMap padPage ++ after) ?_ length
        rw [h]
        simp only [List.append_assoc]
      · refine ih (before ++ padPage bytes) ?_ ?_ stream member
        · rw [h]
          simp only [List.append_assoc]
        · rw [List.length_append, length_padPage, length, Nat.add_mul]

theorem getElem?_place (start : Nat) {i : Nat} {streams : List Bytes} {bytes : Bytes}
    (h : streams[i]? = some bytes) :
    ∃ stream, (place start streams)[i]? = some stream ∧ stream.bytes = bytes := by
  induction streams generalizing start i with
  | nil => cases h
  | cons first rest ih =>
      cases i with
      | zero =>
          cases h
          exact ⟨_, rfl, rfl⟩
      | succ i => exact ih _ h

theorem bytes_of_mem_place {start : Nat} {streams : List Bytes} {stream : PlacedStream}
    (h : stream ∈ place start streams) : stream.bytes ∈ streams := by
  induction streams generalizing start with
  | nil => cases h
  | cons bytes rest ih =>
      rcases List.mem_cons.mp h with rfl | h
      · exact List.mem_cons_self
      · exact List.mem_cons_of_mem _ (ih h)

theorem pageBehind_cons (start : Nat) (bytes : Bytes) (rest : List Bytes) :
    pageBehind start (bytes :: rest) =
      pageBehind (start + pageCount pageSize bytes.length) rest := by
  simp only [pageBehind, List.map_cons, List.sum_cons]
  omega

theorem page_lt_of_mem_pagesFrom {start page : Nat} {bytes : Bytes}
    (h : page ∈ pagesFrom start bytes) : page < pageBehind start [bytes] := by
  obtain ⟨k, inside, rfl⟩ := List.mem_range'.mp h
  simp only [pageBehind, List.map_cons, List.map_nil, List.sum_cons, List.sum_nil]
  omega

theorem page_lt_of_mem_place {start page : Nat} {streams : List Bytes} {stream : PlacedStream}
    (h : stream ∈ place start streams) (inside : page ∈ stream.pages) :
    page < pageBehind start streams := by
  induction streams generalizing start with
  | nil => cases h
  | cons bytes rest ih =>
      rw [pageBehind_cons]
      rcases List.mem_cons.mp h with rfl | h
      · refine Nat.lt_of_lt_of_le (page_lt_of_mem_pagesFrom inside) ?_
        simp only [pageBehind, List.map_cons, List.map_nil, List.sum_cons, List.sum_nil]
        omega
      · exact ih h

theorem length_flatMap_padPage (streams : List Bytes) :
    (streams.flatMap padPage).length =
      (streams.map fun bytes => pageCount pageSize bytes.length).sum * pageSize := by
  induction streams with
  | nil => simp
  | cons bytes rest ih =>
      rw [List.flatMap_cons, List.length_append, ih, length_padPage, List.map_cons, List.sum_cons,
        Nat.add_mul]

/-- The numbers of a file with the given streams fit their fields, and no stream is as long as the
size that means that there is none. -/
structure Fits (streams : List Bytes) : Prop where
  sizes : ∀ bytes ∈ streams, bytes.length < Container.nilSize
  directorySize : (directory streams).length < limit 4
  pageNumbers : pageTotal streams < limit 4

theorem directoryPage_le_blockMapPage (streams : List Bytes) :
    directoryPage streams ≤ blockMapPage streams := Nat.le_add_right ..

theorem blockMapPage_le_pageTotal (streams : List Bytes) :
    blockMapPage streams ≤ pageTotal streams := Nat.le_add_right ..

theorem length_header (streams : List Bytes) : (header streams).length = 56 := by
  simp only [header, List.length_append, length_encode, Container.Layout.length_signature]

theorem length_front (streams : List Bytes) :
    (padPage (header streams) ++ List.replicate (2 * pageSize) 0).length =
      firstPage * pageSize := by
  rw [List.length_append, length_padPage, length_header, List.length_replicate]
  rfl

/-- The streams end where the directory starts. -/
theorem length_before_directory (streams : List Bytes) :
    (padPage (header streams) ++ List.replicate (2 * pageSize) 0 ++
      streams.flatMap padPage).length = directoryPage streams * pageSize := by
  rw [List.length_append, length_front, length_flatMap_padPage, directoryPage, pageBehind,
    Nat.add_mul]

theorem length_before_blockMap (streams : List Bytes) :
    (padPage (header streams) ++ List.replicate (2 * pageSize) 0 ++
      streams.flatMap padPage ++ padPage (directory streams)).length =
        blockMapPage streams * pageSize := by
  rw [List.length_append, length_before_directory, length_padPage, blockMapPage, pageBehind,
    Nat.add_mul, List.map_singleton, List.sum_singleton]

namespace Fits

variable {streams : List Bytes}

/-- Where the streams are put. -/
def layout (fits : Fits streams) : Container.Layout where
  pageSize := pageSize
  streams := place firstPage streams
  blockMapPage := blockMapPage streams
  blockMap := blockMap streams
  pageSize_pos := pageSize_pos
  pageSize_lt := by decide
  blockMapPage_lt := Nat.lt_of_le_of_lt (blockMapPage_le_pageTotal streams) fits.pageNumbers
  blockMap_lt := fun _ member => by
    have below := page_lt_of_mem_pagesFrom member
    have inside := blockMapPage_le_pageTotal streams
    exact Nat.lt_trans below (Nat.lt_of_le_of_lt inside fits.pageNumbers)
  directory_lt := fits.directorySize
  size_lt := fun _ member => fits.sizes _ (bytes_of_mem_place member)
  pages_lt := fun _ member _ inside => by
    have below := page_lt_of_mem_place member inside
    have behind := Nat.le_trans (directoryPage_le_blockMapPage streams)
      (blockMapPage_le_pageTotal streams)
    exact Nat.lt_trans below (Nat.lt_of_le_of_lt behind fits.pageNumbers)

theorem laidOut (fits : Fits streams) : fits.layout.LaidOut (container streams).toArray where
  header := by
    refine ⟨encode 4 1 ++ encode 4 (pageTotal streams), encode 4 0, rfl, rfl, ?_⟩
    simp only [container, padPage, List.append_assoc]
    exact List.prefix_append ..
  blockMap := by
    change _ <+: (container streams).drop (blockMapPage streams * pageSize)
    rw [← length_before_blockMap, container, List.drop_left, padPage]
    exact List.prefix_append ..
  directory := by
    exact stored_pagesFrom _ (padPage ((blockMap streams).flatMap (encode 4))) rfl
      (length_before_directory streams)
  streams := by
    refine stored_place (padPage (header streams) ++ List.replicate (2 * pageSize) 0)
      (padPage (Writer.directory streams) ++ padPage ((blockMap streams).flatMap (encode 4)))
      ?_ (length_front streams)
    simp only [container, List.append_assoc]

/-- A file with the given streams is opened as a container that has them under their numbers. -/
theorem parse_container (fits : Fits streams) :
    ∃ opened, Container.parse (container streams).toArray = .ok opened ∧
      ∀ {i : Nat} {bytes : Bytes}, streams[i]? = some bytes → opened.stream i = .ok bytes := by
  refine ⟨_, Container.Layout.parse_of_laidOut fits.laidOut, fun h => ?_⟩
  obtain ⟨stream, placed, rfl⟩ := getElem?_place firstPage h
  exact Container.Layout.stream_of_laidOut fits.laidOut placed

end Fits

end Writer
end Pdb
end TestAtlas
