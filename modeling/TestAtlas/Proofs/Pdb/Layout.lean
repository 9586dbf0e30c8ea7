import TestAtlas.Proofs.Pdb.Paging

/-!
Containers that were laid out in a file. A layout names the pages of every
stream, of the directory and of the block map; a file that is laid out so is
read back as the streams, in the order of the directory.
-/

namespace TestAtlas
namespace Pdb

theorem readFront_of_reads {α : Type} {reader : Reader α} {value : α} {bytes : Bytes}
    (h : Reader.Reads reader value bytes) (rest : Bytes) :
    readFront reader (bytes ++ rest) = .ok value := by
  rw [readFront, h rest]

namespace Container

open LittleEndian

/-- A stream, unless it is not there, and the pages that it is put on. -/
structure PlacedStream where
  content? : Option Bytes
  pages : List Nat
  deriving DecidableEq, Repr

namespace PlacedStream

def bytes (stream : PlacedStream) : Bytes := stream.content?.getD []

def recordedSize (stream : PlacedStream) : Nat :=
  match stream.content? with
  | none => nilSize
  | some content => content.length

def extent (stream : PlacedStream) : Extent :=
  { size := stream.bytes.length, pages := stream.pages }

end PlacedStream

/-- The list of streams as it is written: their number, their sizes, the pages of each. -/
def writeDirectory (streams : List PlacedStream) : Bytes :=
  encode 4 streams.length ++
    (streams.map PlacedStream.recordedSize).flatMap (encode 4) ++
    streams.flatMap fun stream => stream.pages.flatMap (encode 4)

/-- Where the parts of a container are put. The numbers are such that four bytes can spell them,
and no stream is as long as the size that means that there is none. -/
structure Layout where
  pageSize : Nat
  streams : List PlacedStream
  blockMapPage : Nat
  /-- The pages of the directory. -/
  blockMap : List Nat
  pageSize_pos : 0 < pageSize
  pageSize_lt : pageSize < limit 4
  blockMapPage_lt : blockMapPage < limit 4
  blockMap_lt : ∀ page ∈ blockMap, page < limit 4
  directory_lt : (writeDirectory streams).length < limit 4
  size_lt : ∀ stream ∈ streams, stream.bytes.length < nilSize
  pages_lt : ∀ stream ∈ streams, ∀ page ∈ stream.pages, page < limit 4

namespace Layout

variable {layout : Layout} {file : Array UInt8}

def directory (layout : Layout) : Bytes := writeDirectory layout.streams

/-- How a file starts, with eight and four bytes that nothing depends on. -/
def header (layout : Layout) (unused reserved : Bytes) : Bytes :=
  signature ++ encode 4 layout.pageSize ++ unused ++ encode 4 layout.directory.length ++
    reserved ++ encode 4 layout.blockMapPage

/-- The file has everything where the layout says. -/
structure LaidOut (layout : Layout) (file : Array UInt8) : Prop where
  header : ∃ unused reserved : Bytes, unused.length = 8 ∧ reserved.length = 4 ∧
    layout.header unused reserved <+: file.toList
  blockMap : layout.blockMap.flatMap (encode 4) <+:
    file.toList.drop (layout.blockMapPage * layout.pageSize)
  directory : Stored file layout.pageSize layout.blockMap layout.directory
  streams : ∀ stream ∈ layout.streams, Stored file layout.pageSize stream.pages stream.bytes

theorem length_signature : signature.length = 32 := by decide +kernel

theorem length_header {unused reserved : Bytes} (hu : unused.length = 8)
    (hr : reserved.length = 4) : (layout.header unused reserved).length = Header.size := by
  simp only [header, List.length_append, length_encode, length_signature, hu, hr, Header.size]

theorem reads_header {unused reserved : Bytes} (hu : unused.length = 8)
    (hr : reserved.length = 4) :
    Reader.Reads Header.read
      { signature, pageSize := layout.pageSize, directorySize := layout.directory.length,
        blockMapPage := layout.blockMapPage }
      (layout.header unused reserved) := by
  simp only [header, List.append_assoc]
  exact .bind (.fixed length_signature) <| .bind (.field layout.pageSize_lt) <|
    .bind (.skip hu) <| .bind (.field layout.directory_lt) <| .bind (.skip hr) <|
    .bind_pure (.field layout.blockMapPage_lt) rfl

theorem le_length_directory (layout : Layout) : 4 ≤ layout.directory.length := by
  simp only [directory, writeDirectory, List.length_append, length_encode]
  omega

theorem length_streams_lt (layout : Layout) : layout.streams.length < limit 4 := by
  have bound := layout.directory_lt
  simp only [writeDirectory, List.length_append, length_encode, Reader.length_flatMap_encode,
    List.length_map] at bound
  omega

/-- The size that is read for a stream is the number of its bytes. -/
theorem size_of_recordedSize {stream : PlacedStream} (h : stream ∈ layout.streams) :
    (if stream.recordedSize = nilSize then 0 else stream.recordedSize) = stream.bytes.length := by
  have short := layout.size_lt stream h
  obtain ⟨_ | content, pages⟩ := stream
  · rfl
  · exact if_neg (Nat.ne_of_lt short)

theorem recordedSize_lt {size : Nat} (h : size ∈ layout.streams.map PlacedStream.recordedSize) :
    size < limit 4 := by
  obtain ⟨stream, member, rfl⟩ := List.mem_map.mp h
  have read := size_of_recordedSize member
  have short := layout.size_lt stream member
  have large : nilSize < limit 4 := by decide
  split at read <;> omega

theorem reads_directory (laid : layout.LaidOut file) :
    Reader.Reads (readDirectory layout.pageSize) (layout.streams.map PlacedStream.extent)
      layout.directory := by
  have sizes : Reader.Reads (Reader.array layout.streams.length)
      (layout.streams.map PlacedStream.recordedSize)
      ((layout.streams.map PlacedStream.recordedSize).flatMap (encode 4)) := by
    have read := Reader.Reads.array fun _ h => layout.recordedSize_lt h
    rwa [List.length_map] at read
  simp only [directory, writeDirectory, List.append_assoc]
  refine .bind (.lone layout.length_streams_lt) (.bind sizes (.mapM fun stream member => ?_))
  simp only [size_of_recordedSize member, ← (laid.streams stream member).count]
  exact .bind_pure (.array (layout.pages_lt stream member)) rfl

theorem lt_size_blockMapPage (laid : layout.LaidOut file) :
    layout.blockMapPage * layout.pageSize < file.size := by
  refine lt_size_of_begins laid.blockMap fun empty => ?_
  have length := congrArg List.length empty
  rw [Reader.length_flatMap_encode, laid.directory.count,
    pageCount_of_pos layout.pageSize_pos
      (Nat.lt_of_lt_of_le (by decide) layout.le_length_directory)] at length
  simp at length

def container (layout : Layout) (file : Array UInt8) : Container :=
  { file, pageSize := layout.pageSize, extents := layout.streams.map PlacedStream.extent }

theorem parse_of_laidOut (laid : layout.LaidOut file) :
    parse file = .ok (layout.container file) := by
  obtain ⟨unused, reserved, hu, hr, start⟩ := laid.header
  have front : slice file 0 Header.size = layout.header unused reserved :=
    slice_of_begins (by rwa [List.drop_zero]) (length_header hu hr)
  have map : slice file (layout.blockMapPage * layout.pageSize)
      (4 * pageCount layout.pageSize layout.directory.length) =
        layout.blockMap.flatMap (encode 4) :=
    slice_of_begins laid.blockMap (by rw [Reader.length_flatMap_encode, laid.directory.count])
  have readHeader := readFront_of_reads (layout.reads_header hu hr) []
  have readMap := readFront_of_reads (Reader.Reads.array layout.blockMap_lt) []
  have readExtents := readFront_of_reads (layout.reads_directory laid) []
  rw [List.append_nil] at readHeader readMap readExtents
  rw [laid.directory.count] at readMap
  have reachable := not_isUnreachable_of_lt (lt_size_blockMapPage laid)
  have positive := Nat.ne_of_gt layout.pageSize_pos
  simp only [parse, front, readHeader, map, readMap, readPages_of_stored laid.directory
    layout.pageSize_pos, readExtents, reachable, positive, bind, Except.bind, ne_eq,
    not_true_eq_false, Bool.false_eq_true, ↓reduceIte, pure, Except.pure, container]

theorem stream_of_laidOut (laid : layout.LaidOut file) {i : Nat} {stream : PlacedStream}
    (h : layout.streams[i]? = some stream) :
    (layout.container file).stream i = .ok stream.bytes := by
  have found : (layout.container file).extent? i = some stream.extent := by
    rw [extent?, if_neg (Int.not_lt.mpr (Int.natCast_nonneg i)), Int.toNat_natCast]
    exact (List.getElem?_map ..).trans (congrArg _ h)
  rw [Container.stream, found]
  exact readPages_of_stored (laid.streams stream (List.mem_of_getElem? h)) layout.pageSize_pos

theorem stream_of_outside (layout : Layout) (file : Array UInt8) {index : Int}
    (h : index < 0 ∨ (layout.streams.length : Int) ≤ index) :
    (layout.container file).stream index = .error (.noStream index) := by
  have missing : (layout.container file).extent? index = none := by
    rw [extent?]
    split
    · rfl
    · refine List.getElem?_eq_none ?_
      rw [container, List.length_map]
      omega
  rw [Container.stream, missing]

/-- A file that is laid out as a container is opened, and the container has the streams of the
layout under their numbers and under no others. -/
theorem streams_of_laidOut (layout : Layout) {file : Array UInt8} (laid : layout.LaidOut file) :
    ∃ container, parse file = .ok container ∧
      container.extents.length = layout.streams.length ∧
      (∀ (i : Nat) (h : i < layout.streams.length),
        container.stream i = .ok (layout.streams[i].content?.getD [])) ∧
      ∀ index : Int, index < 0 ∨ (layout.streams.length : Int) ≤ index →
        container.stream index = .error (.noStream index) :=
  ⟨layout.container file, parse_of_laidOut laid, List.length_map _,
    fun _ h => stream_of_laidOut laid (List.getElem?_eq_getElem h),
    fun _ h => stream_of_outside layout file h⟩

/-- Three streams: ten bytes on two pages, none, and an empty one. The directory needs three pages,
which stand in another order than they are read in. -/
def scattered : Layout where
  pageSize := 8
  streams := [⟨some [1, 2, 3, 4, 5, 6, 7, 8, 9, 10], [12, 14]⟩, ⟨none, []⟩, ⟨some [], []⟩]
  blockMapPage := 7
  blockMap := [11, 13, 10]
  pageSize_pos := by decide
  pageSize_lt := by decide
  blockMapPage_lt := by decide
  blockMap_lt := by decide
  directory_lt := by decide
  size_lt := by decide
  pages_lt := by decide

/-- The file ends with the second byte of its last page. -/
def scatteredFile : Array UInt8 :=
  (scattered.header (List.replicate 8 0) (List.replicate 4 0) ++
    [11, 0, 0, 0, 13, 0, 0, 0, 10, 0, 0, 0, 0, 0, 0, 0] ++ List.replicate 8 0 ++
    [12, 0, 0, 0, 14, 0, 0, 0] ++ [3, 0, 0, 0, 10, 0, 0, 0] ++ [1, 2, 3, 4, 5, 6, 7, 8] ++
    [255, 255, 255, 255, 0, 0, 0, 0] ++ [9, 10]).toArray

theorem laidOut_scattered : scattered.LaidOut scatteredFile where
  header := ⟨List.replicate 8 0, List.replicate 4 0, rfl, rfl, by decide +kernel⟩
  blockMap := by decide +kernel
  directory := ⟨by decide +kernel, by decide +kernel⟩
  streams := by
    simp only [scattered, List.mem_cons, List.not_mem_nil, or_false, forall_eq_or_imp, forall_eq]
    exact ⟨⟨by decide +kernel, by decide +kernel⟩, ⟨by decide +kernel, by decide +kernel⟩,
      by decide +kernel, by decide +kernel⟩

theorem streams_of_laidOut_scattered :
    scattered.LaidOut scatteredFile ∧ ∃ container, parse scatteredFile = .ok container ∧
      container.stream 0 = .ok [1, 2, 3, 4, 5, 6, 7, 8, 9, 10] ∧
      container.stream 1 = .ok [] ∧ container.stream 2 = .ok [] ∧
      container.stream (-1) = .error (.noStream (-1)) := by
  obtain ⟨container, parsed, -, inside, outside⟩ := streams_of_laidOut scattered laidOut_scattered
  exact ⟨laidOut_scattered, container, parsed, inside 0 (by decide), inside 1 (by decide),
    inside 2 (by decide), outside (-1) (by decide)⟩

end Layout
end Container
end Pdb
end TestAtlas
