import TestAtlas.Pe.Image
import TestAtlas.Proofs.Bytes.Reading

/-!
Images whose headers were put into a file. The headers say where they stand, so
they may be anywhere; what they say about the tables of the image is the same in
both forms, and it is read back from either.
-/

namespace TestAtlas
namespace Pe

open LittleEndian

variable {α : Type} {file : Array UInt8} {position size : Nat}

theorem readRecord_of_begins {reader : Reader α} {value : α} {bytes : Bytes}
    (reads : Reader.Reads reader value bytes) (length : bytes.length = size)
    (begins : bytes <+: file.toList.drop position) :
    readRecord file position size reader = .ok value := by
  have read := reads []
  rw [List.append_nil] at read
  rw [readRecord, slice_of_begins begins length, read]

theorem readText_of_begins {text : Bytes} (plain : 0 ∉ text)
    (begins : text ++ [0] <+: file.toList.drop position) :
    readText file position = .ok (Utf8.decode text) := by
  obtain ⟨rest, split⟩ := begins
  have whole : slice file position (file.size - position) = text ++ [0] ++ rest := by
    rw [slice_eq_take_drop, split, List.take_of_length_le]
    simp
  have read : readRecord file position (file.size - position) Reader.terminated = .ok text := by
    rw [readRecord, whole, Reader.Reads.terminated plain rest]
  rw [readText, read]
  rfl

/-- Records of one size, one after the other. -/
inductive Rows (file : Array UInt8) (size : Nat) (Written : α → Bytes → Prop) :
    (position : Nat) → List α → Prop
  | nil (position : Nat) : Rows file size Written position []
  | cons {position : Nat} {record : α} {rest : List α} {bytes : Bytes}
      (written : Written record bytes) (begins : bytes <+: file.toList.drop position)
      (rows : Rows file size Written (position + size) rest) :
      Rows file size Written position (record :: rest)

theorem readTable_of_rows {Written : α → Bytes → Prop} {reader : Reader α} {records : List α}
    (reads : ∀ record bytes, Written record bytes → Reader.Reads reader record bytes)
    (length : ∀ record bytes, Written record bytes → bytes.length = size)
    (rows : Rows file size Written position records) :
    readTable file size reader records.length position = .ok records := by
  induction rows with
  | nil => rfl
  | cons written begins _ ih =>
      have first := readRecord_of_begins (reads _ _ written) (length _ _ written) begins
      rw [List.length_cons, readTable, first, ih]
      rfl

inductive DataDirectory.Written : DataDirectory → Bytes → Prop
  | mk {address size : Nat} (address_lt : address < limit 4) (size_lt : size < limit 4) :
      Written { address, size } (encode 4 address ++ encode 4 size)

/-- A section header ends with sixteen bytes that nothing depends on. -/
inductive Section.Written : Section → Bytes → Prop
  | mk {name unused : Bytes} {virtualSize address rawSize position : Nat}
      (length_name : name.length = 8) (virtualSize_lt : virtualSize < limit 4)
      (address_lt : address < limit 4) (rawSize_lt : rawSize < limit 4)
      (position_lt : position < limit 4) (length_unused : unused.length = 16) :
      Written { name, virtualSize, address, rawSize, position }
        (name ++ encode 4 virtualSize ++ encode 4 address ++ encode 4 rawSize ++
          encode 4 position ++ unused)

theorem DataDirectory.Written.reads {directory : DataDirectory} {bytes : Bytes}
    (h : directory.Written bytes) : Reader.Reads DataDirectory.read directory bytes := by
  obtain ⟨address_lt, size_lt⟩ := h
  exact .bind (.field address_lt) (.bind_pure (.field size_lt) rfl)

theorem DataDirectory.Written.length {directory : DataDirectory} {bytes : Bytes}
    (h : directory.Written bytes) : bytes.length = 8 := by
  cases h
  simp

theorem Section.Written.reads {s : Section} {bytes : Bytes} (h : s.Written bytes) :
    Reader.Reads Section.read s bytes := by
  obtain ⟨length_name, virtualSize_lt, address_lt, rawSize_lt, position_lt, length_unused⟩ := h
  simp only [List.append_assoc]
  exact .bind (.fixed length_name) <| .bind (.field virtualSize_lt) <|
    .bind (.field address_lt) <| .bind (.field rawSize_lt) <| .bind (.field position_lt) <|
    .bind_pure (.skip length_unused) rfl

theorem Section.Written.length {s : Section} {bytes : Bytes} (h : s.Written bytes) :
    bytes.length = 40 := by
  cases h with
  | mk length_name _ _ _ _ length_unused =>
      simp only [List.length_append, length_encode, length_name, length_unused]

/-- What the headers say about the tables of an image, in whatever form they are. -/
structure Tables where
  headersSize : Nat
  directories : List DataDirectory
  sections : List Section

namespace Form

def magic : Form → Nat
  | narrow => 0x10B
  | wide => 0x20B

def baseWidth : Form → Nat
  | narrow => 4
  | wide => 8

/-- The numbers of bytes in front of the base address and behind the size of the headers. -/
def gaps : Form → Nat × Nat
  | narrow => (26, 28)
  | wide => (22, 44)

theorem ofMagic?_magic (form : Form) : ofMagic? form.magic = some form := by
  cases form <;> rfl

end Form

/-- The headers of an image apart from its tables, each number such that its field can spell it. -/
structure Headers where
  form : Form
  /-- Where the signature of the image stands. -/
  start : Nat
  machine : Nat
  characteristics : Nat
  optionalSize : Nat
  imageBase : Nat
  /-- The number of data directories that is written; no more than sixteen are looked at. -/
  directoryCount : Nat
  start_lt : start < limit 4
  machine_lt : machine < limit 2
  characteristics_lt : characteristics < limit 2
  optionalSize_lt : optionalSize < limit 2
  imageBase_lt : imageBase < limit form.baseWidth
  directoryCount_lt : directoryCount < limit 4

namespace Headers

variable {headers : Headers} {tables : Tables}

def optional (headers : Headers) : Nat := headers.start + 4 + FileHeader.size

/-- The file has the headers, with the tables, where they say that they are. Bytes that no field is
read from may be any. -/
structure LaidOut (headers : Headers) (tables : Tables) (file : Array UInt8) : Prop where
  dos : ∃ unused : Bytes, unused.length = 58 ∧
    encode 2 Image.dosSignature ++ unused ++ encode 4 headers.start <+: file.toList
  signature : encode 4 Image.signature <+: file.toList.drop headers.start
  fileHeader : ∃ unused : Bytes, unused.length = 12 ∧
    encode 2 headers.machine ++ encode 2 tables.sections.length ++ unused ++
      encode 2 headers.optionalSize ++ encode 2 headers.characteristics <+:
        file.toList.drop (headers.start + 4)
  optionalHeader : ∃ first second third : Bytes, first.length = headers.form.gaps.1 ∧
    second.length = 28 ∧ third.length = headers.form.gaps.2 ∧
    encode 2 headers.form.magic ++ first ++ encode headers.form.baseWidth headers.imageBase ++
      second ++ encode 4 tables.headersSize ++ third ++ encode 4 headers.directoryCount <+:
        file.toList.drop headers.optional
  headersSize_lt : tables.headersSize < limit 4
  sectionCount_lt : tables.sections.length < limit 2
  directoryCount : tables.directories.length = min headers.directoryCount Image.maxDirectories
  directories : Rows file 8 DataDirectory.Written
    (headers.optional + OptionalHeader.size headers.form) tables.directories
  sections : Rows file 40 Section.Written (headers.optional + headers.optionalSize) tables.sections

def image (headers : Headers) (tables : Tables) (file : Array UInt8) : Image where
  file := file
  machine := headers.machine
  characteristics := headers.characteristics
  form := headers.form
  imageBase := headers.imageBase
  headersSize := tables.headersSize
  directories := tables.directories
  sections := tables.sections

namespace LaidOut

variable (laid : headers.LaidOut tables file)

include laid

theorem readDos : readRecord file 0 64 (do
      let dos ← Reader.u16
      Reader.skip 58
      let start ← Reader.u32
      return (dos, start)) = .ok (Image.dosSignature, headers.start) := by
  obtain ⟨unused, length, begins⟩ := laid.dos
  refine readRecord_of_begins ?_ ?_ begins
  · simp only [List.append_assoc]
    exact .bind (.field (by decide)) <| .bind (.skip length) <|
      .bind_pure (.field headers.start_lt) rfl
  · simp only [List.length_append, length_encode, length]

theorem readSignature :
    readRecord file headers.start 4 (Reader.lone 4) = .ok Image.signature :=
  readRecord_of_begins (.lone (by decide)) (length_encode ..) laid.signature

theorem readFileHeader :
    readRecord file (headers.start + 4) FileHeader.size FileHeader.read =
      .ok { machine := headers.machine, sectionCount := tables.sections.length,
            optionalSize := headers.optionalSize, characteristics := headers.characteristics } := by
  obtain ⟨unused, length, begins⟩ := laid.fileHeader
  refine readRecord_of_begins ?_ ?_ begins
  · simp only [List.append_assoc]
    exact .bind (.field headers.machine_lt) <| .bind (.field laid.sectionCount_lt) <|
      .bind (.skip length) <| .bind (.field headers.optionalSize_lt) <|
      .bind_pure (.field headers.characteristics_lt) rfl
  · simp only [List.length_append, length_encode, length, FileHeader.size]

theorem readMagic : readRecord file headers.optional 2 (Reader.lone 2) = .ok headers.form.magic := by
  obtain ⟨first, second, third, -, -, -, begins⟩ := laid.optionalHeader
  simp only [List.append_assoc] at begins
  refine readRecord_of_begins (.lone ?_) (length_encode ..) ((List.prefix_append ..).trans begins)
  cases headers.form <;> decide

theorem readOptionalHeader :
    readRecord file headers.optional (OptionalHeader.size headers.form)
        (OptionalHeader.read headers.form) =
      .ok { imageBase := headers.imageBase, headersSize := tables.headersSize,
            directoryCount := headers.directoryCount } := by
  obtain ⟨first, second, third, length_first, length_second, length_third, begins⟩ :=
    laid.optionalHeader
  have base_lt := headers.imageBase_lt
  -- The magic number and the bytes behind it are skipped together, up to the base address.
  have length_front : (encode 2 headers.form.magic ++ first).length = 2 + headers.form.gaps.1 := by
    simp only [List.length_append, length_encode, length_first]
  refine readRecord_of_begins ?_ ?_ begins
  · generalize encode 2 headers.form.magic ++ first = front at length_front
    simp only [List.append_assoc]
    generalize headers.form = form at *
    cases form with
    | narrow | wide =>
        exact .bind (.skip length_front) <| .bind (.field base_lt) <|
          .bind (.skip length_second) <| .bind (.field laid.headersSize_lt) <|
          .bind (.skip length_third) <| .bind_pure (.field headers.directoryCount_lt) rfl
  · simp only [List.length_append, length_encode, length_first, length_second, length_third]
    cases headers.form <;> rfl

end LaidOut

theorem parse_of_laidOut (laid : headers.LaidOut tables file) :
    Image.parse file = .ok (headers.image tables file) := by
  have directories := readTable_of_rows (fun _ _ h => h.reads) (fun _ _ h => h.length)
    laid.directories
  have sections := readTable_of_rows (fun _ _ h => h.reads) (fun _ _ h => h.length) laid.sections
  rw [laid.directoryCount] at directories
  have signature := laid.readSignature
  have fileHeader := laid.readFileHeader
  have magic := laid.readMagic
  have optionalHeader := laid.readOptionalHeader
  simp only [optional] at magic optionalHeader directories sections
  rw [Image.parse, laid.readDos]
  simp only [signature, fileHeader, magic, Form.ofMagic?_magic, optionalHeader, directories,
    sections, bind, Except.bind, ne_eq, not_true_eq_false, ↓reduceIte, pure, Except.pure, image]

end Headers
end Pe
end TestAtlas
