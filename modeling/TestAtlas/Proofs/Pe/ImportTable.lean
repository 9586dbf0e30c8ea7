import TestAtlas.Proofs.Pe.Walk
import TestAtlas.Proofs.Pe.Headers
import TestAtlas.Proofs.Text.Utf8

/-!
Import tables that were put into an image. A table is a row of descriptors, the
last of which has no name, together with the names that stand elsewhere; it is
described by the stretches of the file that it takes up. Whatever the form of
the headers, the names are read back in the order of the descriptors.
-/

namespace TestAtlas
namespace Pe

open LittleEndian

def Section.Spans (s : Section) (address : Nat) : Prop :=
  s.address ≤ address ∧ address < s.address + max s.virtualSize s.rawSize

instance (s : Section) (address : Nat) : Decidable (s.Spans address) :=
  inferInstanceAs (Decidable (_ ∧ _))

theorem Section.covers_iff {s : Section} {address : Nat} :
    s.covers address = true ↔ s.Spans address := by
  simp only [covers, Spans, Bool.and_eq_true, decide_eq_true_eq]
  omega

namespace Tables

variable {tables : Tables} {address place position : Nat} {stretches : List (Nat × Bytes)}
  {names : List Bytes}

/-- An address goes to a position of the file through the first section in the table that spans it,
or else, inside the headers, to itself. -/
inductive Translates (tables : Tables) (address : Nat) : (position : Nat) → Prop
  | inSection {before after : List Section} {s : Section}
      (split : tables.sections = before ++ s :: after)
      (first : ∀ earlier ∈ before, ¬ earlier.Spans address) (spans : s.Spans address) :
      Translates tables address (address - s.address + s.position)
  | inHeaders (outside : ∀ s ∈ tables.sections, ¬ s.Spans address)
      (inside : address < tables.headersSize) : Translates tables address address

/-- A table of imports from a position on: what has to stand where, and the names. Of a descriptor
only the address of the name matters; it is zero in the last one. -/
inductive ImportTable (tables : Tables) :
    (position : Nat) → (stretches : List (Nat × Bytes)) → (names : List Bytes) → Prop
  | last {position : Nat} {front back : Bytes} (length_front : front.length = 12)
      (length_back : back.length = 4) :
      ImportTable tables position [(position, front ++ encode 4 0 ++ back)] []
  | entry {position address place : Nat} {front back name : Bytes}
      {stretches : List (Nat × Bytes)} {names : List Bytes}
      (length_front : front.length = 12) (length_back : back.length = 4) (named : address ≠ 0)
      (address_lt : address < limit 4) (translated : tables.Translates address place)
      (plain : 0 ∉ name)
      (rest : ImportTable tables (position + Image.descriptorSize) stretches names) :
      ImportTable tables position
        ((position, front ++ encode 4 address ++ back) :: (place, name ++ [0]) :: stretches)
        (name :: names)

end Tables

/-- Everything stands in the file where it has to. -/
def Holds (file : Array UInt8) (stretches : List (Nat × Bytes)) : Prop :=
  ∀ stretch ∈ stretches, stretch.2 <+: file.toList.drop stretch.1

namespace Image

variable {image : Image} {address place position : Nat}
  {stretches : List (Nat × Bytes)} {names : List Bytes}

def tables (image : Image) : Tables where
  headersSize := image.headersSize
  directories := image.directories
  sections := image.sections

theorem readPosition_of_translates (translated : image.tables.Translates address place) :
    image.readPosition address = .ok place := by
  have goes : image.position address = .ok (place : Int) := by
    cases translated with
    | @inSection before after s split first spans =>
        have found : image.sections.find? (·.covers address) = some s := by
          refine List.find?_eq_some_iff_append.mpr
            ⟨Section.covers_iff.mpr spans, before, after, split, ?_⟩
          intro earlier member
          rw [Bool.not_eq_true', ← Bool.not_eq_true, Section.covers_iff]
          exact first earlier member
        have below := spans.1
        rw [Image.position, found]
        simp only [Except.ok.injEq]
        omega
    | inHeaders outside inside =>
        have missing : image.sections.find? (·.covers address) = none := by
          refine List.find?_eq_none.mpr fun s member covers => ?_
          exact outside s member (Section.covers_iff.mp covers)
        rw [Image.position, missing]
        exact if_pos (Int.ofNat_lt.mpr inside)
  rw [readPosition, goes]
  simp only [bind, Except.bind, pure, Except.pure]
  rw [if_neg (Int.not_lt.mpr (Int.natCast_nonneg place)), Int.toNat_natCast]

theorem readDescriptor_of_begins {file : Array UInt8} {front back : Bytes}
    (length_front : front.length = 12) (length_back : back.length = 4)
    (address_lt : address < limit 4)
    (begins : front ++ encode 4 address ++ back <+: file.toList.drop position) :
    readDescriptor file position = .ok address := by
  refine readRecord_of_begins ?_ ?_ begins
  · rw [List.append_assoc]
    exact .bind (.skip length_front) <| .bind (.field address_lt) <|
      .bind_pure (.skip length_back) rfl
  · simp only [List.length_append, length_encode, length_front, length_back, descriptorSize]

/-- The walk along the descriptors takes up the names in their order. -/
theorem walk_of_importTable (table : image.tables.ImportTable position stretches names)
    (held : Holds image.file stretches) :
    Walk image position (names.map Utf8.decode) none := by
  induction table with
  | last length_front length_back =>
      exact .last (readDescriptor_of_begins length_front length_back (by decide)
        (held _ List.mem_cons_self))
  | @entry position address place front back name _ _ length_front length_back named address_lt
      translated plain _ ih =>
      have read := readDescriptor_of_begins length_front length_back address_lt
        (held _ List.mem_cons_self)
      have spelled : image.textAt address = .ok (Utf8.decode name) := by
        rw [textAt, readPosition_of_translates translated]
        exact readText_of_begins plain (held (place, name ++ [0]) (by simp))
      exact .entry read named spelled <| ih fun stretch member =>
        held stretch (List.mem_cons_of_mem _ (List.mem_cons_of_mem _ member))

theorem directory?_import {directory : DataDirectory} (located : image.directories[1]? = some directory)
    (loaded : directory.address ≠ 0) (sized : directory.size ≠ 0) :
    image.directory? importDirectory = .ok (some directory) := by
  obtain ⟨present, -⟩ := List.getElem?_eq_some_iff.mp located
  have enough : ¬ ((image.directories.length : Int) ≤ 1) := by omega
  simp only [directory?, importDirectory, enough, if_false, Int.reduceLT, Int.reduceToNat, located,
    loaded, sized, or_self]

theorem imports_of_importTable {directory : DataDirectory}
    (table : image.tables.ImportTable position stretches names)
    (held : Holds image.file stretches) (located : image.directories[1]? = some directory)
    (loaded : directory.address ≠ 0) (sized : directory.size ≠ 0)
    (translated : image.tables.Translates directory.address position) :
    image.imports = .ok (names.map Utf8.decode) := by
  rw [imports, directory?_import located loaded sized]
  change image.readPosition directory.address >>= walkImports image [] = _
  rw [readPosition_of_translates translated]
  exact (walk_of_importTable table held).walkImports_eq []

end Image

/-- An image with a table of imports imports the names of the table, in the order of the
descriptors, whatever else stands in the descriptors and in the headers, and wherever the headers
stand. So an image in the narrow form and one in the wide form import the same if they have the
same tables. -/
theorem imports_of_laidOut {tables : Tables} {directory : DataDirectory} {position : Nat}
    {stretches : List (Nat × Bytes)} {names : List Bytes}
    (table : tables.ImportTable position stretches names)
    (located : tables.directories[1]? = some directory) (loaded : directory.address ≠ 0)
    (sized : directory.size ≠ 0) (translated : tables.Translates directory.address position) :
    (∀ (headers : Headers) (file : Array UInt8), headers.LaidOut tables file →
      Holds file stretches →
      Image.parse file >>= Image.imports = .ok (names.map Utf8.decode)) ∧
    ∀ (narrow wide : Headers) (file other : Array UInt8),
      narrow.form = .narrow → wide.form = .wide →
      narrow.LaidOut tables file → wide.LaidOut tables other →
      Holds file stretches → Holds other stretches →
      Image.parse file >>= Image.imports = Image.parse other >>= Image.imports := by
  have imported (headers : Headers) (file : Array UInt8) (laid : headers.LaidOut tables file)
      (held : Holds file stretches) :
      Image.parse file >>= Image.imports = .ok (names.map Utf8.decode) := by
    rw [Headers.parse_of_laidOut laid]
    change (headers.image tables file).imports = _
    exact Image.imports_of_importTable table held located loaded sized translated
  refine ⟨imported, ?_⟩
  intro narrow wide file other _ _ laid laid' held held'
  rw [imported narrow file laid held, imported wide other laid' held']

namespace Sample

def above : Section where
  name := [1, 2, 3, 4, 5, 6, 7, 8]
  virtualSize := 16
  address := 0x3000
  rawSize := 16
  position := 0

def data : Section where
  name := List.replicate 8 0
  virtualSize := 96
  address := 0x1000
  rawSize := 8
  position := 300

/-- The table of imports is in the second section. -/
def tables : Tables where
  headersSize := 400
  directories := [⟨0, 0⟩, ⟨0x1004, 1⟩]
  sections := [above, data]

def headers (form : Form) : Headers where
  form := form
  start := 64
  machine := 0x14C
  characteristics := 2
  optionalSize := OptionalHeader.size form + 16
  imageBase := 0x400000
  directoryCount := 2
  start_lt := by decide
  machine_lt := by decide
  characteristics_lt := by decide
  optionalSize_lt := by cases form <;> decide
  imageBase_lt := by cases form <;> decide
  directoryCount_lt := by decide

def sectionHeader (s : Section) : Bytes :=
  s.name ++ encode 4 s.virtualSize ++ encode 4 s.address ++ encode 4 s.rawSize ++
    encode 4 s.position ++ List.replicate 16 0

def descriptor (address : Nat) : Bytes :=
  List.replicate 12 9 ++ encode 4 address ++ [1, 2, 3, 4]

/-- The name of the first module is in a section, that of the second is in the headers. -/
def stretches : List (Nat × Bytes) := [
  (304, descriptor 0x1040), (364, [97, 46, 100, 108, 108] ++ [0]),
  (324, descriptor 370), (370, [195, 169] ++ [0]),
  (344, descriptor 0)]

def front (form : Form) : Bytes :=
  (encode 2 Image.dosSignature ++ List.replicate 58 0 ++ encode 4 64) ++
    encode 4 Image.signature ++
    (encode 2 0x14C ++ encode 2 2 ++ List.replicate 12 0 ++
      encode 2 (OptionalHeader.size form + 16) ++ encode 2 2) ++
    (encode 2 form.magic ++ List.replicate form.gaps.1 0 ++ encode form.baseWidth 0x400000 ++
      List.replicate 28 0 ++ encode 4 400 ++ List.replicate form.gaps.2 0 ++ encode 4 2) ++
    (encode 4 0 ++ encode 4 0 ++ (encode 4 0x1004 ++ encode 4 1)) ++
    (sectionHeader above ++ sectionHeader data)

def file (form : Form) : Array UInt8 :=
  (front form ++ List.replicate (304 - (front form).length) 0 ++ descriptor 0x1040 ++
    descriptor 370 ++ descriptor 0 ++ [97, 46, 100, 108, 108, 0, 195, 169, 0]).toArray

theorem importTable :
    tables.ImportTable 304 stretches [[97, 46, 100, 108, 108], [195, 169]] := by
  have inData : tables.Translates 0x1040 364 :=
    @Tables.Translates.inSection tables 0x1040 [above] [] data rfl (by decide) (by decide)
  have inHeaders : tables.Translates 370 370 := .inHeaders (by decide) (by decide)
  exact .entry rfl rfl (by decide) (by decide) inData (by decide) <|
    .entry rfl rfl (by decide) (by decide) inHeaders (by decide) (.last rfl rfl)

theorem laidOut (form : Form) : (headers form).LaidOut tables (file form) where
  dos := ⟨List.replicate 58 0, rfl, by cases form <;> decide +kernel⟩
  signature := by cases form <;> decide +kernel
  fileHeader := ⟨List.replicate 12 0, rfl, by cases form <;> decide +kernel⟩
  optionalHeader := ⟨List.replicate form.gaps.1 0, List.replicate 28 0,
    List.replicate form.gaps.2 0, List.length_replicate, rfl, List.length_replicate,
    by cases form <;> decide +kernel⟩
  headersSize_lt := by decide
  sectionCount_lt := by decide
  directoryCount := rfl
  directories :=
    .cons (.mk (by decide) (by decide)) (by cases form <;> decide +kernel) <|
    .cons (.mk (by decide) (by decide)) (by cases form <;> decide +kernel) (.nil _)
  sections := by
    have writtenAbove : above.Written (sectionHeader above) :=
      .mk rfl (by decide) (by decide) (by decide) (by decide) rfl
    have writtenData : data.Written (sectionHeader data) :=
      .mk rfl (by decide) (by decide) (by decide) (by decide) rfl
    exact .cons writtenAbove (by cases form <;> decide +kernel) <|
      .cons writtenData (by cases form <;> decide +kernel) (.nil _)

theorem holds (form : Form) : Holds (file form) stretches := by
  unfold Holds
  cases form <;> decide +kernel

end Sample

/-- Two modules, in the narrow and in the wide form. -/
theorem imports_of_laidOut_sample :
    Sample.tables.Translates 0x1004 304 ∧
      (∀ form, (Sample.headers form).LaidOut Sample.tables (Sample.file form) ∧
        Holds (Sample.file form) Sample.stretches ∧
        Image.parse (Sample.file form) >>= Image.imports = .ok ["a.dll", "é"]) ∧
      Image.parse (Sample.file .narrow) >>= Image.imports =
        Image.parse (Sample.file .wide) >>= Image.imports := by
  have translated : Sample.tables.Translates 0x1004 304 :=
    @Tables.Translates.inSection _ 0x1004 [Sample.above] [] Sample.data rfl (by decide) (by decide)
  have imported := imports_of_laidOut Sample.importTable rfl (by decide) (by decide) translated
  have spelled : [[97, 46, 100, 108, 108], [195, 169]].map Utf8.decode = ["a.dll", "é"] := by
    change [Utf8.decode (Utf8.encode "a.dll"), Utf8.decode (Utf8.encode "é")] = _
    rw [Utf8.decode_encode, Utf8.decode_encode]
  refine ⟨translated, fun form => ⟨Sample.laidOut form, Sample.holds form, ?_⟩, ?_⟩
  · rw [imported.1 _ _ (Sample.laidOut form) (Sample.holds form), spelled]
  · exact imported.2 _ _ _ _ rfl rfl (Sample.laidOut .narrow) (Sample.laidOut .wide)
      (Sample.holds .narrow) (Sample.holds .wide)

end Pe
end TestAtlas
