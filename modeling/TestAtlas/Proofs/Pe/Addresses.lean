import Mathlib.Data.List.Pairwise
import Mathlib.Tactic.ByContra
import TestAtlas.Proofs.Bytes.Stretch
import TestAtlas.Proofs.Pe.ImportTable

/-!
From addresses of the loaded image to places in the file. A section is loaded over
the larger of two sizes, and only one of them is that of its bytes in the file.
Where sections keep apart, addresses that have bytes in the file never meet there.
An address of a section that has none comes out behind the bytes of that section,
and so it may meet an address of another one.
-/

namespace TestAtlas
namespace Pe

open LittleEndian

namespace Section

variable {s : Section} {address : Int}

/-- The addresses over which a section is loaded. -/
def loaded (s : Section) : Stretch := ⟨s.address, max s.virtualSize s.rawSize⟩

/-- The bytes of the file that belong to a section. -/
def stored (s : Section) : Stretch := ⟨s.position, s.rawSize⟩

/-- The addresses that the bytes of a section are loaded to. -/
def backed (s : Section) : Stretch := ⟨s.address, s.rawSize⟩

/-- Where a section puts an address. -/
def place (s : Section) (address : Int) : Int := address - s.address + s.position

/-- A section is loaded over an address and has no byte in the file for it. -/
def Overhangs (s : Section) (address : Int) : Prop :=
  s.loaded.Contains address ∧ ¬ s.backed.Contains address

instance : Decidable (s.Overhangs address) := inferInstanceAs (Decidable (_ ∧ _))

theorem covers_iff_contains : s.covers address = true ↔ s.loaded.Contains address := by
  simp only [covers, loaded, Stretch.Contains, Stretch.stop, Bool.and_eq_true, decide_eq_true_eq]
  omega

theorem stored_contains_place (backed : s.backed.Contains address) :
    s.stored.Contains (s.place address) := by
  simp only [Section.backed, stored, place, Stretch.Contains, Stretch.stop] at backed ⊢
  omega

theorem Overhangs.stop_le_place (overhangs : s.Overhangs address) :
    (s.stored.stop : Int) ≤ s.place address := by
  simp only [Overhangs, loaded, backed, stored, place, Stretch.Contains, Stretch.stop]
    at overhangs ⊢
  omega

end Section

namespace Image

variable {image : Image} {s other : Section} {address first second place : Int}

/-- The headers at the front of the file, which are loaded as they are. -/
def headers (image : Image) : Stretch := ⟨0, image.headersSize⟩

/-- The sections keep apart from each other and from the headers, both where they are loaded and in
the file. -/
structure Separated (image : Image) : Prop where
  loaded : image.sections.Pairwise fun first second => first.loaded.Apart second.loaded
  stored : image.sections.Pairwise fun first second => first.stored.Apart second.stored
  beside : ∀ s ∈ image.sections, s.loaded.Apart image.headers ∧ s.stored.Apart image.headers

/-- Sections that are apart share no place unless they are the same one. -/
theorem eq_of_contains {sections : List Section} (stretch : Section → Stretch)
    (apart : sections.Pairwise fun first second => (stretch first).Apart (stretch second))
    (member : s ∈ sections) (found : other ∈ sections) (left : (stretch s).Contains place)
    (right : (stretch other).Contains place) : s = other := by
  have symmetric : Std.Symm fun first second => (stretch first).Apart (stretch second) :=
    ⟨fun _ _ apart => apart.symm⟩
  by_contra different
  exact apart.forall member found different place left right

theorem position_of_uncovered (uncovered : ∀ s ∈ image.sections, ¬ s.loaded.Contains address) :
    image.position address =
      if address < image.headersSize then .ok address else .error (.unmapped address) := by
  have none : image.sections.find? (·.covers address) = none :=
    List.find?_eq_none.mpr fun s member covers =>
      uncovered s member (Section.covers_iff_contains.mp covers)
  rw [position, none]

namespace Separated

variable (separated : image.Separated)

include separated

/-- The first section that covers an address is the only one. -/
theorem position_of_covered (member : s ∈ image.sections) (covered : s.loaded.Contains address) :
    image.position address = .ok (s.place address) := by
  rw [position]
  split
  · rename_i first found
    have covers : first.covers address = true := by simpa using List.find?_some found
    have same : first = s := eq_of_contains Section.loaded separated.loaded
      (List.mem_of_find?_eq_some found) member (Section.covers_iff_contains.mp covers) covered
    rw [same, Section.place]
  · rename_i none
    exact absurd (Section.covers_iff_contains.mpr covered) (List.find?_eq_none.mp none s member)

/-- An address that is found is put by its section, or stays as it is inside the headers. -/
theorem cases_of_position (found : image.position address = .ok place) :
    (∃ s ∈ image.sections, s.loaded.Contains address ∧ s.place address = place) ∨
      (∀ s ∈ image.sections, ¬ s.loaded.Contains address) ∧ address = place ∧
        address < image.headersSize := by
  by_cases covered : ∃ s ∈ image.sections, s.loaded.Contains address
  · obtain ⟨s, member, covered⟩ := covered
    rw [separated.position_of_covered member covered] at found
    exact .inl ⟨s, member, covered, Except.ok.inj found⟩
  · have uncovered : ∀ s ∈ image.sections, ¬ s.loaded.Contains address :=
      fun s member contains => covered ⟨s, member, contains⟩
    rw [position_of_uncovered uncovered] at found
    split at found
    · rename_i inside
      exact .inr ⟨uncovered, Except.ok.inj found, inside⟩
    · cases found

/-- An address of the headers and one of a section meet only where the section has no byte. -/
theorem overhangs_of_headers (member : s ∈ image.sections) (covered : s.loaded.Contains address)
    (place_lt : s.place address < image.headersSize) : s.Overhangs address := by
  refine ⟨covered, fun backed => ?_⟩
  have stored := Section.stored_contains_place backed
  refine (separated.beside s member).2 _ stored ⟨?_, ?_⟩
  · exact Int.le_trans (Int.natCast_nonneg _) stored.1
  · simpa [headers, Stretch.stop] using place_lt

/-- Addresses of two sections meet only where one of these has no byte. -/
theorem overhangs_of_sections (member : s ∈ image.sections) (found : other ∈ image.sections)
    (different : s ≠ other) (left : s.loaded.Contains first) (right : other.loaded.Contains second)
    (meet : s.place first = other.place second) : s.Overhangs first ∨ other.Overhangs second := by
  by_contra neither
  obtain ⟨within, behind⟩ := not_or.mp neither
  have inFirst : s.backed.Contains first := by_contra fun missing => within ⟨left, missing⟩
  have inSecond : other.backed.Contains second := by_contra fun missing => behind ⟨right, missing⟩
  refine different (eq_of_contains Section.stored separated.stored member found
    (Section.stored_contains_place inFirst) ?_)
  rw [meet]
  exact Section.stored_contains_place inSecond

/-- No address is in two sections. -/
theorem not_contains (member : s ∈ image.sections) (found : other ∈ image.sections)
    (different : s ≠ other) (covered : s.loaded.Contains address) :
    ¬ other.loaded.Contains address :=
  fun both => different (eq_of_contains Section.loaded separated.loaded member found covered both)

theorem overhangs_of_meet (different : first ≠ second) (left : image.position first = .ok place)
    (right : image.position second = .ok place) :
    ∃ s ∈ image.sections, s.Overhangs first ∧ ¬ s.loaded.Contains second ∨
      s.Overhangs second ∧ ¬ s.loaded.Contains first := by
  obtain ⟨s, member, covered, meet⟩ | ⟨outside, same, inside⟩ :=
    separated.cases_of_position left <;>
  obtain ⟨other, found, covered', meet'⟩ | ⟨outside', same', inside'⟩ :=
    separated.cases_of_position right
  case inl.inl =>
    by_cases equal : s = other
    · -- Within one section addresses stay as far from each other as they are.
      subst equal
      rw [Section.place] at meet meet'
      omega
    · obtain overhangs | overhangs := separated.overhangs_of_sections member found equal covered
        covered' (meet.trans meet'.symm)
      · exact ⟨s, member, .inl ⟨overhangs,
          separated.not_contains found member (Ne.symm equal) covered'⟩⟩
      · exact ⟨other, found, .inr ⟨overhangs,
          separated.not_contains member found equal covered⟩⟩
  case inl.inr =>
    exact ⟨s, member, .inl ⟨separated.overhangs_of_headers member covered (by omega),
      outside' s member⟩⟩
  case inr.inl =>
    exact ⟨other, found, .inr ⟨separated.overhangs_of_headers found covered' (by omega),
      outside other found⟩⟩
  case inr.inr => exact absurd (same.trans same'.symm) different

end Separated
end Image

/-- Addresses of an image whose sections keep apart. Two of them meet in the file only where a
section that is loaded over one of them, and not over the other, has no byte for it. Every address
of a section is put as far behind the start of its bytes as it is behind the start of the section:
into these bytes, or behind them where there are too few. Others stay unchanged inside the headers,
and fail behind these. -/
theorem position_separates {image : Image} (separated : image.Separated) :
    (∀ first second place, first ≠ second → image.position first = .ok place →
      image.position second = .ok place → ∃ s ∈ image.sections,
        s.Overhangs first ∧ ¬ s.loaded.Contains second ∨
          s.Overhangs second ∧ ¬ s.loaded.Contains first) ∧
    (∀ s ∈ image.sections, ∀ address, s.loaded.Contains address →
      image.position address = .ok (s.place address) ∧
      (s.backed.Contains address → s.stored.Contains (s.place address)) ∧
      (¬ s.backed.Contains address → (s.stored.stop : Int) ≤ s.place address)) ∧
    ∀ address, (∀ s ∈ image.sections, ¬ s.loaded.Contains address) →
      image.position address =
        if address < image.headersSize then .ok address else .error (.unmapped address) := by
  refine ⟨fun first second place => separated.overhangs_of_meet,
    fun s member address covered => ⟨separated.position_of_covered member covered,
      Section.stored_contains_place, fun missing => ?_⟩,
    fun address => Image.position_of_uncovered⟩
  exact Section.Overhangs.stop_le_place ⟨covered, missing⟩

namespace Tailed

open Sample (sectionHeader)

/-- A section that is loaded over twice as many addresses as it has bytes. -/
def wide : Section where
  name := List.replicate 8 65
  virtualSize := 0x20
  address := 0x1000
  rawSize := 0x10
  position := 264

/-- A section whose bytes follow those of the wide one. -/
def next : Section where
  name := List.replicate 8 66
  virtualSize := 0x10
  address := 0x2000
  rawSize := 0x10
  position := 280

def tables : Tables where
  headersSize := 264
  directories := []
  sections := [wide, next]

def headers : Headers :=
  { Sample.headers .narrow with
    characteristics := 0x102
    optionalSize := 96
    directoryCount := 0
    characteristics_lt := by decide
    optionalSize_lt := by decide
    directoryCount_lt := by decide }

def file : Array UInt8 :=
  ((encode 2 Image.dosSignature ++ List.replicate 58 0 ++ encode 4 64) ++
    encode 4 Image.signature ++
    (encode 2 0x14C ++ encode 2 2 ++ List.replicate 12 0 ++ encode 2 96 ++ encode 2 0x102) ++
    (encode 2 0x10B ++ List.replicate 26 0 ++ encode 4 0x400000 ++ List.replicate 28 0 ++
      encode 4 264 ++ List.replicate 28 0 ++ encode 4 0) ++
    (sectionHeader wide ++ sectionHeader next) ++
    (List.replicate 16 1 ++ List.replicate 16 2)).toArray

theorem laidOut : headers.LaidOut tables file where
  dos := ⟨List.replicate 58 0, rfl, by decide +kernel⟩
  signature := by decide +kernel
  fileHeader := ⟨List.replicate 12 0, rfl, by decide +kernel⟩
  optionalHeader := ⟨List.replicate 26 0, List.replicate 28 0, List.replicate 28 0, rfl, rfl, rfl,
    by decide +kernel⟩
  headersSize_lt := by decide
  sectionCount_lt := by decide
  directoryCount := rfl
  directories := .nil _
  sections := by
    have writtenWide : wide.Written (sectionHeader wide) :=
      .mk rfl (by decide) (by decide) (by decide) (by decide) rfl
    have writtenNext : next.Written (sectionHeader next) :=
      .mk rfl (by decide) (by decide) (by decide) (by decide) rfl
    exact .cons writtenWide (by decide +kernel) (.cons writtenNext (by decide +kernel) (.nil _))

def image : Image := headers.image tables file

theorem separated : image.Separated where
  loaded := by decide
  stored := by decide
  beside := by decide

end Tailed

/-- Two sections side by side in the file, the first of which is loaded over more addresses than it
has bytes. -/
theorem position_separates_tailed :
    Image.parse Tailed.file = .ok Tailed.image ∧ Tailed.image.Separated ∧
      Tailed.image.position 0x100F = .ok 279 ∧ Tailed.image.position 0x2000 = .ok 280 ∧
      Tailed.image.position 0x3000 = .error (.unmapped 0x3000) ∧
      ∃ s ∈ Tailed.image.sections, s.Overhangs 0x1010 ∧ ¬ s.loaded.Contains 0x2000 ∨
        s.Overhangs 0x2000 ∧ ¬ s.loaded.Contains 0x1010 := by
  obtain ⟨meets, covered, uncovered⟩ := position_separates Tailed.separated
  refine ⟨Headers.parse_of_laidOut Tailed.laidOut, Tailed.separated, ?_, ?_, ?_, ?_⟩
  · exact (covered Tailed.wide (by decide) 0x100F (by decide)).1
  · exact (covered Tailed.next (by decide) 0x2000 (by decide)).1
  · exact uncovered 0x3000 (by decide)
  · exact meets 0x1010 0x2000 280 (by decide) rfl rfl

/-- The first address behind the bytes of a section is found at the first byte of the next one. -/
theorem position_aliases :
    Image.parse Tailed.file = .ok Tailed.image ∧ Tailed.image.Separated ∧
      Tailed.wide ∈ Tailed.image.sections ∧ Tailed.wide.Overhangs 0x1010 ∧
      ¬ Tailed.wide.stored.Contains 280 ∧ Tailed.next.backed.Contains 0x2000 ∧
      Tailed.image.position 0x1010 = .ok 280 ∧ Tailed.image.position 0x2000 = .ok 280 :=
  ⟨Headers.parse_of_laidOut Tailed.laidOut, Tailed.separated, by decide, by decide, by decide,
    by decide, rfl, rfl⟩

end Pe
end TestAtlas
