import TestAtlas.Pe.DebugInfo
import TestAtlas.Proofs.Pe.Headers
import TestAtlas.Proofs.Text.Utf8

/-!
The way along the debug directory to the record that names a program database.
Entries of other types and entries that point nowhere are passed over. Any other
entry has its record read as a whole before it is known whether this is of the right
kind, so a record of another kind is passed over only where the file goes on long
enough.
-/

namespace TestAtlas
namespace Pe

open LittleEndian

variable {file : Array UInt8} {image : Image}

namespace DebugEntry

variable {entry : DebugEntry} {before others : List DebugEntry} {signature : Nat} {name : Bytes}

/-- The number of bytes in front of the name in a record. -/
def recordSize : Nat := 24

/-- A record where the entry points: a signature, twenty bytes that nothing depends on, and a
name. -/
inductive Record (file : Array UInt8) (entry : DebugEntry) :
    (signature : Nat) → (name : Bytes) → Prop
  | mk {signature : Nat} {identity name : Bytes} (signature_lt : signature < limit 4)
      (length_identity : identity.length = 20)
      (fixed : encode 4 signature ++ identity <+: file.toList.drop entry.position)
      (plain : 0 ∉ name)
      (named : name ++ [0] <+: file.toList.drop (entry.position + recordSize)) :
      Record file entry signature name

/-- Where the entry points, the file goes on for the fixed part of a record and then has a zero
byte. -/
def IsWhole (file : Array UInt8) (entry : DebugEntry) : Prop :=
  entry.position + recordSize ≤ file.size ∧ 0 ∈ file.toList.drop (entry.position + recordSize)

instance (file : Array UInt8) (entry : DebugEntry) : Decidable (entry.IsWhole file) :=
  inferInstanceAs (Decidable (_ ∧ _))

/-- The entry points at a record of the right kind, with this name. -/
def Refers (file : Array UInt8) (entry : DebugEntry) (name : Bytes) : Prop :=
  entry.isReference = true ∧ entry.Record file recordSignature name

/-- The entry has nothing to read, or it can be read. -/
def IsReadable (file : Array UInt8) (entry : DebugEntry) : Prop :=
  entry.isReference = true → entry.IsWhole file

instance (file : Array UInt8) (entry : DebugEntry) : Decidable (entry.IsReadable file) :=
  inferInstanceAs (Decidable (_ → _))

/-- What runs out where there is no whole record. -/
def shortage (file : Array UInt8) (entry : DebugEntry) : ReadError :=
  if entry.position + recordSize ≤ file.size then .short 0 1 else .record

/-- The signature of the record, whose whole fixed part is read. -/
def readSignature (file : Array UInt8) (entry : DebugEntry) : Except Error Nat :=
  readRecord file entry.position recordSize do
    let signature ← Reader.u32
    Reader.skip 20
    return signature

theorem fileName?_eq (file : Array UInt8) (entry : DebugEntry) :
    entry.fileName? file = (do
      let signature ← entry.readSignature file
      let name ← readText file (entry.position + recordSize)
      return if signature = recordSignature then some name else none) := rfl

theorem readSignature_of_begins {identity : Bytes} (signature_lt : signature < limit 4)
    (length_identity : identity.length = 20)
    (fixed : encode 4 signature ++ identity <+: file.toList.drop entry.position) :
    entry.readSignature file = .ok signature := by
  refine readRecord_of_begins ?_ ?_ fixed
  · exact .bind (.field signature_lt) (.bind_pure (.skip length_identity) rfl)
  · rw [List.length_append, length_encode, length_identity, recordSize]

theorem exists_signature (room : entry.position + recordSize ≤ file.size) :
    ∃ signature identity, signature < limit 4 ∧ identity.length = 20 ∧
      encode 4 signature ++ identity <+: file.toList.drop entry.position := by
  generalize bytes : file.toList.drop entry.position = stretch
  have long : recordSize ≤ stretch.length := by
    rw [← bytes, List.length_drop, Array.length_toList]
    exact Nat.le_sub_of_add_le' room
  have length_front : (stretch.take 4).length = 4 :=
    List.length_take_of_le (Nat.le_trans (by decide) long)
  refine ⟨decode (stretch.take 4), (stretch.drop 4).take 20, decode_lt length_front, ?_, ?_⟩
  · rw [List.length_take_of_le]
    rw [List.length_drop]
    exact Nat.le_sub_of_add_le long
  · rw [encode_decode length_front, ← List.take_add]
    exact List.take_prefix ..

theorem readSignature_of_few (few : file.size < entry.position + recordSize) :
    entry.readSignature file = .error (.truncated .record) := by
  have short : (slice file entry.position recordSize).length < 4 + (20 + 0) := by
    rw [slice_eq_take_drop, List.length_take, List.length_drop, Array.length_toList]
    simp only [recordSize] at few ⊢
    omega
  rw [readSignature, readRecord, Reader.run_of_few ?_ ?_ short]
  · exact .bind (.field 4) fun _ => .bind (.skip 20) fun _ => .pure _
  · exact .bind (.field 4) fun _ => .bind (.skip 20) fun _ => .pure _

theorem readText_of_absent {position : Nat} (absent : 0 ∉ file.toList.drop position) :
    readText file position = .error (.truncated (.short 0 1)) := by
  have none : 0 ∉ slice file position (file.size - position) := by
    rw [slice_eq_take_drop]
    exact fun member => absent (List.mem_of_mem_take member)
  rw [readText, readRecord, Reader.run_terminated_of_absent none]
  rfl

/-- What goes on long enough is a record of some kind. -/
theorem isWhole_iff :
    entry.IsWhole file ↔ ∃ signature name, entry.Record file signature name := by
  constructor
  · rintro ⟨room, ended⟩
    obtain ⟨signature, identity, signature_lt, length_identity, fixed⟩ := exists_signature room
    obtain ⟨name, rest, split, plain⟩ := List.eq_append_cons_of_mem ended
    have named : name ++ [0] <+: file.toList.drop (entry.position + recordSize) :=
      ⟨rest, by rw [split, List.append_assoc]; rfl⟩
    exact ⟨signature, name, .mk signature_lt length_identity fixed plain named⟩
  · rintro ⟨signature, name, -, length_identity, fixed, -, named⟩
    have room := fixed.length_le
    simp only [List.length_append, length_encode, length_identity, List.length_drop,
      Array.length_toList] at room
    refine ⟨?_, named.subset (List.mem_append_right _ List.mem_cons_self)⟩
    rw [recordSize]
    omega

/-- A whole record is read, and it counts if it is of the right kind. -/
theorem Record.fileName?_eq (record : entry.Record file signature name) :
    entry.fileName? file =
      .ok (if signature = recordSignature then some (Utf8.decode name) else none) := by
  obtain ⟨signature_lt, length_identity, fixed, plain, named⟩ := record
  rw [DebugEntry.fileName?_eq, readSignature_of_begins signature_lt length_identity fixed,
    readText_of_begins plain named]
  rfl

theorem Record.signature_eq (record : entry.Record file signature name) :
    decode ((file.toList.drop entry.position).take 4) = signature := by
  obtain ⟨signature_lt, -, ⟨rest, split⟩, -, -⟩ := record
  rw [← split, List.append_assoc, List.take_left' (length_encode ..), decode_encode signature_lt]

/-- Where there is no whole record, the bytes run out in its fixed part or in its name. -/
theorem fileName?_of_not_isWhole (cut : ¬ entry.IsWhole file) :
    entry.fileName? file = .error (.truncated (entry.shortage file)) := by
  rw [fileName?_eq, shortage]
  split
  · rename_i room
    obtain ⟨signature, identity, signature_lt, length_identity, fixed⟩ := exists_signature room
    rw [readSignature_of_begins signature_lt length_identity fixed,
      readText_of_absent fun ended => cut ⟨room, ended⟩]
    rfl
  · rename_i few
    rw [readSignature_of_few (Nat.lt_of_not_le few)]
    rfl

theorem firstFileName?_cons_of_refers (refers : entry.Refers file name)
    (others : List DebugEntry) :
    firstFileName? file (entry :: others) = .ok (some (Utf8.decode name)) := by
  rw [firstFileName?, if_pos refers.1, refers.2.fileName?_eq, if_pos rfl]

/-- An entry that has nothing to read, or the record of another kind, is passed over. -/
theorem firstFileName?_cons_of_readable (readable : entry.IsReadable file)
    (other : ∀ name, ¬ entry.Refers file name) (others : List DebugEntry) :
    firstFileName? file (entry :: others) = firstFileName? file others := by
  rw [firstFileName?]
  split
  · rename_i reference
    obtain ⟨signature, name, record⟩ := isWhole_iff.mp (readable reference)
    have different : signature ≠ recordSignature := by
      rintro rfl
      exact other name ⟨reference, record⟩
    rw [record.fileName?_eq, if_neg different]
  · rfl

theorem firstFileName?_cons_of_not_readable (unreadable : ¬ entry.IsReadable file)
    (others : List DebugEntry) :
    firstFileName? file (entry :: others) = .error (.truncated (entry.shortage file)) := by
  obtain ⟨reference, cut⟩ := Classical.not_imp.mp unreadable
  rw [firstFileName?, if_pos reference, fileName?_of_not_isWhole cut]

theorem firstFileName?_append (readable : ∀ earlier ∈ before, earlier.IsReadable file)
    (foreign : ∀ earlier ∈ before, ∀ name, ¬ earlier.Refers file name)
    (others : List DebugEntry) :
    firstFileName? file (before ++ others) = firstFileName? file others := by
  induction before with
  | nil => rfl
  | cons earlier rest ih =>
      obtain ⟨readable, later⟩ := List.forall_mem_cons.mp readable
      obtain ⟨other, foreign⟩ := List.forall_mem_cons.mp foreign
      rw [List.cons_append, firstFileName?_cons_of_readable readable other, ih later foreign]

/-- Either all entries can be read, or there is a first one that cannot. -/
theorem readable_or_stuck (file : Array UInt8) (entries : List DebugEntry) :
    (∀ entry ∈ entries, entry.IsReadable file) ∨ ∃ clear stuck rest,
      entries = clear ++ stuck :: rest ∧ (∀ entry ∈ clear, entry.IsReadable file) ∧
      ¬ stuck.IsReadable file := by
  induction entries with
  | nil => exact .inl (List.forall_mem_nil _)
  | cons entry others ih =>
      by_cases readable : entry.IsReadable file
      · obtain all | ⟨clear, stuck, rest, rfl, cleared, unreadable⟩ := ih
        · exact .inl (List.forall_mem_cons.mpr ⟨readable, all⟩)
        · exact .inr ⟨entry :: clear, stuck, rest, rfl,
            List.forall_mem_cons.mpr ⟨readable, cleared⟩, unreadable⟩
      · exact .inr ⟨[], entry, others, rfl, List.forall_mem_nil _, readable⟩

end DebugEntry

theorem Image.databasePath?_eq {directory : DataDirectory} {entries : List DebugEntry}
    (located : image.directory? debugDirectory = .ok (some directory))
    (read : image.debugEntries directory = .ok entries) :
    image.databasePath? = DebugEntry.firstFileName? image.file entries := by
  rw [databasePath?, located]
  change image.debugEntries directory >>= _ = _
  rw [read]
  rfl

/-- The name in the first record of the right kind is found exactly if all entries in front of it
can be read, whatever they are: of another type, pointing nowhere or at a record of another kind.
Otherwise the first one that cannot be read fails the search, which says what runs out there. -/
theorem databasePath_of_first {directory : DataDirectory} {before after : List DebugEntry}
    {entry : DebugEntry} {name : Bytes}
    (located : image.directory? Image.debugDirectory = .ok (some directory))
    (read : image.debugEntries directory = .ok (before ++ entry :: after))
    (refers : entry.Refers image.file name)
    (first : ∀ earlier ∈ before, ∀ other, ¬ earlier.Refers image.file other) :
    (image.databasePath? = .ok (some (Utf8.decode name)) ↔
      ∀ earlier ∈ before, earlier.IsReadable image.file) ∧
    ∀ clear stuck rest, before = clear ++ stuck :: rest →
      (∀ earlier ∈ clear, earlier.IsReadable image.file) → ¬ stuck.IsReadable image.file →
      image.databasePath? = .error (.truncated (stuck.shortage image.file)) := by
  have failed : ∀ clear stuck rest, before = clear ++ stuck :: rest →
      (∀ earlier ∈ clear, earlier.IsReadable image.file) → ¬ stuck.IsReadable image.file →
      image.databasePath? = .error (.truncated (stuck.shortage image.file)) := by
    rintro clear stuck rest rfl cleared unreadable
    have foreign : ∀ earlier ∈ clear, ∀ other, ¬ earlier.Refers image.file other :=
      fun earlier member => first earlier (List.mem_append_left _ member)
    rw [Image.databasePath?_eq located read, List.append_assoc,
      DebugEntry.firstFileName?_append cleared foreign, List.cons_append,
      DebugEntry.firstFileName?_cons_of_not_readable unreadable]
  refine ⟨⟨fun found => ?_, fun readable => ?_⟩, failed⟩
  · obtain readable | ⟨clear, stuck, rest, split, cleared, unreadable⟩ :=
      DebugEntry.readable_or_stuck image.file before
    · exact readable
    · rw [failed clear stuck rest split cleared unreadable] at found
      cases found
  · rw [Image.databasePath?_eq located read, DebugEntry.firstFileName?_append readable first,
      DebugEntry.firstFileName?_cons_of_refers refers]

namespace Sample

def debugRow (type position : Nat) : Bytes :=
  List.replicate 12 0 ++ encode 4 type ++ List.replicate 8 0 ++ encode 4 position

/-- Four entries: one of another type, one that points nowhere, and two that point at records. -/
def debugImage (foreign own : Nat) (records : Bytes) : Image where
  file := ([0] ++ debugRow 4 500 ++ debugRow 2 0 ++ debugRow 2 foreign ++ debugRow 2 own ++
    records).toArray
  machine := 0
  characteristics := 0
  form := .narrow
  imageBase := 0
  headersSize := 1000
  directories := List.replicate 6 ⟨0, 0⟩ ++ [⟨1, 120⟩]
  sections := []

/-- A record of an older kind, whose name begins earlier. -/
def foreignRecord : Bytes :=
  encode 4 0x3031424E ++ List.replicate 12 7 ++ [97, 46, 112, 100, 98, 0]

def ownName : Bytes := [98, 46, 112, 100, 98]

def ownRecord : Bytes :=
  encode 4 DebugEntry.recordSignature ++ List.replicate 20 9 ++ (ownName ++ [0])

/-- The older record is followed by another one. -/
def passing : Image := debugImage 113 135 (foreignRecord ++ ownRecord)

/-- The file ends with the older record. -/
def failing : Image := debugImage 143 113 (ownRecord ++ foreignRecord)

/-- The entries in front of the last one. -/
def earlier (foreign : Nat) : List DebugEntry := [⟨4, 500⟩, ⟨2, 0⟩, ⟨2, foreign⟩]

theorem entries_of_toOption {entries : List DebugEntry}
    (read : (image.debugEntries ⟨1, 120⟩).toOption = some entries) :
    image.debugEntries ⟨1, 120⟩ = .ok entries := by
  cases result : image.debugEntries ⟨1, 120⟩ with
  | error failure =>
      rw [result] at read
      cases read
  | ok found =>
      rw [result] at read
      exact congrArg Except.ok (Option.some.inj read)

theorem passing_entries :
    passing.debugEntries ⟨1, 120⟩ = .ok (earlier 113 ++ ⟨2, 135⟩ :: []) :=
  entries_of_toOption (by decide +kernel)

theorem failing_entries :
    failing.debugEntries ⟨1, 120⟩ = .ok (earlier 143 ++ ⟨2, 113⟩ :: []) :=
  entries_of_toOption (by decide +kernel)

theorem refers_own {own : Nat} (placed : own ≠ 0)
    (fixed : encode 4 DebugEntry.recordSignature ++ List.replicate 20 9 <+:
      file.toList.drop own)
    (named : ownName ++ [0] <+: file.toList.drop (own + DebugEntry.recordSize)) :
    (⟨2, own⟩ : DebugEntry).Refers file ownName :=
  ⟨by simpa [DebugEntry.isReference, DebugEntry.codeView] using placed,
    .mk (by decide) List.length_replicate fixed (by decide) named⟩

theorem not_refers_earlier {foreign : Nat}
    (held : (file.toList.drop foreign).take 4 = encode 4 0x3031424E) :
    ∀ entry ∈ earlier foreign, ∀ name, ¬ entry.Refers file name := by
  simp only [earlier, List.forall_mem_cons]
  refine ⟨fun name refers => absurd refers.1 (by decide),
    fun name refers => absurd refers.1 (by decide), fun name refers => ?_,
    fun entry member => absurd member List.not_mem_nil⟩
  have same := refers.2.signature_eq
  rw [held, decode_encode (by decide)] at same
  revert same
  decide

theorem refers_passing : (⟨2, 135⟩ : DebugEntry).Refers passing.file ownName :=
  refers_own (by decide) (by decide +kernel) (by decide +kernel)

theorem refers_failing : (⟨2, 113⟩ : DebugEntry).Refers failing.file ownName :=
  refers_own (by decide) (by decide +kernel) (by decide +kernel)

end Sample

/-- A record of an older kind is passed over if another record follows it, and fails the search if
the file ends with it. -/
theorem databasePath_of_first_sample :
    Sample.passing.databasePath? = .ok (some "b.pdb") ∧
      Sample.failing.databasePath? = .error (.truncated .record) := by
  have spelled : Utf8.decode Sample.ownName = "b.pdb" := Utf8.decode_encode "b.pdb"
  have passes := databasePath_of_first rfl Sample.passing_entries Sample.refers_passing
    (Sample.not_refers_earlier (by decide +kernel))
  have fails := databasePath_of_first rfl Sample.failing_entries Sample.refers_failing
    (Sample.not_refers_earlier (by decide +kernel))
  constructor
  · rw [passes.1.mpr (by decide +kernel), spelled]
  · have short : (⟨2, 143⟩ : DebugEntry).shortage Sample.failing.file = .record :=
      if_neg (by decide +kernel)
    rw [fails.2 [⟨4, 500⟩, ⟨2, 0⟩] ⟨2, 143⟩ [] rfl (by decide +kernel) (by decide +kernel), short]

end Pe
end TestAtlas
