import TestAtlas.Proofs.Pdb.NamedStreams

/-!
The string table is found by the name of its stream, and the name of every file
is found in it at the offset that the file was given.
-/

namespace TestAtlas
namespace Pdb
namespace Writer

open LittleEndian

variable {opened : Container} {files : List String} {file : String} {number : Nat}

/-- The hash table of a names stream. It has one bucket. -/
def namesTable (h : number < limit 4) : NamedStreams.HashTable where
  opened := encode 4 20000404 ++ encode 4 0x12345678 ++ encode 4 1 ++ List.replicate 16 0
  names := text StringTable.streamName
  count := 1
  capacity := 1
  present := [1]
  deleted := []
  entries := [⟨StringTable.streamName, number, 0, 0⟩]
  opened_length := rfl
  names_lt := by decide
  count_lt := by decide
  capacity_lt := by decide
  present_lt := by decide
  deleted_lt := by decide
  number_lt := List.forall_mem_singleton.mpr h
  plain := List.forall_mem_singleton.mpr (show '\x00' ∉ StringTable.streamName.toList by decide)
  named := List.forall_mem_singleton.mpr ⟨[], [], (List.nil_append _).symm, rfl⟩
  distinct := List.nodup_singleton _
  ascending := List.pairwise_singleton ..
  bucket_lt := List.forall_mem_singleton.mpr Nat.zero_lt_one
  used := show ∀ bucket < 1, NamedStreams.isUsed [1] bucket ↔ bucket ∈ [0] by decide

theorem namesStream_eq (h : number < limit 4) :
    namesStream number = (namesTable h).write ++ encode 4 0 := by
  simp only [namesStream, namesTable, NamedStreams.HashTable.write, NamedStreams.Hashed.write,
    List.flatMap_cons, List.flatMap_nil, List.append_nil, List.append_assoc, List.length_cons,
    List.length_nil, Nat.zero_add, List.nil_append]

/-- The map of named streams has the string table as its only entry. -/
theorem all_of_namesStream (h : number < limit 4)
    (found : opened.stream NamedStreams.streamNumber = .ok (namesStream number)) :
    NamedStreams.all opened = .ok [(StringTable.streamName, number)] := by
  rw [namesStream_eq h] at found
  obtain ⟨map, read, -, pairs⟩ := (namesTable h).all_of_write found
  rw [read, List.perm_singleton.mp pairs]

theorem load_of_stringStream (h : number < limit 4) (short : (strings files).length < limit 4)
    (names : opened.stream NamedStreams.streamNumber = .ok (namesStream number))
    (table : opened.stream number = .ok (stringStream files)) :
    StringTable.load opened = .ok (strings files) := by
  have header : Reader.Reads StringTable.readHeader
      (StringTable.signature, (strings files).length)
      (encode 4 StringTable.signature ++ (encode 4 1 ++ encode 4 (strings files).length)) :=
    .bind (.field (by decide)) <| .bind (.skip (length_encode ..)) <|
      .bind_pure (.field short) rfl
  have whole : stringStream files =
      (encode 4 StringTable.signature ++ (encode 4 1 ++ encode 4 (strings files).length)) ++
        (strings files ++ (encode 4 0 ++ encode 4 0)) := by
    simp only [stringStream, List.append_assoc]
  have behind : (stringStream files).drop 12 = strings files ++ (encode 4 0 ++ encode 4 0) := by
    rw [whole]
    exact List.drop_left' rfl
  have front : readFront StringTable.readHeader (stringStream files) =
      .ok (StringTable.signature, (strings files).length) := by
    rw [whole]
    exact readFront_of_reads header _
  rw [StringTable.load, all_of_namesStream h names]
  simp only [bind, Except.bind, NamedStreams.find?, List.find?_cons, beq_self_eq_true,
    Option.map_some, table, front, behind, List.take_left, ↓reduceIte]
  rfl

/-- The texts in front of a file's name, the name, and the texts behind it. -/
theorem strings_eq (h : file ∈ files) :
    ∃ after, strings files =
      strings (files.take (files.idxOf file)) ++ (Utf8.encode file ++ 0 :: after) := by
  have inside := List.idxOf_lt_length_iff.mpr h
  refine ⟨(files.drop (files.idxOf file + 1)).flatMap text, ?_⟩
  have split : files = files.take (files.idxOf file) ++
      file :: files.drop (files.idxOf file + 1) := by
    have cut := List.drop_eq_getElem_cons inside
    rw [List.getElem_idxOf inside] at cut
    rw [← cut, List.take_append_drop]
  have texts := congrArg (fun names => names.flatMap text) split
  simp only [List.flatMap_append, List.flatMap_cons, text, List.append_assoc] at texts
  exact congrArg (0 :: ·) texts

theorem decodeAt_stringOffset (h : file ∈ files) (plain : '\x00' ∉ file.toList) :
    Utf8.decodeAt (strings files) (stringOffset files file) = file := by
  obtain ⟨after, whole⟩ := strings_eq h
  rw [whole, stringOffset]
  exact Utf8.decodeAt_append plain _ after

theorem stringOffset_lt (h : file ∈ files) : stringOffset files file < (strings files).length := by
  obtain ⟨after, whole⟩ := strings_eq h
  rw [whole, stringOffset, List.length_append, List.length_append, List.length_cons]
  omega

end Writer
end Pdb
end TestAtlas
