import Mathlib.Data.List.Sort
import TestAtlas.Proofs.Pdb.History
import TestAtlas.Proofs.Pdb.Writer.Pages
import TestAtlas.Proofs.Text.Utf8

/-!
The map from names to stream numbers against the hash table that it is read from: names in
a buffer, a bit for each bucket in use, the pairs of these buckets. Where names are put in
the buffer and which buckets they get does not matter.
-/

namespace TestAtlas
namespace Pdb

open LittleEndian

namespace NamedStreams

variable {name : String} {number : Nat} {map : NamedStreams}

/-- The names are in ascending order, so none stands there twice. -/
def Ascending (map : NamedStreams) : Prop := map.Pairwise fun first second => first.1 < second.1

theorem insert_perm (fresh : name ∉ map.map Prod.fst) (number : Nat) :
    (insert name number map).Perm ((name, number) :: map) := by
  fun_induction insert name number map with
  | case1 => exact .refl _
  | case2 => exact .refl _
  | case3 m rest => exact absurd List.mem_cons_self fresh
  | case4 n m rest smaller other ih =>
      exact ((ih fun member => fresh (List.mem_cons_of_mem _ member)).cons (n, m)).trans (.swap ..)

theorem mem_of_mem_insert {entry : String × Nat} (member : entry ∈ insert name number map) :
    entry = (name, number) ∨ entry ∈ map := by
  fun_induction insert name number map with
  | case1 => exact .inl (List.mem_singleton.mp member)
  | case2 => exact List.mem_cons.mp member
  | case3 m rest => exact (List.mem_cons.mp member).imp_right (List.mem_cons_of_mem _)
  | case4 n m rest smaller other ih =>
      rcases List.mem_cons.mp member with rfl | member
      · exact .inr List.mem_cons_self
      · exact (ih member).imp_right (List.mem_cons_of_mem _)

theorem Ascending.insert (ascending : Ascending map) (name : String) (number : Nat) :
    Ascending (insert name number map) := by
  fun_induction NamedStreams.insert name number map with
  | case1 => exact List.pairwise_singleton ..
  | case2 n m rest smaller =>
      refine List.pairwise_cons.mpr ⟨List.forall_mem_cons.mpr ⟨smaller, fun entry member => ?_⟩,
        ascending⟩
      exact String.lt_trans smaller (List.rel_of_pairwise_cons ascending member)
  | case3 m rest => exact List.pairwise_cons.mpr (List.pairwise_cons.mp ascending)
  | case4 n m rest smaller other ih =>
      obtain ⟨first, others⟩ := List.pairwise_cons.mp ascending
      refine List.pairwise_cons.mpr ⟨fun entry member => ?_, ih others⟩
      rcases mem_of_mem_insert member with rfl | member
      · exact Std.lt_of_le_of_ne (String.not_lt.mp smaller) (Ne.symm other)
      · exact first entry member

theorem find?_eq_some_iff (ascending : Ascending map) :
    map.find? name = some number ↔ (name, number) ∈ map := by
  induction map with
  | nil => simp [find?]
  | cons entry rest ih =>
      obtain ⟨first, others⟩ := List.pairwise_cons.mp ascending
      obtain ⟨n, m⟩ := entry
      rw [List.mem_cons, find?, List.find?_cons]
      by_cases same : n = name
      · subst same
        have absent : (n, number) ∉ rest := fun member => String.lt_irrefl n (first _ member)
        simp [absent, eq_comm]
      · rw [beq_false_of_ne same]
        change find? rest name = some number ↔ _
        simp [ih others, Ne.symm same]

/-- Whether the bit of a bucket is set; bits of words that are left out are not. -/
def isUsed (present : List Nat) (bucket : Nat) : Bool :=
  (present[bucket / 32]?.getD 0).testBit (bucket % 32)

theorem mem_buckets {capacity bucket : Nat} {present : List Nat} :
    bucket ∈ buckets capacity present ↔ bucket < capacity ∧ isUsed present bucket := by
  simp only [buckets, List.mem_flatMap, List.mem_filterMap, List.mem_range, Prod.exists,
    List.mem_zipIdx_iff_getElem?, Option.ite_none_right_eq_some, Option.some.injEq,
    Bool.and_eq_true, decide_eq_true_eq, isUsed]
  constructor
  · rintro ⟨word, index, there, bit, small, ⟨set, below⟩, rfl⟩
    have place : (32 * index + bit) / 32 = index := by omega
    have rest : (32 * index + bit) % 32 = bit := by omega
    rw [place, rest, there]
    exact ⟨below, set⟩
  · rintro ⟨below, set⟩
    have whole : 32 * (bucket / 32) + bucket % 32 = bucket := Nat.div_add_mod ..
    cases there : present[bucket / 32]? with
    | none => simp [there] at set
    | some word =>
        rw [there] at set
        refine ⟨word, bucket / 32, there, bucket % 32, Nat.mod_lt _ (by decide), ?_⟩
        rw [whole]
        exact ⟨⟨set, below⟩, rfl⟩

theorem pairwise_buckets (capacity : Nat) (present : List Nat) :
    (buckets capacity present).Pairwise (· < ·) := by
  simp only [buckets, List.pairwise_flatMap, List.pairwise_filterMap, List.mem_filterMap,
    List.mem_range, Option.ite_none_right_eq_some, Option.some.injEq]
  -- Within a word the bits are in order, and no word reaches into the buckets of the next.
  constructor
  · rintro ⟨word, index⟩ -
    refine List.pairwise_lt_range.imp ?_
    rintro bit bit' smaller _ ⟨-, rfl⟩ _ ⟨-, rfl⟩
    exact Nat.add_lt_add_left smaller _
  · have indices : (present.zipIdx.map Prod.snd).Pairwise (· < ·) := by
      rw [List.zipIdx_map_snd]
      exact List.pairwise_lt_range'
    refine (List.pairwise_map.mp indices).imp ?_
    rintro ⟨word, index⟩ ⟨word', index'⟩ smaller _ ⟨bit, small, -, rfl⟩ _ ⟨bit', -, -, rfl⟩
    change index < index' at smaller
    omega

/-- The buckets that are read are known by their bits. -/
theorem buckets_eq {capacity : Nat} {present chosen : List Nat}
    (ascending : chosen.Pairwise (· < ·)) (below : ∀ bucket ∈ chosen, bucket < capacity)
    (used : ∀ bucket < capacity, isUsed present bucket ↔ bucket ∈ chosen) :
    buckets capacity present = chosen := by
  refine List.SortedLT.eq_of_mem_iff (pairwise_buckets capacity present).sortedLT
    ascending.sortedLT fun bucket => ?_
  rw [mem_buckets]
  exact ⟨fun ⟨small, set⟩ => (used bucket small).mp set,
    fun member => ⟨below bucket member, (used bucket (below bucket member)).mpr member⟩⟩

/-- A name with its number, the offset of the name in the buffer and the bucket of the pair. -/
structure Hashed where
  name : String
  number : Nat
  offset : Nat
  bucket : Nat

def Hashed.write (entry : Hashed) : Bytes := encode 4 entry.offset ++ encode 4 entry.number

/-- A hash table as it stands in a file, its pairs in the order of their buckets. The buffer may
hold anything around the names, which may overlap. The words of `present` may end early, and say
nothing about buckets that the table does not have. -/
structure HashTable where
  opened : Bytes
  names : Bytes
  count : Nat
  capacity : Nat
  present : List Nat
  deleted : List Nat
  entries : List Hashed
  opened_length : opened.length = 28
  names_lt : names.length < limit 4
  count_lt : count < limit 4
  capacity_lt : capacity < limit 4
  present_lt : present.length < limit 4 ∧ ∀ word ∈ present, word < limit 4
  deleted_lt : deleted.length < limit 4 ∧ ∀ word ∈ deleted, word < limit 4
  number_lt : ∀ entry ∈ entries, entry.number < limit 4
  plain : ∀ entry ∈ entries, '\x00' ∉ entry.name.toList
  named : ∀ entry ∈ entries, ∃ before after,
    names = before ++ (Utf8.encode entry.name ++ 0 :: after) ∧ before.length = entry.offset
  distinct : (entries.map Hashed.name).Nodup
  ascending : (entries.map Hashed.bucket).Pairwise (· < ·)
  bucket_lt : ∀ bucket ∈ entries.map Hashed.bucket, bucket < capacity
  used : ∀ bucket < capacity, isUsed present bucket ↔ bucket ∈ entries.map Hashed.bucket

namespace HashTable

variable {names : Bytes} {entries : List Hashed}

def write (table : HashTable) : Bytes :=
  table.opened ++ (encode 4 table.names.length ++ (table.names ++ (encode 4 table.count ++
    (encode 4 table.capacity ++ (encode 4 table.present.length ++
      (table.present.flatMap (encode 4) ++ (encode 4 table.deleted.length ++
        (table.deleted.flatMap (encode 4) ++ table.entries.flatMap Hashed.write))))))))

/-- The names with their numbers. -/
def pairs (table : HashTable) : List (String × Nat) :=
  table.entries.map fun entry => (entry.name, entry.number)

/-- The map with the pairs of entries added one after the other. -/
def collect (entries : List Hashed) (map : NamedStreams) : NamedStreams :=
  entries.foldl (fun map entry => insert entry.name entry.number map) map

theorem ascending_collect (ascending : Ascending map) (entries : List Hashed) :
    Ascending (collect entries map) :=
  List.foldlRecOn entries _ ascending fun _ ascending entry _ =>
    ascending.insert entry.name entry.number

theorem collect_perm (distinct : (entries.map Hashed.name).Nodup)
    (fresh : ∀ entry ∈ entries, entry.name ∉ map.map Prod.fst) :
    (collect entries map).Perm (entries.map (fun entry => (entry.name, entry.number)) ++ map) := by
  induction entries generalizing map with
  | nil => exact .refl _
  | cons entry rest ih =>
      obtain ⟨first, others⟩ := List.forall_mem_cons.mp fresh
      rw [List.map_cons, List.nodup_cons] at distinct
      have added := insert_perm first entry.number
      -- A name that is new to the map is still new once another one was added.
      refine (ih distinct.2 fun other member inside => ?_).trans ?_
      · rw [(added.map Prod.fst).mem_iff, List.map_cons, List.mem_cons] at inside
        rcases inside with same | inside
        · exact distinct.1 (List.mem_map.mpr ⟨other, member, same⟩)
        · exact others other member inside
      · exact (added.append_left _).trans List.perm_middle

theorem reads_pairs (numbers : ∀ entry ∈ entries, entry.number < limit 4)
    (offsets : ∀ entry ∈ entries, entry.offset < limit 4)
    (named : ∀ entry ∈ entries, Utf8.decodeAt names entry.offset = entry.name)
    (map : NamedStreams) :
    Reader.Reads (readPairs names (entries.map Hashed.bucket) map) (collect entries map)
      (entries.flatMap Hashed.write) := by
  induction entries generalizing map with
  | nil => exact .pure map
  | cons entry rest ih =>
      obtain ⟨number, numbers⟩ := List.forall_mem_cons.mp numbers
      obtain ⟨offset, offsets⟩ := List.forall_mem_cons.mp offsets
      obtain ⟨name, named⟩ := List.forall_mem_cons.mp named
      have others := ih numbers offsets named (insert entry.name entry.number map)
      rw [List.flatMap_cons, Hashed.write, List.append_assoc]
      refine .bind (.lone offset) (.bind (.lone number) ?_)
      rw [name]
      exact others

theorem offset_lt (table : HashTable) : ∀ entry ∈ table.entries, entry.offset < limit 4 := by
  intro entry member
  obtain ⟨before, after, whole, place⟩ := table.named entry member
  have length := congrArg List.length whole
  rw [List.length_append] at length
  have small := table.names_lt
  omega

theorem decodeAt_offset (table : HashTable) :
    ∀ entry ∈ table.entries, Utf8.decodeAt table.names entry.offset = entry.name := by
  intro entry member
  obtain ⟨before, after, whole, place⟩ := table.named entry member
  rw [whole, ← place]
  exact Utf8.decodeAt_append (table.plain entry member) before after

theorem reads_write (table : HashTable) :
    Reader.Reads read (collect table.entries []) table.write := by
  refine .bind (.skip table.opened_length) <| .bind (.lone table.names_lt) <| .bind (.upTo rfl) <|
    .bind (.lone table.count_lt) <| .bind (.lone table.capacity_lt) <|
    .bind (.lone table.present_lt.1) <| .bind (.array table.present_lt.2) <|
    .bind (.lone table.deleted_lt.1) <| .bind (.array table.deleted_lt.2) ?_
  rw [buckets_eq table.ascending table.bucket_lt table.used]
  exact reads_pairs table.number_lt table.offset_lt table.decodeAt_offset []

/-- The map of a table has its pairs, in the order of the names. -/
theorem all_of_write (table : HashTable) {container : Container} {rest : Bytes}
    (found : container.stream streamNumber = .ok (table.write ++ rest)) :
    ∃ map, all container = .ok map ∧ Ascending map ∧ map.Perm table.pairs := by
  refine ⟨collect table.entries [], ?_, ascending_collect .nil _, ?_⟩
  · rw [all, found]
    exact readFront_of_reads table.reads_write rest
  · have collected : (collect table.entries []).Perm (table.pairs ++ []) :=
      collect_perm table.distinct fun _ _ => List.not_mem_nil
    rwa [List.append_nil] at collected

end HashTable

end NamedStreams

namespace Session

open NamedStreams (HashTable)

/-- The named streams of a database are those of the hash table that its stream for them opens
with, whatever the session was asked before: each name with its number, and no others. -/
theorem namedStreams_of_hashTable (path : String) (history : List Query) (table : HashTable)
    {container : Container} {rest : Bytes}
    (found : container.stream NamedStreams.streamNumber = .ok (table.write ++ rest)) :
    let session := askAll history (fresh path container)
    ∃ map, exec getNamedStreams session = (.ok map, session) ∧ map.Perm table.pairs ∧
      map.Pairwise (fun first second => first.1 < second.1) ∧
      ∀ name number, map.find? name = some number ↔
        ∃ entry ∈ table.entries, entry.name = name ∧ entry.number = number := by
  intro session
  have on : session.On container := (askAll_eq (on_fresh path container) history).1
  obtain ⟨map, read, ascending, pairs⟩ := table.all_of_write found
  refine ⟨map, ?_, pairs, ascending, fun name number => ?_⟩
  · rw [exec_getNamedStreams on, read]
  · rw [NamedStreams.find?_eq_some_iff ascending, pairs.mem_iff, HashTable.pairs]
    simp only [List.mem_map, Prod.mk.injEq]

/-- Two names of which one is the end of the other, in a table with a bit for a bucket that it does
not have. -/
def overlapping : HashTable where
  opened := List.replicate 28 1
  names := Utf8.ascii "x/names" ++ [0]
  count := 9
  capacity := 40
  present := [8, 0x100008]
  deleted := [5]
  entries := [⟨"names", 6, 2, 3⟩, ⟨"/names", 9, 1, 35⟩]
  opened_length := rfl
  names_lt := by decide +kernel
  count_lt := by decide
  capacity_lt := by decide
  present_lt := by decide
  deleted_lt := by decide
  number_lt := by decide
  plain := by decide +kernel
  named := List.forall_mem_cons.mpr ⟨⟨Utf8.ascii "x/", [], by decide +kernel⟩,
    List.forall_mem_singleton.mpr ⟨Utf8.ascii "x", [], by decide +kernel⟩⟩
  distinct := by decide
  ascending := by decide
  bucket_lt := by decide
  used := by decide

theorem namedStreams_of_hashTable_overlapping :
    ∃ container, Container.parse
        (Writer.container [[], overlapping.write ++ [1, 2, 3]]).toArray = .ok container ∧
      container.stream NamedStreams.streamNumber = .ok (overlapping.write ++ [1, 2, 3]) ∧
      (exec getNamedStreams (askAll [.strings, .modules] (fresh "a.pdb" container))).1 =
        .ok [("/names", 9), ("names", 6)] := by
  have fits : Writer.Fits [[], overlapping.write ++ [1, 2, 3]] :=
    ⟨by decide +kernel, by decide +kernel, by decide +kernel⟩
  obtain ⟨container, parsed, streams⟩ := fits.parse_container
  have found : container.stream NamedStreams.streamNumber = .ok (overlapping.write ++ [1, 2, 3]) :=
    streams rfl
  refine ⟨container, parsed, found, ?_⟩
  obtain ⟨map, read, pairs, ascending, -⟩ :=
    namedStreams_of_hashTable "a.pdb" [.strings, .modules] overlapping found
  have sorted : List.Pairwise (fun first second : String × Nat => first.1 < second.1)
      [("/names", 9), ("names", 6)] := by decide
  have swapped : map.Perm [("/names", 9), ("names", 6)] := pairs.trans (.swap ..)
  rw [read, swapped.eq_of_pairwise (fun _ _ _ _ before behind =>
    absurd (String.lt_trans before behind) (String.lt_irrefl _)) ascending sorted]

end Session
end Pdb
end TestAtlas
