import TestAtlas.Proofs.CodeView.Checksums
import TestAtlas.Proofs.CodeView.Subsections

/-!
Line information that comes in several stretches. Complete subsections may be
handed over together with what follows them or on their own, and a malformed line
table, wherever it stands, leaves exactly what the subsections before it hold.
-/

namespace TestAtlas
namespace CodeView
namespace LineInfo

open LittleEndian

/-- A complete subsection: what it holds and the bytes up to the next multiple of four. -/
structure Subsection where
  kind : Nat
  body : Bytes
  padding : Bytes
  known : kind < limit 4
  short : body.length < limit 4
  padded : body.length + padding.length = paddedSize body.length

namespace Subsection

variable {subsections before : List Subsection} {info later : LineInfo} {bytes rest : Bytes}

def write (subsection : Subsection) : Bytes :=
  writeSubsection subsection.kind subsection.body ++ subsection.padding

/-- A line table that the subsection holds can be read. -/
def IsSound (subsection : Subsection) : Prop :=
  subsection.kind = lineKind → ∃ entries, LineEntry.parse subsection.body = .ok entries

/-- The entries of the line table that the subsection holds. -/
def entries (subsection : Subsection) : List LineEntry :=
  if subsection.kind = lineKind then (LineEntry.parse subsection.body).toOption.getD [] else []

/-- The map of the checksum table that the subsection holds. -/
def table (subsection : Subsection) : Checksums :=
  if subsection.kind = checksumKind then Checksums.parse subsection.body else []

/-- What there was, then the entries of all line tables, and the maps of all checksum tables laid
over what there was. -/
def contribute (subsections : List Subsection) (info : LineInfo) : LineInfo where
  lines := info.lines ++ subsections.flatMap entries
  checksums := (subsections.map table).foldl Checksums.overlay info.checksums

theorem length_write (subsection : Subsection) :
    subsection.write.length = headerSize + paddedSize subsection.body.length := by
  rw [write, List.length_append, length_writeSubsection, ← subsection.padded, Nat.add_assoc]

theorem addSubsection_of_sound {subsection : Subsection} (sound : subsection.IsSound)
    (info : LineInfo) :
    info.addSubsection subsection.kind subsection.body = .ok (contribute [subsection] info) := by
  rw [addSubsection, contribute, List.map_singleton, List.flatMap_singleton, entries, table,
    List.foldl_cons, List.foldl_nil]
  by_cases checksums : subsection.kind = checksumKind
  · have other : subsection.kind ≠ lineKind := by
      rw [checksums]
      decide
    rw [if_pos checksums, if_pos checksums, if_neg other, List.append_nil]
  · rw [if_neg checksums, if_neg checksums, Checksums.overlay_nil]
    by_cases lines : subsection.kind = lineKind
    · obtain ⟨entries, parsed⟩ := sound lines
      rw [if_pos lines, if_pos lines, parsed]
      rfl
    · rw [if_neg lines, if_neg lines, List.append_nil]

theorem contribute_nil : contribute [] = id := by
  funext info
  rw [contribute, List.flatMap_nil, List.append_nil]
  rfl

theorem contribute_comp (subsection : Subsection) (others : List Subsection) :
    contribute others ∘ contribute [subsection] = contribute (subsection :: others) := by
  funext info
  simp only [Function.comp_apply, contribute, List.flatMap_cons, List.flatMap_nil, List.append_nil,
    List.append_assoc, List.map_cons, List.map_nil, List.foldl_cons, List.foldl_nil]

theorem takes_write {subsection : Subsection} (sound : subsection.IsSound) :
    Takes subsection.write (contribute [subsection]) :=
  .subsection subsection.known subsection.short subsection.padded (addSubsection_of_sound sound)

theorem takes_sound (sound : ∀ subsection ∈ subsections, subsection.IsSound) :
    Takes (subsections.flatMap write) (contribute subsections) := by
  induction subsections with
  | nil =>
      rw [contribute_nil]
      exact .nil
  | cons subsection others ih =>
      obtain ⟨first, sound⟩ := List.forall_mem_cons.mp sound
      rw [← contribute_comp, List.flatMap_cons]
      exact (takes_write first).append (ih sound)

theorem add_write (subsection : Subsection) (info : LineInfo) (rest : Bytes) :
    info.add (subsection.write ++ rest) =
      resume rest (info.takeOver subsection.kind subsection.body) :=
  add_padded subsection.known subsection.short subsection.padded info rest

theorem add_append (subsections : List Subsection) (info : LineInfo) (more : Bytes) :
    info.add (subsections.flatMap write ++ more) =
      resume more (info.add (subsections.flatMap write)) := by
  induction subsections generalizing info with
  | nil =>
      have few : ([] : Bytes).length < headerSize := by decide
      rw [List.flatMap_nil, add_of_few info few]
      rfl
  | cons subsection others ih =>
      rw [List.flatMap_cons, List.append_assoc, add_write, add_write]
      rcases info.takeOver subsection.kind subsection.body with ⟨later, _ | cause⟩
      · exact ih later
      · rfl

end Subsection

/-- Whatever is long enough for a header starts with one. -/
theorem exists_header {bytes : Bytes} (room : headerSize ≤ bytes.length) :
    ∃ kind length rest, kind < limit 4 ∧ length < limit 4 ∧
      bytes = encode 4 kind ++ (encode 4 length ++ rest) := by
  have first : (bytes.take 4).length = 4 :=
    List.length_take_of_le (Nat.le_trans (by decide) room)
  have second : ((bytes.drop 4).take 4).length = 4 := by
    rw [List.length_take, List.length_drop]
    exact Nat.min_eq_left (Nat.le_sub_of_add_le room)
  refine ⟨_, _, (bytes.drop 4).drop 4, decode_lt first, decode_lt second, ?_⟩
  rw [encode_decode first, encode_decode second, List.take_append_drop, List.take_append_drop]

theorem addSubsection_malformed {body : Bytes} {cause : ReadError}
    (malformed : LineEntry.parse body = .error cause) (info : LineInfo) :
    info.addSubsection lineKind body = .error cause := by
  rw [addSubsection, if_neg (by decide), if_pos rfl, malformed]
  rfl

/-- A line table of this announced length stops a walk. -/
theorem add_malformed {length : Nat} {rest : Bytes} {cause : ReadError} (short : length < limit 4)
    (malformed : LineEntry.parse (rest.take length) = .error cause) (info : LineInfo) :
    info.add (encode 4 lineKind ++ (encode 4 length ++ rest)) = (info, some cause) := by
  rw [add_header (by decide) short, takeOver, addSubsection_malformed malformed]
  rfl

theorem addSubsection_ok {kind : Nat} {body : Bytes}
    (sound : kind = lineKind → ∃ entries, LineEntry.parse body = .ok entries) (info : LineInfo) :
    ∃ later, info.addSubsection kind body = .ok later := by
  rw [addSubsection]
  split
  · exact ⟨_, rfl⟩
  · split
    · rename_i lines
      obtain ⟨entries, parsed⟩ := sound lines
      rw [parsed]
      exact ⟨_, rfl⟩
    · exact ⟨_, rfl⟩

/-- Where nothing follows, only a malformed line table stops a walk. -/
theorem add_last {kind length : Nat} {rest : Bytes} (known : kind < limit 4)
    (short : length < limit 4) (few : rest.length ≤ paddedSize length)
    (sound : kind = lineKind → ∃ entries, LineEntry.parse (rest.take length) = .ok entries)
    (info : LineInfo) :
    (info.add (encode 4 kind ++ (encode 4 length ++ rest))).2 = none := by
  obtain ⟨later, taken⟩ := addSubsection_ok sound info
  have none : ([] : Bytes).length < headerSize := by decide
  rw [add_header known short, takeOver, taken, List.drop_eq_nil_of_le few]
  exact congrArg Prod.snd (add_of_few later none)

theorem exists_subsection {kind length : Nat} {rest : Bytes} (known : kind < limit 4)
    (short : length < limit 4) (room : paddedSize length ≤ rest.length) :
    ∃ subsection : Subsection, subsection.kind = kind ∧ subsection.body = rest.take length ∧
      encode 4 kind ++ (encode 4 length ++ rest) =
        subsection.write ++ rest.drop (paddedSize length) := by
  have padded := le_paddedSize length
  have whole : (rest.take length).length = length :=
    List.length_take_of_le (Nat.le_trans padded room)
  have behind : ((rest.drop length).take (paddedSize length - length)).length =
      paddedSize length - length := by
    rw [List.length_take, List.length_drop]
    omega
  refine ⟨⟨kind, rest.take length, (rest.drop length).take (paddedSize length - length), known,
    ?_, ?_⟩, rfl, rfl, ?_⟩
  · rwa [whole]
  · rw [whole, behind, Nat.add_sub_cancel' padded]
  · have split : rest.drop (paddedSize length) =
        (rest.drop length).drop (paddedSize length - length) := by
      rw [List.drop_drop, Nat.add_sub_cancel' padded]
    simp only [Subsection.write, writeSubsection, whole, split, List.append_assoc,
      List.take_append_drop]

/-- A walk that stops has taken over a sequence of complete subsections. -/
theorem exists_before {info later : LineInfo} {bytes : Bytes} {cause : ReadError}
    (stopped : info.add bytes = (later, some cause)) :
    ∃ (before : List Subsection) (length : Nat) (rest : Bytes),
      (∀ subsection ∈ before, subsection.IsSound) ∧ length < limit 4 ∧
      bytes = before.flatMap Subsection.write ++
        (encode 4 lineKind ++ (encode 4 length ++ rest)) ∧
      LineEntry.parse (rest.take length) = .error cause ∧
      later = Subsection.contribute before info := by
  induction size : bytes.length using Nat.strongRecOn generalizing bytes info with
  | ind _ ih =>
      subst size
      by_cases few : bytes.length < headerSize
      · rw [add_of_few info few] at stopped
        cases stopped
      obtain ⟨kind, length, rest, known, short, rfl⟩ := exists_header (Nat.le_of_not_lt few)
      by_cases sound : kind = lineKind → ∃ entries, LineEntry.parse (rest.take length) = .ok entries
      · by_cases room : paddedSize length ≤ rest.length
        · -- What the header announces is there, and something behind it stops the walk.
          obtain ⟨subsection, rfl, same, split⟩ := exists_subsection known short room
          rw [← same] at sound
          rw [split] at stopped ih ⊢
          rw [Subsection.takes_write sound] at stopped
          have shorter : (rest.drop (paddedSize length)).length <
              (subsection.write ++ rest.drop (paddedSize length)).length := by
            rw [List.length_append, Subsection.length_write, headerSize]
            omega
          obtain ⟨before, length', rest', others, short', whole, malformed, rfl⟩ :=
            ih _ shorter stopped rfl
          refine ⟨subsection :: before, length', rest',
            List.forall_mem_cons.mpr ⟨sound, others⟩, short', ?_, malformed, ?_⟩
          · rw [whole, List.flatMap_cons, List.append_assoc]
          · exact congrFun (Subsection.contribute_comp subsection before) info
        · have ended := add_last known short (Nat.le_of_not_le room) sound info
          rw [stopped] at ended
          cases ended
      · obtain ⟨rfl, unread⟩ := Classical.not_imp.mp sound
        cases parsed : LineEntry.parse (rest.take length) with
        | ok entries => exact absurd ⟨entries, parsed⟩ unread
        | error e =>
            rw [add_malformed short parsed] at stopped
            cases stopped
            refine ⟨[], length, rest, List.forall_mem_nil _, short, rfl, parsed, ?_⟩
            rw [Subsection.contribute_nil]
            rfl

theorem Subsection.ascending_table (subsection : Subsection) :
    subsection.table.Pairwise fun a b => a.1 < b.1 := by
  rw [table]
  split
  · refine (Checksums.spaced_parse _).imp fun spaced => ?_
    omega
  · exact List.Pairwise.nil

theorem Subsection.find?_contribute (before : List Subsection) (info : LineInfo) (entry : Int) :
    (contribute before info).checksums.find? entry =
      (before.reverse.findSome? (·.table.find? entry)).or (info.checksums.find? entry) := by
  have ascending : ∀ map ∈ before.map table, map.Pairwise fun a b => a.1 < b.1 := by
    intro map member
    obtain ⟨subsection, -, rfl⟩ := List.mem_map.mp member
    exact subsection.ascending_table
  rw [contribute, Checksums.find?_foldl_overlay ascending, ← List.map_reverse,
    List.findSome?_map]
  rfl

/-- Line information accumulates subsection by subsection. What follows complete subsections is
taken over as it would be on its own, unless one of them stops the walk. A walk is stopped, with
this cause and this state, exactly if it comes to a malformed line table; the state is then what
there was before, with the entries of all earlier line tables behind it and the maps of all earlier
checksum tables over it, of which the latest that has a key decides. -/
theorem additions_accumulate :
    (∀ (subsections : List Subsection) (info : LineInfo) (more : Bytes),
      info.add (subsections.flatMap Subsection.write ++ more) =
        resume more (info.add (subsections.flatMap Subsection.write))) ∧
    (∀ (info later : LineInfo) (bytes : Bytes) (cause : ReadError),
      info.add bytes = (later, some cause) ↔
        ∃ (before : List Subsection) (length : Nat) (rest : Bytes),
          (∀ subsection ∈ before, subsection.IsSound) ∧ length < limit 4 ∧
          bytes = before.flatMap Subsection.write ++
            (encode 4 lineKind ++ (encode 4 length ++ rest)) ∧
          LineEntry.parse (rest.take length) = .error cause ∧
          later = Subsection.contribute before info) ∧
    ∀ (before : List Subsection) (info : LineInfo),
      (Subsection.contribute before info).lines =
        info.lines ++ before.flatMap Subsection.entries ∧
      ∀ entry, (Subsection.contribute before info).checksums.find? entry =
        (before.reverse.findSome? (·.table.find? entry)).or (info.checksums.find? entry) := by
  refine ⟨Subsection.add_append, fun info later bytes cause => ⟨exists_before, ?_⟩,
    fun before info => ⟨rfl, Subsection.find?_contribute before info⟩⟩
  rintro ⟨before, length, rest, sound, short, rfl, malformed, rfl⟩
  rw [Subsection.takes_sound sound, add_malformed short malformed]

/-- A table with one checksum is kept when the line table behind it is too short. -/
theorem additions_accumulate_cut :
    let table : Subsection := {
      kind := checksumKind, body := [7, 0, 0, 0, 0, 0], padding := [0, 0]
      known := by decide, short := by decide, padded := by decide }
    let bytes := table.write ++ (encode 4 lineKind ++ (encode 4 3 ++ [1, 2, 3]))
    table.IsSound ∧ LineEntry.parse [1, 2, 3] = .error .record ∧
      ({} : LineInfo).add bytes = (Subsection.contribute [table] {}, some .record) ∧
      ({} : LineInfo).add (table.write ++ bytes) =
        resume bytes (({} : LineInfo).add table.write) := by
  intro table bytes
  have sound : table.IsSound := fun lines => absurd lines (by decide)
  have malformed : LineEntry.parse [1, 2, 3] = .error .record := rfl
  have stopped := (additions_accumulate.2.1 {} (Subsection.contribute [table] {}) bytes .record).mpr
    ⟨[table], 3, [1, 2, 3], List.forall_mem_singleton.mpr sound, by decide, rfl, malformed, rfl⟩
  have resumed := additions_accumulate.1 [table] {} bytes
  rw [List.flatMap_singleton] at resumed
  exact ⟨sound, malformed, stopped, resumed⟩

end LineInfo
end CodeView
end TestAtlas
