import TestAtlas.Proofs.CodeView.ChecksumTables
import TestAtlas.Proofs.CodeView.Rounds
import TestAtlas.Proofs.Pdb.Endings

/-!
The rounds in which the module list is read, and how far all loops over the bytes of a
program database go. An entry is as long as its two names make it and is followed by
the next multiple of four.
-/

namespace TestAtlas
namespace Pdb

open LittleEndian
open CodeView (Procedure LineInfo LineEntry)

namespace ModuleEntry

/-- The fixed part of an entry. -/
def readFixed : Reader (Nat × Nat × Nat × Nat) := do
  Reader.skip 4
  Reader.skip 28
  Reader.skip 2
  let stream ← Reader.u16
  let symbolBytes ← Reader.u32
  let skippedBytes ← Reader.u32
  let lineBytes ← Reader.u32
  Reader.skip 16
  return (stream, symbolBytes, skippedBytes, lineBytes)

theorem takes_fixed : Reader.Takes readFixed fixedSize :=
  .bind (.skip 4) fun _ => .bind (.skip 28) fun _ => .bind (.skip 2) fun _ =>
    .bind (.field 2) fun _ => .bind (.field 4) fun _ => .bind (.field 4) fun _ =>
    .bind (.field 4) fun _ => .bind (.skip 16) fun _ => .pure _

theorem read_eq : read = (do
    let (stream, symbolBytes, skippedBytes, lineBytes) ← readFixed
    let name ← Reader.terminated
    let objectName ← Reader.terminated
    return { name, objectName, stream, symbolBytes, skippedBytes, lineBytes }) := by
  simp only [read, readFixed, bind_assoc, pure_bind]

/-- The number of bytes of an entry without its padding. -/
def bareSize (entry : ModuleEntry) : Nat :=
  fixedSize + (entry.name.length + 1) + (entry.objectName.length + 1)

/-- An entry that is read stands in the bytes with both of its names. -/
theorem bareSize_le {bytes : Bytes} {entry : ModuleEntry}
    (read : readFront ModuleEntry.read bytes = .ok entry) : entry.bareSize ≤ bytes.length := by
  obtain ⟨rest, taken⟩ := of_readFront read
  rw [read_eq] at taken
  obtain ⟨numbers, middle, fixed, taken⟩ := Reader.of_run_bind taken
  obtain ⟨name, behind, terminated, taken⟩ := Reader.of_run_bind taken
  obtain ⟨objectName, last, terminated', taken⟩ := Reader.of_run_bind taken
  cases taken
  have whole := takes_fixed _ _ _ fixed
  have first := congrArg List.length (Reader.of_run_terminated terminated).2.1
  have second := congrArg List.length (Reader.of_run_terminated terminated').2.1
  simp only [List.length_append, List.length_singleton] at first second
  simp only [bareSize]
  omega

end ModuleEntry

namespace Module

variable {container : Container} {data : Bytes} {stop cursor : Nat}

/-- What is read in front of the entries: where the list ends. -/
def opening (data : Bytes) : Except (Except Error (List Module)) Nat :=
  match readFront readListHeader data with
  | .error e => .error (.error e)
  | .ok (version, size) =>
      if version ≠ -1 then .error (.error .moduleListVersion) else .ok (64 + size.toNat)

/-- One entry with what its stream holds. The next one is at the multiple of four behind it. -/
def round (container : Container) (data : Bytes) (stop : Nat) (found : List Module)
    (cursor : Nat) : Round (List Module) (Except Error (List Module)) :=
  if stop ≤ cursor then .ended (.ok found.reverse)
  else
    match readFront ModuleEntry.read (data.drop cursor) with
    | .error e => .ended (.error e)
    | .ok entry =>
        match entry.load container with
        | .error e => .ended (.error e)
        | .ok module => .further (module :: found) (paddedSize (cursor + entry.bareSize))

theorem of_round_further {found found' : List Module} {cursor' : Nat}
    (goes : round container data stop found cursor = .further found' cursor') :
    ∃ entry module, readFront ModuleEntry.read (data.drop cursor) = .ok entry ∧
      found' = module :: found ∧ cursor' = paddedSize (cursor + entry.bareSize) := by
  rw [round] at goes
  split at goes
  · cases goes
  split at goes
  · cases goes
  rename_i entry read
  split at goes
  · cases goes
  rename_i module _
  cases goes
  exact ⟨entry, module, read, rfl, rfl⟩

theorem eq_of_round_ended {found items : List Module}
    (ends : round container data stop found cursor = .ended (.ok items)) :
    items = found.reverse := by
  rw [round] at ends
  split at ends
  · cases ends
    rfl
  split at ends
  · cases ends
  split at ends <;> cases ends

/-- The fixed part of an entry and the ends of its names are read within the list. -/
theorem advances_round (container : Container) (data : Bytes) (stop : Nat) :
    Round.Advances (round container data stop) 66 data.length := by
  intro found cursor found' cursor' goes
  obtain ⟨entry, -, read, -, rfl⟩ := of_round_further goes
  have inside := ModuleEntry.bareSize_le read
  have further := le_paddedSize (cursor + entry.bareSize)
  rw [List.length_drop] at inside
  simp only [ModuleEntry.bareSize, ModuleEntry.fixedSize] at inside further ⊢
  omega

theorem collects_round (container : Container) (data : Bytes) (stop : Nat) :
    Round.Collects (round container data stop) where
  ended found cursor items ends := by
    rw [eq_of_round_ended ends, List.length_reverse]
  further found cursor found' cursor' goes := by
    obtain ⟨-, module, -, rfl, -⟩ := of_round_further goes
    exact Nat.le_refl _

/-- From a multiple of four on, a round is a step of the walk over the bytes that are left. -/
theorem computes_round (container : Container) (data : Bytes) (stop : Nat) :
    Round.Computes (round container data stop) (4 ∣ ·) fun found cursor =>
      walk container found (stop - cursor) (data.drop cursor) where
  step found cursor aligned := by
    by_cases done : stop ≤ cursor
    · rw [walk, if_pos (Nat.sub_eq_zero_of_le done), round, if_pos done]
      rfl
    · rw [walk, if_neg (by omega), round, if_neg done]
      cases readFront ModuleEntry.read (data.drop cursor) with
      | error e => rfl
      | ok entry =>
          have next : paddedSize (cursor + entry.bareSize) = cursor + entry.size :=
            CodeView.Checksums.paddedSize_add aligned _
          simp only [bind, Except.bind]
          cases entry.load container with
          | error e => rfl
          | ok module =>
              rw [Round.finish, next, List.drop_drop, Nat.sub_sub]
  keeps found cursor found' cursor' _ goes := by
    obtain ⟨entry, -, -, -, rfl⟩ := of_round_further goes
    exact Nat.dvd_mul_left ..

theorem all_eq (held : container.stream listStream = .ok data) :
    all container = Round.through (opening data) fun stop =>
      walk container [] (stop - 64) (data.drop 64) := by
  rw [all, held, opening]
  simp only [bind, Except.bind]
  cases readFront readListHeader data with
  | error e => rfl
  | ok header =>
      obtain ⟨version, size⟩ := header
      dsimp only
      split
      · rfl
      · dsimp only [Round.through]
        rw [Nat.add_sub_cancel_left]

theorem exists_linear_all (held : container.stream listStream = .ok data) :
    ∃ places, Round.Linear (opening data) (round container data) [] 64 66 data.length places
      (all container) := by
  rw [all_eq held]
  exact Round.exists_linear _ (advances_round container data) (Nat.succ_pos 65)
    (computes_round container data) (by decide) []

theorem eq_nil_of_opening {items : List Module} (ends : opening data = .error (.ok items)) :
    items = [] := by
  rw [opening] at ends
  split at ends
  · cases ends
  split at ends <;> cases ends

theorem length_all_le {modules : List Module} (held : container.stream listStream = .ok data)
    (loaded : all container = .ok modules) : modules.length ≤ data.length / 66 := by
  obtain ⟨places, linear⟩ := exists_linear_all held
  rw [loaded] at linear
  exact linear.length_le (collects_round container data) fun _ => eq_nil_of_opening

theorem all_of_error {e : Error} (missing : container.stream listStream = .error e) :
    all container = .error e := by
  rw [all, missing]
  rfl

end Module

/-- Whatever the bytes are, the loops over symbol records, subsections, blocks of lines and entries
of the module list come to an end, with a result or with a failure. Every completed round moves the
cursor by 4, 8, 12 and 66 bytes at least, and so there are no more rounds than these go into the
bytes, or into the number of symbol bytes that is declared. Nor is there more than one procedure
for each four symbol bytes, or more than one module for each 66 bytes of the list. -/
theorem loops_advance :
    (∀ data symbolBytes, ∃ places,
      Round.Linear (Procedure.opening data symbolBytes)
        (fun _ => Procedure.round data symbolBytes) [] 4 4 symbolBytes places
        (Procedure.parse data symbolBytes)) ∧
    (∀ (info : LineInfo) data, ∃ places,
      Round.Linear (.ok ()) (fun _ => LineInfo.round data) info 0 8 data.length places
        (info.add data)) ∧
    (∀ body, ∃ places,
      Round.Linear (LineEntry.opening body) (LineEntry.round body) [] 12 12 body.length places
        (LineEntry.parse body)) ∧
    (∀ container : Container,
      (∃ e, container.stream Module.listStream = .error e ∧ Module.all container = .error e) ∨
      ∃ data places, container.stream Module.listStream = .ok data ∧
        Round.Linear (Module.opening data) (Module.round container data) [] 64 66 data.length
          places (Module.all container)) ∧
    (∀ data symbolBytes procedures, Procedure.parse data symbolBytes = .ok procedures →
      procedures.length ≤ symbolBytes / 4) ∧
    ∀ (container : Container) data modules,
      container.stream Module.listStream = .ok data → Module.all container = .ok modules →
        modules.length ≤ data.length / 66 := by
  refine ⟨Procedure.exists_linear_parse, LineInfo.exists_linear_add,
    LineEntry.exists_linear_parse, fun container => ?_,
    fun data symbolBytes procedures => Procedure.length_parse_le,
    fun container data modules => Module.length_all_le⟩
  cases held : container.stream Module.listStream with
  | error e => exact .inl ⟨e, rfl, Module.all_of_error held⟩
  | ok data =>
      obtain ⟨places, linear⟩ := Module.exists_linear_all held
      exact .inr ⟨data, places, rfl, linear⟩

namespace Sample

/-- A procedure record that announces its kind and nothing else, and what is read behind it. -/
def symbols : Bytes := [4, 0, 0, 0, 2, 0, 0x10, 0x11] ++ List.replicate 36 0

/-- A module without a name and without a stream. -/
def nameless : ModuleEntry := ⟨[], [], ModuleEntry.noStream, 0, 0, 0⟩

def unread : ModuleEntry.Unread where
  opened := List.replicate 4 0
  contribution := List.replicate 28 0
  flags := [0, 0]
  rest := List.replicate 16 0
  length_opened := rfl
  length_contribution := rfl
  length_flags := rfl
  length_rest := rfl

def written : Bytes := nameless.write unread ++ [0, 0]

/-- A module list with one entry. -/
def moduleList : Bytes :=
  encode 4 0xFFFFFFFF ++ (List.replicate 20 0 ++ (encode 4 written.length ++
    List.replicate 36 0)) ++ (written ++ [])

def container : Container where
  file := moduleList.toArray
  pageSize := 132
  extents := [⟨0, []⟩, ⟨0, []⟩, ⟨0, []⟩, ⟨132, [0]⟩]

theorem held_container : container.stream Module.listStream = .ok moduleList := by
  decide +kernel

theorem all_container : Module.all container = .ok [{ name := Utf8.decode [] }] := by
  have fits : nameless.Fits :=
    ⟨by decide, by decide, by decide, by decide, by decide, by decide⟩
  have loaded : nameless.load container = .ok { name := Utf8.decode [] } := rfl
  exact Module.all_of_lists held_container List.length_replicate List.length_replicate (by decide)
    (.entry fits unread (by decide) loaded)

end Sample

/-- A symbol stream of one procedure and a list of one module. -/
theorem loops_advance_single :
    (∃ procedure, Procedure.parse Sample.symbols 44 = .ok [procedure] ∧
      [procedure].length ≤ 44 / 4) ∧
    ∃ module, Sample.container.stream Module.listStream = .ok Sample.moduleList ∧
      Module.all Sample.container = .ok [module] ∧
      [module].length ≤ Sample.moduleList.length / 66 := by
  have parsed : Procedure.parse Sample.symbols 44 =
      .ok [{ name := "", segment := 0, offset := 0, length := 0 }] := by decide +kernel
  obtain ⟨-, -, -, -, procedures, modules⟩ := loops_advance
  exact ⟨⟨_, parsed, procedures _ _ _ parsed⟩, _, Sample.held_container, Sample.all_container,
    modules _ _ _ Sample.held_container Sample.all_container⟩

end Pdb
end TestAtlas
