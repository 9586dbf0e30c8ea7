import Mathlib
import TestAtlas.Proofs.Pdb.History
import TestAtlas.Proofs.Pdb.ModuleList
import TestAtlas.Proofs.Pdb.Writer.Pages

/-!
What a program database tells about its modules: for every entry of the module list
one module, with what the stream of the entry holds at the places that the entry
gives. If that is malformed for one of them, nothing is told and nothing remembered.
-/

namespace TestAtlas
namespace Pdb

open LittleEndian
open CodeView (Procedure LineInfo)

section

variable {α β ε : Type} {f : α → Except ε β} {items : List α}

theorem forall_exists_of_forall₂ {R : α → β → Prop} {results : List β}
    (related : List.Forall₂ R items results) : ∀ item ∈ items, ∃ result, R item result :=
  ((List.forall₂_and_left items results).mp
    (related.imp fun _ result holds => ⟨⟨result, holds⟩, holds⟩)).1

theorem mapM_eq_ok_iff {R : α → β → Prop} {results : List β}
    (each : ∀ item ∈ items, ∀ result, f item = .ok result ↔ R item result) :
    items.mapM f = .ok results ↔ List.Forall₂ R items results := by
  induction items generalizing results with
  | nil =>
      rw [List.mapM_nil, List.forall₂_nil_left_iff]
      exact ⟨fun same => by cases same; rfl, fun none => by rw [none]; rfl⟩
  | cons item rest ih =>
      obtain ⟨first, others⟩ := List.forall_mem_cons.mp each
      rw [List.mapM_cons, List.forall₂_cons_left_iff]
      simp only [← first, ← ih others]
      cases f item with
      | error e => simp [bind, Except.bind]
      | ok result => cases rest.mapM f <;> simp [bind, Except.bind, pure, Except.pure, eq_comm]

theorem mapM_error_of_split {before behind : List α} {item : α} {e : ε}
    (fine : ∀ earlier ∈ before, ∃ result, f earlier = .ok result) (failed : f item = .error e) :
    (before ++ item :: behind).mapM f = .error e := by
  induction before with
  | nil =>
      rw [List.nil_append, List.mapM_cons, failed]
      rfl
  | cons earlier others ih =>
      obtain ⟨⟨result, read⟩, fine⟩ := List.forall_mem_cons.mp fine
      rw [List.cons_append, List.mapM_cons, read, ih fine]
      rfl

/-- A traversal fails as at the first item that fails. -/
theorem mapM_eq_error_iff {e : ε} :
    items.mapM f = .error e ↔ ∃ before item behind, items = before ++ item :: behind ∧
      (∀ earlier ∈ before, ∃ result, f earlier = .ok result) ∧ f item = .error e := by
  refine ⟨fun failed => ?_, ?_⟩
  · induction items with
    | nil => cases failed
    | cons item rest ih =>
        rw [List.mapM_cons] at failed
        cases one : f item with
        | error cause =>
            rw [one] at failed
            cases failed
            exact ⟨[], item, rest, rfl, List.forall_mem_nil _, one⟩
        | ok result =>
            cases others : rest.mapM f with
            | ok results =>
                rw [one, others] at failed
                cases failed
            | error cause =>
                rw [one, others] at failed
                cases failed
                obtain ⟨before, item', behind, rfl, fine, failed⟩ := ih others
                exact ⟨item :: before, item', behind, rfl,
                  List.forall_mem_cons.mpr ⟨⟨result, one⟩, fine⟩, failed⟩
  · rintro ⟨before, item, behind, rfl, fine, failed⟩
    exact mapM_error_of_split fine failed

end

variable {container : Container}

namespace ModuleEntry

variable {entry : ModuleEntry} {module : Module} {symbols between lines rest : Bytes}

/-- What is held for a module in its stream: symbols, a part that is not used and line information,
in the sizes that the entry gives. -/
structure Holds (container : Container) (entry : ModuleEntry)
    (symbols between lines rest : Bytes) : Prop where
  stream : entry.stream ≠ noStream
  found : container.stream entry.stream = .ok (symbols ++ (between ++ (lines ++ rest)))
  symbols : symbols.length = entry.symbolBytes
  between : between.length = entry.skippedBytes
  lines : lines.length = entry.lineBytes

/-- What there is to be learned about the module of an entry. -/
inductive Tells (container : Container) (entry : ModuleEntry) : Except ReadError Module → Prop
  | streamless (absent : entry.stream = noStream) :
      Tells container entry (.ok { name := Utf8.decode entry.name })
  | read {symbols between lines rest : Bytes} {procedures : List Procedure} {info : LineInfo}
      (holds : Holds container entry symbols between lines rest)
      (parsed : Procedure.parse symbols symbols.length = .ok procedures)
      (added : ({} : LineInfo).add lines = (info, none)) :
      Tells container entry (.ok { name := Utf8.decode entry.name, procedures, info })
  | malformedSymbols {symbols between lines rest : Bytes} {cause : ReadError}
      (holds : Holds container entry symbols between lines rest)
      (failed : Procedure.parse symbols symbols.length = .error cause) :
      Tells container entry (.error cause)
  | malformedLines {symbols between lines rest : Bytes} {procedures : List Procedure}
      {info : LineInfo} {cause : ReadError}
      (holds : Holds container entry symbols between lines rest)
      (parsed : Procedure.parse symbols symbols.length = .ok procedures)
      (failed : ({} : LineInfo).add lines = (info, some cause)) :
      Tells container entry (.error cause)

theorem parse_of_holds (holds : Holds container entry symbols between lines rest) :
    Procedure.parse (symbols ++ (between ++ (lines ++ rest))) entry.symbolBytes =
      Procedure.parse symbols symbols.length := by
  rw [← holds.symbols, Procedure.parse, Procedure.parse, List.take_left, List.take_length]

theorem lines_of_holds (holds : Holds container entry symbols between lines rest) :
    ((symbols ++ (between ++ (lines ++ rest))).drop
      (entry.symbolBytes + entry.skippedBytes)).take entry.lineBytes = lines := by
  rw [← holds.symbols, ← holds.between, ← holds.lines, ← List.drop_drop, List.drop_left,
    List.drop_left, List.take_left]

/-- Loading is by what is held alone; what is not used does not matter. -/
theorem load_of_tells {told : Except ReadError Module} (tells : Tells container entry told) :
    entry.load container = told.mapError .truncated := by
  cases tells with
  | streamless absent =>
      rw [load, if_pos absent]
      rfl
  | read holds parsed added =>
      rw [load, if_neg holds.stream, holds.found]
      simp only [bind, Except.bind, parse_of_holds holds, parsed, Except.mapError,
        lines_of_holds holds, added]
      rfl
  | malformedSymbols holds failed =>
      rw [load, if_neg holds.stream, holds.found]
      simp only [bind, Except.bind, parse_of_holds holds, failed, Except.mapError]
  | malformedLines holds parsed failed =>
      rw [load, if_neg holds.stream, holds.found]
      simp only [bind, Except.bind, parse_of_holds holds, parsed, Except.mapError,
        lines_of_holds holds, failed]
      rfl

/-- The stream of the entry, if it has one, is there and as long as the entry says. -/
def Served (container : Container) (entry : ModuleEntry) : Prop :=
  entry.stream ≠ noStream → ∃ data, container.stream entry.stream = .ok data ∧
    entry.symbolBytes + entry.skippedBytes + entry.lineBytes ≤ data.length

theorem exists_holds (served : Served container entry) (present : entry.stream ≠ noStream) :
    ∃ symbols between lines rest, Holds container entry symbols between lines rest := by
  obtain ⟨data, found, long⟩ := served present
  let behind := data.drop entry.symbolBytes
  let rest := behind.drop entry.skippedBytes
  refine ⟨data.take entry.symbolBytes, behind.take entry.skippedBytes, rest.take entry.lineBytes,
    rest.drop entry.lineBytes, present, ?_, ?_, ?_, ?_⟩
  · rw [found, List.take_append_drop, List.take_append_drop, List.take_append_drop]
  all_goals
    simp only [List.length_take, List.length_drop, behind, rest]
    omega

theorem exists_tells (served : Served container entry) : ∃ told, Tells container entry told := by
  by_cases absent : entry.stream = noStream
  · exact ⟨_, .streamless absent⟩
  · obtain ⟨symbols, between, lines, rest, holds⟩ := exists_holds served absent
    cases parsed : Procedure.parse symbols symbols.length with
    | error cause => exact ⟨_, .malformedSymbols holds parsed⟩
    | ok procedures =>
        rcases added : ({} : LineInfo).add lines with ⟨info, _ | cause⟩
        · exact ⟨_, .read holds parsed added⟩
        · exact ⟨_, .malformedLines holds parsed added⟩

theorem load_eq_ok_iff (served : Served container entry) :
    entry.load container = .ok module ↔ Tells container entry (.ok module) := by
  refine ⟨fun loaded => ?_, load_of_tells⟩
  obtain ⟨told, tells⟩ := exists_tells served
  rw [load_of_tells tells] at loaded
  cases told with
  | error cause => cases loaded
  | ok other =>
      cases loaded
      exact tells

theorem load_eq_error_iff (served : Served container entry) {error : Error} :
    entry.load container = .error error ↔
      ∃ cause, Tells container entry (.error cause) ∧ error = .truncated cause := by
  constructor
  · intro failed
    obtain ⟨told, tells⟩ := exists_tells served
    rw [load_of_tells tells] at failed
    cases told with
    | error cause =>
        cases failed
        exact ⟨cause, tells, rfl⟩
    | ok module => cases failed
  · rintro ⟨cause, tells, rfl⟩
    exact load_of_tells tells

/-- An entry as it stands in a module list, with its padding. -/
structure Listed where
  entry : ModuleEntry
  unread : Unread
  padding : Bytes
  fits : entry.Fits
  padded : (entry.write unread ++ padding).length = entry.size

def Listed.write (listed : Listed) : Bytes := listed.entry.write listed.unread ++ listed.padding

end ModuleEntry

open ModuleEntry (Listed)

variable {listed : List Listed}

/-- The module list of a container consists of these entries, and the streams that they name are as
long as they say. -/
structure Container.Enumerates (container : Container) (listed : List Listed) : Prop where
  opened : ∃ first second rest : Bytes, first.length = 20 ∧ second.length = 36 ∧
    container.stream Module.listStream =
      .ok (encode 4 0xFFFFFFFF ++ (first ++ (encode 4 (listed.flatMap Listed.write).length ++
        second)) ++ (listed.flatMap Listed.write ++ rest))
  short : (listed.flatMap Listed.write).length < limit 4 / 2
  served : ∀ item ∈ listed, item.entry.Served container

namespace Module

theorem walk_listed (container : Container) (listed : List Listed) (found : List Module)
    (more : Nat) (rest : Bytes) :
    walk container found ((listed.flatMap Listed.write).length + more)
        (listed.flatMap Listed.write ++ rest) =
      (listed.map Listed.entry).mapM (·.load container) >>= fun modules =>
        walk container (modules.reverse ++ found) more rest := by
  induction listed generalizing found with
  | nil =>
      rw [List.flatMap_nil, List.length_nil, Nat.zero_add]
      rfl
  | cons item others ih =>
      rw [List.flatMap_cons, List.length_append, Nat.add_assoc, List.append_assoc, Listed.write,
        walk_entry item.fits item.unread item.padded, List.map_cons, List.mapM_cons]
      simp only [ih, bind_assoc, pure_bind, List.reverse_cons, List.append_assoc,
        List.cons_append, List.nil_append]

theorem all_of_enumerates (enumerates : container.Enumerates listed) :
    all container = (listed.map Listed.entry).mapM (·.load container) := by
  obtain ⟨first, second, rest, h₁, h₂, found⟩ := enumerates.opened
  have walked := walk_listed container listed [] 0 rest
  rw [Nat.add_zero] at walked
  rw [all_of_opened found h₁ h₂ enumerates.short, walked]
  simp only [walk, ↓reduceIte, List.append_nil, List.reverse_reverse]
  exact bind_pure _

theorem served_of_enumerates (enumerates : container.Enumerates listed) :
    ∀ entry ∈ listed.map Listed.entry, entry.Served container :=
  List.forall_mem_map.mpr enumerates.served

theorem all_eq_ok_iff (enumerates : container.Enumerates listed) {modules : List Module} :
    all container = .ok modules ↔ List.Forall₂ (fun entry module =>
      ModuleEntry.Tells container entry (.ok module)) (listed.map Listed.entry) modules := by
  rw [all_of_enumerates enumerates]
  exact mapM_eq_ok_iff fun entry member module =>
    ModuleEntry.load_eq_ok_iff (served_of_enumerates enumerates entry member)

theorem all_eq_error_iff (enumerates : container.Enumerates listed) {error : Error} :
    all container = .error error ↔ ∃ before entry behind cause,
      listed.map Listed.entry = before ++ entry :: behind ∧
      (∀ earlier ∈ before, ∃ module, ModuleEntry.Tells container earlier (.ok module)) ∧
      ModuleEntry.Tells container entry (.error cause) ∧ error = .truncated cause := by
  have served := served_of_enumerates enumerates
  rw [all_of_enumerates enumerates, mapM_eq_error_iff]
  constructor
  · rintro ⟨before, entry, behind, split, fine, failed⟩
    rw [split, List.forall_mem_append, List.forall_mem_cons] at served
    obtain ⟨earlier, here, -⟩ := served
    obtain ⟨cause, malformed, rfl⟩ := (ModuleEntry.load_eq_error_iff here).mp failed
    refine ⟨before, entry, behind, cause, split, fun entry member => ?_, malformed, rfl⟩
    obtain ⟨module, loaded⟩ := fine entry member
    exact ⟨module, (ModuleEntry.load_eq_ok_iff (earlier entry member)).mp loaded⟩
  · rintro ⟨before, entry, behind, cause, split, fine, failed, rfl⟩
    exact ⟨before, entry, behind, split,
      fun earlier member => (fine earlier member).imp fun _ => ModuleEntry.load_of_tells,
      ModuleEntry.load_of_tells failed⟩

/-- One malformed module is enough. -/
theorem all_error_of_tells (enumerates : container.Enumerates listed) {entry : ModuleEntry}
    {cause : ReadError} (member : entry ∈ listed.map Listed.entry)
    (malformed : entry.Tells container (.error cause)) : ∃ error, all container = .error error := by
  cases loaded : all container with
  | error error => exact ⟨error, rfl⟩
  | ok modules =>
      obtain ⟨module, fine⟩ :=
        forall_exists_of_forall₂ ((all_eq_ok_iff enumerates).mp loaded) entry member
      have twice := (ModuleEntry.load_of_tells fine).symm.trans
        (ModuleEntry.load_of_tells malformed)
      cases twice

end Module

namespace Session

variable {session : Session}

theorem getModules_of_ok (on : session.On container) {modules : List Module}
    (loaded : Module.all container = .ok modules) :
    exec getModules session = (.ok modules, { session with modules := some modules }) := by
  rw [exec_getModules on, loaded]
  rfl

/-- A session whose modules cannot be loaded has none to remember, before and after. -/
theorem getModules_of_error (on : session.On container) {error : Error}
    (failed : Module.all container = .error error) :
    exec getModules session = (.error error, session) ∧ session.modules = none := by
  have forgotten : session.modules = none := by
    cases kept : session.modules with
    | none => rfl
    | some found =>
        have loaded := on.modules found kept
        rw [failed] at loaded
        cases loaded
  refine ⟨?_, forgotten⟩
  rw [exec_getModules on, failed, Except.toOption, ← forgotten]

/-- What a session answers when it is asked for the modules of such a container, whatever it was
asked before: one module for each entry, in their order, with what the stream of the entry holds
for it. A malformed one is enough for it to fail, as at the first of them; then it is left as it
was and remembers no modules. -/
theorem modules_of_enumerates (path : String) (history : List Query) {listed : List Listed}
    (enumerates : container.Enumerates listed) :
    let entries := listed.map Listed.entry
    let session := askAll history (fresh path container)
    let result := (exec getModules session).1
    let later := (exec getModules session).2
    (∀ modules, result = .ok modules ↔ List.Forall₂ (fun entry module =>
      entry.Tells container (.ok module)) entries modules) ∧
    (∀ entry ∈ entries, ∀ cause, entry.Tells container (.error cause) →
      ∃ error, result = .error error) ∧
    (∀ error, result = .error error ↔ ∃ before entry behind cause,
      entries = before ++ entry :: behind ∧
      (∀ earlier ∈ before, ∃ module, earlier.Tells container (.ok module)) ∧
      entry.Tells container (.error cause) ∧ error = .truncated cause) ∧
    (∀ modules, result = .ok modules → later = { session with modules := some modules }) ∧
    (∀ error, result = .error error → session.modules = none ∧ later = session) := by
  intro entries session result later
  have on : session.On container := (askAll_eq (on_fresh path container) history).1
  have same : result = Module.all container := congrArg Prod.fst (exec_getModules on)
  rw [same]
  refine ⟨fun _ => Module.all_eq_ok_iff enumerates,
    fun _ member _ malformed => Module.all_error_of_tells enumerates member malformed,
    fun _ => Module.all_eq_error_iff enumerates, fun _ loaded => ?_, fun _ failed => ?_⟩
  · exact congrArg Prod.snd (getModules_of_ok on loaded)
  · obtain ⟨answer, forgotten⟩ := getModules_of_error on failed
    exact ⟨forgotten, congrArg Prod.snd answer⟩

/-- The streams of a database with this module list, and behind it what its modules hold. -/
def listing (listed : List Listed) (held : List Bytes) : List Bytes :=
  [[], [], [], encode 4 0xFFFFFFFF ++ (List.replicate 20 0 ++
    (encode 4 (listed.flatMap Listed.write).length ++ List.replicate 36 0)) ++
      (listed.flatMap Listed.write ++ [])] ++ held

theorem exists_enumerates (listed : List Listed) (held : List Bytes)
    (fits : Writer.Fits (listing listed held))
    (short : (listed.flatMap Listed.write).length < limit 4 / 2)
    (served : ∀ item ∈ listed, item.entry.stream ≠ ModuleEntry.noStream →
      ∃ data, (listing listed held)[item.entry.stream]? = some data ∧
        item.entry.symbolBytes + item.entry.skippedBytes + item.entry.lineBytes ≤ data.length) :
    ∃ container, Container.parse (Writer.container (listing listed held)).toArray = .ok container ∧
      (∀ {i : Nat} {bytes : Bytes}, (listing listed held)[i]? = some bytes →
        container.stream i = .ok bytes) ∧
      container.Enumerates listed := by
  obtain ⟨container, parsed, found⟩ := fits.parse_container
  refine ⟨container, parsed, found,
    ⟨List.replicate 20 0, List.replicate 36 0, [], rfl, rfl, ?_⟩, short, fun item member named => ?_⟩
  · have third : (listing listed held)[3]? = some _ := rfl
    exact found third
  · obtain ⟨data, there, long⟩ := served item member named
    exact ⟨data, found there, long⟩

def unread : ModuleEntry.Unread where
  opened := List.replicate 4 7
  contribution := List.replicate 28 7
  flags := [7, 7]
  rest := List.replicate 16 7
  length_opened := rfl
  length_contribution := rfl
  length_flags := rfl
  length_rest := rfl

/-- Symbols with one procedure. -/
def heldSymbols : Bytes :=
  encode 4 4 ++ encode 2 39 ++ encode 2 0x1110 ++ List.replicate 12 0 ++ encode 4 16 ++
    List.replicate 12 0 ++ encode 4 256 ++ encode 2 1 ++ [0, 102, 0]

/-- Line information with one line. -/
def heldLines : Bytes :=
  encode 4 0xF2 ++ encode 4 32 ++ encode 4 256 ++ encode 2 1 ++ encode 2 0 ++ encode 4 16 ++
    encode 4 0 ++ encode 4 1 ++ encode 4 20 ++ encode 4 4 ++ encode 4 7

/-- A module without a stream, and one with a procedure and a line of it. -/
def soundList : List Listed :=
  [{ entry := ⟨[97], [], ModuleEntry.noStream, 0, 0, 0⟩
     unread
     padding := [0]
     fits := ⟨by decide, by decide, by decide, by decide, by decide, by decide⟩,
     padded := by decide },
   { entry := ⟨[98, 99], [108], 4, 45, 3, 40⟩
     unread
     padding := [0, 0, 0]
     fits := ⟨by decide, by decide, by decide, by decide, by decide, by decide⟩,
     padded := by decide }]

/-- The same with a third module, whose only symbol record ends behind its kind. -/
def brokenList : List Listed :=
  soundList ++ [{
    entry := ⟨[100], [], 5, 8, 0, 0⟩
    unread
    padding := [0]
    fits := ⟨by decide, by decide, by decide, by decide, by decide, by decide⟩,
    padded := by decide }]

def heldStreams : List Bytes :=
  [heldSymbols ++ ([1, 2, 3] ++ (heldLines ++ [9])), [4, 0, 0, 0, 2, 0, 0x10, 0x11]]

/-- A database with two modules, and one in which a third module is malformed. -/
theorem modules_of_enumerates_listing :
    (∃ container, Container.parse (Writer.container (listing soundList heldStreams)).toArray =
        .ok container ∧ container.Enumerates soundList ∧
      (exec getModules (askAll [.modules] (fresh "a.pdb" container))).1 =
        .ok [⟨"a", [], {}⟩, ⟨"bc", [⟨"f", 1, 256, 16⟩], { lines := [⟨1, 260, 7, 0⟩] }⟩]) ∧
    ∃ container, Container.parse (Writer.container (listing brokenList heldStreams)).toArray =
        .ok container ∧ container.Enumerates brokenList ∧
      let session := askAll [.modules] (fresh "a.pdb" container)
      exec getModules session = (.error (.truncated .record), session) ∧
        session.modules = none := by
  have a : Utf8.decode [97] = "a" := by cbv
  have bc : Utf8.decode [98, 99] = "bc" := by cbv
  have procedures : Procedure.parse heldSymbols 45 = .ok [⟨"f", 1, 256, 16⟩] := by cbv
  have lines : ({} : LineInfo).add heldLines = ({ lines := [⟨1, 260, 7, 0⟩] }, none) := by cbv
  have malformed : Procedure.parse [4, 0, 0, 0, 2, 0, 0x10, 0x11] 8 = .error .record := by cbv
  have sound {container : Container} {listed : List Listed}
      (found : ∀ {i : Nat} {bytes : Bytes}, (listing listed heldStreams)[i]? = some bytes →
        container.stream i = .ok bytes) :
      List.Forall₂ (fun entry module => ModuleEntry.Tells container entry (.ok module))
        (soundList.map Listed.entry)
        [⟨"a", [], {}⟩, ⟨"bc", [⟨"f", 1, 256, 16⟩], { lines := [⟨1, 260, 7, 0⟩] }⟩] := by
    rw [← a, ← bc]
    have held : ModuleEntry.Holds container ⟨[98, 99], [108], 4, 45, 3, 40⟩ heldSymbols [1, 2, 3]
        heldLines [9] := ⟨by decide, found rfl, rfl, rfl, rfl⟩
    exact .cons (.streamless rfl) (.cons (.read held procedures lines) .nil)
  constructor
  · obtain ⟨container, parsed, found, enumerates⟩ := exists_enumerates soundList heldStreams
      ⟨by decide +kernel, by decide +kernel, by decide +kernel⟩ (by decide +kernel)
      (List.forall_mem_cons.mpr ⟨fun named => absurd rfl named,
        List.forall_mem_singleton.mpr fun _ => ⟨_, rfl, by decide⟩⟩)
    exact ⟨container, parsed, enumerates,
      ((modules_of_enumerates "a.pdb" [.modules] enumerates).1 _).mpr (sound found)⟩
  · obtain ⟨container, parsed, found, enumerates⟩ := exists_enumerates brokenList heldStreams
      ⟨by decide +kernel, by decide +kernel, by decide +kernel⟩ (by decide +kernel)
      (List.forall_mem_cons.mpr ⟨fun named => absurd rfl named,
        List.forall_mem_cons.mpr ⟨fun _ => ⟨_, rfl, by decide⟩,
          List.forall_mem_singleton.mpr fun _ => ⟨_, rfl, by decide⟩⟩⟩)
    have held : ModuleEntry.Holds container ⟨[100], [], 5, 8, 0, 0⟩
        [4, 0, 0, 0, 2, 0, 0x10, 0x11] [] [] [] := ⟨by decide, found rfl, rfl, rfl, rfl⟩
    have fine := forall_exists_of_forall₂ (sound found)
    obtain ⟨-, -, fails, -, left⟩ := modules_of_enumerates "a.pdb" [.modules] enumerates
    have failed := (fails (.truncated .record)).mpr
      ⟨_, _, [], .record, rfl, fine, .malformedSymbols held malformed, rfl⟩
    obtain ⟨forgotten, same⟩ := left _ failed
    exact ⟨container, parsed, enumerates, Prod.ext failed same, forgotten⟩

end Session
end Pdb
end TestAtlas
