import Mathlib
import TestAtlas.Proofs.CodeView.LineChoice
import TestAtlas.Proofs.CodeView.Rearrangement
import TestAtlas.Proofs.Pdb.Modules

/-!
Where functions start, and the order of the line information. A database whose
line tables, or the blocks in them, stand in another order gives the same answers as
long as no procedure has two lines at one address.
-/

namespace TestAtlas
namespace Pdb

open LittleEndian
open CodeView (Procedure LineEntry LineInfo)
open CodeView.LineEntry (Distinct InCode forProcedure?)

section

variable {α β γ : Type} {R : α → β → Prop} {S : α → γ → Prop} {T : β → γ → Prop} {items : List α}
  {results : List β}

theorem exists_forall₂ (related : List.Forall₂ R items results)
    (each : ∀ item ∈ items, ∀ result, R item result → ∃ other, S item other ∧ T result other) :
    ∃ others, List.Forall₂ S items others ∧ List.Forall₂ T results others := by
  induction related with
  | nil => exact ⟨[], .nil, .nil⟩
  | cons holds _ ih =>
      obtain ⟨first, each⟩ := List.forall_mem_cons.mp each
      obtain ⟨other, here, there⟩ := first _ holds
      obtain ⟨others, rest, rest'⟩ := ih each
      exact ⟨other :: others, .cons here rest, .cons there rest'⟩

end

variable {container other : Container} {entry : ModuleEntry} {module : Module}
  {listed : List ModuleEntry.Listed} {modules others : List Module}

/-- A module with its lines in another order. -/
structure Module.Reordered (module other : Module) : Prop where
  name : other.name = module.name
  procedures : other.procedures = module.procedures
  info : module.info.Reordered other.info

/-- No procedure of the module has two lines at one address in its code. -/
def Module.DistinctLines (module : Module) : Prop :=
  ∀ procedure ∈ module.procedures, Distinct procedure module.info.lines

namespace ModuleEntry

theorem Holds.unique {symbols between lines rest symbols' between' lines' rest' : Bytes}
    (holds : Holds container entry symbols between lines rest)
    (holds' : Holds container entry symbols' between' lines' rest') :
    symbols = symbols' ∧ lines = lines' := by
  have same := Except.ok.inj (holds.found.symm.trans holds'.found)
  obtain ⟨first, same⟩ := List.append_inj same (holds.symbols.trans holds'.symbols.symm)
  obtain ⟨-, same⟩ := List.append_inj same (holds.between.trans holds'.between.symm)
  exact ⟨first, (List.append_inj same (holds.lines.trans holds'.lines.symm)).1⟩

/-- In the other container the stream of the entry, if it has one, holds the line information in
another order, and else the same. -/
def Reordered (container other : Container) (entry : ModuleEntry) : Prop :=
  entry.stream ≠ noStream → ∃ symbols between lines lines' rest,
    Holds container entry symbols between lines rest ∧
    Holds other entry symbols between lines' rest ∧ LineInfo.Rearranged lines lines'

theorem Reordered.tells (reordered : entry.Reordered container other)
    (tells : Tells container entry (.ok module)) :
    ∃ module', Tells other entry (.ok module') ∧ module.Reordered module' := by
  cases tells with
  | streamless absent => exact ⟨_, .streamless absent, rfl, rfl, .refl _, rfl⟩
  | read holds parsed added =>
      obtain ⟨symbols, between, lines, lines', rest, held, held', rearranged⟩ :=
        reordered holds.stream
      obtain ⟨rfl, rfl⟩ := holds.unique held
      obtain ⟨info', added', reordered⟩ := LineInfo.add_of_rearranged rearranged added
      exact ⟨_, .read held' parsed added', rfl, rfl, reordered⟩

end ModuleEntry

/-- Two containers with the same module list and the same string table, whose modules differ in the
order of their line information. -/
structure Container.Reordered (container other : Container) (listed : List ModuleEntry.Listed) :
    Prop where
  enumerates : container.Enumerates listed
  enumerates' : other.Enumerates listed
  entries : ∀ item ∈ listed, item.entry.Reordered container other
  strings : StringTable.load other = StringTable.load container

theorem Container.Reordered.all (reordered : container.Reordered other listed)
    (loaded : Module.all container = .ok modules) :
    ∃ others, Module.all other = .ok others ∧ List.Forall₂ Module.Reordered modules others := by
  have told := (Module.all_eq_ok_iff reordered.enumerates).mp loaded
  have each : ∀ entry ∈ listed.map ModuleEntry.Listed.entry, ∀ module,
      ModuleEntry.Tells container entry (.ok module) →
        ∃ module', ModuleEntry.Tells other entry (.ok module') ∧ module.Reordered module' :=
    List.forall_mem_map.mpr fun item member _ => (reordered.entries item member).tells
  obtain ⟨others, told', same⟩ := exists_forall₂ told each
  exact ⟨others, (Module.all_eq_ok_iff reordered.enumerates').mpr told', same⟩

namespace Session

/-- The same procedure of a module with its lines in another order, which decides nothing. -/
structure SamePlace (pair other : Module × Procedure) : Prop where
  module : pair.1.Reordered other.1
  procedure : other.2 = pair.2
  distinct : Distinct pair.2 pair.1.info.lines

namespace SamePlace

variable {pair pair' : Module × Procedure} {pairs pairs' : List (Module × Procedure)}

theorem forProcedure? (same : SamePlace pair pair') :
    LineEntry.forProcedure? pair'.1.info.lines pair'.2 =
      LineEntry.forProcedure? pair.1.info.lines pair.2 := by
  rw [same.procedure]
  exact LineEntry.forProcedure?_of_perm same.module.info.lines same.distinct

theorem symbolWith (same : SamePlace pair pair') (strings : Except Error StringTable)
    (path : String) :
    symbolWith strings path pair'.1 pair'.2 = symbolWith strings path pair.1 pair.2 := by
  rw [Session.symbolWith, Session.symbolWith, same.forProcedure?, same.module.info.checksums,
    same.procedure]

theorem refersToStrings (same : SamePlace pair pair') :
    refersToStrings pair'.1 pair'.2 = refersToStrings pair.1 pair.2 := by
  rw [Session.refersToStrings, Session.refersToStrings, same.forProcedure?,
    same.module.info.checksums]

theorem symbolsWith (same : List.Forall₂ SamePlace pairs pairs')
    (strings : Except Error StringTable) (path : String) :
    symbolsWith strings path pairs' = symbolsWith strings path pairs := by
  induction same with
  | nil => rfl
  | cons first _ ih => rw [Session.symbolsWith, Session.symbolsWith, first.symbolWith, ih]

theorem referToStrings (same : List.Forall₂ SamePlace pairs pairs') :
    referToStrings pairs' = referToStrings pairs := by
  induction same with
  | nil => rfl
  | cons first _ ih =>
      rw [Session.referToStrings, Session.referToStrings, List.any_cons, List.any_cons,
        first.refersToStrings]
      exact congrArg (_ || ·) ih

theorem matching (pattern : String) (reordered : List.Forall₂ Module.Reordered modules others)
    (distinct : ∀ module ∈ modules, module.DistinctLines) :
    List.Forall₂ SamePlace (matching pattern modules) (matching pattern others) := by
  induction reordered with
  | nil => exact .nil
  | cons first _ ih =>
      obtain ⟨plain, distinct⟩ := List.forall_mem_cons.mp distinct
      refine List.rel_append ?_ (ih distinct)
      simp only [first.procedures, List.forall₂_map_left_iff, List.forall₂_map_right_iff,
        List.forall₂_same]
      exact fun procedure member => ⟨first, rfl, plain procedure (List.mem_filter.mp member).1⟩

end SamePlace

theorem needsStrings_of_reordered (reordered : container.Reordered other listed)
    (loaded : Module.all container = .ok modules)
    (distinct : ∀ module ∈ modules, module.DistinctLines) (query : Query) :
    query.needsStrings other = query.needsStrings container := by
  cases query with
  | modules | namedStreams | strings | stream _ => rfl
  | functions pattern =>
      obtain ⟨others, loaded', same⟩ := reordered.all loaded
      rw [Query.needsStrings, Query.needsStrings, loaded, loaded']
      exact SamePlace.referToStrings (SamePlace.matching pattern same distinct)

theorem outcome_of_reordered (reordered : container.Reordered other listed)
    (loaded : Module.all container = .ok modules)
    (distinct : ∀ module ∈ modules, module.DistinctLines) (strings : Except Error StringTable)
    (path pattern : String) :
    Query.outcome other strings path (.functions pattern) =
      Query.outcome container strings path (.functions pattern) := by
  obtain ⟨others, loaded', same⟩ := reordered.all loaded
  simp only [Query.outcome, loaded, loaded',
    SamePlace.symbolsWith (SamePlace.matching pattern same distinct)]

theorem ask_of_reordered (reordered : container.Reordered other listed)
    (loaded : Module.all container = .ok modules)
    (distinct : ∀ module ∈ modules, module.DistinctLines) (path : String) (history : List Query)
    (pattern : String) :
    (ask (.functions pattern) (askAll history (fresh path other))).1 =
      (ask (.functions pattern) (askAll history (fresh path container))).1 := by
  have looked : (history.any (·.needsStrings other)) = history.any (·.needsStrings container) :=
    congrArg history.any (funext (needsStrings_of_reordered reordered loaded distinct))
  have lost : StringsLost other history ↔ StringsLost container history := by
    rw [StringsLost, StringsLost, looked, reordered.strings]
  have same := outcome_of_reordered reordered loaded distinct
  by_cases here : StringsLost container history
  · rw [ask_of_stringsLost path here, ask_of_stringsLost path (lost.mpr here), same]
  · rw [ask_of_not_stringsLost path here, ask_of_not_stringsLost path (mt lost.mp here), same,
      reordered.strings]

/-- The entry of a procedure is the first with the lowest address in its code, and there is none
exactly if no entry lies there. So the order of the lines does not decide on the address, and it
does not decide on the entry if no two entries in the code share an address. Two databases whose
line tables, or their blocks, stand in different orders then give the same functions with the same
files and lines, whatever they were asked before. -/
theorem lowest_lines_locate :
    (∀ (lines : List LineEntry) (procedure : Procedure),
      forProcedure? lines procedure = none ↔ ∀ entry ∈ lines, ¬ InCode procedure entry) ∧
    (∀ (lines : List LineEntry) (procedure : Procedure) (entry : LineEntry),
      forProcedure? lines procedure = some entry ↔
        ∃ before after, lines = before ++ entry :: after ∧ InCode procedure entry ∧
          (∀ other ∈ before, InCode procedure other → entry.address < other.address) ∧
          ∀ other ∈ after, InCode procedure other → entry.address ≤ other.address) ∧
    (∀ (lines others : List LineEntry) (procedure : Procedure), lines.Perm others →
      (forProcedure? others procedure).map LineEntry.address =
        (forProcedure? lines procedure).map LineEntry.address ∧
      (Distinct procedure lines →
        forProcedure? others procedure = forProcedure? lines procedure)) ∧
    ∀ {container other : Container} {listed : List ModuleEntry.Listed} {modules : List Module},
      container.Reordered other listed → Module.all container = .ok modules →
      (∀ module ∈ modules, module.DistinctLines) →
      ∀ (path : String) (history : List Query) (pattern : String),
        (ask (.functions pattern) (askAll history (fresh path other))).1 =
          (ask (.functions pattern) (askAll history (fresh path container))).1 :=
  ⟨fun _ _ => LineEntry.forProcedure?_eq_none_iff, fun _ _ _ => LineEntry.forProcedure?_eq_some_iff,
    fun _ _ _ perm => ⟨LineEntry.address_forProcedure?_of_perm perm,
      LineEntry.forProcedure?_of_perm perm⟩,
    ask_of_reordered⟩

namespace Exchanged

open CodeView.LineInfo (Subsection)

/-- The code of a procedure, in two blocks. -/
def code (blocks : List LineEntry.Written) (fits : ∀ block ∈ blocks, block.Fits) :
    LineEntry.Table where
  header := { offset := 256, segment := 1 }
  flags := 0
  codeSize := 16
  blocks
  leftover := []
  offset_lt := by decide
  segment_lt := by decide
  fits
  few := by decide

def early : LineEntry.Written := { fileId := 0, records := [(4, 7)] }

def late : LineEntry.Written := { fileId := 24, records := [(8, 9)] }

theorem fits_early : early.Fits := ⟨by decide, by decide, by decide⟩

theorem fits_late : late.Fits := ⟨by decide, by decide, by decide⟩

/-- The blocks by their addresses. -/
def forwards : LineEntry.Table :=
  code [early, late]
    (List.forall_mem_cons.mpr ⟨fits_early, List.forall_mem_singleton.mpr fits_late⟩)

def backwards : LineEntry.Table :=
  code [late, early]
    (List.forall_mem_cons.mpr ⟨fits_late, List.forall_mem_singleton.mpr fits_early⟩)

/-- A line table without lines. -/
def blank : LineEntry.Table := code [] (List.forall_mem_nil _)

def subsection (table : LineEntry.Table) (short : table.write.length < limit 4)
    (whole : table.write.length = paddedSize table.write.length) : Subsection where
  kind := LineInfo.lineKind
  body := table.write
  padding := []
  known := by decide
  short
  padded := whole

def first : List Subsection :=
  [subsection forwards (by decide) (by decide), subsection blank (by decide) (by decide)]

def second : List Subsection :=
  [subsection blank (by decide) (by decide), subsection backwards (by decide) (by decide)]

theorem reordered : forwards.Reordered backwards := ⟨rfl, .swap ..⟩

theorem rearranged : Subsection.Rearranged first second :=
  .trans (.blocks rfl rfl rfl rfl reordered _) (.swap (.inl rfl) _)

def moduleList : List ModuleEntry.Listed :=
  [{ entry := ⟨[98], [], 4, 45, 0, 80⟩
     unread
     padding := [0]
     fits := ⟨by decide, by decide, by decide, by decide, by decide, by decide⟩
     padded := by decide }]

/-- The module that is found either way, up to the order of its lines. -/
def told : Module where
  name := Utf8.decode [98]
  procedures := [⟨"f", 1, 256, 16⟩]
  info := { lines := [⟨1, 260, 7, 0⟩, ⟨1, 264, 9, 24⟩] }

def held (subsections : List Subsection) : List Bytes :=
  [heldSymbols ++ ([] ++ (subsections.flatMap Subsection.write ++ []))]

/-- What a database has in common whatever the order of its line information. -/
theorem exists_container (subsections : List Subsection)
    (length : (subsections.flatMap Subsection.write).length = 80)
    (fits : Writer.Fits (listing moduleList (held subsections))) :
    ∃ container : Container, container.Enumerates moduleList ∧
      container.stream 1 = .ok [] ∧
      ModuleEntry.Holds container ⟨[98], [], 4, 45, 0, 80⟩ heldSymbols []
        (subsections.flatMap Subsection.write) [] := by
  obtain ⟨container, -, found, enumerates⟩ := exists_enumerates moduleList (held subsections) fits
    (by decide +kernel) (List.forall_mem_singleton.mpr fun _ => ⟨_, rfl, by
      simp only [List.length_append, length]
      decide⟩)
  exact ⟨container, enumerates, found rfl, by decide, found rfl, rfl, rfl, length⟩

end Exchanged

/-- Two databases with one procedure. In the second one its line table stands behind another one,
and the blocks of the table are exchanged. -/
theorem lowest_lines_locate_exchanged :
    let early : LineEntry := ⟨1, 260, 7, 0⟩
    let late : LineEntry := ⟨1, 264, 9, 24⟩
    let f : Procedure := ⟨"f", 1, 256, 16⟩
    ([early, late].Perm [late, early] ∧ Distinct f [early, late] ∧
      forProcedure? [late, early] f = forProcedure? [early, late] f) ∧
    ∃ (container other : Container) (listed : List ModuleEntry.Listed) (modules : List Module),
      container.Reordered other listed ∧ Module.all container = .ok modules ∧
      (∀ module ∈ modules, module.DistinctLines) ∧
      (ask (.functions "f") (askAll [.modules] (fresh "b.pdb" other))).1 =
        (ask (.functions "f") (askAll [.modules] (fresh "b.pdb" container))).1 := by
  intro early late f
  obtain ⟨-, -, orders, databases⟩ := lowest_lines_locate
  have distinct : Distinct f [early, late] := by decide
  refine ⟨⟨.swap .., distinct, (orders _ _ f (.swap ..)).2 distinct⟩, ?_⟩
  obtain ⟨container, enumerates, empty, holds⟩ := Exchanged.exists_container Exchanged.first
    (by decide) ⟨by decide +kernel, by decide +kernel, by decide +kernel⟩
  obtain ⟨other, enumerates', empty', holds'⟩ := Exchanged.exists_container Exchanged.second
    (by decide) ⟨by decide +kernel, by decide +kernel, by decide +kernel⟩
  have strings : StringTable.load other = StringTable.load container := by
    rw [StringTable.load, StringTable.load, NamedStreams.all, NamedStreams.all]
    change (do let data ← other.stream 1; _) >>= _ = (do let data ← container.stream 1; _) >>= _
    rw [empty, empty']
    rfl
  have reordered : container.Reordered other Exchanged.moduleList :=
    ⟨enumerates, enumerates', List.forall_mem_singleton.mpr fun _ =>
      ⟨_, _, _, _, _, holds, holds', _, _, [], Exchanged.rearranged, (List.append_nil _).symm,
        (List.append_nil _).symm⟩, strings⟩
  have procedures : Procedure.parse heldSymbols 45 = .ok [f] := by cbv
  have lines : ({} : LineInfo).add (Exchanged.first.flatMap LineInfo.Subsection.write) =
      ({ lines := [early, late] }, none) := by cbv
  have loaded : Module.all container = .ok [Exchanged.told] :=
    (Module.all_eq_ok_iff enumerates).mpr (.cons (.read holds procedures lines) .nil)
  have plain : ∀ module ∈ [Exchanged.told], module.DistinctLines :=
    List.forall_mem_singleton.mpr (List.forall_mem_singleton.mpr distinct)
  exact ⟨container, other, _, _, reordered, loaded, plain,
    databases reordered loaded plain "b.pdb" [.modules] "f"⟩

end Session
end Pdb
end TestAtlas
