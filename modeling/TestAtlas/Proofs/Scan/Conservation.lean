import Mathlib.Algebra.GroupWithZero.Nat
import TestAtlas.Proofs.Scan.Course

/-!
Scanning is all or nothing, and no method is lost or counted twice. A scan adds
both batches of a reader or leaves the table as it is, every reader that was
opened is closed once, and the numbers that a sequence of scans gives add up to
the size of the table.
-/

namespace TestAtlas
namespace Scanner

section

variable {m : Type → Type} [Monad m] {Reader : Type}

/-- Scans one binary after another, each with the database that goes with it or else with the one
that is located. A scan that fails does not keep the next one from being made. -/
def scanAll (parties : Collaborators m Reader) (extension? : Option String) :
    List (String × Option String) → Progress → m (List (Except Failure Nat) × Progress)
  | [], progress => pure ([], progress)
  | (binary, database?) :: rest, progress => do
      let (answer, progress) ← (scan parties extension? binary database?).run.run progress
      let (answers, progress) ← scanAll parties extension? rest progress
      return (answer :: answers, progress)

end

def given : Except Failure Nat → Nat
  | .ok n => n
  | .error _ => 0

variable {World Reader : Type} {parties : Parties World Reader} {extension? : Option String}
  {binary : String} {database? : Option String} {trace : Ledger Reader}

/-- Both enumerations of a reader succeed, with these batches. -/
def Enumerates (parties : Parties World Reader) (reader : Reader) (tests traits : List Symbol) :
    Prop :=
  ∃ said later more last,
    parties.functions reader Symbol.testPattern = (.ok tests, said, later) ∧
    parties.functions later Symbol.traitPattern = (.ok traits, more, last)

/-- Which database goes with a binary: the one that is given, or the one that is located. -/
def determine (parties : Parties World Reader) (extension? : Option String) (binary : String) :
    Option String → StateM World (Except Failure (Option String))
  | some database => pure (.ok (some database))
  | none => Prod.fst <$> parties.locate binary extension?

/-- A database is determined, and this is the answer to a question for its reader. -/
def Opens (parties : Parties World Reader) (extension? : Option String) (binary : String)
    (database? : Option String) (world : World) (database : String)
    (opened : Except Failure Reader) : Prop :=
  ∃ between,
    (determine parties extension? binary database?).run world = (.ok (some database), between) ∧
    ((parties.openReader binary database).run between).1 = opened

/-- A database is determined, and a reader for it is opened that enumerates these batches. -/
def Reads (parties : Parties World Reader) (extension? : Option String) (binary : String)
    (database? : Option String) (world : World) (tests traits : List Symbol) : Prop :=
  ∃ database reader, Opens parties extension? binary database? world database (.ok reader) ∧
    Enumerates parties reader tests traits

/-- The questions that the collaborators are asked about a binary, with their answers in a
world. -/
def asked (parties : Parties World Reader) (extension? : Option String) (binary : String) :
    Option String → World → Ledger Reader
  | some database, world =>
      [.opened binary database ((parties.openReader binary database).run world).1]
  | none, world =>
      match (parties.locate binary extension?).run world with
      | ((.ok (some database), remarks), between) =>
          [.located binary extension? (.ok (some database)) remarks,
            .opened binary database ((parties.openReader binary database).run between).1]
      | ((found, remarks), _) => [.located binary extension? found remarks]

/-- Both batches are added and counted if they can be read; otherwise nothing is added, and nothing
counted unless already the database cannot be located. -/
structure AllOrNothing (parties : Parties World Reader) (extension? : Option String)
    (binary : String) (database? : Option String) (world : World) (before : SymbolTable)
    (answer : Except Failure Nat) (after : SymbolTable) : Prop where
  all : ∀ tests traits, Reads parties extension? binary database? world tests traits →
    answer = .ok (tests.length + traits.length) ∧ after.tests = before.tests ++ tests ∧
      after.traits = before.traits ++ traits
  nothing : (∀ tests traits, ¬ Reads parties extension? binary database? world tests traits) →
    answer = ((determine parties extension? binary database?).run world).1.map (fun _ => 0) ∧
      after = before

theorem enumerates_iff {reader : Reader} {tests traits : List Symbol} :
    Enumerates parties reader tests traits ↔
      (enumerate parties reader).1 = .ok (tests, traits) := by
  constructor
  · rintro ⟨said, later, more, last, first, second⟩
    simp only [enumerate, first, second]
  · intro h
    unfold enumerate at h
    split at h
    · cases h
    · rename_i said later first
      split at h
      · cases h
      · rename_i more last second
        cases h
        exact ⟨said, later, more, last, first, second⟩

theorem ledger_scanWith (parties : Parties World Reader) (binary database : String)
    (progress : Progress) (ledger : Ledger Reader) (world : World) :
    ((((scanWith parties.watched binary database).run.run progress).run ledger).run world).1.2 =
      ledger ++ [.opened binary database ((parties.openReader binary database).run world).1] := by
  rw [run_scanWith]
  rfl

theorem ledger_scan (parties : Parties World Reader) (extension? : Option String)
    (binary : String) (database? : Option String) (progress : Progress) (ledger : Ledger Reader)
    (world : World) :
    ((((scan parties.watched extension? binary database?).run.run progress).run ledger).run
      world).1.2 = ledger ++ asked parties extension? binary database? world := by
  cases database? with
  | some database => exact ledger_scanWith parties binary database progress ledger world
  | none =>
      have answered : ((parties.watched.locate binary extension?).run ledger).run world = _ :=
        Collaborators.run_watch _ (parties.locate binary extension?) ledger world
      rw [run_scan_none, asked]
      rcases found : (parties.locate binary extension?).run world with
        ⟨⟨failure | _ | database, remarks⟩, between⟩ <;>
        rw [found] at answered <;>
        rw [watching_bind answered]
      · rfl
      · rfl
      · dsimp only
        rw [ledger_scanWith, List.append_assoc]
        rfl

/-- A reader is asked for just when a database is determined. -/
theorem opened_mem_asked {world : World} {database : String} {opened : Except Failure Reader} :
    .opened binary database opened ∈ asked parties extension? binary database? world ↔
      Opens parties extension? binary database? world database opened := by
  cases database? with
  | some given =>
      have determined : (determine parties extension? binary (some given)).run world =
          (.ok (some given), world) := rfl
      rw [asked, List.mem_singleton, Exchange.opened.injEq, Opens, determined]
      constructor
      · rintro ⟨-, rfl, rfl⟩
        exact ⟨world, rfl, rfl⟩
      · rintro ⟨_, ⟨⟩, rfl⟩
        exact ⟨rfl, rfl, rfl⟩
  | none =>
      have determined : (determine parties extension? binary none).run world =
          (((parties.locate binary extension?).run world).1.1,
            ((parties.locate binary extension?).run world).2) := rfl
      rw [asked, Opens, determined]
      rcases (parties.locate binary extension?).run world with
        ⟨⟨failure | _ | located, remarks⟩, between⟩
      · exact iff_of_false nofun (by rintro ⟨_, ⟨⟩, -⟩)
      · exact iff_of_false nofun (by rintro ⟨_, ⟨⟩, -⟩)
      · simp only [List.mem_cons, reduceCtorEq, List.not_mem_nil, or_false, false_or,
          Exchange.opened.injEq, true_and]
        constructor
        · rintro ⟨rfl, rfl⟩
          exact ⟨between, rfl, rfl⟩
        · rintro ⟨_, ⟨⟩, rfl⟩
          exact ⟨rfl, rfl⟩

theorem determine_of_asked {world : World} {found : Except Failure (Option String)}
    {remarks : List Entry} {rest : Ledger Reader}
    (questions : asked parties extension? binary none world =
      .located binary extension? found remarks :: rest) :
    ((determine parties extension? binary none).run world).1 = found := by
  change ((parties.locate binary extension?).run world).1.1 = found
  rw [asked] at questions
  revert questions
  rcases (parties.locate binary extension?).run world with
    ⟨⟨failure | _ | located, others⟩, between⟩ <;>
  · rintro ⟨⟩
    rfl

theorem Opens.unique {world : World} {database other : String}
    {opened opened' : Except Failure Reader}
    (h : Opens parties extension? binary database? world database opened)
    (h' : Opens parties extension? binary database? world other opened') :
    database = other ∧ opened = opened' := by
  obtain ⟨between, determined, rfl⟩ := h
  obtain ⟨_, determined', rfl⟩ := h'
  rw [determined] at determined'
  cases determined'
  exact ⟨rfl, rfl⟩

namespace AllOrNothing

variable {world : World} (before : SymbolTable)

theorem of_opens {database : String} {opened : Except Failure Reader}
    (opens : Opens parties extension? binary database? world database opened) :
    let batch := (Exchange.opened binary database opened).batch parties
    AllOrNothing parties extension? binary database? world before (.ok batch.size)
      (before ++ batch) where
  all := by
    rintro tests traits ⟨other, reader, opens', enumerates⟩
    obtain ⟨rfl, rfl⟩ := opens.unique opens'
    rw [Exchange.batch, enumerates_iff.mp enumerates]
    exact ⟨rfl, rfl, rfl⟩
  nothing := by
    intro none
    obtain ⟨between, determined, -⟩ := id opens
    have empty : (Exchange.opened binary database opened).batch parties = {} := by
      cases opened with
      | error failure => rfl
      | ok reader =>
          rw [Exchange.batch]
          cases outcome : (enumerate parties reader).1 with
          | error failure => rfl
          | ok found =>
              exact absurd ⟨database, reader, opens, enumerates_iff.mpr outcome⟩
                (none found.1 found.2)
    rw [empty, determined, SymbolTable.append_empty]
    exact ⟨rfl, rfl⟩

theorem of_undetermined {found : Except Failure (Option String)}
    (determined : ((determine parties extension? binary database?).run world).1 = found)
    (absent : ∀ database, found ≠ .ok (some database)) :
    AllOrNothing parties extension? binary database? world before (found.map fun _ => 0)
      before where
  all := by
    rintro tests traits ⟨database, reader, ⟨between, known, -⟩, -⟩
    rw [known] at determined
    exact absurd determined.symm (absent database)
  nothing _ := by
    rw [determined]
    exact ⟨rfl, rfl⟩

theorem of_course {answer : Except Failure Nat}
    (course : Course parties extension? binary database?
      (asked parties extension? binary database? world) answer) :
    AllOrNothing parties extension? binary database? world before answer
      (before ++ (asked parties extension? binary database? world).methods parties) := by
  generalize questions : asked parties extension? binary database? world = trace at course ⊢
  cases course with
  | given database opened =>
      rw [Ledger.methods_singleton]
      refine of_opens before (opened_mem_asked.mp ?_)
      rw [questions]
      exact List.mem_singleton_self _
  | found database remarks opened =>
      rw [← List.singleton_append, Ledger.methods_append, Ledger.methods_singleton,
        Ledger.methods_singleton]
      refine of_opens before (opened_mem_asked.mp ?_)
      rw [questions]
      exact List.mem_cons_of_mem _ (List.mem_singleton_self _)
  | missing remarks =>
      rw [Ledger.methods_singleton, Exchange.batch, SymbolTable.append_empty]
      · exact of_undetermined before (determine_of_asked questions) nofun
      · nofun
  | failed failure remarks =>
      rw [Ledger.methods_singleton, Exchange.batch, SymbolTable.append_empty]
      · exact of_undetermined before (determine_of_asked questions) nofun
      · nofun

end AllOrNothing

theorem given_of_course {answer : Except Failure Nat}
    (course : Course parties extension? binary database? trace answer) :
    given answer = (trace.methods parties).size := by
  cases course with
  | given database opened =>
      rw [Ledger.methods_singleton]
      rfl
  | found database remarks opened =>
      rw [← List.singleton_append, Ledger.methods_append, Ledger.methods_singleton,
        Ledger.methods_singleton]
      rfl
  | missing remarks => rfl
  | failed failure remarks => rfl

/-- Scans one after another add what their readers contribute, as many methods as they give. -/
theorem scanAll_accounts (parties : Parties World Reader) (extension? : Option String)
    (calls : List (String × Option String)) (progress : Progress) (ledger : Ledger Reader)
    (world : World) :
    ∃ trace answers added later,
      (scanAll parties extension? calls progress).run world =
        ((answers, progress ++ added), later) ∧
      ((scanAll parties.watched extension? calls progress).run ledger).run world =
        (((answers, progress ++ added), ledger ++ trace), later) ∧
      Accounts parties trace added ∧ (answers.map given).sum = (trace.methods parties).size := by
  induction calls generalizing progress ledger world with
  | nil =>
      refine ⟨[], [], {}, world, ?_, ?_, .said (List.forall_mem_nil _), rfl⟩
      · rw [Progress.append_empty]
        rfl
      · rw [Progress.append_empty, List.append_nil]
        rfl
  | cons call rest ih =>
      obtain ⟨binary, database?⟩ := call
      obtain ⟨trace, answer, added, later, ran, ran', accounts, -, course⟩ :=
        follows_scan parties extension? binary database? progress ledger world
      obtain ⟨trace', answers, more, last, went, went', accounts', sum⟩ :=
        ih (progress ++ added) (ledger ++ trace) later
      rw [Progress.append_assoc] at went went'
      rw [List.append_assoc] at went'
      refine ⟨trace ++ trace', answer :: answers, added ++ more, last, ?_, ?_,
        accounts.append accounts', ?_⟩
      · rw [scanAll, run_bind ran, run_bind went]
        rfl
      · rw [scanAll, watching_bind ran', watching_bind went']
        rfl
      · rw [List.map_cons, List.sum_cons, given_of_course course, sum, Ledger.methods_append,
          SymbolTable.size_append]

/-- A scan asks for a reader of the database that is given, or else has one located and asks for
its reader. It adds both batches of the reader and gives their number, or adds no method and gives
zero, unless it fails because the database cannot be located; each reader that it opened is closed
once. Along any sequence of scans from an empty table the numbers add up to the size of the
table. -/
theorem scans_conserve_methods (parties : Parties World Reader) (extension? : Option String) :
    (∀ binary database? progress ledger world, ∃ answer after later,
      let trace := asked parties extension? binary database? world
      ((scan parties extension? binary database?).run.run progress).run world =
        ((answer, after), later) ∧
      (((scan parties.watched extension? binary database?).run.run progress).run ledger).run
        world = (((answer, after), ledger ++ trace), later) ∧
      Course parties extension? binary database? trace answer ∧
      AllOrNothing parties extension? binary database? world progress.table answer after.table ∧
      after.events.filterMap Event.closing? =
        progress.events.filterMap Event.closing? ++ trace.filterMap Exchange.entered?) ∧
    ∀ calls world, ∃ ledger answers after later,
      (scanAll parties extension? calls {}).run world = ((answers, after), later) ∧
      ((scanAll parties.watched extension? calls {}).run []).run world =
        (((answers, after), ledger), later) ∧
      (answers.map given).sum = after.table.size ∧
      after.events.filterMap Event.closing? = ledger.filterMap Exchange.entered? := by
  constructor
  · intro binary database? progress ledger world
    obtain ⟨trace, answer, added, later, ran, ran', accounts, -, course⟩ :=
      follows_scan parties extension? binary database? progress ledger world
    have questions : trace = asked parties extension? binary database? world := by
      have grown := ledger_scan parties extension? binary database? progress ledger world
      rw [ran'] at grown
      exact List.append_cancel_left grown
    subst questions
    refine ⟨answer, progress ++ added, later, ran, ran', course, ?_, ?_⟩
    · rw [Progress.table_append, accounts.table]
      exact .of_course progress.table course
    · rw [Progress.events_append, List.filterMap_append, accounts.closings]
  · intro calls world
    obtain ⟨trace, answers, added, later, ran, ran', accounts, sum⟩ :=
      scanAll_accounts parties extension? calls {} [] world
    refine ⟨trace, answers, {} ++ added, later, ran, ran', ?_, ?_⟩
    · rw [sum, ← accounts.table]
      rfl
    · exact accounts.closings

/-- Readers of two databases, one of which breaks off at its trait methods; a third one cannot be
opened. The database of one binary can be located. -/
def shelf : Parties Unit String where
  locate binary _ := pure (.ok (if binary = "a.exe" then some "a.pdb" else none), [])
  openReader _ database :=
    pure (if database = "c.pdb" then .error (.other "OSError" "locked") else .ok database)
  functions reader pattern :=
    if pattern = Symbol.testPattern then
      (.ok [{ name := "A::TestBody" }, { name := "B::TestBody" }], [], reader)
    else if reader = "a.pdb" then (.ok [{ name := "A_GTA_TRAIT" }], [], reader)
    else (.error (.other "OSError" "torn"), [], reader)
  filesMatching _ := pure (.ok [], [])
  importsOf _ := pure (.ok [], [])
  isFile _ := pure false

theorem not_reads_shelf {binary : String} {database? : Option String}
    (listed : (binary, database?) ∈
      [("b.exe", some "b.pdb"), ("c.exe", some "c.pdb"), ("d.exe", none)])
    (tests traits : List Symbol) : ¬ Reads shelf none binary database? () tests traits := by
  rintro ⟨database, reader, opens, enumerates⟩
  rw [enumerates_iff] at enumerates
  simp only [List.mem_cons, Prod.mk.injEq, List.not_mem_nil, or_false] at listed
  obtain ⟨rfl, rfl⟩ | ⟨rfl, rfl⟩ | ⟨rfl, rfl⟩ := listed
  · have torn : Opens shelf none "b.exe" (some "b.pdb") () "b.pdb" (.ok "b.pdb") :=
      ⟨(), rfl, rfl⟩
    obtain ⟨rfl, same⟩ := torn.unique opens
    cases same
    cases enumerates
  · have locked : Opens shelf none "c.exe" (some "c.pdb") () "c.pdb"
        (.error (.other "OSError" "locked")) := ⟨(), rfl, rfl⟩
    cases (locked.unique opens).2
  · obtain ⟨between, determined, -⟩ := opens
    cases determined

/-- Readers that come to their end, that break off and that cannot be opened, and a binary without a
database. -/
theorem scans_conserve_methods_shelf :
    let calls := [("a.exe", none), ("b.exe", some "b.pdb"), ("c.exe", some "c.pdb"),
      ("d.exe", none), ("e.exe", some "a.pdb")]
    (∃ answers after later, (scanAll shelf none calls {}).run () = ((answers, after), later) ∧
      answers = [.ok 3, .ok 0, .ok 0, .ok 0, .ok 3] ∧ after.table.size = 6 ∧
      after.events.filterMap Event.closing? = ["a.pdb", "b.pdb", "a.pdb"]) ∧
    (∃ after later,
      ((scan shelf none "a.exe" none).run.run {}).run () = ((.ok 3, after), later) ∧
      after.table = {
        tests := [{ name := "A::TestBody" }, { name := "B::TestBody" }]
        traits := [{ name := "A_GTA_TRAIT" }] }) ∧
    ∀ binary database?, (binary, database?) ∈
        [("b.exe", some "b.pdb"), ("c.exe", some "c.pdb"), ("d.exe", none)] →
      ∃ after later, ((scan shelf none binary database?).run.run {}).run () =
        ((.ok 0, after), later) ∧ after.table = {} := by
  intro calls
  obtain ⟨one, many⟩ := scans_conserve_methods shelf none
  refine ⟨?_, ?_, fun binary database? listed => ?_⟩
  · obtain ⟨ledger, answers, after, later, ran, ran', sum, closings⟩ := many calls ()
    have given : ((scanAll shelf none calls {}).run ()).1.1 =
        [.ok 3, .ok 0, .ok 0, .ok 0, .ok 3] := rfl
    have entered : (((scanAll shelf.watched none calls {}).run []).run ()).1.2.filterMap
        Exchange.entered? = ["a.pdb", "b.pdb", "a.pdb"] := rfl
    rw [ran] at given
    rw [ran'] at entered
    change answers = _ at given
    rw [given] at sum
    exact ⟨answers, after, later, ran, given, sum.symm, closings.trans entered⟩
  · obtain ⟨answer, after, later, ran, -, -, settled, -⟩ := one "a.exe" none {} [] ()
    have reads : Reads shelf none "a.exe" none ()
        [{ name := "A::TestBody" }, { name := "B::TestBody" }] [{ name := "A_GTA_TRAIT" }] :=
      ⟨"a.pdb", "a.pdb", ⟨(), rfl, rfl⟩, [], "a.pdb", [], "a.pdb", rfl, rfl⟩
    obtain ⟨rfl, tests, traits⟩ := settled.all _ _ reads
    refine ⟨after, later, ran, ?_⟩
    rw [SymbolTable.mk.injEq]
    exact ⟨tests, traits⟩
  · obtain ⟨answer, after, later, ran, -, -, settled, -⟩ := one binary database? {} [] ()
    obtain ⟨gave, table⟩ := settled.nothing (not_reads_shelf listed)
    have zero : answer = .ok 0 := by
      rw [gave]
      simp only [List.mem_cons, Prod.mk.injEq, List.not_mem_nil, or_false] at listed
      obtain ⟨rfl, rfl⟩ | ⟨rfl, rfl⟩ | ⟨rfl, rfl⟩ := listed <;> rfl
    rw [zero] at ran
    exact ⟨after, later, ran, table⟩

end Scanner
end TestAtlas
