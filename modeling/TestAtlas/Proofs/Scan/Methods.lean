import TestAtlas.Proofs.Pdb.Endings
import TestAtlas.Proofs.Scan.Conservation

/-!
What a scan takes from a program database. It is read once for the procedures
whose names end in the ending of test methods and once more for those that end
in the appendix of trait methods; a database that can be read to the end
contributes exactly these, and any other one contributes nothing. No name ends
in both ways, so no table ever has a method of the other kind.
-/

namespace TestAtlas

/-- Test methods and trait methods are what their names say. -/
structure SymbolTable.Separate (table : SymbolTable) : Prop where
  tests : ∀ test ∈ table.tests, Symbol.testBody <:+ test.name.toList
  traits : ∀ trait ∈ table.traits, Symbol.traitAppendix <:+ trait.name.toList

namespace SymbolTable.Separate

theorem empty : SymbolTable.Separate {} := ⟨nofun, nofun⟩

theorem ne {table : SymbolTable} (h : table.Separate) {test trait : Symbol}
    (member : test ∈ table.tests) (member' : trait ∈ table.traits) : test.name ≠ trait.name := by
  intro same
  have short := h.traits trait member'
  rw [← same] at short
  -- Both endings are of one length, so a name that ended in both would make them the same.
  have both : Symbol.testBody <:+ Symbol.traitAppendix :=
    List.suffix_of_suffix_length_le (h.tests test member) short (by decide)
  exact absurd both (by decide)

theorem methods (modules : List Pdb.Module) (strings : Pdb.StringTable) :
    (Pdb.methods modules strings).Separate where
  tests _ member := Pdb.suffix_of_mem_symbolsEndingIn member
  traits _ member := Pdb.suffix_of_mem_symbolsEndingIn member

end SymbolTable.Separate

namespace Scanner

open Pdb Pdb.Session
open Collaborators (standard openSession sessionFunctions)

theorem fst_enumerate {m : Type → Type} {Reader : Type} (parties : Collaborators m Reader)
    (reader : Reader) :
    (enumerate parties reader).1 = (do
      let first := parties.functions reader Symbol.testPattern
      let tests ← first.1
      let traits ← (parties.functions first.2.2 Symbol.traitPattern).1
      return (tests, traits)) := by
  rw [enumerate]
  obtain ⟨tests | tests, said, later⟩ := parties.functions reader Symbol.testPattern
  · rfl
  · dsimp only
    obtain ⟨traits | traits, more, last⟩ := parties.functions later Symbol.traitPattern <;> rfl

section

variable {m : Type → Type} [Monad m] {container : Container} {modules : List Module}
  {strings : StringTable} {found : List Symbol × List Symbol}

theorem sessionFunctions_eq {session : Session} (on : session.On container) {modules : List Module}
    (found : Module.all container = .ok modules) (pattern : String) :
    sessionFunctions session pattern =
      let pairs := matching pattern modules
      let answer := symbolsWith (table container session) session.path pairs
      (answer.1.mapError Failure.database, answer.2,
        grown container answer.2 (referToStrings pairs)
          { session with modules := some modules, remarks := [] }) := by
  have on' : On container { session with remarks := [] } := ⟨on.opened, on.modules⟩
  have ran := exec_functions on' pattern
  rw [found] at ran
  change (let (outcome, later) := exec (functions pattern) { session with remarks := [] }
    (outcome.mapError Failure.database, later.remarks, later)) = _
  rw [ran]
  rfl

/-- Both enumerations on a database that was just opened, as far as their outcomes go. -/
theorem fst_enumerate_fresh (host : Host m) (path : String)
    (parsed : Module.all container = .ok modules) :
    (enumerate (standard host) (Session.fresh path container)).1 = (do
      let tests ← (symbolsWith (StringTable.load container) path
        (endingIn Symbol.testBody modules)).1.mapError Failure.database
      let traits ← (symbolsWith (relooked (StringTable.load container)
        (referToStrings (endingIn Symbol.testBody modules))) path
        (endingIn Symbol.traitAppendix modules)).1.mapError Failure.database
      return (tests, traits)) := by
  have on := on_fresh path container
  have on' : On container
      { Session.fresh path container with modules := some modules, remarks := [] } :=
    ⟨rfl, fun _ h => by cases h; exact parsed⟩
  have asked : (standard host).functions = sessionFunctions := rfl
  rw [fst_enumerate, asked, sessionFunctions_eq on parsed, matching_testPattern]
  dsimp only
  rw [sessionFunctions_eq (on'.grown _ _) parsed, matching_traitPattern]
  dsimp only
  rw [table_grown_eq, grown_path]
  rfl

theorem fst_enumerate_of_not_parsed (host : Host m) (path : String) {e : Pdb.Error}
    (unparsed : Module.all container = .error e) :
    (enumerate (standard host) (Session.fresh path container)).1 = .error (.database e) := by
  have ran := exec_functions (on_fresh path container) Symbol.testPattern
  rw [unparsed] at ran
  have asked : (sessionFunctions (Session.fresh path container) Symbol.testPattern).1 =
      (exec (functions Symbol.testPattern) (Session.fresh path container)).1.mapError
        Failure.database := rfl
  rw [ran] at asked
  rw [fst_enumerate]
  change (sessionFunctions (Session.fresh path container) Symbol.testPattern).1 >>= _ = _
  rw [asked]
  rfl

theorem enumerate_of_tells (host : Host m) (path : String) (h : Tells container modules strings) :
    (enumerate (standard host) (Session.fresh path container)).1 =
      .ok (symbolsEndingIn Symbol.testBody modules strings,
        symbolsEndingIn Symbol.traitAppendix modules strings) := by
  obtain ⟨parsed, serves⟩ := h
  rw [fst_enumerate_fresh host path parsed, symbolsWith_of_serves serves.left,
    symbolsWith_of_serves serves.right]
  rfl

theorem tells_of_enumerate {host : Host m} {path : String}
    (h : (enumerate (standard host) (Session.fresh path container)).1 = .ok found) :
    ∃ modules strings, Tells container modules strings := by
  cases parsed : Module.all container with
  | error e =>
      rw [fst_enumerate_of_not_parsed host path parsed] at h
      cases h
  | ok modules =>
      rw [fst_enumerate_fresh host path parsed] at h
      cases first : (symbolsWith (StringTable.load container) path
          (endingIn Symbol.testBody modules)).1 with
      | error e =>
          rw [first] at h
          cases h
      | ok tests =>
          cases second : (symbolsWith (relooked (StringTable.load container)
              (referToStrings (endingIn Symbol.testBody modules))) path
              (endingIn Symbol.traitAppendix modules)).1 with
          | error e =>
              rw [first, second] at h
              cases h
          | ok traits =>
              -- The second enumeration may see the table that the first one left behind.
              obtain ⟨_, serves⟩ := serves_of_symbolsWith first
              obtain ⟨_, serves'⟩ := serves_of_symbolsWith second
              obtain ⟨strings, both⟩ := serves.append serves'
              exact ⟨modules, strings, parsed, both⟩

/-- What comes of opening a database, by the contents of its file. -/
def opening (database : String) : Except FileError (Array UInt8) → Except Failure Session
  | .error e => .error (.file e database)
  | .ok file => ((Container.parse file).map (Session.fresh database)).mapError .database

theorem openSession_eq [LawfulMonad m] (host : Host m) (database : String) :
    openSession host database = opening database <$> host.contents database := by
  rw [openSession, ← bind_pure_comp]
  congr 1
  funext contents
  cases contents with
  | error e => rfl
  | ok file =>
      cases parsed : Container.parse file with
      | error e =>
          simp only [openFile, opening, parsed]
          rfl
      | ok container =>
          have ran := exec_openFile database parsed
          rw [exec] at ran
          simp only [ran, opening, parsed]
          rfl

theorem taken_of_readable (host : Host m) (binary database : String) {file : Array UInt8}
    (h : Readable file modules strings) :
    taken (reading (standard host) binary database (opening database (.ok file))).1 =
      methods modules strings := by
  obtain ⟨container, parsed, tells⟩ := h
  have fresh : opening database (.ok file) = .ok (Session.fresh database container) := by
    rw [opening, parsed]
    rfl
  rw [fresh]
  change taken (enumerate (standard host) (Session.fresh database container)).1 = _
  rw [enumerate_of_tells host database tells]
  rfl

/-- A file from which a scan takes anything can be read to the end. -/
theorem taken_cases (host : Host m) (binary database : String)
    (contents : Except FileError (Array UInt8)) :
    (∃ file modules strings, contents = .ok file ∧ Readable file modules strings) ∨
      taken (reading (standard host) binary database (opening database contents)).1 = {} := by
  cases contents with
  | error e => exact .inr rfl
  | ok file =>
      cases parsed : Container.parse file with
      | error e =>
          rw [opening, parsed]
          exact .inr rfl
      | ok container =>
          have fresh : opening database (.ok file) = .ok (Session.fresh database container) := by
            rw [opening, parsed]
            rfl
          rw [fresh]
          change _ ∨ taken (enumerate (standard host) (Session.fresh database container)).1 = {}
          cases outcome : (enumerate (standard host) (Session.fresh database container)).1 with
          | error failure => exact .inr rfl
          | ok found =>
              obtain ⟨modules, strings, tells⟩ := tells_of_enumerate outcome
              exact .inl ⟨file, modules, strings, rfl, container, parsed, tells⟩

theorem separate_taken (host : Host m) (binary database : String)
    (contents : Except FileError (Array UInt8)) :
    (taken (reading (standard host) binary database (opening database contents)).1).Separate := by
  obtain ⟨file, modules, strings, rfl, readable⟩ | nothing :=
    taken_cases host binary database contents
  · rw [taken_of_readable host binary database readable]
    exact .methods modules strings
  · rw [nothing]
    exact .empty

end

variable {World : Type}

/-- Whatever is found in the files, a search adds to each table only methods of its kind. -/
theorem separate_of_accounts {host : Host (StateM World)} {trace : Ledger Session}
    {added : Progress} (accounts : Accounts (standard host) trace added) :
    added.table.Separate := by
  have one : ∀ exchange ∈ trace, (exchange.batch (standard host)).Separate := by
    intro exchange asked
    cases exchange with
    | opened binary database answer =>
        obtain ⟨world, rfl⟩ := accounts.genuine binary database answer asked
        rw [batch_opened]
        change (taken (reading _ _ _ ((openSession host database).run world).1).1).Separate
        rw [openSession_eq, StateT.run_map]
        exact separate_taken host binary database _
    | located _ _ _ _ | matched _ _ _ | listed _ _ _ | looked _ _ => exact .empty
  rw [accounts.table]
  constructor
  · intro test member
    obtain ⟨exchange, asked, member⟩ := List.mem_flatMap.mp member
    exact (one exchange asked).tests test member
  · intro trait member
    obtain ⟨exchange, asked, member⟩ := List.mem_flatMap.mp member
    exact (one exchange asked).traits trait member

theorem run_scan_given (host : Host (StateM World)) (extension? : Option String)
    (binary database : String) (progress : Progress) (world : World) :
    ((scan (standard host) extension? binary (some database)).run.run progress).run world =
      let contents := (host.contents database).run world
      let found := reading (standard host) binary database (opening database contents.1)
      ((.ok (taken found.1).size, progress ++ concluded binary database found), contents.2) := by
  change ((scanWith (standard host) binary database).run.run progress).run world = _
  rw [run_scanWith]
  change StateT.run (_ <$> openSession host database) world = _
  rw [openSession_eq, StateT.run_map, StateT.run_map]
  rfl

/-- A scan of a database that can be read to the end appends the symbols of the procedures whose
names end in the endings of test methods and of trait methods, each in the order of the modules and
of the records, and gives their number; of any other database it takes nothing. After any scans
from empty tables, each table has only methods of its kind, and no name is in both. -/
theorem scans_collect_methods (host : Host (StateM World)) (extension? : Option String) :
    (∀ binary database progress world, ∃ n after,
      ((scan (standard host) extension? binary (some database)).run.run progress).run world =
        ((.ok n, after), ((host.contents database).run world).2) ∧
      (∀ file modules strings, ((host.contents database).run world).1 = .ok file →
        Readable file modules strings →
        after.table.tests =
          progress.table.tests ++ symbolsEndingIn Symbol.testBody modules strings ∧
        after.table.traits =
          progress.table.traits ++ symbolsEndingIn Symbol.traitAppendix modules strings ∧
        n = (endingIn Symbol.testBody modules).length +
          (endingIn Symbol.traitAppendix modules).length) ∧
      ((∀ file modules strings, ((host.contents database).run world).1 = .ok file →
        ¬ Readable file modules strings) → after.table = progress.table ∧ n = 0)) ∧
    ∀ calls world,
      let table := ((scanAll (standard host) extension? calls {}).run world).1.2.table
      (∀ test ∈ table.tests, Symbol.testBody <:+ test.name.toList) ∧
      (∀ trait ∈ table.traits, Symbol.traitAppendix <:+ trait.name.toList) ∧
      ∀ test ∈ table.tests, ∀ trait ∈ table.traits, test.name ≠ trait.name := by
  constructor
  · intro binary database progress world
    refine ⟨_, _, run_scan_given host extension? binary database progress world, ?_, ?_⟩
    · intro file modules strings read readable
      have gathered := taken_of_readable host binary database readable
      rw [← read] at gathered
      refine ⟨?_, ?_, ?_⟩
      · change progress.table.tests ++ (taken _).tests = _
        rw [gathered]
        rfl
      · change progress.table.traits ++ (taken _).traits = _
        rw [gathered]
        rfl
      · rw [gathered]
        simp only [SymbolTable.size, methods, symbolsEndingIn, List.length_map]
    · intro unreadable
      obtain ⟨file, modules, strings, read, readable⟩ | nothing :=
        taken_cases host binary database ((host.contents database).run world).1
      · exact absurd readable (unreadable file modules strings read)
      · constructor
        · change progress.table ++ taken _ = _
          rw [nothing, SymbolTable.append_empty]
        · rw [nothing]
          rfl
  · intro calls world
    obtain ⟨trace, answers, added, later, ran, -, accounts, -⟩ :=
      scanAll_accounts (standard host) extension? calls {} [] world
    have separate := separate_of_accounts accounts
    have table : ((scanAll (standard host) extension? calls {}).run world).1.2.table =
        added.table := by
      rw [ran]
      rfl
    intro table'
    rw [show table' = added.table from table]
    refine ⟨separate.tests, separate.traits, ?_⟩
    intro test member trait member'
    exact separate.ne member member'

/-- A database with a test method in either module, one of them with a line break and brackets in
its name, a trait method, and a procedure whose name only begins like one. -/
def mixed : List (List Writer.Function) :=
  [[⟨"[a]*\n::TestBody", "a.cpp", some 12⟩, ⟨"A::b__GTA__c_GTA_TRAIT", "a.cpp", some 13⟩],
    [⟨"::TestBody::run", "", none⟩, ⟨"B::TestBody", "", none⟩]]

theorem encodable_mixed : Writer.Encodable mixed where
  files := by decide +kernel
  streams := by
    simp only [mixed, List.mem_cons, List.not_mem_nil, or_false, forall_eq_or_imp, forall_eq]
    exact ⟨⟨by decide +kernel, by decide +kernel, by decide +kernel, by decide +kernel⟩,
      by decide +kernel, by decide +kernel, by decide +kernel, by decide +kernel⟩
  numbers := by decide +kernel
  moduleList := by decide +kernel
  container := ⟨by decide +kernel, by decide +kernel, by decide +kernel⟩

/-- A host with one file. -/
def lone (path : String) (file : Array UInt8) : Host (StateM Unit) where
  kind other := pure (if other = path then .ok .file else .error .missing)
  contents other := pure (if other = path then .ok file else .error .missing)
  names _ := pure (.error .missing)
  workingDirectory := pure "/"
  variableNamed _ := pure none
  home? _ := pure none

theorem scans_collect_methods_mixed :
    let host := lone "a.pdb" (Writer.database mixed).toArray
    Readable (Writer.database mixed).toArray (Writer.parsed mixed)
      (Writer.strings (Writer.files mixed)) ∧
    (∃ after, ((scan (standard host) none "a.exe" (some "a.pdb")).run.run {}).run () =
        ((.ok 3, after), ()) ∧
      after.table =
        { tests := [⟨"[a]*\n::TestBody", "a.cpp", 12⟩, ⟨"B::TestBody", "", 0⟩],
          traits := [⟨"A::b__GTA__c_GTA_TRAIT", "a.cpp", 13⟩] }) ∧
    (∃ after, ((scan (standard host) none "b.exe" (some "b.pdb")).run.run {}).run () =
        ((.ok 0, after), ()) ∧ after.table = {}) ∧
    ∃ table, ((scanAll (standard host) none [("a.exe", some "a.pdb")] {}).run ()).1.2.table =
      table ∧ ∃ test ∈ table.tests, ∃ trait ∈ table.traits,
        Symbol.testBody <:+ test.name.toList ∧ Symbol.traitAppendix <:+ trait.name.toList ∧
        test.name ≠ trait.name := by
  intro host
  have readable := Writer.readable_database encodable_mixed
  obtain ⟨collects, separate⟩ := scans_collect_methods host none
  obtain ⟨n, after, ran, gives, -⟩ := collects "a.exe" "a.pdb" {} ()
  obtain ⟨tests, traits, number⟩ := gives _ _ _ rfl readable
  have found : after.table =
      { tests := [⟨"[a]*\n::TestBody", "a.cpp", 12⟩, ⟨"B::TestBody", "", 0⟩],
        traits := [⟨"A::b__GTA__c_GTA_TRAIT", "a.cpp", 13⟩] } := by
    rw [SymbolTable.mk.injEq]
    exact ⟨tests.trans (by decide +kernel), traits.trans (by decide +kernel)⟩
  have three : n = 3 := number.trans (by decide +kernel)
  subst three
  have all : ((scanAll (standard host) none [("a.exe", some "a.pdb")] {}).run ()).1.2.table =
      after.table := by
    rw [scanAll, run_bind ran]
    rfl
  obtain ⟨none', after', ran', -, gives'⟩ := collects "b.exe" "b.pdb" {} ()
  obtain ⟨untouched, rfl⟩ := gives' (fun _ _ _ missing => by cases missing)
  refine ⟨readable, ⟨after, ran, found⟩, ⟨after', ran', untouched⟩, _, all.trans found, ?_⟩
  have names := separate [("a.exe", some "a.pdb")] ()
  rw [all, found] at names
  obtain ⟨ends, ends', differ⟩ := names
  exact ⟨_, List.mem_cons_self, _, List.mem_cons_self, ends _ List.mem_cons_self,
    ends' _ List.mem_cons_self, differ _ List.mem_cons_self _ List.mem_cons_self⟩

end Scanner
end TestAtlas
