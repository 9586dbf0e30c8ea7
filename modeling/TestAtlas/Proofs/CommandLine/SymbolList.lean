import TestAtlas.Proofs.CommandLine.ExitCodes
import TestAtlas.Proofs.Report.Listing
import TestAtlas.Proofs.Report.Selection
import TestAtlas.Proofs.Scan.Methods

/-!
What the list of symbols shows. Whatever the format, it is the selection from the
methods of one program database, in their order; only a limit that is not above
zero makes it longer than it should be.
-/

namespace TestAtlas
namespace CommandLine

open Pdb (Readable methods)
open Report (Format Selection)

/-- The methods of a program database: those of all its modules in order if it can be read to the
end, and otherwise none. -/
structure MethodsOf (contents : Except FileError (Array UInt8)) (table : SymbolTable) : Prop where
  readable : ∀ file modules strings, contents = .ok file → Readable file modules strings →
    table = methods modules strings
  unreadable : (∀ file modules strings, contents = .ok file → ¬ Readable file modules strings) →
    table = {}

variable {World : Type}

theorem run_bind {α β : Type} (first : StateM World α) (next : α → StateM World β)
    (world : World) :
    (first >>= next).run world = (next (first.run world).1).run (first.run world).2 := rfl

theorem methodsOf_taken (host : Host (StateM World)) (binary database : String)
    (contents : Except FileError (Array UInt8)) :
    MethodsOf contents (Scanner.taken (Scanner.reading (Collaborators.standard host) binary
      database (Scanner.opening database contents)).1) where
  readable file modules strings read readable := by
    subst read
    exact Scanner.taken_of_readable host binary database readable
  unreadable unreadable := by
    obtain ⟨file, modules, strings, read, readable⟩ | nothing :=
      Scanner.taken_cases host binary database contents
    · exact absurd readable (unreadable file modules strings read)
    · exact nothing

/-- What comes of the task before anything is printed: it has ended in vain, or there is the listing
of a program database. -/
inductive Listed (host : Host (StateM World)) (database? : Option String)
    (selection : Selection) : Except Outcome Finding → Prop where
  | ended {outcome : Outcome} (failed : outcome.exit ≠ Outcome.success)
      (silent : outcome.output = "") : Listed host database? selection (.error outcome)
  | found {table : SymbolTable} {setup : Setup} {events : List Event} (database : String)
      (world : World) (given : ∀ name ∈ database?, database = name)
      (methods : MethodsOf ((host.contents database).run world).1 table) :
      Listed host database? selection (.ok {
        document := .listing (selection.listing table)
        exit := Outcome.success
        search? := some (setup, events) })

theorem failed_ne_success : Outcome.failed ≠ Outcome.success := by decide

theorem misuse_ne_success : Outcome.misuse ≠ Outcome.success := by decide

theorem unreadable_ne_success : Outcome.unreadable ≠ Outcome.success := by decide

variable {host : Host (StateM World)} {database? : Option String} {selection : Selection}

theorem listed_investigateDatabase (verbose : Bool) (setup : Setup) (path : String)
    {located : Except Failure (Option String) × List Entry}
    (given : ∀ name ∈ database?, located.1 = .ok (some name)) (world : World) :
    Listed host database? selection
      ((investigateDatabase host verbose setup path selection located).run world).1 := by
  rcases located with ⟨failure | _ | database, remarks⟩
  · exact .ended failed_ne_success rfl
  · exact .ended unreadable_ne_success rfl
  · have named (name : String) (member : name ∈ database?) : database = name := by
      have same := given name member
      cases same
      rfl
    rw [investigateDatabase, run_bind, Scanner.run_scan_given]
    exact .found database world named (methodsOf_taken host path database _)

theorem listed_of_problem (verbose : Bool) (problem : PathProblem) :
    Listed host database? selection (.error (problem.outcome verbose)) := by
  cases problem with
  | absent path => exact .ended misuse_ne_success rfl
  | notAFile path => exact .ended misuse_ne_success rfl
  | failure failure => exact .ended failed_ne_success rfl

theorem listed_investigateSymbols (verbose : Bool) (choices : Choices) (path : String)
    (world : World) :
    Listed host database? selection
      ((investigateSymbols host verbose database? selection choices path).run world).1 := by
  rw [investigateSymbols, run_bind]
  obtain ⟨given?, world⟩ := (database?.mapM (checkFile host)).run world
  -- The database that is given, or the one that is looked for.
  have locate (world : World) (setup : Setup) :
      ∀ name ∈ database?, ((databaseFor host setup path database?).run world).1.1 =
        .ok (some name) := by
    intro name member
    rw [Option.mem_def.mp member]
    rfl
  rcases given? with _ | problem | given
  case some.error => exact listed_of_problem verbose problem
  all_goals
    dsimp only
    rw [run_bind, run_bind]
    exact listed_investigateDatabase verbose _ path (locate _ _) _

theorem listed_investigate (verbose : Bool) (path : String) (choices : Choices) (world : World) :
    Listed host database? selection
      (((Task.symbols path database? selection choices).investigate host verbose).run world).1 := by
  rw [Task.investigate, investigateFile, run_bind]
  obtain ⟨problem | path, world⟩ := (checkFile host path).run world
  · exact listed_of_problem verbose problem
  · exact listed_investigateSymbols verbose choices path world

/-- The outcome with a listing in a format that does not look at the screen. -/
def outcomeWithListing (setup : Setup) (events : List Event) (listing : Report.Listing)
    (format : Format) : Outcome :=
  setup.finish events
    { exit := Outcome.success
      output := (listing.present ScreenHints.usualWidth format).text }

theorem run_print_listing {common : Common} (notRich : common.format ≠ .rich)
    (listing : Report.Listing) (setup : Setup) (events : List Event) (world : World) :
    (printFound host common (.ok {
      document := .listing listing
      exit := Outcome.success
      search? := some (setup, events) })).run world =
        (outcomeWithListing setup events listing common.format, world) := by
  have printed : Outcome.ofPrintout common.verbose Outcome.success
      (listing.present ScreenHints.usualWidth common.format) =
        { exit := Outcome.success
          output := (listing.present ScreenHints.usualWidth common.format).text } := by
    have text := Report.Listing.isText_present notRich ScreenHints.usualWidth listing
    rw [Outcome.ofPrintout, text.problem, text.coarse]
  rw [printFound, Finding.print, outcomeOf, if_neg notRich, outcomeWithListing, ← printed]
  rfl

theorem listing_ne_nil (selection : Selection) (table : SymbolTable) :
    selection.listing table ≠ [] := by
  rw [Selection.listing]
  cases selection.kind <;> exact List.cons_ne_nil _ _

theorem exit_listSymbols (setup : Setup) (path database : String) (selection : Selection)
    (world : World) :
    ((listSymbols host {} setup path database selection).run world).1.2.exit =
      Outcome.success := by
  rw [listSymbols, run_bind, Scanner.run_scan_given]
  exact exit_ofPrintout (Report.Listing.isText_present (by decide) _ _).problem

/-- The symbols of a database that is given are listed as soon as both paths lead to files. -/
theorem exit_symbols_given {path database : String} (world : World)
    (checked : (checkFile host path).run world = (.ok path, world))
    (checked' : (checkFile host database).run world = (.ok database, world))
    (selection : Selection) (choices : Choices) :
    ((symbols host {} path (some database) selection choices).run world).1.exit =
      Outcome.success := by
  have given : ((some database).mapM (checkFile host)).run world =
      (some (.ok database), world) := by
    change (some <$> checkFile host database).run world = _
    rw [StateT.run_map, checked']
    rfl
  rw [symbols, run_bind, checked]
  dsimp only
  rw [run_bind, given]
  dsimp only
  exact exit_listSymbols (Setup.make ((Settings.Overrides.read host).run world).1 choices) path
    database selection ((Settings.Overrides.read host).run world).2

/-- A run of the command that succeeds lists the same symbols in all formats: those that are
selected from the methods of one program database, which can be told from what is printed. They are
the first ones that the search finds, as many as the limit says, just where the limit is above zero
or leaves out everything. -/
theorem symbols_bounded_iff (host : Host (StateM World)) (path : String)
    (database? : Option String) (selection : Selection) (choices : Choices) (verbose : Bool)
    (world : World) :
    let run := fun common => (symbols host common path database? selection choices).run world
    (∃ outcome later, outcome.exit ≠ Outcome.success ∧ outcome.output = "" ∧
      ∀ common : Common, common.verbose = verbose → run common = (outcome, later)) ∨
    ∃ database before table setup events later,
      (∀ name ∈ database?, database = name) ∧
      MethodsOf ((host.contents database).run before).1 table ∧
      (∀ common : Common, common.verbose = verbose → common.format ≠ .rich →
        run common =
          (outcomeWithListing setup events (selection.listing table) common.format, later)) ∧
      (selection.listing table).Recoverable ∧
      (selection.listing table = selection.bounded table ↔
        ∀ category ∈ selection.kind.categories table, selection.Bounds category.2) := by
  intro run
  let task := Task.symbols path database? selection choices
  have ran (common : Common) (same : common.verbose = verbose) : run common =
      (printFound host common ((task.investigate host verbose).run world).1).run
        ((task.investigate host verbose).run world).2 := by
    rw [← run_bind, ← same, ← perform_eq host { common, task }]
    rfl
  have listed : Listed host database? selection ((task.investigate host verbose).run world).1 :=
    listed_investigate verbose path choices world
  revert ran listed
  generalize (task.investigate host verbose).run world = investigated
  obtain ⟨found, later⟩ := investigated
  intro ran listed
  cases listed with
  | ended failed silent => exact .inl ⟨_, later, failed, silent, ran⟩
  | @found table setup events database before given methods =>
      refine .inr ⟨database, before, table, setup, events, later, given, methods, ?_,
        Report.Listing.recoverable (listing_ne_nil selection table),
        Selection.listing_eq_bounded_iff⟩
      intro common same notRich
      rw [ran common same]
      exact run_print_listing notRich ..

/-- A limit of zero does not keep the only trait method of a database from being listed. -/
theorem symbols_bounded_iff_zero :
    let host := Scanner.lone "a.pdb" (Pdb.Writer.database Scanner.mixed).toArray
    let selection : Selection := { kind := .traits, limit? := some 0 }
    let method : Symbol := ⟨"A::b__GTA__c_GTA_TRAIT", "a.cpp", 13⟩
    (∃ setup events, ∀ common : Common, common.verbose = false → common.format ≠ .rich →
      ((symbols host common "a.pdb" (some "a.pdb") selection {}).run ()).1 =
        outcomeWithListing setup events [("traits", [method])] common.format) ∧
    ∀ table, selection.bounded table = [("traits", [])] := by
  intro host selection method
  have readable := Pdb.Writer.readable_database Scanner.encodable_mixed
  have checked : checkFile host "a.pdb" = pure (.ok "a.pdb") := by
    have tidy : Path.tidy "a.pdb" = "a.pdb" := by decide +kernel
    rw [checkFile, tidy]
    rfl
  obtain ⟨outcome, later, failed, -, ran⟩ |
      ⟨database, before, table, setup, events, later, given, listed, ran, -⟩ :=
    symbols_bounded_iff host "a.pdb" (some "a.pdb") selection {} false ()
  · have succeeds := exit_symbols_given () (congrFun checked ()) (congrFun checked ())
      selection {}
    have ended : (symbols host {} "a.pdb" (some "a.pdb") selection {}).run () = _ := ran {} rfl
    rw [ended] at succeeds
    exact absurd succeeds failed
  · obtain rfl := given "a.pdb" rfl
    have found : selection.listing table = [("traits", [method])] := by
      rw [listed.readable _ _ _ rfl readable]
      decide +kernel
    refine ⟨⟨setup, events, fun common quiet notRich => ?_⟩, fun _ => rfl⟩
    have printed : (symbols host common "a.pdb" (some "a.pdb") selection {}).run () = _ :=
      ran common quiet notRich
    rw [printed, found]

end CommandLine
end TestAtlas
