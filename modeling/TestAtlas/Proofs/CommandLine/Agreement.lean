import TestAtlas.Proofs.CommandLine.Precedence
import TestAtlas.Proofs.Scan.Standard
import TestAtlas.Proofs.Text.Split

/-!
The list of symbols of an executable and the search for a test in it. Both have a
program database located and scan it. They do it alike as long as the directories
to search hold no placeholders, which are filled in for the search only.
-/

namespace TestAtlas

namespace Settings

/-- Whether a text has no placeholder in it. -/
def Plain (text : String) : Prop :=
  ¬ directoryPlaceholder <:+: text.toList ∧ ¬ namePlaceholder <:+: text.toList

theorem fillIn_of_plain {text : String} (plain : Plain text) (directory name : String) :
    fillIn directory name text = text := by
  rw [fillIn, Text.replace_of_absent _ plain.1, Text.replace_of_absent _ plain.2,
    String.ofList_toList]

end Settings

namespace CommandLine

open Settings (Overrides truth?)

variable {m : Type → Type} [Monad m]

/-- What is known of an executable as soon as its symbols have been looked for. -/
def construct (host : Host m) (path : String) (extension? : Option String) :
    m (Except Failure Unit × Progress) :=
  (fun r => (r.1.map fun _ => (), r.2)) <$>
    (Scanner.scan (Collaborators.standard host) extension? path none).run.run {}

/-- The list of the symbols that are known of an executable, if a program database was opened to
look for them. -/
def listKnown (host : Host m) (common : Common) (setup : Setup) (path : String) :
    Except Failure Unit × Progress → m Outcome
  | (.error failure, known) =>
      return setup.finish known.events (.ofFailure common.verbose failure)
  | (.ok (), known) =>
      if known.events.any Outcome.isOpening then do
        let listing : Report.Listing := [("tests", known.table.tests), ("traits", known.table.traits)]
        return setup.finish known.events
          (← outcomeOf host common Outcome.success fun columns format =>
            listing.present columns format)
      else
        -- That there is no database is the last remark of the scan, and here it is a complaint.
        return setup.finish known.events.dropLast
          (.ofComplaint Outcome.unreadable s!"No .pdb file found for '{path}'")

@[simp] theorem Setup.exit_finish (setup : Setup) (events : List Event) (outcome : Outcome) :
    (setup.finish events outcome).exit = outcome.exit := rfl

@[simp] theorem Setup.output_finish (setup : Setup) (events : List Event) (outcome : Outcome) :
    (setup.finish events outcome).output = outcome.output := rfl

theorem withFile_of_ok [LawfulMonad m] {host : Host m} {path found : String}
    (checked : checkFile host path = pure (.ok found)) (common : Common)
    (task : String → m Outcome) : withFile host common path task = task found := by
  rw [withFile, checked, pure_bind]

theorem searchPath_of_filter (host : Host m) (extension? : Option String) :
    Discovery.searchPath host (extension?.filter (· != "")) =
      Discovery.searchPath host extension? := by
  cases extension? with
  | none => rfl
  | some extension =>
      by_cases empty : extension = ""
      · rw [empty]
        rfl
      · rw [Settings.filter_of_ne_empty empty]

theorem listing_all (table : SymbolTable) :
    ({} : Report.Selection).listing table =
      [("tests", table.tests), ("traits", table.traits)] := by
  have pick_all (symbols : List Symbol) : ({} : Report.Selection).pick symbols = symbols :=
    List.filter_eq_self.mpr fun _ _ => rfl
  rw [Report.Selection.listing, pick_all, pick_all]
  rfl

/-- Whoever scans a database has opened it. -/
theorem any_isOpening (noted : Progress) (binary database : String)
    (answer : Except Failure Pdb.Session) (host : Host m) :
    (noted ++ Scanner.concluded binary database (Scanner.reading (Collaborators.standard host)
      binary database answer)).events.any Outcome.isOpening = true := by
  rw [Progress.events_append, List.any_append, Bool.or_eq_true]
  right
  cases answer <;> rfl

theorem any_isOpening_remarked (remarks : List Entry) :
    (remarks.map Event.remarked).any Outcome.isOpening = false := by
  rw [List.any_map, List.any_eq_false]
  exact fun _ _ => Bool.false_ne_true

theorem listKnown_missing (host : Host m) (common : Common) (setup : Setup) (path : String)
    (remarks : List Entry) (last : Entry) :
    listKnown host common setup path (.ok (),
        (({} : Progress).record (remarks.map .remarked)).record [.remarked last]) =
      pure (setup.finish (remarks.map .remarked)
        (.ofComplaint Outcome.unreadable s!"No .pdb file found for '{path}'")) := by
  have closed : (remarks.map Event.remarked ++ [Event.remarked last]).any Outcome.isOpening =
      false := by
    rw [List.any_append, any_isOpening_remarked]
    rfl
  simp only [listKnown, Progress.record, List.nil_append, closed, Bool.false_eq_true, if_false,
    List.dropLast_concat]

variable [LawfulMonad m]

/-- No extension is as good as an empty one. -/
theorem construct_of_filter (host : Host m) (path : String) (extension? : Option String) :
    construct host path (extension?.filter (· != "")) = construct host path extension? := by
  have located : Discovery.find host path (extension?.filter (· != "")) =
      Discovery.find host path extension? := by
    simp only [Discovery.find, searchPath_of_filter]
  simp only [construct, Scanner.run_scan_none, Collaborators.standard, located]

/-- What the resolver of a search knows when the search begins. -/
def Prepared.known (prepared : Prepared) : Except Failure Unit × Progress :=
  (prepared.ready, prepared.resolver.progress)

theorem prepareWith_known (host : Host m) (setup : Setup) (path : String)
    {working : Settings × List Entry} (wanted : working.1.parseSymbols = true) :
    Prepared.known <$> prepareWith host setup path working =
      construct host path working.1.pathExtension := by
  obtain ⟨settings, remarks⟩ := working
  simp only at wanted
  simp only [prepareWith, Resolver.start, wanted, if_true, map_bind, map_pure, bind_assoc,
    pure_bind, construct, resolverFor]
  exact bind_pure_comp ..

theorem listSymbols_all (host : Host m) (common : Common) (setup : Setup) (path database : String)
    (remarks : List Entry) :
    (do
      let (more, outcome) ← listSymbols host common setup path database {}
      return setup.finish (remarks.map Event.remarked ++ more) outcome) = (do
      let r ← (Scanner.scanWith (Collaborators.standard host) path database).run.run
        (({} : Progress).record (remarks.map .remarked))
      listKnown host common setup path (r.1.map fun _ => (), r.2)) := by
  simp only [listSymbols, Scanner.scan, Scanner.run_scanWith, bind_map_left, bind_assoc]
  congr 1
  funext answer
  simp only [listKnown, Except.map, any_isOpening, if_true, listing_all, pure_bind]
  rfl

theorem symbols_eq (host : Host m) (common : Common) (path : String) (choices : Choices) :
    symbols host common path none {} choices = withFile host common path fun path => (do
      let setup := Setup.make (← Overrides.read host) choices
      construct host path setup.settings.pathExtension >>= listKnown host common setup path) := by
  rw [symbols, withFile]
  congr 1
  funext checked
  rcases checked with problem | path
  · rfl
  simp only [Option.mapM_none, pure_bind, databaseFor, construct, Scanner.run_scan_none,
    bind_map_left, bind_assoc]
  congr 1
  funext overrides
  congr 1
  funext (found, remarks)
  rcases found with failure | _ | database
  · simp only [pure_bind]
    rfl
  · simp only [pure_bind]
    exact (listKnown_missing ..).symm
  · exact listSymbols_all ..

/-- A resolver opens a program database when it is started exactly if one is found for it. -/
theorem isOpening_construct_iff (host : Host Id) (path : String) (extension? : Option String) :
    (construct (m := Id) host path extension?).2.events.any Outcome.isOpening = true ↔
      ∃ database, (Discovery.find (m := Id) host path extension?).1 = .ok (some database) := by
  have located : (Collaborators.standard host).locate path extension? =
      Discovery.find (m := Id) host path extension? := rfl
  rw [construct, Scanner.run_scan_none, located]
  rcases Discovery.find (m := Id) host path extension? with ⟨failure | _ | database, remarks⟩
  · change (remarks.map Event.remarked).any Outcome.isOpening = true ↔ _
    rw [any_isOpening_remarked]
    simp
  · change (remarks.map Event.remarked ++ [Event.remarked _]).any Outcome.isOpening = true ↔ _
    rw [List.any_append, any_isOpening_remarked]
    simp [Outcome.isOpening]
  · refine iff_of_true ?_ ⟨database, rfl⟩
    simp only [Scanner.run_scanWith]
    exact any_isOpening ..

/-- The symbols of an executable are those that a resolver knows which is started with the
directories to search as they are written, and there are none to list if that resolver finds no
program database. A search for a test starts its resolver with the placeholders filled in, so both
agree if there are none. -/
theorem symbols_agree {host : Host m} {environment : String → Option String}
    {directory : String} (steady : host.Steady environment directory) (common : Common)
    (path : String) (choices : Choices) :
    let overrides := Overrides.ofEnvironment environment
    let extension? := choices.pathExtension? <|> overrides.pathExtension
    let list := listKnown host common (Setup.make overrides choices)
    (symbols host common path none {} choices = withFile host common path fun path =>
      construct host path extension? >>= list path) ∧
    ∀ chosen : Choices, chosen.pathExtension? = choices.pathExtension? →
      (overrides.parseSymbols.bind truth?).getD (!chosen.noSymbols) = true →
      (∀ signatures, locate host common path signatures chosen =
        withFile host common path fun path =>
          prepare host chosen path >>= conclude host common signatures) ∧
      (∀ path, Prepared.known <$> prepare host chosen path = construct host path
        ((chosen.preferred overrides).filledFor (Path.absolute directory path)).pathExtension) ∧
      ((∀ text ∈ extension?, Settings.Plain text) →
        symbols host common path none {} choices = withFile host common path fun path =>
          Prepared.known <$> prepare host chosen path >>= list path) ∧
      ∀ (host : Host Id) (path : String) (extension? : Option String),
        (construct (m := Id) host path extension?).2.events.any Outcome.isOpening = true ↔
          ∃ database, (Discovery.find (m := Id) host path extension?).1 = .ok (some database) := by
  intro overrides extension? list
  have listed : symbols host common path none {} choices =
      withFile host common path fun path => construct host path extension? >>= list path := by
    rw [symbols_eq]
    simp only [Overrides.read_of_steady steady, pure_bind, Setup.settings_make]
    rfl
  refine ⟨listed, fun chosen same wanted => ?_⟩
  have known (path : String) : Prepared.known <$> prepare host chosen path = construct host path
      ((chosen.preferred overrides).filledFor (Path.absolute directory path)).pathExtension := by
    rw [prepare_of_steady steady, prepareWith_known]
    · rw [workingSettings_fst]
    · rw [workingSettings_fst]
      exact wanted
  refine ⟨fun signatures => locate_eq .., known, fun plain => ?_, isOpening_construct_iff⟩
  rw [listed]
  congr 1
  funext path
  have unfilled : ((chosen.preferred overrides).filledFor
      (Path.absolute directory path)).pathExtension = extension?.filter (· != "") := by
    change ((chosen.pathExtension? <|> overrides.pathExtension).filter (· != "")).map _ = _
    rw [same]
    cases kept : extension?.filter (· != "") with
    | none => rfl
    | some text =>
        have member : text ∈ extension? := (Option.filter_eq_some_iff.mp kept).1
        rw [Option.map_some, Settings.fillIn_of_plain (plain text member)]
  rw [known, unfilled, construct_of_filter]

/-- The methods of a database that is found are known, and they are listed. -/
theorem listKnown_provided {host : Host Id} {path : String} {modules : List Pdb.Module}
    {strings : Pdb.StringTable} (named : host.contents path ≠ .error .nullInPath)
    (provides : Scanner.Provides host none path modules strings) (common : Common)
    (setup : Setup) :
    ∃ after, construct (m := Id) host path none = (.ok (), after) ∧
      after.table = Pdb.methods modules strings ∧
      listKnown (m := Id) host common setup path (.ok (), after) = setup.finish after.events
        (outcomeOf (m := Id) host common Outcome.success fun columns format =>
          Report.Listing.present columns format
            [("tests", after.table.tests), ("traits", after.table.traits)]) := by
  obtain ⟨added, after, ran, contains⟩ := Scanner.scan_contains named none {}
  have known : construct (m := Id) host path none = (.ok (), after) := by
    rw [construct, ran]
    rfl
  have opened : after.events.any Outcome.isOpening = true := by
    obtain ⟨database, file, found, -⟩ := provides
    have opens := (isOpening_construct_iff host path none).mpr ⟨database, found⟩
    rw [known] at opens
    exact opens
  refine ⟨after, known, (contains.all modules strings provides).2, ?_⟩
  rw [listKnown, if_pos opened]
  rfl

/-- The methods in the program database beside the image `t.exe`. -/
def Sample.shippedMethods : SymbolTable where
  tests := [⟨"[a]*\n::TestBody", "a.cpp", 12⟩, ⟨"B::TestBody", "", 0⟩]
  traits := [⟨"A::b__GTA__c_GTA_TRAIT", "a.cpp", 13⟩]

/-- An executable beside its program database, whose methods are listed, and one without a program
database and directories to search in vain. -/
theorem symbols_agree_sample :
    (let host := Scanner.Sample.shipped.host
     let listed := symbols (m := Id) host {} "t.exe" none {} {}
     listed.exit = Outcome.success ∧
       listed.output = "tests: 2\n  [a]*\n::TestBody\ta.cpp:12\n  B::TestBody\t:0\n" ++
         "traits: 1\n  A::b__GTA__c_GTA_TRAIT\ta.cpp:13\n" ∧
       ∃ after, Prepared.known (prepare (m := Id) host {} "t.exe") = (.ok (), after) ∧
         after.table = Sample.shippedMethods) ∧
    (let host := (Sample.world [("TESTLOCATOR_PARSE_SYMBOLS", "yes")]).host
     let missing := symbols (m := Id) host {} "t.exe" none {} { pathExtension? := some "lib" }
     missing.exit = Outcome.unreadable ∧
       missing.complaint = "No .pdb file found for 't.exe'\n") ∧
      Settings.Plain "lib" ∧ ¬ Settings.Plain "$(ExecutableDir)/lib" := by
  have plain : Settings.Plain "lib" := ⟨by decide +kernel, by decide +kernel⟩
  refine ⟨?_, ?_, plain, fun wrong => wrong.1 (by decide +kernel)⟩
  · intro host listed
    obtain ⟨-, agree⟩ := symbols_agree host.steady_value {} "t.exe" {}
    obtain ⟨-, known, same, -⟩ := agree {} rfl (by decide +kernel)
    have named : host.contents "t.exe" ≠ .error .nullInPath := fun failed =>
      absurd ((Pe.contents_eq_nullInPath_iff Scanner.Sample.shipped "t.exe").mp failed) (by decide)
    let setup := Setup.make (.ofEnvironment host.variableNamed) {}
    obtain ⟨after, constructed, table, lists⟩ :=
      listKnown_provided named Scanner.Sample.provides_shipped {} setup
    have methods : after.table = Sample.shippedMethods := by
      rw [table]
      decide +kernel
    have ready := (known "t.exe").trans constructed
    have checked : checkFile (m := Id) host "t.exe" = (pure (.ok "t.exe") : Id _) := by
      unfold Id
      decide +kernel
    have found : listed = setup.finish after.events
        (outcomeOf (m := Id) host {} Outcome.success fun columns format =>
          Report.Listing.present columns format
            [("tests", after.table.tests), ("traits", after.table.traits)]) := by
      refine (same fun text member => absurd member (Option.not_mem_none text)).trans ?_
      rw [withFile_of_ok checked, ready]
      exact lists
    rw [methods] at found
    refine ⟨?_, ?_, after, ready, methods⟩
    · rw [found, Setup.exit_finish]
      decide +kernel
    · rw [found, Setup.output_finish]
      decide +kernel
  · intro host missing
    obtain ⟨-, agree⟩ := symbols_agree host.steady_value {} "t.exe"
      { pathExtension? := some "lib" }
    obtain ⟨-, -, same, -⟩ := agree { pathExtension? := some "lib" } rfl (by decide +kernel)
    have known : missing = _ := same fun text member => (Option.mem_some.mp member) ▸ plain
    rw [known]
    exact ⟨by decide +kernel, by decide +kernel⟩

end CommandLine
end TestAtlas
