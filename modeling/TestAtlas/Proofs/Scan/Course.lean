import TestAtlas.Proofs.Scan.Watching

/-!
What a scan asks its collaborators. A database is located unless it is given,
and a reader is asked for at most once; whatever the reader does, the scan ends
with the number of methods that the reader contributed.
-/

namespace TestAtlas
namespace Scanner

section

variable {m : Type → Type} {Reader : Type}

/-- What comes of a reader that was asked for, and what happens meanwhile. -/
def reading (parties : Collaborators m Reader) (binary database : String) :
    Except Failure Reader → Except Failure (List Symbol × List Symbol) × List Event
  | .error failure => (.error failure, [.opening binary database])
  | .ok reader => ((enumerate parties reader).1, .opening binary database ::
      (enumerate parties reader).2.map (fun e => .remarked (e.within (context binary database))) ++
        [.closed database])

def verdict (binary database : String) : Except Failure (List Symbol × List Symbol) → Entry
  | .error failure => unreadable binary database failure
  | .ok (tests, traits) => summary binary database tests traits

variable [Monad m]

/-- Takes over what a reader came to. -/
def conclude (binary database : String)
    (found : Except Failure (List Symbol × List Symbol) × List Event) : Search m Nat := do
  Search.emit found.2
  match found.1 with
  | .error failure =>
      Search.remark [unreadable binary database failure]
      return 0
  | .ok (tests, traits) =>
      modify fun p => { p with table := (p.table.addTests tests).addTraits traits }
      Search.remark [summary binary database tests traits]
      return tests.length + traits.length

def concluded (binary database : String)
    (found : Except Failure (List Symbol × List Symbol) × List Event) : Progress where
  table := taken found.1
  events := found.2 ++ [.remarked (verdict binary database found.1)]

variable [LawfulMonad m]

theorem run_conclude (binary database : String)
    (found : Except Failure (List Symbol × List Symbol) × List Event) (progress : Progress) :
    (conclude binary database found : Search m Nat).run.run progress =
      pure (.ok (taken found.1).size, progress ++ concluded binary database found) := by
  obtain ⟨outcome, events⟩ := found
  cases outcome with
  | error failure =>
      simp only [conclude, Search.emit, Search.remark, ExceptT.run_bind, StateT.run_bind,
        Search.run_modify, pure_bind, Progress.record_eq_append, Progress.append_assoc]
      rfl
  | ok found =>
      simp only [conclude, Search.emit, Search.remark, ExceptT.run_bind, StateT.run_bind,
        Search.run_modify, pure_bind, Progress.record_eq_append, Progress.addMethods_eq_append,
        Progress.append_assoc]
      change pure (_, progress ++ Progress.mk (taken (.ok found) ++ ({} : SymbolTable)) _) = _
      rw [SymbolTable.append_empty]
      rfl

theorem read_eq (parties : Collaborators m Reader) (binary database : String) :
    read parties binary database =
      reading parties binary database <$> parties.openReader binary database := by
  rw [read, ← bind_pure_comp]
  congr 1
  funext answer
  cases answer <;> rfl

/-- Scanning with a database is to ask for a reader and to take over what it comes to. -/
theorem scanWith_eq (parties : Collaborators m Reader) (binary database : String) :
    scanWith parties binary database =
      (monadLift (monadLift (parties.openReader binary database) : StateT Progress m _) >>=
        fun answer => conclude binary database (reading parties binary database answer)) := by
  change monadLift (monadLift (read parties binary database) : StateT Progress m _) >>=
    conclude binary database = _
  rw [read_eq, monadLift_map, monadLift_map, bind_map_left]

theorem run_scanWith (parties : Collaborators m Reader) (binary database : String)
    (progress : Progress) :
    (scanWith parties binary database).run.run progress =
      (fun answer =>
        let found := reading parties binary database answer
        (.ok (taken found.1).size, progress ++ concluded binary database found)) <$>
          parties.openReader binary database := by
  rw [scanWith_eq]
  simp only [ExceptT.run_bind, StateT.run_bind, Search.run_lift, bind_map_left, run_conclude,
    bind_pure_comp]

/-- Scanning without a database is to have one located and to scan with it. -/
theorem run_scan_none (parties : Collaborators m Reader) (extension? : Option String)
    (binary : String) (progress : Progress) :
    (scan parties extension? binary none).run.run progress = (do
      let (found, remarks) ← parties.locate binary extension?
      let noted := progress.record (remarks.map .remarked)
      match found with
      | .error failure => return (.error failure, noted)
      | .ok none =>
          return (.ok 0, noted.record
            [.remarked (.searchWarning s!"No .pdb file found for '{binary}'")])
      | .ok (some database) => (scanWith parties binary database).run.run noted) := by
  rw [scan]
  simp only [ExceptT.run_bind, StateT.run_bind, Search.run_ask, bind_map_left]
  congr 1
  funext (found, remarks)
  rcases found with failure | _ | database
  · rfl
  · simp only [ExceptT.run_bind, StateT.run_bind, Search.run_remark, pure_bind]
    rfl
  · rfl

end

theorem not_unattached_within (binary database : String) (entry : Entry) :
    ¬ (entry.within (context binary database)).Unattached := by
  simp [Entry.Unattached, Entry.within, context]

theorem not_unattached_verdict (binary database : String)
    (found : Except Failure (List Symbol × List Symbol)) :
    ¬ (verdict binary database found).Unattached := by
  cases found with
  | error failure => exact not_unattached_within binary database _
  | ok found => simp [Entry.Unattached, verdict, summary, Entry.searchInfo]

variable {World Reader : Type} {parties : Parties World Reader}

theorem batch_opened (binary database : String) (answer : Except Failure Reader) :
    (Exchange.opened binary database answer).batch parties =
      taken (reading parties binary database answer).1 := by
  cases answer <;> rfl

theorem accounts_opened {binary database : String} {answer : Except Failure Reader}
    (given : ∃ world, ((parties.openReader binary database).run world).1 = answer) :
    Accounts parties [.opened binary database answer]
      (concluded binary database (reading parties binary database answer)) where
  table := by
    rw [Ledger.methods_singleton, batch_opened]
    rfl
  closings := by
    cases answer with
    | error failure => rfl
    | ok reader =>
        simp [concluded, reading, List.filterMap_cons, Event.closing?, Exchange.entered?]
  errors := by
    intro e he unattached
    have about : (∃ entry : Entry, e = entry.within (context binary database)) ∨
        ∃ found, e = verdict binary database found := by
      cases answer with
      | error failure => exact .inr ⟨_, List.mem_singleton.mp he⟩
      | ok reader =>
          simp only [concluded, reading, Progress.entries, List.filterMap_append,
            List.filterMap_cons, List.filterMap_map, Event.entry?] at he
          simp only [List.filterMap_nil, List.append_nil, List.mem_append,
            List.mem_filterMap, List.mem_singleton, Function.comp_apply] at he
          obtain ⟨entry, -, said⟩ | rfl := he
          · cases said
            exact .inl ⟨entry, rfl⟩
          · exact .inr ⟨_, rfl⟩
    obtain ⟨entry, rfl⟩ | ⟨found, rfl⟩ := about
    · exact (not_unattached_within binary database entry unattached).elim
    · exact (not_unattached_verdict binary database found unattached).elim
  genuine := by
    intro _ _ _ asked
    cases List.mem_singleton.mp asked
    exact given

theorem follows_scanWith (binary database : String) :
    Search.Follows parties (scanWith parties binary database)
      (scanWith parties.watched binary database) fun trace outcome =>
        ∃ answer, trace = [.opened binary database answer] ∧
          outcome = .ok ((Exchange.opened binary database answer).batch parties).size := by
  rw [scanWith_eq, scanWith_eq]
  refine .once fun answer given => ?_
  refine ⟨_, _, run_conclude binary database _, run_conclude binary database _,
    accounts_opened given, rfl, answer, rfl, ?_⟩
  rw [batch_opened]

/-- What a scan asks and how it ends. The database is given or has to be located first. -/
inductive Course (parties : Parties World Reader) (extension? : Option String) (binary : String) :
    Option String → Ledger Reader → Except Failure Nat → Prop
  | given (database : String) (answer : Except Failure Reader) :
      Course parties extension? binary (some database) [.opened binary database answer]
        (.ok ((Exchange.opened binary database answer).batch parties).size)
  | found (database : String) (remarks : List Entry) (answer : Except Failure Reader) :
      Course parties extension? binary none
        [.located binary extension? (.ok (some database)) remarks,
          .opened binary database answer]
        (.ok ((Exchange.opened binary database answer).batch parties).size)
  | missing (remarks : List Entry) :
      Course parties extension? binary none [.located binary extension? (.ok none) remarks] (.ok 0)
  | failed (failure : Failure) (remarks : List Entry) :
      Course parties extension? binary none
        [.located binary extension? (.error failure) remarks] (.error failure)

/-- What a scan does with the answer to where the database is. -/
def proceed {m : Type → Type} [Monad m] (parties : Collaborators m Reader) (binary : String) :
    Option String → Search m Nat
  | some database => scanWith parties binary database
  | none => do
      Search.remark [.searchWarning s!"No .pdb file found for '{binary}'"]
      return 0

theorem follows_proceed (binary : String) (found? : Option String) :
    Search.Follows parties (proceed parties binary found?) (proceed parties.watched binary found?)
      fun trace outcome => ∀ extension? remarks, Course parties extension? binary none
        (.located binary extension? (.ok found?) remarks :: trace) outcome := by
  cases found? with
  | some database =>
      refine (follows_scanWith binary database).mono ?_
      rintro _ _ ⟨answer, rfl, rfl⟩ extension? remarks
      exact .found database remarks answer
  | none =>
      refine .emit_bind (.said ?_) fun _ => (Search.Follows.pure 0).mono ?_
      · simp [Entry.Unattached, Entry.searchWarning]
      · rintro _ _ ⟨rfl, rfl⟩ extension? remarks
        exact .missing remarks

theorem follows_scan (parties : Parties World Reader) (extension? : Option String)
    (binary : String) (database? : Option String) :
    Search.Follows parties (scan parties extension? binary database?)
      (scan parties.watched extension? binary database?)
      (Course parties extension? binary database?) := by
  cases database? with
  | some database =>
      refine (follows_scanWith binary database).mono ?_
      rintro _ _ ⟨answer, rfl, rfl⟩
      exact .given database answer
  | none =>
      refine (Search.Follows.locate binary extension?).bind (follows_proceed binary) ?_ ?_
      · rintro _ failure ⟨remarks, rfl⟩
        exact .failed failure remarks
      · rintro _ found? trace outcome ⟨remarks, rfl⟩ course
        exact course extension? remarks

end Scanner
end TestAtlas
