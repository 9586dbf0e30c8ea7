import TestAtlas.Proofs.Resolver.Course
import TestAtlas.Proofs.Resolver.Tiers

/-!
Failures stay inside a lookup. Whatever the collaborators do, a lookup gives an
answer; a tier that fails counts as tried, keeps what was scanned before the
failure and leaves one error in its name, and the tier after it is still tried
if there is no answer yet.
-/

namespace TestAtlas
namespace Resolver

variable {World Reader : Type} {parties : Parties World Reader} {signatures : List String}

def Tier.failed (executable : String) (tier : Tier) (failure : Failure) : Entry :=
  .searchError (s!"Exception while loading symbols from {tier.title} of " ++
    s!"'{executable}':\n{failure.report}")

/-- What a tier asks when it is tried, how it ends and what it adds. There is one error about the
tier if it fails; any other error is about a binary or was reported by a collaborator. -/
structure Tier.Attempt (parties : Parties World Reader) (resolver : Resolver) (tier : Tier)
    (trace : Ledger Reader) (outcome : Except Failure Unit) (added : Progress) : Prop where
  course : tier.Course parties resolver trace outcome
  ends : trace.Ends (failure? outcome)
  table : added.table = trace.methods parties
  entries : ∃ said, added.entries =
      said ++ ((failure? outcome).map (tier.failed resolver.executable)).toList ∧
    ∀ e ∈ said, e.Unattached → e ∈ trace.flatMap Exchange.remarks

/-- A resolver in use, with all that its collaborators were asked and the world they act on. -/
structure Run (World Reader : Type) where
  resolver : Resolver
  ledger : Ledger Reader
  world : World

namespace Run

def table (run : Run World Reader) : SymbolTable := run.resolver.progress.table

def answer (run : Run World Reader) (signatures : List String) : Option TestCase :=
  Resolver.answer run.resolver.matcher run.table signatures

/-- The run after something happened that concerns no collaborator. -/
def note (run : Run World Reader) (events : List Event) : Run World Reader :=
  { run with resolver := { run.resolver with progress := run.resolver.progress.record events } }

def adopt (run : Run World Reader) (tier : Tier) (added : Progress) (trace : Ledger Reader)
    (world : World) : Run World Reader where
  resolver := { tier.mark run.resolver with progress := run.resolver.progress ++ added }
  ledger := run.ledger ++ trace
  world := world

def find (parties : Parties World Reader) (run : Run World Reader) (signatures : List String) :
    Option TestCase × Run World Reader :=
  let ran := ((Resolver.find parties.watched run.resolver signatures).run run.ledger).run run.world
  (ran.1.1.1, { resolver := ran.1.1.2, ledger := ran.1.2, world := ran.2 })

end Run

theorem run_load (parties : Parties World Reader) (tier : Tier) (run : Run World Reader) :
    ∃ trace outcome added later,
      (tier.load parties run.resolver).run run.world =
        ((run.adopt tier added trace later).resolver, later) ∧
      ((tier.load parties.watched run.resolver).run run.ledger).run run.world =
        (((run.adopt tier added trace later).resolver, run.ledger ++ trace), later) ∧
      tier.Attempt parties run.resolver trace outcome added := by
  have kept : (tier.mark run.resolver).progress = run.resolver.progress := by
    cases tier <;> rfl
  obtain ⟨trace, outcome, added, later, ran, ran', accounts, ends, course⟩ :=
    follows_steps parties run.resolver tier run.resolver.progress run.ledger run.world
  rw [Tier.load_eq, Tier.load_eq, attempt, attempt, kept, run_bind ran, watching_bind ran']
  -- A failure adds its error behind all that the steps said before it.
  cases outcome with
  | ok _ =>
      exact ⟨trace, .ok (), added, later, rfl, rfl, course, ends, accounts.table, added.entries,
        (List.append_nil _).symm, accounts.errors⟩
  | error failure =>
      refine ⟨trace, .error failure,
        added ++ { events := [.remarked (tier.failed run.resolver.executable failure)] }, later,
        ?_, ?_, course, ends, ?_, added.entries, ?_, accounts.errors⟩
      · rw [Run.adopt, ← Progress.append_assoc, ← Progress.record_eq_append]
        cases tier <;> rfl
      · rw [Run.adopt, ← Progress.append_assoc, ← Progress.record_eq_append]
        cases tier <;> rfl
      · rw [Progress.table_append, accounts.table]
        exact SymbolTable.append_empty _
      · rw [Progress.entries_append]
        rfl

/-- A lookup passes a tier. It stays where it is if there is an answer or the tier was tried
before; otherwise it tries the tier. -/
inductive Passage (parties : Parties World Reader) (signatures : List String) (tier : Tier)
    (before : Run World Reader) : Run World Reader → Prop
  | stays (h : (before.answer signatures).isSome = true ∨ tier.tried before.resolver = true) :
      Passage parties signatures tier before before
  | tries {trace : Ledger Reader} {outcome : Except Failure Unit} {added : Progress}
      (world : World) (missed : before.answer signatures = none)
      (untried : tier.tried before.resolver = false)
      (attempt : tier.Attempt parties before.resolver trace outcome added) :
      Passage parties signatures tier before (before.adopt tier added trace world)

theorem lookUp_fst (resolver : Resolver) (signatures : List String) :
    (resolver.lookUp signatures).1 =
      answer resolver.matcher resolver.progress.table signatures := by
  obtain ⟨_, looked⟩ := lookUp_inState resolver resolver.triedAdditional resolver.triedImports
    resolver.progress signatures
  exact congrArg Prod.fst looked

/-- What a lookup says in the end is at most a warning for each malformed trait method. -/
theorem lookUp_snd (resolver : Resolver) (signatures : List String) :
    ∃ events, (resolver.lookUp signatures).2 =
        { resolver with progress := resolver.progress.record events } ∧
      ∀ event ∈ events, ∃ message, event = .remarked (.searchWarning message) := by
  unfold lookUp
  dsimp only
  split
  · exact ⟨[], by simp only [Progress.record, List.append_nil], List.forall_mem_nil _⟩
  · refine ⟨_, rfl, ?_⟩
    intro event said
    obtain ⟨method, -, rfl⟩ := List.mem_map.mp said
    exact ⟨_, rfl⟩

theorem passage_climb (parties : Parties World Reader) (signatures : List String) (tier : Tier)
    (run : Run World Reader) :
    ∃ next, Passage parties signatures tier run next ∧
      (tier.climb parties signatures run.resolver).run run.world = (next.resolver, next.world) ∧
      ((tier.climb parties.watched signatures run.resolver).run run.ledger).run run.world =
        ((next.resolver, next.ledger), next.world) := by
  unfold Tier.climb
  split
  · rename_i unseen
    rw [Bool.and_eq_true, Option.isNone_iff_eq_none, lookUp_fst, Bool.not_eq_true'] at unseen
    obtain ⟨trace, outcome, added, later, ran, ran', attempt⟩ :=
      run_load parties tier run
    exact ⟨run.adopt tier added trace later, .tries later unseen.1 unseen.2 attempt, ran, ran'⟩
  · rename_i closed
    refine ⟨run, .stays ?_, rfl, rfl⟩
    rw [lookUp_fst] at closed
    change ¬ ((run.answer signatures).isNone && _) = true at closed
    cases found : run.answer signatures with
    | none =>
        rw [found] at closed
        simpa using closed
    | some _ => exact .inl rfl

theorem passes_find (parties : Parties World Reader) (run : Run World Reader)
    (signatures : List String) :
    ∃ first second remarks,
      Passage parties signatures .additional run first ∧
      Passage parties signatures .imports first second ∧
      (∀ event ∈ remarks, ∃ message, event = .remarked (.searchWarning message)) ∧
      run.find parties signatures = (second.answer signatures, second.note remarks) ∧
      (Resolver.find parties run.resolver signatures).run run.world =
        ((second.answer signatures, (second.note remarks).resolver), second.world) := by
  obtain ⟨first, additional, ran, ran'⟩ := passage_climb parties signatures .additional run
  obtain ⟨second, imports, went, went'⟩ := passage_climb parties signatures .imports first
  obtain ⟨remarks, looked, warnings⟩ := lookUp_snd second.resolver signatures
  have found : second.resolver.lookUp signatures =
      (second.answer signatures, (second.note remarks).resolver) :=
    Prod.ext (lookUp_fst _ _) looked
  refine ⟨first, second, remarks, additional, imports, warnings, ?_, ?_⟩
  · rw [Run.find, find_eq, watching_bind ran', watching_bind went', found]
    rfl
  · rw [find_eq, run_bind ran, run_bind went, found]
    rfl

/-- Passing a tier reads each database that is heard of and keeps all methods that are read. -/
theorem grows_of_passage {tier : Tier} {before after : Run World Reader}
    (h : Passage parties signatures tier before after) :
    after.resolver.executable = before.resolver.executable ∧
    ∃ trace, after.ledger = before.ledger ++ trace ∧
      after.table = before.table ++ trace.methods parties ∧
      trace.Pursued before.resolver.executable := by
  cases h with
  | stays _ =>
      exact ⟨rfl, [], (List.append_nil _).symm, (SymbolTable.append_empty _).symm, rfl⟩
  | @tries trace outcome added world _ _ attempt =>
      refine ⟨by cases tier <;> rfl, trace, rfl, ?_, pursued_of_course attempt.course⟩
      rw [← attempt.table]
      rfl

/-- Whatever fails, a lookup gives the answer of the methods that it has in the end. On the way it
passes both tiers, each of which is tried if there is no answer without it and it was not tried
before. No failure keeps it from reading a database that it hears of or makes it drop a method that
was read. Under observation it does the same. -/
theorem find_contains_failures (parties : Parties World Reader) (run : Run World Reader)
    (signatures : List String) :
    ∃ first second remarks trace,
      Passage parties signatures .additional run first ∧
      Passage parties signatures .imports first second ∧
      second.ledger = run.ledger ++ trace ∧
      trace.Pursued run.resolver.executable ∧
      second.table = run.table ++ trace.methods parties ∧
      (∀ event ∈ remarks, ∃ message, event = .remarked (.searchWarning message)) ∧
      run.find parties signatures = (second.answer signatures, second.note remarks) ∧
      (Resolver.find parties run.resolver signatures).run run.world =
        ((second.answer signatures, (second.note remarks).resolver), second.world) := by
  obtain ⟨first, second, remarks, additional, imports, warnings, found, unobserved⟩ :=
    passes_find parties run signatures
  obtain ⟨same, trace, ledger, table, pursued⟩ := grows_of_passage additional
  obtain ⟨-, trace', ledger', table', pursued'⟩ := grows_of_passage imports
  rw [same] at pursued'
  rw [ledger, List.append_assoc] at ledger'
  rw [table, SymbolTable.append_assoc, ← Ledger.methods_append] at table'
  exact ⟨first, second, remarks, trace ++ trace', additional, imports, ledger',
    pursued.append pursued', table', warnings, found, unobserved⟩

end Resolver
end TestAtlas
