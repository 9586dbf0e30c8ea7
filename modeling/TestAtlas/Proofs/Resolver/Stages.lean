import TestAtlas.Proofs.Resolver.Containment

/-!
The course of a resolver over any number of lookups. It goes through at most
three stages; patterns are resolved in order until one of them fails, imports
are listed at most once and after that, and once both tiers were tried nothing
changes any more.
-/

namespace TestAtlas

def Exchange.pattern? {Reader : Type} : Exchange Reader → Option String
  | matched pattern _ _ => some pattern
  | _ => none

def Exchange.listing? {Reader : Type} : Exchange Reader → Option String
  | listed binary _ _ => some binary
  | _ => none

namespace Ledger

variable {Reader : Type} {first second ledger : Ledger Reader} {wanted rest : List String}

def patterns (ledger : Ledger Reader) : List String := ledger.filterMap Exchange.pattern?

def listings (ledger : Ledger Reader) : List String := ledger.filterMap Exchange.listing?

@[simp] theorem patterns_append (first second : Ledger Reader) :
    Ledger.patterns (first ++ second) = first.patterns ++ second.patterns :=
  List.filterMap_append

@[simp] theorem listings_append (first second : Ledger Reader) :
    Ledger.listings (first ++ second) = first.listings ++ second.listings :=
  List.filterMap_append

/-- No pattern was resolved and no imports were listed. -/
def Quiet (ledger : Ledger Reader) : Prop := ledger.patterns = [] ∧ ledger.listings = []

theorem Quiet.append (h : first.Quiet) (h' : second.Quiet) : Quiet (first ++ second) := by
  constructor
  · rw [patterns_append, h.1, h'.1, List.append_nil]
  · rw [listings_append, h.2, h'.2, List.append_nil]

/-- The patterns were resolved one after the other, all of them or up to one that failed. -/
def Exhausted (wanted : List String) (ledger : Ledger Reader) : Prop :=
  ledger.patterns = wanted ∨ ∃ before pattern failure remarks after rest,
    ledger = before ++ .matched pattern (.error failure) remarks :: after ∧
    Ledger.patterns after = [] ∧ wanted = Ledger.patterns before ++ pattern :: rest

theorem Exhausted.isPrefix (h : ledger.Exhausted wanted) : ledger.patterns <+: wanted := by
  obtain all | ⟨before, pattern, failure, remarks, after, rest, rfl, quiet, split⟩ := h
  · exact all ▸ List.prefix_rfl
  · refine ⟨rest, ?_⟩
    rw [split, patterns_append, List.append_assoc]
    congr 1
    change pattern :: Ledger.patterns after ++ rest = _
    rw [quiet]
    rfl

theorem Exhausted.prepend (first : Ledger Reader) (h : second.Exhausted rest) :
    Exhausted (first.patterns ++ rest) (first ++ second) := by
  obtain rfl | ⟨before, pattern, failure, remarks, after, rest, rfl, quiet, rfl⟩ := h
  · exact .inl (patterns_append first second)
  · refine .inr ⟨first ++ before, pattern, failure, remarks, after, rest, ?_, quiet, ?_⟩
    · rw [List.append_assoc]
    · rw [patterns_append, List.append_assoc]

end Ledger

namespace Resolver

variable {World Reader : Type} {parties : Parties World Reader} {resolver : Resolver}
  {trace : Ledger Reader}

theorem quiet_of_scan {extension? : Option String} {binary : String} {database? : Option String}
    {answer : Except Failure Nat}
    (h : Scanner.Course parties extension? binary database? trace answer) : trace.Quiet := by
  cases h <;> exact ⟨rfl, rfl⟩

theorem quiet_of_asked {executable : String} {files : List String}
    (h : List.Forall₂ (Asked executable) files trace) : trace.Quiet := by
  induction h with
  | nil => exact ⟨rfl, rfl⟩
  | cons asked _ ih =>
      obtain ⟨answer, rfl⟩ := asked
      exact ih

theorem quiet_of_imports {paths : String → String} {extension? : Option String}
    {imports : List String} {outcome : Except Failure Unit}
    (h : Search.Sequence (fun imported => ImportCourse parties extension? (paths imported)) imports
      trace outcome) : trace.Quiet := by
  have quiet {path : String} {trace : Ledger Reader} {outcome : Except Failure Unit}
      (h : ImportCourse parties extension? path trace outcome) : trace.Quiet := by
    cases h with
    | absent => exact ⟨rfl, rfl⟩
    | scanned course =>
        have quiet := quiet_of_scan course
        exact quiet
  induction h with
  | nil => exact ⟨rfl, rfl⟩
  | stop _ course => exact quiet course
  | cons course _ ih => exact (quiet course).append ih

theorem exhausted_of_patterns {executable : String} {wanted : List String}
    {outcome : Except Failure Unit}
    (h : Search.Sequence (PatternCourse executable) wanted trace outcome) :
    trace.Exhausted wanted ∧ trace.listings = [] := by
  induction h with
  | nil => exact ⟨.inl rfl, rfl⟩
  | stop rest course =>
      cases course with
      | failed failure remarks => exact ⟨.inr ⟨[], _, _, remarks, [], rest, rfl, rfl, rfl⟩, rfl⟩
  | @cons pattern rest first second outcome course _ ih =>
      cases course with
      | @scanned files asked remarks h =>
          obtain ⟨patterns, listings⟩ := quiet_of_asked h
          have one : Ledger.patterns (.matched pattern (.ok files) remarks :: asked) = [pattern] :=
            congrArg (pattern :: ·) patterns
          constructor
          · have all := ih.1.prepend (.matched pattern (.ok files) remarks :: asked)
            rw [one] at all
            exact all
          · rw [Ledger.listings_append, ih.2, List.append_nil]
            exact listings

/-- How far a resolver has come, with the questions that were put on the way. -/
inductive Stage (additional : List String) : (triedAdditional triedImports : Bool) →
    Ledger Reader → Prop
  | executable {ledger : Ledger Reader} (h : ledger.Quiet) : Stage additional false false ledger
  | additional {ledger : Ledger Reader} (h : ledger.Exhausted additional)
      (h' : ledger.listings = []) : Stage additional true false ledger
  | imports {before after : Ledger Reader} (binary : String)
      (answer : Except Failure (List String)) (remarks : List Entry)
      (h : before.Exhausted additional) (h' : before.listings = []) (h'' : after.Quiet) :
      Stage additional true true (before ++ .listed binary answer remarks :: after)

theorem patterns_of_course {outcome : Except Failure Unit}
    (h : Tier.Course parties resolver .additional trace outcome) :
    trace.Exhausted resolver.additional ∧ trace.listings = [] := by
  cases h with
  | additional sequence => exact exhausted_of_patterns sequence

theorem listing_of_course {outcome : Except Failure Unit}
    (h : Tier.Course parties resolver .imports trace outcome) :
    ∃ binary answer remarks after, trace = .listed binary answer remarks :: after ∧
      Ledger.Quiet after := by
  cases h with
  | unlisted failure remarks => exact ⟨_, _, remarks, [], rfl, rfl, rfl⟩
  | listed remarks sequence => exact ⟨_, _, remarks, _, rfl, quiet_of_imports sequence⟩

theorem Stage.order {additional : List String} {triedAdditional triedImports : Bool}
    {ledger : Ledger Reader} (h : Stage additional triedAdditional triedImports ledger) :
    (triedImports = true → triedAdditional = true) ∧ ledger.patterns <+: additional ∧
      ledger.listings.length ≤ 1 := by
  cases h with
  | executable quiet =>
      rw [quiet.1, quiet.2]
      exact ⟨id, List.nil_prefix, Nat.zero_le 1⟩
  | additional exhausted listings =>
      rw [listings]
      exact ⟨fun _ => rfl, exhausted.isPrefix, Nat.zero_le 1⟩
  | @imports before after binary answer remarks exhausted listings quiet =>
      have patterns : Ledger.patterns (.listed binary answer remarks :: after) = [] := quiet.1
      have one : Ledger.listings (.listed binary answer remarks :: after) = [binary] :=
        congrArg (binary :: ·) quiet.2
      rw [Ledger.patterns_append, patterns, List.append_nil, Ledger.listings_append, listings, one]
      exact ⟨fun _ => rfl, exhausted.isPrefix, Nat.le_refl 1⟩

namespace Run

/-- A resolver that was made ready, observed from the beginning. -/
def start (parties : Parties World Reader) (fresh : Resolver) (parseSymbols : Bool)
    (world : World) : Run World Reader :=
  let ran := ((Resolver.start parties.watched fresh parseSymbols).run []).run world
  { resolver := ran.1.1.2, ledger := ran.1.2, world := ran.2 }

def after (parties : Parties World Reader) (run : Run World Reader) :
    List (List String) → Run World Reader
  | [] => run
  | signatures :: rest => after parties (run.find parties signatures).2 rest

/-- What a run never takes back: no tier is untried again, and no method is dropped. -/
structure Extends (run next : Run World Reader) : Prop where
  tried : ∀ tier : Tier, tier.tried run.resolver = true → tier.tried next.resolver = true
  tests : run.table.tests <+: next.table.tests
  traits : run.table.traits <+: next.table.traits

def AtStage (additional : List String) (run : Run World Reader) : Prop :=
  run.resolver.additional = additional ∧
    Stage additional run.resolver.triedAdditional run.resolver.triedImports run.ledger

def Spent (run : Run World Reader) : Prop := ∀ tier : Tier, tier.tried run.resolver = true

variable {run first second : Run World Reader} {signatures : List String} {tier : Tier}

theorem Extends.refl (run : Run World Reader) : run.Extends run :=
  ⟨fun _ => id, List.prefix_rfl, List.prefix_rfl⟩

theorem Extends.trans (h : run.Extends first) (h' : first.Extends second) : run.Extends second where
  tried tier := h'.tried tier ∘ h.tried tier
  tests := h.tests.trans h'.tests
  traits := h.traits.trans h'.traits

theorem extends_note (run : Run World Reader) (events : List Event) :
    run.Extends (run.note events) :=
  ⟨fun tier => by cases tier <;> exact id, List.prefix_rfl, List.prefix_rfl⟩

theorem extends_adopt (run : Run World Reader) (tier : Tier) (added : Progress)
    (trace : Ledger Reader) (world : World) : run.Extends (run.adopt tier added trace world) where
  tried other := by
    cases tier <;> cases other <;> first | exact id | exact fun _ => rfl
  tests := List.prefix_append ..
  traits := List.prefix_append ..

theorem extends_of_passage (h : Passage parties signatures tier first second) :
    first.Extends second := by
  cases h with
  | stays _ => exact .refl first
  | tries world _ _ _ => exact extends_adopt first tier _ _ world

theorem tried_adopt (run : Run World Reader) (tier : Tier) (added : Progress)
    (trace : Ledger Reader) (world : World) :
    tier.tried (run.adopt tier added trace world).resolver = true := by
  cases tier <;> rfl

/-- Behind a tier there is an answer, or the tier was tried. -/
theorem tried_of_passage (h : Passage parties signatures tier first second)
    (missed : second.answer signatures = none) : tier.tried second.resolver = true := by
  cases h with
  | stays h =>
      rw [missed] at h
      exact h.resolve_left nofun
  | tries _ _ _ _ => exact tried_adopt ..

theorem eq_of_passage (h : Passage parties signatures tier first second)
    (done : (first.answer signatures).isSome = true ∨ tier.tried first.resolver = true) :
    second = first := by
  cases h with
  | stays _ => rfl
  | tries _ missed untried _ =>
      rw [missed, untried] at done
      cases done with
      | inl found => cases found
      | inr tried => cases tried

theorem stage_additional {additional : List String} (stage : first.AtStage additional)
    (h : Passage parties signatures .additional first second) : second.AtStage additional := by
  cases h with
  | stays _ => exact stage
  | @tries trace outcome added world _ untried attempt =>
      obtain ⟨rfl, stage⟩ := stage
      obtain ⟨exhausted, listings⟩ := patterns_of_course attempt.course
      refine ⟨rfl, ?_⟩
      change Stage _ true first.resolver.triedImports (first.ledger ++ trace)
      change first.resolver.triedAdditional = false at untried
      rw [untried] at stage
      -- The flags and the ledger become variables, so that the stage can be split.
      generalize first.resolver.triedImports = imports at stage ⊢
      generalize first.ledger = ledger at stage ⊢
      cases stage with
      | executable quiet =>
          refine .additional ?_ ?_
          · have all := exhausted.prepend ledger
            rw [quiet.1] at all
            exact all
          · rw [Ledger.listings_append, quiet.2, listings]
            rfl

theorem stage_imports {additional : List String} (stage : first.AtStage additional)
    (tried : first.answer signatures = none → first.resolver.triedAdditional = true)
    (h : Passage parties signatures .imports first second) : second.AtStage additional := by
  cases h with
  | stays _ => exact stage
  | @tries trace outcome added world missed untried attempt =>
      obtain ⟨rfl, stage⟩ := stage
      obtain ⟨binary, answer, remarks, after, rfl, quiet⟩ := listing_of_course attempt.course
      refine ⟨rfl, ?_⟩
      change Stage _ first.resolver.triedAdditional true (first.ledger ++ _)
      change first.resolver.triedImports = false at untried
      rw [tried missed, untried] at stage
      rw [tried missed]
      generalize first.ledger = ledger at stage ⊢
      cases stage with
      | additional exhausted listings =>
          exact .imports binary answer remarks exhausted listings quiet

theorem stage_find {additional : List String} (parties : Parties World Reader)
    (stage : run.AtStage additional) (signatures : List String) :
    (run.find parties signatures).2.AtStage additional := by
  obtain ⟨first, second, remarks, passage, passage', -, found, -⟩ :=
    passes_find parties run signatures
  have reached : second.AtStage additional :=
    stage_imports (stage_additional stage passage) (tried_of_passage passage) passage'
  rw [found]
  exact reached

theorem extends_find (parties : Parties World Reader) (run : Run World Reader)
    (signatures : List String) : run.Extends (run.find parties signatures).2 := by
  obtain ⟨first, second, remarks, passage, passage', -, found, -⟩ :=
    passes_find parties run signatures
  rw [found]
  exact ((extends_of_passage passage).trans (extends_of_passage passage')).trans
    (extends_note second remarks)

/-- Once both tiers were tried, a lookup only says what there is to say about its answer. -/
theorem find_of_spent (parties : Parties World Reader) (spent : run.Spent)
    (signatures : List String) :
    ∃ remarks, run.find parties signatures = (run.answer signatures, run.note remarks) := by
  obtain ⟨first, second, remarks, passage, passage', -, found, -⟩ :=
    passes_find parties run signatures
  cases eq_of_passage passage (.inr (spent .additional))
  cases eq_of_passage passage' (.inr (spent .imports))
  exact ⟨remarks, found⟩

/-- A lookup without an answer leaves nothing to try, and its signatures denote no method. -/
theorem spent_of_none (h : (run.find parties signatures).1 = none) :
    (run.find parties signatures).2.Spent ∧
      (run.find parties signatures).2.answer signatures = none := by
  obtain ⟨first, second, remarks, passage, passage', -, found, -⟩ :=
    passes_find parties run signatures
  rw [found] at h ⊢
  have missed : second.answer signatures = none := h
  -- With an answer before the imports, the imports would not be tried and the answer would stay.
  have additional : Tier.additional.tried second.resolver = true := by
    cases answer : first.answer signatures with
    | none => exact (extends_of_passage passage').tried _ (tried_of_passage passage answer)
    | some _ =>
        have still : second = first := eq_of_passage passage' (.inl (by rw [answer]; rfl))
        rw [still, answer] at missed
        cases missed
  refine ⟨fun tier => (extends_note second remarks).tried tier ?_, missed⟩
  cases tier with
  | additional => exact additional
  | imports => exact tried_of_passage passage' missed

theorem spent_after (parties : Parties World Reader) (spent : run.Spent)
    (calls : List (List String)) :
    (run.after parties calls).Spent ∧ (run.after parties calls).ledger = run.ledger ∧
      ∀ signatures, (run.after parties calls).answer signatures = run.answer signatures := by
  induction calls generalizing run with
  | nil => exact ⟨spent, rfl, fun _ => rfl⟩
  | cons signatures rest ih =>
      obtain ⟨remarks, found⟩ := find_of_spent parties spent signatures
      rw [after, found]
      exact ih fun tier => (extends_note run remarks).tried tier (spent tier)

theorem stage_after {additional : List String} (parties : Parties World Reader)
    (stage : run.AtStage additional) (calls : List (List String)) :
    (run.after parties calls).AtStage additional := by
  induction calls generalizing run with
  | nil => exact stage
  | cons signatures rest ih => exact ih (stage_find parties stage signatures)

theorem start_scans (parties : Parties World Reader) (fresh : Resolver) (world : World) :
    ∃ trace answer added later,
      Scanner.Course parties fresh.extension? fresh.executable none trace answer ∧
      start parties fresh true world =
        ⟨{ fresh with progress := fresh.progress ++ added }, trace, later⟩ ∧
      (Resolver.start parties fresh true).run world =
        ((answer.map fun _ => (), { fresh with progress := fresh.progress ++ added }), later) := by
  obtain ⟨trace, answer, added, later, ran, ran', -, -, course⟩ :=
    Scanner.follows_scan parties fresh.extension? fresh.executable none fresh.progress [] world
  refine ⟨trace, answer, added, later, course, ?_, ?_⟩
  · rw [start, Resolver.start, if_pos rfl, watching_bind ran']
    rfl
  · rw [Resolver.start, if_pos rfl, run_bind ran]
    rfl

theorem stage_start (parties : Parties World Reader) {fresh : Resolver}
    (untried : fresh = fresh.inState false false fresh.progress) (world : World) :
    (start parties fresh true world).AtStage fresh.additional := by
  obtain ⟨trace, answer, added, later, course, started, -⟩ := start_scans parties fresh world
  rw [started, untried]
  exact ⟨rfl, .executable (quiet_of_scan course)⟩

theorem start_unobserved (parties : Parties World Reader) (fresh : Resolver) (parseSymbols : Bool)
    (world : World) :
    ∃ outcome, (Resolver.start parties fresh parseSymbols).run world =
      ((outcome, (start parties fresh parseSymbols world).resolver),
        (start parties fresh parseSymbols world).world) := by
  cases parseSymbols with
  | false => exact ⟨.ok (), rfl⟩
  | true =>
      obtain ⟨trace, answer, added, later, -, started, ran⟩ := start_scans parties fresh world
      rw [started]
      exact ⟨_, ran⟩

end Run

/-- What holds after any lookups, and of the next one. The imports are only tried after the further
databases; patterns are resolved in order until one of them fails, and imports are listed at most
once, after that. The next lookup leaves what was tried as tried and only adds methods; it tries a
tier only if no method matches at that moment, and with both tiers tried it asks no collaborator.
Signatures without an answer stay without one. Under observation all is as it would be without. -/
theorem lookups_keep_order (parties : Parties World Reader) (executable : String)
    (extension? : Option String) (additional : List String) (matcher : Matcher)
    (parseSymbols : Bool) (world : World) (history : List (List String)) :
    let fresh : Resolver := { executable, extension?, additional, matcher }
    let started := Run.start parties fresh parseSymbols world
    let run := started.after parties history
    (∃ outcome, (start parties fresh parseSymbols).run world =
      ((outcome, started.resolver), started.world)) ∧
    (run.resolver.triedImports = true → run.resolver.triedAdditional = true) ∧
    run.ledger.patterns <+: additional ∧ run.ledger.listings.length ≤ 1 ∧
    (if parseSymbols then
      Stage additional run.resolver.triedAdditional run.resolver.triedImports run.ledger
    else run.ledger = []) ∧
    ∀ signatures,
      let found? := (run.find parties signatures).1
      let next := (run.find parties signatures).2
      (find parties run.resolver signatures).run run.world =
        ((found?, next.resolver), next.world) ∧
      (∀ tier : Tier, tier.tried run.resolver = true → tier.tried next.resolver = true) ∧
      run.table.tests <+: next.table.tests ∧ run.table.traits <+: next.table.traits ∧
      (run.Spent → next.ledger = run.ledger ∧ next.world = run.world ∧ next.table = run.table) ∧
      (∃ first second remarks, Passage parties signatures .additional run first ∧
        Passage parties signatures .imports first second ∧ next = second.note remarks) ∧
      (found? = none → ∀ later, ((next.after parties later).find parties signatures).1 = none) := by
  intro fresh started run
  have ordered : (run.resolver.triedImports = true → run.resolver.triedAdditional = true) ∧
      run.ledger.patterns <+: additional ∧ run.ledger.listings.length ≤ 1 ∧
      (if parseSymbols then
        Stage additional run.resolver.triedAdditional run.resolver.triedImports run.ledger
      else run.ledger = []) := by
    cases parseSymbols with
    | true =>
        have ready : (Run.start parties fresh true world).AtStage additional :=
          Run.stage_start parties rfl world
        obtain ⟨-, stage⟩ := Run.stage_after parties ready history
        obtain ⟨order, patterns, listings⟩ := stage.order
        exact ⟨order, patterns, listings, stage⟩
    | false =>
        have spent : started.Spent := fun tier => by cases tier <;> rfl
        obtain ⟨spent, ledger, -⟩ := Run.spent_after parties spent history
        change run.ledger = [] at ledger
        rw [ledger]
        exact ⟨fun _ => spent .additional, List.nil_prefix, Nat.zero_le 1, rfl⟩
  obtain ⟨order, patterns, listings, stage⟩ := ordered
  refine ⟨Run.start_unobserved parties fresh parseSymbols world, order, patterns, listings, stage,
    ?_⟩
  intro signatures found? next
  obtain ⟨first, second, remarks, passage, passage', -, found, unobserved⟩ :=
    passes_find parties run signatures
  have grown := Run.extends_find parties run signatures
  refine ⟨?_, grown.tried, grown.tests, grown.traits, ?_, ?_, ?_⟩
  · rw [unobserved]
    simp only [found?, next, found]
    rfl
  · intro spent
    obtain ⟨remarks, found⟩ := Run.find_of_spent parties spent signatures
    simp only [next, found]
    exact ⟨rfl, rfl, rfl⟩
  · exact ⟨first, second, remarks, passage, passage', congrArg Prod.snd found⟩
  · intro missed later
    obtain ⟨spent, none⟩ := Run.spent_of_none missed
    obtain ⟨spent, -, answers⟩ := Run.spent_after parties spent later
    obtain ⟨remarks, found⟩ := Run.find_of_spent parties spent signatures
    exact (congrArg Prod.fst found).trans ((answers signatures).trans none)

end Resolver
end TestAtlas
