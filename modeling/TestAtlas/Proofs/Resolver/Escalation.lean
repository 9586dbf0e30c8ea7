import Mathlib.Data.List.Forall2
import TestAtlas.Proofs.Resolver.Tiers

/-!
Lazy escalation against eager loading. When the collaborators answer the same
question always in the same way, a resolver that tries its tiers only on demand
finds the tests, files and lines that it would find with all tiers loaded from
the start, whatever it was asked before.
-/

namespace TestAtlas

namespace Matcher

/-- One of the signatures denotes the symbol. -/
def Denotes (matcher : Matcher) (signatures : List String) (symbol : Symbol) : Prop :=
  signatures ≠ [] ∧ matcher.accepts signatures symbol.name = true

theorem find?_eq_none_iff {matcher : Matcher} {symbols : List Symbol} {signatures : List String} :
    matcher.find? symbols signatures = none ↔
      ∀ symbol ∈ symbols, ¬ matcher.Denotes signatures symbol := by
  cases signatures with
  | nil => simp [find?, Denotes]
  | cons signature rest => simp [find?, Denotes]

theorem find?_eq_some_iff {matcher : Matcher} {symbols : List Symbol} {signatures : List String}
    {symbol : Symbol} :
    matcher.find? symbols signatures = some symbol ↔
      matcher.Denotes signatures symbol ∧ ∃ before after, symbols = before ++ symbol :: after ∧
        ∀ earlier ∈ before, ¬ matcher.Denotes signatures earlier := by
  cases signatures with
  | nil => simp [find?, Denotes]
  | cons signature rest => simp [find?, Denotes, List.find?_eq_some_iff_append]

/-- Further symbols do not change what was found. -/
theorem find?_append {matcher : Matcher} {symbols : List Symbol} {signatures : List String}
    {symbol : Symbol} (h : matcher.find? symbols signatures = some symbol) (more : List Symbol) :
    matcher.find? (symbols ++ more) signatures = some symbol := by
  obtain ⟨denotes, before, after, split, first⟩ := find?_eq_some_iff.mp h
  exact find?_eq_some_iff.mpr ⟨denotes, before, after ++ more, by simp [split], first⟩

end Matcher

namespace Trait

theorem all_append (test : Symbol) (methods more : List Symbol) :
    all test (methods ++ more) = all test methods ++ all test more := by
  simp only [all, List.filter_append, List.filterMap_append]

end Trait

namespace Resolver

/-- What a table has to say on signatures: the first of its tests that they denote, with a part of
the traits that the table has for it, or nothing if they denote none. -/
def AnsweredBy (matcher : Matcher) (table : SymbolTable) (signatures : List String) :
    Option TestCase → Prop
  | none => ∀ test ∈ table.tests, ¬ matcher.Denotes signatures test
  | some found => ∃ before test after, table.tests = before ++ test :: after ∧
      (∀ earlier ∈ before, ¬ matcher.Denotes signatures earlier) ∧
      matcher.Denotes signatures test ∧
      found.name = test.name ∧ found.file = test.file ∧ found.line = test.line ∧
      found.traits <+: Trait.all test table.traits

theorem answeredBy_none {matcher : Matcher} {table : SymbolTable} {signatures : List String}
    (h : answer matcher table signatures = none) : AnsweredBy matcher table signatures none := by
  rw [answer, Option.map_eq_none_iff] at h
  exact Matcher.find?_eq_none_iff.mp h

/-- An answer from a table stays right when the table grows. -/
theorem answeredBy_append {matcher : Matcher} {table : SymbolTable} {signatures : List String}
    {found : TestCase} (h : answer matcher table signatures = some found) (more : SymbolTable) :
    AnsweredBy matcher (table ++ more) signatures (some found) := by
  obtain ⟨test, first, rfl⟩ := Option.map_eq_some_iff.mp h
  obtain ⟨denotes, before, after, split, earlier⟩ :=
    Matcher.find?_eq_some_iff.mp (Matcher.find?_append first more.tests)
  refine ⟨before, test, after, split, earlier, denotes, rfl, rfl, rfl, ?_⟩
  rw [SymbolTable.traits_append, Trait.all_append]
  exact List.prefix_append ..

def place (test : TestCase) : String × String × Int := (test.name, test.file, test.line)

theorem place_of_answeredBy {matcher : Matcher} {table : SymbolTable} {signatures : List String}
    {found? : Option TestCase} (h : AnsweredBy matcher table signatures found?) :
    found?.map place =
      (matcher.find? table.tests signatures).map fun test => (test.name, test.file, test.line) := by
  cases found? with
  | none => rw [Matcher.find?_eq_none_iff.mpr h]; rfl
  | some found =>
      obtain ⟨before, test, after, split, earlier, denotes, name, file, line, -⟩ := h
      rw [Matcher.find?_eq_some_iff.mpr ⟨denotes, before, after, split, earlier⟩]
      simp only [Option.map_some, place, name, file, line]

variable {m : Type → Type} [Monad m] {Reader : Type}

/-- The answers to a sequence of lookups, each on what the ones before it left behind. -/
def findAll (parties : Collaborators m Reader) (resolver : Resolver) :
    List (List String) → m (List (Option TestCase) × Resolver)
  | [] => pure ([], resolver)
  | signatures :: rest => do
      let (found?, resolver) ← find parties resolver signatures
      let (others, resolver) ← findAll parties resolver rest
      return (found? :: others, resolver)

def loadAll (parties : Collaborators m Reader) (resolver : Resolver) : m Resolver := do
  loadImports parties (← loadAdditional parties resolver)

section Deterministic

variable {parties : Collaborators Id Reader} {base : Resolver} {additional imports : Progress}
  {signatures : List String}

/-- What each tier adds, from whatever state it is tried. -/
structure Tiers (parties : Collaborators Id Reader) (base : Resolver)
    (additional imports : Progress) : Prop where
  additional : ∀ triedAdditional triedImports progress,
    loadAdditional parties (base.inState triedAdditional triedImports progress) =
      base.inState true triedImports (progress ++ additional)
  imports : ∀ triedAdditional triedImports progress,
    loadImports parties (base.inState triedAdditional triedImports progress) =
      base.inState triedAdditional true (progress ++ imports)

theorem exists_tiers (parties : Collaborators Id Reader) (base : Resolver) :
    ∃ additional imports, Tiers parties base additional imports := by
  obtain ⟨additional, addsAdditional⟩ := loadAdditional_adds parties base
  obtain ⟨imports, addsImports⟩ := loadImports_adds parties base
  exact ⟨additional, imports, addsAdditional, addsImports⟩

/-- The states that lookups lead to: the table has what the tiers tried so far add to it. -/
inductive Reached (base : Resolver) (additional imports : Progress) : Resolver → Prop
  | executable (progress : Progress) (h : progress.table = base.progress.table) :
      Reached base additional imports (base.inState false false progress)
  | additional (progress : Progress)
      (h : progress.table = base.progress.table ++ additional.table) :
      Reached base additional imports (base.inState true false progress)
  | imports (progress : Progress)
      (h : progress.table = base.progress.table ++ additional.table ++ imports.table) :
      Reached base additional imports (base.inState true true progress)

/-- A state that was reached together with what its table answers. -/
structure Looked (base : Resolver) (additional imports : Progress) (signatures : List String)
    (result : Option TestCase × Resolver) : Prop where
  reached : Reached base additional imports result.2
  answered : result.1 = answer base.matcher result.2.progress.table signatures

theorem looked_lookUp {resolver : Resolver} (reached : Reached base additional imports resolver)
    (signatures : List String) :
    Looked base additional imports signatures (resolver.lookUp signatures) ∧
      (resolver.lookUp signatures).2.triedAdditional = resolver.triedAdditional ∧
      (resolver.lookUp signatures).2.progress.table = resolver.progress.table := by
  cases reached with
  | executable progress h =>
      obtain ⟨remarks, looked⟩ := lookUp_inState base false false progress signatures
      rw [looked]
      exact ⟨⟨.executable _ h, rfl⟩, rfl, rfl⟩
  | additional progress h =>
      obtain ⟨remarks, looked⟩ := lookUp_inState base true false progress signatures
      rw [looked]
      exact ⟨⟨.additional _ h, rfl⟩, rfl, rfl⟩
  | imports progress h =>
      obtain ⟨remarks, looked⟩ := lookUp_inState base true true progress signatures
      rw [looked]
      exact ⟨⟨.imports _ h, rfl⟩, rfl, rfl⟩

theorem looked_escalate_additional (tiers : Tiers parties base additional imports)
    {found? : Option TestCase} {resolver : Resolver}
    (looked : Looked base additional imports signatures (found?, resolver)) :
    let result : Option TestCase × Resolver :=
      escalate (m := Id) triedAdditional (loadAdditional parties) signatures found? resolver
    Looked base additional imports signatures result ∧
      (result.1 = none → result.2.triedAdditional = true) := by
  cases found? with
  | some found => exact ⟨looked, fun h => by cases h⟩
  | none =>
      obtain ⟨reached, answered⟩ := looked
      cases reached with
      | executable progress h =>
          have table : (progress ++ additional).table =
              base.progress.table ++ additional.table := by
            rw [Progress.table_append, h]
          have grown : Reached base additional imports
              (loadAdditional (m := Id) parties (base.inState false false progress)) := by
            rw [tiers.additional]
            exact .additional _ table
          obtain ⟨looked, tried, -⟩ := looked_lookUp grown signatures
          refine ⟨looked, fun _ => tried.trans ?_⟩
          rw [tiers.additional]
          rfl
      | additional progress h => exact ⟨⟨.additional progress h, answered⟩, fun _ => rfl⟩
      | imports progress h => exact ⟨⟨.imports progress h, answered⟩, fun _ => rfl⟩

theorem looked_escalate_imports (tiers : Tiers parties base additional imports)
    {found? : Option TestCase} {resolver : Resolver}
    (looked : Looked base additional imports signatures (found?, resolver))
    (tried : found? = none → resolver.triedAdditional = true) :
    let result : Option TestCase × Resolver :=
      escalate (m := Id) triedImports (loadImports parties) signatures found? resolver
    Looked base additional imports signatures result ∧
      (result.1 = none → result.2.progress.table =
        base.progress.table ++ additional.table ++ imports.table) := by
  cases found? with
  | some found => exact ⟨looked, fun h => by cases h⟩
  | none =>
      obtain ⟨reached, answered⟩ := looked
      cases reached with
      -- Without an answer so far, the additional tier was tried.
      | executable progress h => cases tried rfl
      | additional progress h =>
          have table : (progress ++ imports).table =
              base.progress.table ++ additional.table ++ imports.table := by
            rw [Progress.table_append, h]
          have grown : Reached base additional imports
              (loadImports (m := Id) parties (base.inState true false progress)) := by
            rw [tiers.imports]
            exact .imports _ table
          obtain ⟨looked, -, kept⟩ := looked_lookUp grown signatures
          refine ⟨looked, fun _ => kept.trans ?_⟩
          rw [tiers.imports]
          exact table
      | imports progress h => exact ⟨⟨.imports progress h, answered⟩, fun _ => h⟩

/-- A lookup leads from one of the states to another and answers as all tiers together would. -/
theorem reached_find (tiers : Tiers parties base additional imports) {resolver : Resolver}
    (reached : Reached base additional imports resolver) (signatures : List String) :
    Reached base additional imports (find (m := Id) parties resolver signatures).2 ∧
      AnsweredBy base.matcher (base.progress.table ++ additional.table ++ imports.table)
        signatures (find (m := Id) parties resolver signatures).1 := by
  obtain ⟨first, tried⟩ :=
    looked_escalate_additional tiers (looked_lookUp reached signatures).1
  obtain ⟨looked, full⟩ := looked_escalate_imports tiers first tried
  change Looked base additional imports signatures (find (m := Id) parties resolver signatures)
    at looked
  change (find (m := Id) parties resolver signatures).1 = none →
    (find (m := Id) parties resolver signatures).2.progress.table = _ at full
  generalize find (m := Id) parties resolver signatures = result at looked full
  obtain ⟨found?, later⟩ := result
  obtain ⟨reached, answered⟩ := looked
  refine ⟨reached, ?_⟩
  -- Nothing is found only with the full table; what was found before that stays right.
  cases found? with
  | none => exact answeredBy_none (full rfl ▸ answered.symm)
  | some found =>
      cases reached with
      | executable progress h =>
          rw [SymbolTable.append_assoc, ← h]
          exact answeredBy_append answered.symm _
      | additional progress h =>
          rw [← h]
          exact answeredBy_append answered.symm _
      | imports progress h =>
          rw [← h, ← SymbolTable.append_empty progress.table]
          exact answeredBy_append answered.symm _

theorem reached_findAll (tiers : Tiers parties base additional imports) {resolver : Resolver}
    (reached : Reached base additional imports resolver) (calls : List (List String)) :
    Reached base additional imports (findAll (m := Id) parties resolver calls).2 ∧
      List.Forall₂
        (AnsweredBy base.matcher (base.progress.table ++ additional.table ++ imports.table))
        calls (findAll (m := Id) parties resolver calls).1 := by
  induction calls generalizing resolver with
  | nil => exact ⟨reached, .nil⟩
  | cons signatures rest ih =>
      obtain ⟨reached', answered⟩ := reached_find tiers reached signatures
      obtain ⟨last, others⟩ := ih reached'
      exact ⟨last, .cons answered others⟩

/-- The states that lookups lead to begin with the one in which the executable was scanned. -/
theorem reached_start (parties : Collaborators Id Reader) {fresh : Resolver}
    (untried : fresh = fresh.inState false false fresh.progress) (additional imports : Progress) :
    Reached (start (m := Id) parties fresh true).2 additional imports
      (start (m := Id) parties fresh true).2 := by
  have state : (start (m := Id) parties fresh true).2 =
      (start (m := Id) parties fresh true).2.inState false false
        (start (m := Id) parties fresh true).2.progress := by
    rw [untried]
    rfl
  rw [state]
  exact .executable _ rfl

theorem table_loadAll (tiers : Tiers parties base additional imports) (untried : base =
    base.inState false false base.progress) :
    (loadAll (m := Id) parties base).progress.table =
      base.progress.table ++ additional.table ++ imports.table := by
  change (loadImports (m := Id) parties (loadAdditional (m := Id) parties base)).progress.table = _
  rw [untried, tiers.additional, tiers.imports]
  rfl

end Deterministic

section Inert

theorem escalate_of_tried {tried : Resolver → Bool} {resolver : Resolver}
    (h : tried resolver = true) (load : Resolver → m Resolver) (signatures : List String)
    (found? : Option TestCase) :
    escalate tried load signatures found? resolver = pure (found?, resolver) := by
  rw [escalate, h, Bool.not_true, Bool.and_false, if_neg Bool.false_ne_true]

variable [LawfulMonad m]

/-- Without symbols a lookup answers nothing and asks no one. -/
theorem find_inert (parties : Collaborators m Reader) {resolver : Resolver}
    (empty : resolver.progress.table.tests = []) (signatures : List String) :
    find parties resolver.inert signatures = pure (none, resolver.inert) := by
  have missed : resolver.matcher.find? [] signatures = none :=
    Matcher.find?_eq_none_iff.mpr fun _ h => by cases h
  have looked : resolver.inert.lookUp signatures = (none, resolver.inert) := by
    simp only [lookUp, inert, empty, missed]
  rw [find, looked]
  dsimp only
  rw [escalate_of_tried rfl, pure_bind]
  exact escalate_of_tried rfl _ _ _

theorem findAll_inert (parties : Collaborators m Reader) {resolver : Resolver}
    (empty : resolver.progress.table.tests = []) (calls : List (List String)) :
    findAll parties resolver.inert calls = pure (calls.map fun _ => none, resolver.inert) := by
  induction calls with
  | nil => rfl
  | cons signatures rest ih =>
      simp only [findAll, find_inert parties empty, pure_bind, ih, List.map_cons]

end Inert

/-- Lookups answer as if all tiers had been loaded at once, except that the list of traits may be
shorter; so the place of the test does not depend on the lookups before. A resolver that was told
not to look at symbols answers nothing and asks no collaborator. -/
theorem find_refines_loadAll (executable : String) (extension? : Option String)
    (additional : List String) (matcher : Matcher) :
    let fresh : Resolver := { executable, extension?, additional, matcher }
    (∀ {Reader : Type} (parties : Collaborators Id Reader),
      let started := (start (m := Id) parties fresh true).2
      let table := (loadAll (m := Id) parties started).progress.table
      (∀ calls, List.Forall₂ (AnsweredBy matcher table) calls
        (findAll (m := Id) parties started calls).1) ∧
      (∀ history other signatures,
        (find (m := Id) parties (findAll (m := Id) parties started history).2 signatures).1.map
            place =
          (find (m := Id) parties (findAll (m := Id) parties started other).2 signatures).1.map
            place)) ∧
    (∀ {m : Type → Type} [Monad m] [LawfulMonad m] {Reader : Type}
      (parties : Collaborators m Reader) (calls : List (List String)),
      start parties fresh false = pure (.ok (), fresh.inert) ∧
        findAll parties fresh.inert calls = pure (calls.map fun _ => none, fresh.inert)) := by
  intro fresh
  refine ⟨fun parties => ?_, fun parties calls => ⟨rfl, findAll_inert parties rfl calls⟩⟩
  intro started table
  obtain ⟨first, second, tiers⟩ := exists_tiers parties started
  have reached : Reached started first second started := reached_start parties rfl first second
  have full : table = started.progress.table ++ first.table ++ second.table :=
    table_loadAll tiers rfl
  have answered (history : List (List String)) (signatures : List String) :=
    (reached_find tiers (reached_findAll tiers reached history).1 signatures).2
  refine ⟨fun calls => ?_, fun history other signatures => ?_⟩
  · rw [full]
    exact (reached_findAll tiers reached calls).2
  · rw [place_of_answeredBy (answered history signatures),
      place_of_answeredBy (answered other signatures)]

end Resolver
end TestAtlas
