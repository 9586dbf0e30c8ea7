import TestAtlas.Proofs.Resolver.Escalation
import TestAtlas.Proofs.Scan.Conservation

/-!
Databases that are scanned more than once. The table keeps every repetition; a
lookup finds the same test with and without it, but the traits that the database
has for the test are listed once more.
-/

namespace TestAtlas

namespace Matcher

theorem find?_append_eq (matcher : Matcher) (symbols more : List Symbol)
    (signatures : List String) :
    matcher.find? (symbols ++ more) signatures =
      (matcher.find? symbols signatures).or (matcher.find? more signatures) := by
  unfold find?
  split
  · rfl
  · exact List.find?_append

/-- Symbols that were all met before do not change what is found. -/
theorem find?_repeat {matcher : Matcher} {symbols again : List Symbol}
    (subset : again ⊆ symbols) (more : List Symbol) (signatures : List String) :
    matcher.find? (symbols ++ again ++ more) signatures =
      matcher.find? (symbols ++ more) signatures := by
  rw [find?_append_eq, find?_append_eq, find?_append_eq]
  cases found : matcher.find? symbols signatures with
  | some symbol => rfl
  | none =>
      -- What was not met among the symbols is not met among their repetitions.
      have unmet : matcher.find? again signatures = none :=
        find?_eq_none_iff.mpr fun symbol met => find?_eq_none_iff.mp found symbol (subset met)
      rw [unmet]
      rfl

end Matcher

def SymbolTable.gather (contents : String → SymbolTable) (databases : List String) :
    SymbolTable where
  tests := databases.flatMap fun database => (contents database).tests
  traits := databases.flatMap fun database => (contents database).traits

theorem SymbolTable.gather_append (contents : String → SymbolTable) (first second : List String) :
    gather contents (first ++ second) = gather contents first ++ gather contents second := by
  simp only [gather, List.flatMap_append]
  rfl

theorem SymbolTable.gather_cons (contents : String → SymbolTable) (database : String)
    (rest : List String) :
    gather contents (database :: rest) = contents database ++ gather contents rest := rfl

theorem SymbolTable.infix_gather (contents : String → SymbolTable) {databases : List String}
    {database : String} (h : database ∈ databases) :
    (contents database).tests <:+: (gather contents databases).tests ∧
      (contents database).traits <:+: (gather contents databases).traits := by
  obtain ⟨before, after, rfl⟩ := List.append_of_mem h
  rw [gather_append, gather_cons, ← append_assoc]
  exact ⟨⟨_, _, rfl⟩, ⟨_, _, rfl⟩⟩

theorem Trait.all_infix {methods more : List Symbol} (h : more <:+: methods) (test : Symbol) :
    all test more <:+: all test methods := by
  obtain ⟨before, after, rfl⟩ := h
  rw [all_append, all_append]
  exact ⟨_, _, rfl⟩

namespace Resolver

/-- What two tables answer, where the first one has the methods of `again` once more: nothing, or
the same test at the same place. The traits that these methods give the test are listed by both, and
once more by the first. -/
def AnswersAgain (matcher : Matcher) (again repeated single : SymbolTable)
    (signatures : List String) : Prop :=
  (answer matcher repeated signatures = none ∧ answer matcher single signatures = none) ∨
  ∃ test front back, Trait.all test again.traits <:+: front ∧
    answer matcher single signatures =
      some ⟨test.name, test.file, test.line, front ++ back⟩ ∧
    answer matcher repeated signatures =
      some ⟨test.name, test.file, test.line, front ++ Trait.all test again.traits ++ back⟩

theorem answersAgain_append {table again : SymbolTable} (tests : again.tests <:+: table.tests)
    (traits : again.traits <:+: table.traits) (more : SymbolTable) (matcher : Matcher)
    (signatures : List String) :
    AnswersAgain matcher again (table ++ again ++ more) (table ++ more) signatures := by
  simp only [AnswersAgain, answer, SymbolTable.tests_append, Matcher.find?_repeat tests.subset]
  cases matcher.find? (table.tests ++ more.tests) signatures with
  | none => exact .inl ⟨rfl, rfl⟩
  | some test =>
      refine .inr ⟨test, Trait.all test table.traits, Trait.all test more.traits,
        Trait.all_infix traits test, ?_, ?_⟩
      · rw [Option.map_some, TestCase.ofSymbol, SymbolTable.traits_append, Trait.all_append]
      · rw [Option.map_some, TestCase.ofSymbol, SymbolTable.traits_append,
          SymbolTable.traits_append, Trait.all_append, Trait.all_append]

end Resolver

namespace Scanner

variable {World Reader : Type} {parties : Parties World Reader}
  {contents : String → SymbolTable}

/-- Readers of the same database contribute the same, whatever the binary and the world are. -/
def Determined (parties : Parties World Reader) (contents : String → SymbolTable) : Prop :=
  ∀ binary database world,
    (Exchange.opened binary database ((parties.openReader binary database).run world).1).batch
      parties = contents database

def tableAfter (parties : Parties World Reader) (extension? : Option String)
    (calls : List (String × Option String)) (progress : Progress) (world : World) : SymbolTable :=
  ((scanAll parties extension? calls progress).run world).1.2.table

/-- The databases that a sequence of scans asks readers for. -/
def databases (parties : Parties World Reader) (extension? : Option String)
    (calls : List (String × Option String)) (progress : Progress) (world : World) : List String :=
  ((((scanAll parties.watched extension? calls progress).run []).run world).1.2.filterMap
    Exchange.opening?).map Prod.snd

theorem methods_of_determined (determined : Determined parties contents) {trace : Ledger Reader}
    (genuine : ∀ binary database answer, .opened binary database answer ∈ trace →
      ∃ world, ((parties.openReader binary database).run world).1 = answer) :
    trace.methods parties = .gather contents ((trace.filterMap Exchange.opening?).map Prod.snd) := by
  induction trace with
  | nil => rfl
  | cons exchange rest ih =>
      have later := ih fun binary database answer asked =>
        genuine binary database answer (List.mem_cons_of_mem _ asked)
      rw [← List.singleton_append, Ledger.methods_append, Ledger.methods_singleton, later]
      cases exchange with
      | opened binary database answer =>
          obtain ⟨world, rfl⟩ := genuine binary database answer List.mem_cons_self
          rw [determined]
          rfl
      | located _ _ _ _ | matched _ _ _ | listed _ _ _ | looked _ _ => rfl

theorem tableAfter_eq (determined : Determined parties contents) (extension? : Option String)
    (calls : List (String × Option String)) (progress : Progress) (world : World) :
    tableAfter parties extension? calls progress world = progress.table ++
      .gather contents (databases parties extension? calls progress world) := by
  obtain ⟨trace, answers, added, later, ran, ran', accounts, -⟩ :=
    scanAll_accounts parties extension? calls progress [] world
  rw [tableAfter, databases, ran, ran']
  change (progress ++ added).table = _
  rw [Progress.table_append, accounts.table, methods_of_determined determined accounts.genuine]
  rfl

/-- Scans that differ in that one of them reads a database once more lead to the same answers,
except that the traits of the database are listed once more. -/
theorem rescan_repeats_traits (parties : Parties World Reader) {contents : String → SymbolTable}
    (determined : Determined parties contents) {extension? : Option String}
    {calls fewer : List (String × Option String)} {progress : Progress} {world other : World}
    {before after : List String} {again : String}
    (scanned : databases parties extension? calls progress world = before ++ again :: after)
    (once : databases parties extension? fewer progress other = before ++ after)
    (known : again ∈ before) (matcher : Matcher) (signatures : List String) :
    Resolver.AnswersAgain matcher (contents again)
      (tableAfter parties extension? calls progress world)
      (tableAfter parties extension? fewer progress other) signatures := by
  obtain ⟨tests, traits⟩ := SymbolTable.infix_gather contents known
  rw [tableAfter_eq determined, tableAfter_eq determined, scanned, once,
    SymbolTable.gather_append, SymbolTable.gather_append, SymbolTable.gather_cons]
  simp only [← SymbolTable.append_assoc]
  refine Resolver.answersAgain_append ?_ ?_ (.gather contents after) matcher signatures
  · exact tests.trans (List.suffix_append ..).isInfix
  · exact traits.trans (List.suffix_append ..).isInfix

/-- A test method and a trait method of its class. -/
def ownedTest : SymbolTable where
  tests := [{ name := "A_Test::TestBody", file := "a.cpp", line := 7 }]
  traits := [{ name := "A_Test::Owner__GTA__me_GTA_TRAIT" }]

def owned : Parties Unit Unit where
  locate _ _ := pure (.ok none, [])
  openReader _ _ := pure (.ok ())
  functions _ pattern :=
    (.ok (if pattern = Symbol.testPattern then ownedTest.tests else ownedTest.traits), [], ())
  filesMatching _ := pure (.ok [], [])
  importsOf _ := pure (.ok [], [])
  isFile _ := pure false

theorem determined_owned : Determined owned fun _ => ownedTest := by
  intro binary database world
  change taken (enumerate owned ()).1 = ownedTest
  decide +kernel

theorem rescan_repeats_traits_owned :
    databases owned none [("a.exe", some "a.pdb"), ("a.exe", some "a.pdb")] {} () =
      ["a.pdb"] ++ "a.pdb" :: [] ∧
    databases owned none [("a.exe", some "a.pdb")] {} () = ["a.pdb"] ++ [] ∧
    Resolver.AnswersAgain .exact ownedTest
      (tableAfter owned none [("a.exe", some "a.pdb"), ("a.exe", some "a.pdb")] {} ())
      (tableAfter owned none [("a.exe", some "a.pdb")] {} ()) ["A_Test::TestBody"] := by
  have twice : databases owned none [("a.exe", some "a.pdb"), ("a.exe", some "a.pdb")] {} () =
      ["a.pdb"] ++ "a.pdb" :: [] := by decide +kernel
  have single : databases owned none [("a.exe", some "a.pdb")] {} () = ["a.pdb"] ++ [] := by
    decide +kernel
  exact ⟨twice, single, rescan_repeats_traits owned determined_owned twice single
    (List.mem_singleton_self _) .exact _⟩

/-- The answers are not always the same: the list of traits can get longer. -/
theorem rescan_changes_answers :
    ¬ ∀ (parties : Parties Unit Unit) (contents : String → SymbolTable),
      Determined parties contents →
      ∀ extension? calls fewer progress world other before after again,
        databases parties extension? calls progress world = before ++ again :: after →
        databases parties extension? fewer progress other = before ++ after → again ∈ before →
        ∀ matcher signatures,
          Resolver.answer matcher (tableAfter parties extension? calls progress world)
              signatures =
            Resolver.answer matcher (tableAfter parties extension? fewer progress other)
              signatures := by
  intro harmless
  have same := harmless owned (fun _ => ownedTest) determined_owned none
    [("a.exe", some "a.pdb"), ("a.exe", some "a.pdb")] [("a.exe", some "a.pdb")] {} () ()
    ["a.pdb"] [] "a.pdb" (by decide +kernel) (by decide +kernel) (List.mem_singleton_self _)
    .exact ["A_Test::TestBody"]
  revert same
  decide +kernel

end Scanner
end TestAtlas
