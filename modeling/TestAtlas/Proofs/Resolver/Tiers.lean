import TestAtlas.Proofs.Scan.Growth
import TestAtlas.Resolver

/-!
What the operations of a resolver change: a tier marks itself as tried and adds
to the progress, a lookup only adds remarks. What a tier adds depends on what
the resolver is for, not on what it has found or tried before.
-/

namespace TestAtlas
namespace Resolver

variable {m : Type → Type} [Monad m] {Reader : Type}

/-- The resolver with other marks and another progress. -/
def inState (resolver : Resolver) (triedAdditional triedImports : Bool) (progress : Progress) :
    Resolver :=
  { resolver with triedAdditional, triedImports, progress }

/-- The answer to signatures from a table. -/
def answer (matcher : Matcher) (table : SymbolTable) (signatures : List String) :
    Option TestCase :=
  (matcher.find? table.tests signatures).map (TestCase.ofSymbol · table.traits)

theorem lookUp_inState (resolver : Resolver) (triedAdditional triedImports : Bool)
    (progress : Progress) (signatures : List String) :
    ∃ remarks, (resolver.inState triedAdditional triedImports progress).lookUp signatures =
      (answer resolver.matcher progress.table signatures,
        resolver.inState triedAdditional triedImports (progress.record remarks)) := by
  simp only [lookUp, inState, answer]
  cases resolver.matcher.find? progress.table.tests signatures with
  | none => exact ⟨[], by simp only [Option.map_none, Progress.record, List.append_nil]⟩
  | some test => exact ⟨malformedRemarks test progress.table.traits, rfl⟩

variable [LawfulMonad m]

theorem attempt_adds {step : Search m Unit} (uniform : step.Uniform) (tier executable : String) :
    ∃ increment : m Progress, ∀ resolver : Resolver, resolver.executable = executable →
      resolver.attempt tier step =
        (fun added => { resolver with progress := resolver.progress ++ added }) <$> increment := by
  obtain ⟨increment, adds⟩ := uniform
  refine ⟨(fun r => match r.1 with
    | .ok () => r.2
    | .error failure => r.2.record [.remarked (Entry.searchError
        (s!"Exception while loading symbols from {tier} of " ++
          s!"'{executable}':\n{failure.report}"))]) <$> increment, ?_⟩
  rintro resolver rfl
  rw [attempt, adds resolver.progress, bind_map_left, Functor.map_map, ← bind_pure_comp]
  congr 1
  funext ⟨outcome, added⟩
  cases outcome with
  | ok _ => rfl
  | error failure => simp only [Progress.record_eq_append, Progress.append_assoc]

theorem uniform_scanPattern (parties : Collaborators m Reader) (resolver : Resolver)
    (pattern : String) : (scanPattern parties resolver pattern).Uniform := by
  refine .bind (.emit _) fun _ => .bind (.ask _) fun files => ?_
  split
  · exact .remark _
  · exact .bind (.remark _) fun _ =>
      .forM (fun file => .bind (.scan parties _ _ _) fun _ => .pure ()) files

theorem uniform_scanImport (parties : Collaborators m Reader) (resolver : Resolver)
    (imported : String) : (scanImport parties resolver imported).Uniform := by
  refine .bind (.lift _) fun isFile => ?_
  split
  · exact .bind (.scan parties _ _ _) fun _ => .pure ()
  · exact .pure ()

theorem loadAdditional_adds (parties : Collaborators m Reader) (resolver : Resolver) :
    ∃ increment : m Progress, ∀ triedAdditional triedImports progress,
      loadAdditional parties (resolver.inState triedAdditional triedImports progress) =
        (fun added => resolver.inState true triedImports (progress ++ added)) <$> increment := by
  have uniform : Search.Uniform (resolver.additional.forM (scanPattern parties resolver)) :=
    .forM (uniform_scanPattern parties resolver) _
  obtain ⟨increment, adds⟩ := attempt_adds uniform "additional PDBs" resolver.executable
  exact ⟨increment, fun _ triedImports progress =>
    adds (resolver.inState true triedImports progress) rfl⟩

theorem loadImports_adds (parties : Collaborators m Reader) (resolver : Resolver) :
    ∃ increment : m Progress, ∀ triedAdditional triedImports progress,
      loadImports parties (resolver.inState triedAdditional triedImports progress) =
        (fun added => resolver.inState triedAdditional true (progress ++ added)) <$> increment := by
  have uniform : Search.Uniform (do
      Search.emit [.listingImports resolver.executable]
      let imports ← Search.ask (parties.importsOf resolver.executable)
      imports.forM (scanImport parties resolver)) :=
    .bind (.emit _) fun _ => .bind (.ask _) fun imports =>
      .forM (uniform_scanImport parties resolver) imports
  obtain ⟨increment, adds⟩ := attempt_adds uniform "imports" resolver.executable
  exact ⟨increment, fun triedAdditional _ progress =>
    adds (resolver.inState triedAdditional true progress) rfl⟩

end Resolver
end TestAtlas
