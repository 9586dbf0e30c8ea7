import TestAtlas.Resolver

/-!
The tiers of a resolver as steps of a ladder. A lookup climbs them one after the
other, staying where it is while there is an answer or once a step was tried, and
then looks up what is there.
-/

namespace TestAtlas
namespace Resolver

/-- Where to look once the executable has no answer. -/
inductive Tier where
  | additional
  | imports
  deriving DecidableEq, Repr

namespace Tier

variable {m : Type → Type} [Monad m] {Reader : Type}

def title : Tier → String
  | additional => "additional PDBs"
  | imports => "imports"

def tried : Tier → Resolver → Bool
  | additional => triedAdditional
  | imports => triedImports

def mark (resolver : Resolver) : Tier → Resolver
  | additional => { resolver with triedAdditional := true }
  | imports => { resolver with triedImports := true }

def steps (parties : Collaborators m Reader) (resolver : Resolver) : Tier → Search m Unit
  | additional => resolver.additional.forM (scanPattern parties resolver)
  | imports => do
      Search.emit [.listingImports resolver.executable]
      let imports ← Search.ask (parties.importsOf resolver.executable)
      imports.forM (scanImport parties resolver)

def load (parties : Collaborators m Reader) : Tier → Resolver → m Resolver
  | additional => loadAdditional parties
  | imports => loadImports parties

theorem load_eq (parties : Collaborators m Reader) (resolver : Resolver) (tier : Tier) :
    tier.load parties resolver =
      (tier.mark resolver).attempt tier.title (tier.steps parties resolver) := by
  cases tier <;> rfl

/-- Tries the tier if nothing is found without it and it was not tried before. -/
def climb (parties : Collaborators m Reader) (signatures : List String) (tier : Tier)
    (resolver : Resolver) : m Resolver :=
  if (resolver.lookUp signatures).1.isNone && !tier.tried resolver then
    tier.load parties resolver
  else
    pure resolver

end Tier

/-- A lookup that finds nothing has nothing to say. -/
theorem lookUp_of_isNone {resolver : Resolver} {signatures : List String}
    (h : (resolver.lookUp signatures).1 = none) :
    resolver.lookUp signatures = (none, resolver) := by
  unfold lookUp at h ⊢
  dsimp only at h ⊢
  split at h
  · rfl
  · cases h

variable {m : Type → Type} [Monad m] [LawfulMonad m] {Reader : Type}

/-- To look up and then to escalate is to climb and then to look up. -/
theorem escalate_lookUp (parties : Collaborators m Reader) (signatures : List String)
    (tier : Tier) (resolver : Resolver) :
    escalate tier.tried (tier.load parties) signatures (resolver.lookUp signatures).1
        (resolver.lookUp signatures).2 =
      (·.lookUp signatures) <$> tier.climb parties signatures resolver := by
  cases found : (resolver.lookUp signatures).1 with
  | none =>
      rw [lookUp_of_isNone found, escalate, Tier.climb, found]
      split
      · rfl
      · rw [map_pure, lookUp_of_isNone found]
  | some test =>
      rw [escalate, Tier.climb, found]
      simp only [Option.isNone_some, Bool.false_and, Bool.false_eq_true, if_false, map_pure]
      rw [← found]

theorem find_eq (parties : Collaborators m Reader) (resolver : Resolver)
    (signatures : List String) :
    find parties resolver signatures = (do
      let first ← Tier.additional.climb parties signatures resolver
      let second ← Tier.imports.climb parties signatures first
      return second.lookUp signatures) := by
  change (escalate Tier.additional.tried (Tier.additional.load parties) signatures
      (resolver.lookUp signatures).1 (resolver.lookUp signatures).2 >>= fun looked =>
    escalate Tier.imports.tried (Tier.imports.load parties) signatures looked.1 looked.2) = _
  rw [escalate_lookUp, bind_map_left]
  congr 1
  funext first
  rw [escalate_lookUp, ← bind_pure_comp]

end Resolver
end TestAtlas
