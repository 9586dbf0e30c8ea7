import TestAtlas.Symbol
import TestAtlas.Proofs.Text.Split

/-!
The scopes of a trait method. They end at the last separator in front of the
appendix, whatever the scopes themselves are called.
-/

namespace TestAtlas
namespace Symbol

variable {symbol : Symbol} {qualifier plain body : List Char}

theorem separator_ne_nil : separator ≠ [] := List.cons_ne_nil _ _

theorem traitAppendix_ne_nil : traitAppendix ≠ [] := by decide

/-- Text without colons has no separator in it. -/
theorem separator_absent (h : ':' ∉ plain) : ¬ separator <:+: plain :=
  fun inside => h (inside.subset List.mem_cons_self)

theorem lastIndex?_separator (h : ':' ∉ plain) (scopes : List Char) :
    Text.lastIndex? separator (scopes ++ (separator ++ plain)) = some scopes.length := by
  refine Text.lastIndex?_of_last separator_ne_nil scopes fun later => ?_
  change separator <:+: ':' :: plain at later
  rcases List.infix_cons_iff.mp later with starts | inside
  · have second := (List.cons_prefix_cons.mp starts).2
    exact h (second.subset List.mem_cons_self)
  · exact separator_absent h inside

/-- The appendix that a name ends in is its last one. -/
theorem lastSeparator?_append (body : List Char) :
    lastSeparator? (body ++ traitAppendix) = Text.lastIndex? separator body := by
  have short : ¬ traitAppendix <:+: (traitAppendix ++ []).tail := fun inside =>
    absurd inside.length_le (by decide)
  have last := Text.lastIndex?_of_last traitAppendix_ne_nil body short
  rw [List.append_nil] at last
  rw [lastSeparator?, last, Option.getD_some, List.take_left]

/-- The scopes of a class, each with the separator behind it, or nothing. -/
def IsQualifier (qualifier : List Char) : Prop := qualifier = [] ∨ separator <:+ qualifier

/-- The payload starts behind the scopes, whatever they are called. -/
theorem payloadStart_eq (q : IsQualifier qualifier) (h : ':' ∉ plain)
    (spelled : symbol.name.toList = qualifier ++ plain ++ traitAppendix) :
    symbol.payloadStart = qualifier.length := by
  rw [payloadStart, spelled, lastSeparator?_append]
  rcases q with rfl | ⟨scopes, rfl⟩
  · have missing := Text.lastIndex?_eq_none_iff.mpr (separator_absent h)
    rw [List.nil_append, missing]
    rfl
  · rw [List.append_assoc, lastIndex?_separator h, List.length_append]

/-- A payload that does not start with the name has the scopes in front of it. -/
theorem scope_eq_take (h : symbol.payloadStart ≠ 0) :
    symbol.scope = symbol.name.toList.take symbol.payloadStart := by
  rw [payloadStart] at h ⊢
  rw [scope]
  cases found : lastSeparator? symbol.name.toList with
  | none =>
      rw [found] at h
      exact absurd rfl h
  | some i => rfl

theorem scope_eq (q : IsQualifier qualifier) (named : qualifier ≠ []) (h : ':' ∉ plain)
    (spelled : symbol.name.toList = qualifier ++ plain ++ traitAppendix) :
    symbol.scope = qualifier := by
  have start := payloadStart_eq q h spelled
  have inside : symbol.payloadStart ≠ 0 := by
    rw [start, ne_eq, List.length_eq_zero_iff]
    exact named
  rw [scope_eq_take inside, start, spelled, List.append_assoc, List.take_left]

/-- The payload of a trait method starts in front of the appendix or with it. -/
theorem payloadStart_le (spelled : symbol.name.toList = body ++ traitAppendix) :
    symbol.payloadStart ≤ body.length := by
  rw [payloadStart, spelled, lastSeparator?_append]
  cases found : Text.lastIndex? separator body with
  | none => exact Nat.zero_le _
  | some i =>
      obtain ⟨before, after, rfl, rfl⟩ := Text.eq_append_of_lastIndex? found
      simp only [List.length_append]
      omega

end Symbol
end TestAtlas
