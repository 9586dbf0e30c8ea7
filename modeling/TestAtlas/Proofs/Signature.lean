import TestAtlas.Proofs.Resolver.Escalation

/-!
The language that signatures denote. A name is denoted exactly if it consists of
some scopes, each with a separator behind it, then one of the signatures, then
anything. Which scopes are left out does not have to be guessed: a name starts
with a scope and a separator in at most one way.
-/

namespace TestAtlas
namespace Signature

variable {scope name rest : List Char} {signatures : List (List Char)}

/-- A scope is a word, or else the sign for a scope without a name. -/
def IsScope (scope : List Char) : Prop :=
  (scope ≠ [] ∧ ∀ c ∈ scope, Letter.isWord c = true) ∨ scope = anonymousScope

/-- The name consists of leading scopes, one of the signatures as it is written, and any rest. -/
def Spells (signatures : List (List Char)) (name : List Char) : Prop :=
  ∃ (scopes : List (List Char)) (signature rest : List Char),
    (∀ scope ∈ scopes, IsScope scope) ∧ signature ∈ signatures ∧
      name = scopes.flatMap (· ++ Symbol.separator) ++ signature ++ rest

theorem IsScope.ne_nil (h : IsScope scope) : scope ≠ [] := by
  rcases h with ⟨named, -⟩ | rfl
  · exact named
  · exact List.cons_ne_nil _ _

theorem not_anonymous_of_word (named : scope ≠ []) (word : ∀ c ∈ scope, Letter.isWord c = true)
    (rest : List Char) : anonymousScope.isPrefixOf (scope ++ rest) = false := by
  cases scope with
  | nil => exact absurd rfl named
  | cons c others =>
      have quoted : c ≠ '`' := by
        rintro rfl
        exact absurd (word '`' List.mem_cons_self) (by decide)
      rw [Bool.eq_false_iff, ne_eq, List.isPrefixOf_iff_prefix]
      intro starts
      exact quoted (List.cons_prefix_cons.mp starts).1.symm

theorem afterScope_of_isScope (h : IsScope scope) (rest : List Char) :
    afterScope (scope ++ (Symbol.separator ++ rest)) = Symbol.separator ++ rest := by
  rcases h with ⟨named, word⟩ | rfl
  · rw [afterScope, not_anonymous_of_word named word, if_neg Bool.false_ne_true,
      List.dropWhile_append_of_pos word]
    exact List.dropWhile_cons_of_neg (by decide)
  · have starts : anonymousScope.isPrefixOf (anonymousScope ++ (Symbol.separator ++ rest)) = true :=
      List.isPrefixOf_iff_prefix.mpr (List.prefix_append _ _)
    rw [afterScope, if_pos starts, List.drop_left]

/-- What stands in front of the rest of a name, if that is shorter, is a scope. -/
theorem isScope_before (shorter : (afterScope name).length < name.length) :
    ∃ scope, IsScope scope ∧ name = scope ++ afterScope name := by
  rw [afterScope] at shorter ⊢
  split at shorter
  · rename_i starts
    rw [if_pos starts]
    obtain ⟨rest, rfl⟩ := List.isPrefixOf_iff_prefix.mp starts
    exact ⟨anonymousScope, .inr rfl, by rw [List.drop_left]⟩
  · rename_i other
    rw [if_neg other]
    refine ⟨name.takeWhile Letter.isWord, .inl ⟨fun empty => ?_, ?_⟩,
      List.takeWhile_append_dropWhile.symm⟩
    · have whole := List.takeWhile_append_dropWhile (p := Letter.isWord) (l := name)
      rw [empty, List.nil_append] at whole
      rw [whole] at shorter
      exact Nat.lt_irrefl _ shorter
    · intro c member
      exact List.all_eq_true.mp List.all_takeWhile c member

theorem dropScope?_eq_some_iff :
    dropScope? name = some rest ↔
      ∃ scope, IsScope scope ∧ name = scope ++ (Symbol.separator ++ rest) := by
  constructor
  · intro dropped
    rw [dropScope?] at dropped
    split at dropped
    · rename_i found
      obtain ⟨shorter, starts⟩ := found
      obtain ⟨scope, isScope, whole⟩ := isScope_before shorter
      obtain ⟨behind, split⟩ := List.isPrefixOf_iff_prefix.mp starts
      rw [← split, List.drop_left, Option.some.injEq] at dropped
      rw [dropped] at split
      exact ⟨scope, isScope, by rwa [split]⟩
    · cases dropped
  · rintro ⟨scope, isScope, rfl⟩
    have some := List.length_pos_iff.mpr isScope.ne_nil
    rw [dropScope?, afterScope_of_isScope isScope, if_pos, List.drop_left]
    refine ⟨?_, List.isPrefixOf_iff_prefix.mpr (List.prefix_append _ _)⟩
    rw [@List.length_append _ scope]
    omega

theorem denotes_iff :
    denotes signatures name = true ↔
      (∃ signature ∈ signatures, signature <+: name) ∨
        ∃ rest, dropScope? name = some rest ∧ denotes signatures rest = true := by
  rw [denotes, Bool.or_eq_true, List.any_eq_true]
  simp only [List.isPrefixOf_iff_prefix]
  refine or_congr_right ?_
  split
  · rename_i rest found
    simp only [found, Option.some.injEq, exists_eq_left']
  · rename_i missing
    simp only [missing, reduceCtorEq, false_and, exists_false]

/-- A name is spelled with no scope in front, or with one more scope than some shorter name. -/
theorem spells_iff :
    Spells signatures name ↔
      (∃ signature ∈ signatures, signature <+: name) ∨
        ∃ scope rest, IsScope scope ∧ name = scope ++ (Symbol.separator ++ rest) ∧
          Spells signatures rest := by
  constructor
  · rintro ⟨scopes, signature, rest, areScopes, member, rfl⟩
    cases scopes with
    | nil => exact .inl ⟨signature, member, List.prefix_append _ _⟩
    | cons scope others =>
        refine .inr ⟨scope, others.flatMap (· ++ Symbol.separator) ++ signature ++ rest,
          areScopes scope List.mem_cons_self, ?_, others, signature, rest, ?_, member, rfl⟩
        · simp only [List.flatMap_cons, List.append_assoc]
        · exact fun other h => areScopes other (List.mem_cons_of_mem _ h)
  · rintro (⟨signature, member, rest, rfl⟩ |
      ⟨scope, _, isScope, rfl, others, signature, rest, areScopes, member, rfl⟩)
    · exact ⟨[], signature, rest, List.forall_mem_nil _, member, rfl⟩
    · refine ⟨scope :: others, signature, rest, ?_, member, ?_⟩
      · exact List.forall_mem_cons.mpr ⟨isScope, areScopes⟩
      · simp only [List.flatMap_cons, List.append_assoc]

/-- Taking off one scope after the other, the longest word each time, misses no way to spell a
name. -/
theorem denotes_iff_spells : denotes signatures name = true ↔ Spells signatures name := by
  induction length : name.length using Nat.strongRecOn generalizing name with
  | ind _ ih =>
      subst length
      -- Both sides go on with the same rest, as the scope in front and its separator fix it.
      rw [denotes_iff, spells_iff]
      refine or_congr_right ?_
      constructor
      · rintro ⟨rest, dropped, denoted⟩
        obtain ⟨scope, isScope, whole⟩ := dropScope?_eq_some_iff.mp dropped
        have spelled := (ih _ (length_of_dropScope? dropped) rfl).mp denoted
        exact ⟨scope, rest, isScope, whole, spelled⟩
      · rintro ⟨scope, rest, isScope, whole, spelled⟩
        have dropped := dropScope?_eq_some_iff.mpr ⟨scope, isScope, whole⟩
        have denoted := (ih _ (length_of_dropScope? dropped) rfl).mpr spelled
        exact ⟨rest, dropped, denoted⟩

theorem find?_eq (symbols : List Symbol) (signatures : List String) :
    find? symbols signatures = Matcher.qualified.find? symbols signatures := rfl

theorem denotes_qualified_iff (signatures : List String) (symbol : Symbol) :
    Matcher.qualified.Denotes signatures symbol ↔
      Spells (signatures.map String.toList) symbol.name.toList := by
  rw [Matcher.Denotes, Matcher.qualified, denotes_iff_spells, and_iff_right_iff_imp]
  rintro ⟨-, signature, -, -, member, -⟩ rfl
  exact List.not_mem_nil member

/-- Qualified names are matched by their language: leading scopes, one of the signatures letter by
letter, and anything behind it. The first symbol of a list whose name is in the language is found,
by going through the list with the signatures taken apart as by asking for each name anew. -/
theorem qualified_decides (signatures : List String) :
    (∀ name, Matcher.qualified.accepts signatures name = true ↔
      ∃ (scopes : List (List Char)) (signature : String) (rest : List Char),
        (∀ scope ∈ scopes, IsScope scope) ∧ signature ∈ signatures ∧ name.toList =
          scopes.flatMap (· ++ Symbol.separator) ++ signature.toList ++ rest) ∧
    ∀ symbols,
      (∀ symbol, find? symbols signatures = some symbol ↔
        Spells (signatures.map String.toList) symbol.name.toList ∧
          ∃ before after, symbols = before ++ symbol :: after ∧
            ∀ earlier ∈ before, ¬ Spells (signatures.map String.toList) earlier.name.toList) ∧
      (find? symbols signatures = none ↔
        ∀ symbol ∈ symbols, ¬ Spells (signatures.map String.toList) symbol.name.toList) ∧
      find? symbols [] = none ∧
      find? symbols signatures = Matcher.qualified.find? symbols signatures := by
  refine ⟨fun name => ?_, fun symbols => ⟨fun symbol => ?_, ?_, rfl, find?_eq symbols signatures⟩⟩
  · rw [Matcher.qualified, denotes_iff_spells, Spells]
    simp only [List.mem_map]
    constructor
    · rintro ⟨scopes, _, rest, areScopes, ⟨signature, member, rfl⟩, whole⟩
      exact ⟨scopes, signature, rest, areScopes, member, whole⟩
    · rintro ⟨scopes, signature, rest, areScopes, member, whole⟩
      exact ⟨scopes, _, rest, areScopes, ⟨signature, member, rfl⟩, whole⟩
  · simp only [find?_eq, Matcher.find?_eq_some_iff, denotes_qualified_iff]
  · simp only [find?_eq, Matcher.find?_eq_none_iff, denotes_qualified_iff]

end Signature
end TestAtlas
