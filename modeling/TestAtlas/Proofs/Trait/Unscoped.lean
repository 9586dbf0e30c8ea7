import TestAtlas.Proofs.Resolver.Escalation
import TestAtlas.Proofs.Trait.Decoding

/-!
Trait methods outside of all scopes. Such a method stands for itself, so it belongs to the
tests whose name begins with its own: not to those in its neighbourhood, but to those
in a class that is named like a trait method.
-/

namespace TestAtlas
namespace Symbol

variable {symbol : Symbol} {text body front : List Char}

/-- A name without scopes stands for itself. -/
theorem scope_of_unscoped (unscoped : ¬ separator <:+: symbol.name.toList) :
    symbol.scope = symbol.name.toList := by
  have missing : lastSeparator? symbol.name.toList = none :=
    Text.lastIndex?_eq_none_iff.mpr fun inside =>
      unscoped (inside.trans (List.take_prefix _ _).isInfix)
  rw [scope, missing]

theorem getLast?_of_appendix (ends : text = body ++ traitAppendix) : text.getLast? = some 'T' := by
  rw [ends, List.getLast?_append]
  rfl

/-- What a test's name begins with and has no separator is in front of the last scope. -/
theorem prefix_of_unscoped (unscoped : ¬ separator <:+: text) (ends : text = body ++ traitAppendix)
    (starts : text <+: front ++ testBody) : text <+: front := by
  obtain inside | ⟨more, rfl⟩ := List.prefix_or_prefix_of_prefix starts (List.prefix_append ..)
  · exact inside
  have spelled : testBody = ':' :: ':' :: "TestBody".toList := by decide
  rw [spelled, List.prefix_append_right_inj] at starts
  match more, starts with
  | [], _ => rw [List.append_nil]
  | [c], starts =>
      -- A single colon would be the last character, where the appendix ends.
      have last := getLast?_of_appendix ends
      rw [(List.cons_prefix_cons.mp starts).1, List.getLast?_concat] at last
      cases last
  | c :: d :: rest, starts =>
      obtain ⟨rfl, behind⟩ := List.cons_prefix_cons.mp starts
      obtain ⟨rfl, -⟩ := List.cons_prefix_cons.mp behind
      exact absurd ⟨front, rest, by rw [List.append_assoc]; rfl⟩ unscoped

end Symbol

namespace Trait

open Resolver (malformedRemarks)

variable {test method : Symbol} {body front : String}

theorem belongsTo_of_unscoped (unscoped : ¬ Symbol.separator <:+: method.name.toList) :
    belongsTo test method = true ↔ method.name.toList <+: test.name.toList := by
  rw [belongsTo, Symbol.scope_of_unscoped unscoped, List.isPrefixOf_iff_prefix]

/-- An unscoped method belongs to the tests in classes whose name begins with the method's. -/
theorem belongsTo_unscoped_iff (ends : method.name = body ++ "_GTA_TRAIT")
    (unscoped : ¬ Symbol.separator <:+: method.name.toList)
    (tested : test.name = front ++ "::TestBody") :
    belongsTo test method = true ↔ ∃ more, test.name = method.name ++ more ++ "::TestBody" := by
  rw [belongsTo_of_unscoped unscoped]
  constructor
  · intro starts
    rw [tested, String.toList_append] at starts
    obtain ⟨more, whole⟩ := Symbol.prefix_of_unscoped unscoped
      (by rw [ends, String.toList_append]; rfl) starts
    have same : front = method.name ++ String.ofList more := by
      rw [← String.toList_inj, String.toList_append, String.toList_ofList, whole]
    exact ⟨String.ofList more, same ▸ tested⟩
  · rintro ⟨more, whole⟩
    rw [whole, String.toList_append, String.toList_append, List.append_assoc]
    exact List.prefix_append ..

theorem malformed_append (test : Symbol) (methods more : List Symbol) :
    malformed test (methods ++ more) = malformed test methods ++ malformed test more := by
  simp only [malformed, List.filter_append]

/-- What a method adds to the traits of a test, wherever it stands. -/
theorem all_around (test method : Symbol) (before after : List Symbol) :
    all test (before ++ method :: after) =
      all test before ++ ((if belongsTo test method then (decode? method).toList else []) ++
        all test after) := by
  have alone : all test [method] =
      if belongsTo test method then (decode? method).toList else [] := by
    rw [all, List.filter_singleton]
    cases belongsTo test method with
    | false => rfl
    | true =>
        change [method].filterMap decode? = (decode? method).toList
        cases decoded : decode? method with
        | none => exact List.filterMap_cons_none decoded
        | some t => exact List.filterMap_cons_some decoded
  rw [all_append, ← List.singleton_append, all_append, alone]

/-- What a method adds to the malformed ones of a test, wherever it stands. -/
theorem malformed_around (test method : Symbol) (before after : List Symbol) :
    malformed test (before ++ method :: after) =
      malformed test before ++
        ((if belongsTo test method && (decode? method).isNone then [method] else []) ++
          malformed test after) := by
  have alone : malformed test [method] =
      if belongsTo test method && (decode? method).isNone then [method] else [] := by
    rw [malformed, List.filter_filter, List.filter_singleton, Bool.and_comm]
    exact Bool.cond_eq_ite ..
  rw [malformed_append, ← List.singleton_append, malformed_append, alone]

theorem malformedRemarks_append (test : Symbol) (methods more : List Symbol) :
    malformedRemarks test (methods ++ more) =
      malformedRemarks test methods ++ malformedRemarks test more := by
  rw [malformedRemarks, malformed_append, List.map_append]
  rfl

/-- The warning on a method, if it is malformed. -/
def warnings (method : Symbol) : List Event :=
  if (decode? method).isNone then
    [.remarked (.searchWarning s!"Ignoring malformed trait symbol '{method.name}'")]
  else []

theorem malformedRemarks_around (test method : Symbol) (before after : List Symbol) :
    malformedRemarks test (before ++ method :: after) =
      malformedRemarks test before ++
        ((if belongsTo test method then warnings method else []) ++
          malformedRemarks test after) := by
  simp only [malformedRemarks, malformed_around, List.map_append, warnings]
  cases belongsTo test method <;> cases (decode? method).isNone <;> rfl

/-- A trait is read of a method, or a warning is given on it. -/
theorem length_toList_add_length_warnings (method : Symbol) :
    (decode? method).toList.length + (warnings method).length = 1 := by
  rw [warnings]
  cases decode? method <;> rfl

/-- A method without scopes matters to a test exactly if the name of the test begins with the
method's, as it does in a class that is named like a trait method and maybe longer; then the test
has its trait, or the warning that it is malformed, once more. To any other test such a method can
be left out. -/
theorem unscoped_pairs_iff {test method : Symbol} {body front : String}
    (ends : method.name = body ++ "_GTA_TRAIT")
    (unscoped : ¬ Symbol.separator <:+: method.name.toList)
    (tested : test.name = front ++ "::TestBody") (before after : List Symbol) :
    let paired := ∃ more, test.name = method.name ++ more ++ "::TestBody"
    (all test (before ++ method :: after) = all test (before ++ after) ∧
        malformedRemarks test (before ++ method :: after) =
          malformedRemarks test (before ++ after) ↔ ¬ paired) ∧
      (paired →
        all test (before ++ method :: after) =
          all test before ++ ((decode? method).toList ++ all test after) ∧
        malformedRemarks test (before ++ method :: after) =
          malformedRemarks test before ++ (warnings method ++ malformedRemarks test after)) := by
  intro paired
  have belongs : belongsTo test method = true ↔ paired :=
    belongsTo_unscoped_iff ends unscoped tested
  have traits := all_around test method before after
  have warned := malformedRemarks_around test method before after
  refine ⟨⟨fun ⟨same, same'⟩ pairs => ?_, fun apart => ?_⟩, fun pairs => ?_⟩
  · -- One of the two lists is longer by what the method adds.
    have once := length_toList_add_length_warnings method
    rw [belongs.mpr pairs, if_pos rfl, same, all_append] at traits
    rw [belongs.mpr pairs, if_pos rfl, same', malformedRemarks_append] at warned
    have length := congrArg List.length traits
    have length' := congrArg List.length warned
    simp only [List.length_append] at length length'
    omega
  · have other : belongsTo test method = false := Bool.eq_false_iff.mpr (mt belongs.mp apart)
    rw [traits, warned, other, all_append, malformedRemarks_append]
    exact ⟨rfl, rfl⟩
  · rw [traits, warned, belongs.mpr pairs]
    exact ⟨rfl, rfl⟩

/-- A test in a class of its own, and one in a class that is named like the trait method. -/
theorem unscoped_pairs_named_alike :
    let method : Symbol := { name := "Owner__GTA__alice_GTA_TRAIT" }
    let other : Symbol := { name := "A_Test::TestBody" }
    let test : Symbol := { name := "Owner__GTA__alice_GTA_TRAIT::TestBody" }
    method.name = "Owner__GTA__alice" ++ "_GTA_TRAIT" ∧
      ¬ Symbol.separator <:+: method.name.toList ∧
      (all other [method] = all other [] ∧
        malformedRemarks other [method] = malformedRemarks other []) ∧
      all test [method] = [⟨"Owner", "alice"⟩] ∧ all test [] = [] := by
  intro method other test
  have ends : method.name = "Owner__GTA__alice" ++ "_GTA_TRAIT" := rfl
  have unscoped : ¬ Symbol.separator <:+: method.name.toList :=
    Text.lastIndex?_eq_none_iff.mp (by decide)
  have tested : other.name = "A_Test" ++ "::TestBody" := rfl
  have tested' : test.name = "Owner__GTA__alice_GTA_TRAIT" ++ "::TestBody" := rfl
  obtain ⟨apart, -⟩ := unscoped_pairs_iff ends unscoped tested [] []
  obtain ⟨-, pairs⟩ := unscoped_pairs_iff ends unscoped tested' [] []
  have plain : ¬ ∃ more, other.name = method.name ++ more ++ "::TestBody" := by
    rintro ⟨more, whole⟩
    have short : other.name.length < method.name.length := by decide
    rw [whole, String.length_append, String.length_append] at short
    omega
  have spellable : IsSpellable ⟨"Owner", "alice"⟩ := {
    plain_name := by decide
    plain_value := by decide
    name := Text.lastIndex?_eq_none_iff.mp (by decide)
    name_end := by decide
    name_end_underscore := by decide
    value := Text.lastIndex?_eq_none_iff.mp (by decide) }
  have read : decode? method = some ⟨"Owner", "alice"⟩ :=
    decode?_of_methodName (.inl (rfl : ("" : String).toList = [])) spellable rfl
  refine ⟨ends, unscoped, apart.mpr plain, (pairs ⟨"", rfl⟩).1.trans ?_, rfl⟩
  rw [read]
  rfl

end Trait
end TestAtlas
