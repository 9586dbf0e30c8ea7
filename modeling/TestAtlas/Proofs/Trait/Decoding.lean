import Mathlib.Data.List.Basic
import TestAtlas.Trait
import TestAtlas.Proofs.Symbol

/-!
How traits are spelled in the names of methods. Every trait that can be spelled
is read back, every trait that is read is spelled like that, and what is not read
does not have exactly one separator between its scopes and its appendix.
-/

namespace TestAtlas
namespace Trait

variable {t : Trait} {method : Symbol} {qualifier : String} {body : List Char}

/-- The name of the method that attaches a trait to the class with these scopes. -/
def methodName (qualifier : String) (t : Trait) : String :=
  qualifier ++ t.name ++ "__GTA__" ++ t.value ++ "_GTA_TRAIT"

/-- The fields have no colon in them, and the separator begins in neither of them. -/
structure IsSpellable (t : Trait) : Prop where
  plain_name : ':' ∉ t.name.toList
  plain_value : ':' ∉ t.value.toList
  name : ¬ separator <:+: t.name.toList
  name_end : ¬ "__GTA".toList <:+ t.name.toList
  name_end_underscore : ¬ "__GTA_".toList <:+ t.name.toList
  value : ¬ separator <:+: t.value.toList

theorem toList_methodName (qualifier : String) (t : Trait) :
    (methodName qualifier t).toList =
      qualifier.toList ++ (t.name.toList ++ (separator ++ t.value.toList)) ++
        Symbol.traitAppendix := by
  simp only [methodName, String.toList_append, List.append_assoc]
  rfl

theorem separator_ne_nil : separator ≠ [] := List.cons_ne_nil _ _

/-- The separator overlaps itself by one character or by two. -/
theorem overlap_separator : ∀ k ≤ separator.length, separator.drop k <+: separator.dropLast →
    separator.take k ∈ ["__GTA".toList, "__GTA_".toList, separator] := by decide

theorem IsSpellable.first (h : t.IsSpellable) :
    ¬ separator <:+: t.name.toList ++ separator.dropLast := by
  rw [List.infix_append_iff, not_or, not_or]
  refine ⟨h.name, fun inside => absurd inside.length_le (by decide), ?_⟩
  -- Such an occurrence begins in the name, which then ends in one of the three beginnings.
  rintro ⟨left, right, whole, ends, starts⟩
  have parts : separator.take left.length = left ∧ separator.drop left.length = right := by
    rw [whole, List.take_left, List.drop_left]
    exact ⟨rfl, rfl⟩
  have short : left.length ≤ separator.length := by
    rw [whole, List.length_append]
    exact Nat.le_add_right ..
  have known := overlap_separator left.length short (parts.2 ▸ starts)
  rw [parts.1] at known
  simp only [List.mem_cons, List.not_mem_nil, or_false] at known
  rcases known with rfl | rfl | rfl
  · exact h.name_end ends
  · exact h.name_end_underscore ends
  · exact h.name ends.isInfix

theorem payload?_eq (spelled : method.name.toList = body ++ Symbol.traitAppendix) :
    payload? method = some (body.drop method.payloadStart) := by
  have room := Symbol.payloadStart_le spelled
  rw [payload?, spelled]
  simp only [List.length_append, Nat.add_sub_cancel, List.take_left]
  exact if_pos (Nat.add_le_add_right room _)

theorem decode?_eq (spelled : method.name.toList = body ++ Symbol.traitAppendix) :
    decode? method =
      match Text.split separator (body.drop method.payloadStart) with
      | [name, value] => some ⟨String.ofList name, String.ofList value⟩
      | _ => none := by
  rw [decode?, payload?_eq spelled]
  rfl

theorem decode?_eq_some_iff (spelled : method.name.toList = body ++ Symbol.traitAppendix) :
    decode? method = some t ↔
      Text.Splits separator (body.drop method.payloadStart) [t.name.toList, t.value.toList] := by
  rw [decode?_eq spelled, ← Text.split_eq_iff separator_ne_nil]
  constructor
  · intro decoded
    split at decoded
    · rename_i name value fields
      cases decoded
      rw [fields, String.toList_ofList, String.toList_ofList]
    · cases decoded
  · intro fields
    simp only [fields, String.ofList_toList]

theorem decode?_eq_none_iff (spelled : method.name.toList = body ++ Symbol.traitAppendix) :
    decode? method = none ↔ Text.occurrences separator (body.drop method.payloadStart) ≠ 1 := by
  have length := Text.length_split separator_ne_nil (body.drop method.payloadStart)
  rw [decode?_eq spelled]
  constructor
  · intro missing once
    rw [once, List.length_eq_two] at length
    obtain ⟨name, value, fields⟩ := length
    simp only [fields, reduceCtorEq] at missing
  · intro others
    split
    · rename_i name value fields
      rw [fields, List.length_cons, List.length_singleton, Nat.add_right_cancel_iff] at length
      exact absurd length.symm others
    · rfl

theorem IsSpellable.plain (h : t.IsSpellable) :
    ':' ∉ t.name.toList ++ (separator ++ t.value.toList) := by
  rw [List.mem_append, List.mem_append, not_or, not_or]
  exact ⟨h.plain_name, by decide, h.plain_value⟩

theorem decode?_of_methodName (q : Symbol.IsQualifier qualifier.toList) (h : t.IsSpellable)
    (named : method.name = methodName qualifier t) : decode? method = some t := by
  have spelled := (congrArg String.toList named).trans (toList_methodName qualifier t)
  rw [decode?_eq_some_iff spelled, Symbol.payloadStart_eq q h.plain spelled, List.drop_left,
    Text.splits_pair_iff]
  exact ⟨rfl, h.first, h.value⟩

/-- What is read of a method is how the method is spelled. -/
theorem eq_methodName_of_decode? (spelled : method.name.toList = body ++ Symbol.traitAppendix)
    (decoded : decode? method = some t) :
    method.name =
      methodName (String.ofList (method.name.toList.take method.payloadStart)) t := by
  have fields := Text.splits_pair_iff.mp ((decode?_eq_some_iff spelled).mp decoded)
  have scopes : method.name.toList.take method.payloadStart = body.take method.payloadStart := by
    rw [spelled, List.take_append_of_le_length (Symbol.payloadStart_le spelled)]
  rw [← String.toList_inj, toList_methodName, String.toList_ofList, scopes, ← fields.1,
    List.take_append_drop]
  exact spelled

/-- Spelling a trait and reading it are inverse to each other. A trait without colons whose
separator is the first one and the only one is read back from every class, and its method's scopes
are those of the class. Conversely, whatever is read of a method with the appendix spells the
method, and nothing is read exactly if the separator does not occur once in the payload. -/
theorem decoding_inverts_spelling :
    (∀ (qualifier : String) (t : Trait) (method : Symbol),
      Symbol.IsQualifier qualifier.toList → t.IsSpellable → method.name = methodName qualifier t →
        decode? method = some t ∧ (qualifier ≠ "" → method.scope = qualifier.toList)) ∧
    ∀ (method : Symbol) (body : String), method.name = body ++ "_GTA_TRAIT" →
      (∀ t, decode? method = some t → method.name =
        methodName (String.ofList (method.name.toList.take method.payloadStart)) t) ∧
      (decode? method = none ↔
        Text.occurrences separator (body.toList.drop method.payloadStart) ≠ 1) := by
  constructor
  · intro qualifier t method q h named
    have spelled := (congrArg String.toList named).trans (toList_methodName qualifier t)
    refine ⟨decode?_of_methodName q h named, fun some => ?_⟩
    exact Symbol.scope_eq q (mt String.toList_eq_nil_iff.mp some) h.plain spelled
  · intro method body named
    have spelled : method.name.toList = body.toList ++ Symbol.traitAppendix := by
      rw [named, String.toList_append]
      rfl
    exact ⟨fun t decoded => eq_methodName_of_decode? spelled decoded, decode?_eq_none_iff spelled⟩

/-- Scopes and fields may hold the separator's characters and the appendix. -/
theorem decoding_inverts_spelling_marked :
    let qualifier := "ns::A__GTA__B_GTA_TRAIT::"
    let t : Trait := ⟨"Owner_GTA_TRAIT", "_GTA_TRAIT_"⟩
    let method : Symbol := { name := methodName qualifier t }
    Symbol.IsQualifier qualifier.toList ∧ t.IsSpellable ∧ qualifier ≠ "" ∧
      decode? method = some t ∧ method.scope = qualifier.toList ∧
      method.name = methodName (String.ofList (method.name.toList.take method.payloadStart)) t := by
  intro qualifier t method
  have q : Symbol.IsQualifier qualifier.toList := .inr (by decide)
  have spellable : t.IsSpellable := {
    plain_name := by decide
    plain_value := by decide
    name := Text.lastIndex?_eq_none_iff.mp (by decide)
    name_end := by decide
    name_end_underscore := by decide
    value := Text.lastIndex?_eq_none_iff.mp (by decide) }
  have named : qualifier ≠ "" := by decide
  have ends : method.name =
      qualifier ++ t.name ++ "__GTA__" ++ t.value ++ "_GTA_TRAIT" := rfl
  have read := decoding_inverts_spelling.1 qualifier t method q spellable rfl
  have spelled := (decoding_inverts_spelling.2 method _ ends).1 t read.1
  exact ⟨q, spellable, named, read.1, read.2 named, spelled⟩

end Trait
end TestAtlas
