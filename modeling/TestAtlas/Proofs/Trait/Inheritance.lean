import Mathlib.Data.List.Basic
import TestAtlas.Resolver
import TestAtlas.Proofs.Trait.Decoding

/-!
Which tests a trait belongs to. Names are compared as texts, but as far as their
segments have no colons in them this is a comparison of whole segments: a trait
belongs to the tests that lie inside its class, and to no others.
-/

namespace TestAtlas
namespace Symbol

variable {first second : String} {scopes segments : List String}

/-- A part of a qualified name. -/
def IsSegment (segment : String) : Prop := segment ≠ "" ∧ ':' ∉ segment.toList

instance (segment : String) : Decidable (IsSegment segment) :=
  inferInstanceAs (Decidable (_ ∧ _))

/-- Scopes with a separator behind each of them. -/
def qualify (scopes : List String) : List Char :=
  scopes.flatMap fun scope => scope.toList ++ separator

theorem isQualifier_qualify (scopes : List String) : IsQualifier (qualify scopes) := by
  rcases List.eq_nil_or_concat scopes with rfl | ⟨outer, inner, rfl⟩
  · exact .inl rfl
  · refine .inr ⟨qualify outer ++ inner.toList, ?_⟩
    simp only [qualify, List.concat_eq_append, List.flatMap_append, List.flatMap_cons,
      List.flatMap_nil, List.append_nil, List.append_assoc]

theorem qualify_ne_nil (named : scopes ≠ []) : qualify scopes ≠ [] := by
  obtain ⟨scope, others, rfl⟩ := List.exists_cons_of_ne_nil named
  rw [qualify, List.flatMap_cons, List.append_assoc]
  exact List.append_ne_nil_of_right_ne_nil _ (List.cons_ne_nil _ _)

theorem toList_intercalate_append (scopes : List String) (last : String) :
    ("::".intercalate (scopes ++ [last])).toList = qualify scopes ++ last.toList := by
  induction scopes with
  | nil => rw [List.nil_append, String.intercalate_singleton, qualify, List.flatMap_nil,
      List.nil_append]
  | cons scope others ih =>
      have more : others ++ [last] ≠ [] :=
        List.append_ne_nil_of_right_ne_nil _ (List.cons_ne_nil _ _)
      rw [List.cons_append, String.intercalate_cons_of_ne_nil more, String.toList_append, ih,
        String.toList_append, qualify, qualify, List.flatMap_cons,
        List.append_assoc _ _ last.toList]
      rfl

theorem takeWhile_segment (h : ':' ∉ first.toList) (rest : List Char) :
    (first.toList ++ (separator ++ rest)).takeWhile (· != ':') = first.toList := by
  have other : ∀ c ∈ first.toList, (c != ':') = true := fun c hc => by
    rw [bne_iff_ne]
    rintro rfl
    exact h hc
  rw [List.takeWhile_append_of_pos other]
  exact List.append_nil _

/-- A separator ends the same segment in both texts. -/
theorem prefix_append_separator_iff (hf : ':' ∉ first.toList) (hs : ':' ∉ second.toList)
    (left right : List Char) :
    first.toList ++ (separator ++ left) <+: second.toList ++ (separator ++ right) ↔
      first = second ∧ left <+: right := by
  constructor
  · rintro ⟨rest, whole⟩
    rw [List.append_assoc, List.append_assoc] at whole
    have same := congrArg (List.takeWhile (· != ':')) whole
    rw [takeWhile_segment hf, takeWhile_segment hs, String.toList_inj] at same
    subst same
    exact ⟨rfl, rest, List.append_cancel_left (List.append_cancel_left whole)⟩
  · rintro ⟨rfl, inside⟩
    rwa [List.prefix_append_right_inj, List.prefix_append_right_inj]

/-- The scopes of a class are in front of a name exactly if the name goes on with further segments
behind them. -/
theorem qualify_prefix_iff (hs : ∀ scope ∈ scopes, IsSegment scope)
    (hn : ∀ segment ∈ segments, IsSegment segment) (named : segments ≠ []) :
    qualify scopes <+: ("::".intercalate segments).toList ↔
      ∃ inner, inner ≠ [] ∧ segments = scopes ++ inner := by
  induction scopes generalizing segments with
  | nil =>
      refine ⟨fun _ => ⟨segments, named, rfl⟩, fun _ => ?_⟩
      rw [qualify, List.flatMap_nil]
      exact List.nil_prefix
  | cons scope others ih =>
      obtain ⟨plain, hs⟩ := List.forall_mem_cons.mp hs
      cases segments with
      | nil => exact absurd rfl named
      | cons segment rest =>
          obtain ⟨plain', hn⟩ := List.forall_mem_cons.mp hn
          rw [qualify, List.flatMap_cons, List.append_assoc]
          by_cases more : rest = []
          · subst more
            rw [String.intercalate_singleton]
            constructor
            · -- A single segment has no separator that could end the class.
              intro starts
              refine absurd (starts.subset ?_) plain'.2
              exact List.mem_append_right _ List.mem_cons_self
            · rintro ⟨inner, some, whole⟩
              rw [List.cons_append, List.cons.injEq] at whole
              exact absurd (List.append_eq_nil_iff.mp whole.2.symm).2 some
          · rw [String.intercalate_cons_of_ne_nil more, String.toList_append,
              String.toList_append, List.append_assoc]
            refine (prefix_append_separator_iff plain.2 plain'.2 _ _).trans ?_
            rw [← qualify, ih hs hn more]
            simp only [List.cons_append, List.cons.injEq]
            constructor
            · rintro ⟨rfl, inner, some, whole⟩
              exact ⟨inner, some, rfl, whole⟩
            · rintro ⟨inner, some, rfl, whole⟩
              exact ⟨rfl, inner, some, whole⟩

end Symbol

namespace Trait

/-- A trait method of a class, by the scopes of the class and what stands before the appendix. -/
structure Method where
  scopes : List String
  payload : String
  file : String := ""
  line : Int := 0
  named : scopes ≠ []
  segments : ∀ scope ∈ scopes, Symbol.IsSegment scope
  plain : ':' ∉ payload.toList

namespace Method

variable {method : Method} {test : Symbol} {segments : List String}

/-- The method as it is named. -/
def symbol (method : Method) : Symbol where
  name := "::".intercalate (method.scopes ++ [method.payload ++ "_GTA_TRAIT"])
  file := method.file
  line := method.line

/-- The trait in the payload, if this has two fields. -/
def trait? (method : Method) : Option Trait :=
  match Text.split separator method.payload.toList with
  | [name, value] => some ⟨String.ofList name, String.ofList value⟩
  | _ => none

/-- The class of the method surrounds what consists of the segments. -/
def Surrounds (method : Method) (segments : List String) : Prop :=
  method.scopes <+: segments ∧ method.scopes ≠ segments

instance (method : Method) (segments : List String) : Decidable (method.Surrounds segments) :=
  inferInstanceAs (Decidable (_ ∧ _))

theorem toList_name (method : Method) :
    method.symbol.name.toList =
      Symbol.qualify method.scopes ++ method.payload.toList ++ Symbol.traitAppendix := by
  rw [symbol, Symbol.toList_intercalate_append, String.toList_append, List.append_assoc]
  rfl

theorem scope_symbol (method : Method) : method.symbol.scope = Symbol.qualify method.scopes :=
  Symbol.scope_eq (Symbol.isQualifier_qualify _) (Symbol.qualify_ne_nil method.named)
    method.plain method.toList_name

theorem decode?_symbol (method : Method) : decode? method.symbol = method.trait? := by
  have start := Symbol.payloadStart_eq (Symbol.isQualifier_qualify _) method.plain
    method.toList_name
  rw [decode?_eq method.toList_name, start, List.drop_left]
  rfl

theorem belongsTo_symbol (method : Method) (h : ∀ segment ∈ segments, Symbol.IsSegment segment)
    (spelled : test.name = "::".intercalate segments) :
    belongsTo test method.symbol = true ↔ method.Surrounds segments := by
  rw [belongsTo, scope_symbol, spelled, List.isPrefixOf_iff_prefix, Surrounds]
  by_cases named : segments = []
  · -- No segments surround anything, and no class has an empty name.
    subst named
    refine iff_of_false (fun starts => ?_) fun inside => method.named (List.prefix_nil.mp inside.1)
    exact Symbol.qualify_ne_nil method.named (List.prefix_nil.mp starts)
  · rw [Symbol.qualify_prefix_iff method.segments h named]
    constructor
    · rintro ⟨inner, some, rfl⟩
      exact ⟨List.prefix_append _ _, fun same => some (List.self_eq_append_right.mp same)⟩
    · rintro ⟨⟨inner, rfl⟩, other⟩
      refine ⟨inner, ?_, rfl⟩
      rintro rfl
      exact other (List.append_nil _).symm

theorem filter_belongsTo (methods : List Method)
    (h : ∀ segment ∈ segments, Symbol.IsSegment segment)
    (spelled : test.name = "::".intercalate segments) :
    (methods.map symbol).filter (belongsTo test) =
      (methods.filter (·.Surrounds segments)).map symbol := by
  rw [List.filter_map]
  refine congrArg (List.map symbol) (List.filter_congr fun method _ => ?_)
  rw [Function.comp_apply, Bool.eq_iff_iff, belongsTo_symbol method h spelled, decide_eq_true_iff]

theorem all_symbols (methods : List Method) (h : ∀ segment ∈ segments, Symbol.IsSegment segment)
    (spelled : test.name = "::".intercalate segments) :
    all test (methods.map symbol) = (methods.filter (·.Surrounds segments)).filterMap trait? := by
  rw [all, filter_belongsTo methods h spelled, List.filterMap_map]
  exact List.filterMap_congr fun method _ => decode?_symbol method

theorem malformed_symbols (methods : List Method)
    (h : ∀ segment ∈ segments, Symbol.IsSegment segment)
    (spelled : test.name = "::".intercalate segments) :
    malformed test (methods.map symbol) =
      ((methods.filter (·.Surrounds segments)).filter (·.trait?.isNone)).map symbol := by
  rw [malformed, filter_belongsTo methods h spelled, List.filter_map]
  refine congrArg (List.map symbol) (List.filter_congr fun method _ => ?_)
  rw [Function.comp_apply, decode?_symbol]

theorem trait?_eq_some_iff (method : Method) (t : Trait) :
    method.trait? = some t ↔
      Text.Splits separator method.payload.toList [t.name.toList, t.value.toList] := by
  have start := Symbol.payloadStart_eq (Symbol.isQualifier_qualify _) method.plain
    method.toList_name
  rw [← decode?_symbol, decode?_eq_some_iff method.toList_name, start, List.drop_left]

/-- A class does not surround what lies in a class with a longer name. -/
theorem not_surrounds_of_longer {outer inner : List String} {fixture more : String}
    (scopes : method.scopes = outer ++ [fixture]) (longer : more ≠ "") :
    ¬ method.Surrounds (outer ++ (fixture ++ more) :: inner) := by
  rintro ⟨inside, -⟩
  rw [scopes, List.prefix_append_right_inj, List.cons_prefix_cons] at inside
  have same : fixture ++ more = fixture ++ "" := inside.1.symm.trans String.append_empty.symm
  exact longer ((String.append_right_inj fixture).mp same)

end Method

/-- Traits attach by whole segments. A test whose name consists of segments without colons has, in
the order of the methods and as often as they occur, the traits of the methods whose class
surrounds it and whose payload has two fields, and one warning for each method whose class
surrounds it and whose payload has not. A class with a longer name inherits nothing. -/
theorem traits_follow_segments {test : Symbol} {segments : List String}
    (h : ∀ segment ∈ segments, Symbol.IsSegment segment)
    (spelled : test.name = "::".intercalate segments) (methods : List Method) :
    all test (methods.map Method.symbol) =
      (methods.filter (·.Surrounds segments)).filterMap Method.trait? ∧
    Resolver.malformedRemarks test (methods.map Method.symbol) =
      ((methods.filter (·.Surrounds segments)).filter (·.trait?.isNone)).map (fun method =>
        .remarked (.searchWarning s!"Ignoring malformed trait symbol '{method.symbol.name}'")) ∧
    (∀ (method : Method) (t : Trait), method.trait? = some t ↔
      Text.Splits separator method.payload.toList [t.name.toList, t.value.toList]) ∧
    ∀ (method : Method) (outer inner : List String) (fixture more : String),
      method.scopes = outer ++ [fixture] → more ≠ "" →
        segments = outer ++ (fixture ++ more) :: inner →
          all test [method.symbol] = [] ∧ Resolver.malformedRemarks test [method.symbol] = [] := by
  refine ⟨Method.all_symbols methods h spelled, ?_, Method.trait?_eq_some_iff, ?_⟩
  · rw [Resolver.malformedRemarks, Method.malformed_symbols methods h spelled, List.map_map]
    rfl
  · intro method outer inner fixture more scopes longer whole
    have apart : [method].filter (·.Surrounds segments) = [] := by
      rw [List.filter_singleton, whole,
        decide_eq_false (Method.not_surrounds_of_longer scopes longer)]
      rfl
    have traits := Method.all_symbols [method] h spelled
    have malformed := Method.malformed_symbols [method] h spelled
    rw [apart] at traits malformed
    rw [Resolver.malformedRemarks]
    exact ⟨traits, congrArg (List.map _) malformed⟩

/-- Of the methods of a namespace and of three classes, two of them with names that begin alike. -/
theorem traits_follow_segments_nested :
    let segments := ["ns_GTA_TRAIT", "Ab", "TestBody"]
    let test : Symbol := { name := "ns_GTA_TRAIT::Ab::TestBody" }
    let common : Method := {
      scopes := ["ns_GTA_TRAIT"], payload := "Area__GTA___GTA_TRAIT", named := by decide
      segments := by decide, plain := by decide }
    let other : Method := {
      scopes := ["ns_GTA_TRAIT", "A"], payload := "Area__GTA__A", named := by decide
      segments := by decide, plain := by decide }
    let broken : Method := {
      scopes := ["ns_GTA_TRAIT", "Ab"], payload := "Area", named := by decide
      segments := by decide, plain := by decide }
    (∀ segment ∈ segments, Symbol.IsSegment segment) ∧ test.name = "::".intercalate segments ∧
      all test ([common, other, broken, common].map Method.symbol) =
        [⟨"Area", "_GTA_TRAIT"⟩, ⟨"Area", "_GTA_TRAIT"⟩] ∧
      Resolver.malformedRemarks test ([common, other, broken, common].map Method.symbol) =
        [.remarked (.searchWarning
          "Ignoring malformed trait symbol 'ns_GTA_TRAIT::Ab::Area_GTA_TRAIT'")] := by
  intro segments test common other broken
  have plain : ∀ segment ∈ segments, Symbol.IsSegment segment := by decide
  have spelled : test.name = "::".intercalate segments := by decide
  obtain ⟨traits, remarks, read, -⟩ :=
    traits_follow_segments plain spelled [common, other, broken, common]
  have inside : [common, other, broken, common].filter (·.Surrounds segments) =
      [common, broken, common] := rfl
  have area : common.trait? = some ⟨"Area", "_GTA_TRAIT"⟩ := by
    refine (read common _).mpr (Text.splits_pair_iff.mpr ⟨by decide, ?_, ?_⟩)
    · exact Text.lastIndex?_eq_none_iff.mp (by decide)
    · exact Text.lastIndex?_eq_none_iff.mp (by decide)
  have missing : broken.trait? = none := by
    rw [Method.trait?, Text.split_of_absent (Text.lastIndex?_eq_none_iff.mp (by decide))]
  rw [inside] at traits remarks
  refine ⟨plain, spelled, ?_, ?_⟩
  · rw [traits]
    simp only [List.filterMap_cons, area, missing, List.filterMap_nil]
  · rw [remarks]
    simp only [List.filter_cons, area, missing, Option.isNone_some, Option.isNone_none,
      List.filter_nil, Bool.false_eq_true, if_false, if_true]
    rfl

end Trait
end TestAtlas
