import TestAtlas.Proofs.Text.Split
import TestAtlas.Report.Selection

/-!
Which symbols a selection lists. A category is searched and then cut, and the
cut keeps the first symbols up to the limit if this is above zero. A limit of
zero keeps all of them, and one below zero leaves some out at the end.
-/

namespace TestAtlas
namespace Report

/-- The categories of a kind with all their symbols. -/
def Kind.categories (kind : Kind) (table : SymbolTable) : Listing :=
  (if kind = .traits then [] else [("tests", table.tests)]) ++
    if kind = .tests then [] else [("traits", table.traits)]

namespace Selection

variable {selection : Selection} {symbols : List Symbol} {table : SymbolTable}

/-- A name that has the text in it which is searched for, in any mixture of capital and small
letters. -/
def Mentions (search? : Option String) (symbol : Symbol) : Prop :=
  ∀ text ∈ search?, (Casing.lower text).toList <:+: (Casing.lower symbol.name).toList

theorem matchesSearch_iff {search? : Option String} {symbol : Symbol} :
    matchesSearch search? symbol = true ↔ Mentions search? symbol := by
  cases search? with
  | none => exact iff_of_true rfl nofun
  | some text =>
      have occurs : matchesSearch (some text) symbol = true ↔
          (Casing.lower text).toList <:+: (Casing.lower symbol.name).toList := by
        rw [matchesSearch, occursIn, Option.isSome_iff_ne_none, ne_eq, Text.lastIndex?_eq_none_iff,
          Classical.not_not]
      rw [occurs]
      exact ⟨fun inside text member => Option.mem_some.mp member ▸ inside,
        fun all => all text rfl⟩

instance (search? : Option String) (symbol : Symbol) : Decidable (Mentions search? symbol) :=
  decidable_of_iff _ matchesSearch_iff

/-- The symbols of a category that the search finds. -/
def found (selection : Selection) (symbols : List Symbol) : List Symbol :=
  symbols.filter (Mentions selection.search?)

theorem pick_eq (selection : Selection) (symbols : List Symbol) :
    selection.pick symbols = upTo selection.limit? (selection.found symbols) := by
  have same : (fun s => decide (Mentions selection.search? s)) =
      matchesSearch selection.search? := by
    funext s
    rw [Bool.eq_iff_iff, decide_eq_true_iff, matchesSearch_iff]
  rw [pick, found, same]

/-- The first symbols of a category that the search finds, no more than the limit says; below one it
allows none. -/
def firstOf (selection : Selection) (symbols : List Symbol) : List Symbol :=
  match selection.limit? with
  | none => selection.found symbols
  | some limit => (selection.found symbols).take limit.toNat

/-- The categories with their first symbols. -/
def bounded (selection : Selection) (table : SymbolTable) : Listing :=
  (selection.kind.categories table).map fun c => (c.1, selection.firstOf c.2)

/-- A limit is above zero, or it is below and leaves out all that the search finds. -/
def Bounds (selection : Selection) (symbols : List Symbol) : Prop :=
  ∀ limit ∈ selection.limit?, 0 < limit ∨ (selection.found symbols).length ≤ limit.natAbs

theorem listing_eq (selection : Selection) (table : SymbolTable) :
    selection.listing table =
      (selection.kind.categories table).map fun c => (c.1, selection.pick c.2) := by
  rw [listing, Kind.categories]
  cases selection.kind <;> rfl

theorem upTo_eq_take_iff (limit : Int) (symbols : List Symbol) :
    upTo (some limit) symbols = symbols.take limit.toNat ↔
      0 < limit ∨ symbols.length ≤ limit.natAbs := by
  obtain below | rfl | above := Int.lt_trichotomy limit 0
  · have cut : upTo (some limit) symbols = symbols.take (symbols.length - limit.natAbs) := by
      rw [upTo, if_neg (by omega), if_neg (by omega)]
    have allowed : limit.toNat = 0 := by omega
    rw [cut, allowed, List.take_zero, List.take_eq_nil_iff, Nat.sub_eq_zero_iff_le,
      or_iff_right (show ¬ 0 < limit by omega), or_iff_left_iff_imp]
    rintro rfl
    exact Nat.zero_le _
  · have whole : upTo (some 0) symbols = symbols := rfl
    rw [whole, Int.toNat_zero, List.take_zero, Int.natAbs_zero, Nat.le_zero_eq,
      List.length_eq_zero_iff]
    exact (or_iff_right (by omega)).symm
  · refine iff_of_true ?_ (.inl above)
    rw [upTo, if_neg (by omega), if_pos above]

/-- The limit is a bound just where it is above zero or would leave out everything. -/
theorem pick_eq_firstOf_iff : selection.pick symbols = selection.firstOf symbols ↔
    selection.Bounds symbols := by
  rw [pick_eq, firstOf, Bounds]
  cases selection.limit? with
  | none => exact iff_of_true rfl nofun
  | some limit =>
      dsimp only
      rw [upTo_eq_take_iff]
      exact ⟨fun bounds limit member => Option.mem_some.mp member ▸ bounds,
        fun all => all limit rfl⟩

/-- A limit of minus one leaves out the last symbol that the search finds. -/
example : ({ search? := some "a", limit? := some (-1) } : Selection).pick
    [{ name := "Ab" }, { name := "b" }, { name := "bA" }] = [{ name := "Ab" }] := by
  decide +kernel

theorem listing_eq_bounded_iff : selection.listing table = selection.bounded table ↔
    ∀ category ∈ selection.kind.categories table, selection.Bounds category.2 := by
  rw [listing_eq, bounded, List.map_inj_left]
  refine forall₂_congr fun category _ => ?_
  rw [Prod.mk.injEq, and_iff_right rfl, pick_eq_firstOf_iff]

end Selection
end Report
end TestAtlas
