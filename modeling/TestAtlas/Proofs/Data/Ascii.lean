import TestAtlas.Proofs.Data.Json

/-!
Texts in ASCII. JSON spells all other characters with escapes, so its texts are
in ASCII whatever the values are.
-/

namespace TestAtlas

/-- All characters are among the first 128. -/
def IsAscii (text : List Char) : Prop := ∀ c ∈ text, c.toNat < 128

instance (text : List Char) : Decidable (IsAscii text) :=
  List.decidableBAll (fun c : Char => c.toNat < 128) text

namespace IsAscii

variable {text more : List Char} {α : Type}

theorem nil : IsAscii [] := List.forall_mem_nil _

theorem append (h : IsAscii text) (h' : IsAscii more) : IsAscii (text ++ more) :=
  List.forall_mem_append.mpr ⟨h, h'⟩

theorem cons {c : Char} (small : c.toNat < 128) (h : IsAscii text) : IsAscii (c :: text) :=
  List.forall_mem_cons.mpr ⟨small, h⟩

theorem flatMap {items : List α} {spell : α → List Char}
    (h : ∀ item ∈ items, IsAscii (spell item)) : IsAscii (items.flatMap spell) := by
  intro c member
  obtain ⟨item, listed, inside⟩ := List.mem_flatMap.mp member
  exact h item listed c inside

theorem of_subset (h : IsAscii text) (subset : more ⊆ text) : IsAscii more :=
  fun c member => h c (subset member)

theorem of_isDigit (digits : ∀ c ∈ text, c.isDigit = true) : IsAscii text := by
  intro c member
  have digit := digits c member
  simp only [Char.isDigit, Bool.and_eq_true, decide_eq_true_eq] at digit
  have upper : c.toNat ≤ 57 := UInt32.le_iff_toNat_le.mp digit.2
  omega

theorem intercalate {separator : String} (apart : IsAscii separator.toList) {texts : List String}
    (h : ∀ s ∈ texts, IsAscii s.toList) : IsAscii (String.intercalate separator texts).toList := by
  induction texts with
  | nil => exact nil
  | cons first rest ih =>
      obtain ⟨front, others⟩ := List.forall_mem_cons.mp h
      cases rest with
      | nil =>
          rw [String.intercalate_singleton]
          exact front
      | cons second rest =>
          rw [String.intercalate_cons_cons, String.toList_append, String.toList_append]
          exact (front.append apart).append (ih others)

end IsAscii

namespace Decimal

theorem isAscii_nat (n : Nat) : IsAscii (toString n).toList :=
  .of_isDigit fun _ => Json.isDigit_of_mem_repr

theorem isAscii_sign (d : Decimal) : IsAscii d.sign.toList := by
  rw [sign]
  split <;> decide

theorem isAscii_zeros (n : Nat) : IsAscii (zeros n).toList := by
  rw [zeros, String.toList_ofList]
  exact fun c member => List.eq_of_mem_replicate member ▸ by decide

theorem isAscii_take (n k : Nat) : IsAscii ((toString n).take k).toString.toList := by
  rw [String.Slice.toString_eq, String.toList_copy_take]
  exact (isAscii_nat n).of_subset (List.take_subset k _)

theorem isAscii_drop (n k : Nat) : IsAscii ((toString n).drop k).toString.toList := by
  rw [String.Slice.toString_eq, String.toList_copy_drop]
  exact (isAscii_nat n).of_subset (List.drop_subset k _)

theorem isAscii_exponentText (e : Int) : IsAscii (exponentText e).toList := by
  rw [exponentText, String.toList_append]
  refine .append ?_ ?_
  · split <;> decide
  · split
    · rw [String.toList_append]
      exact .append (by decide) (isAscii_nat _)
    · exact isAscii_nat _

theorem isAscii_render (format : Format) (d : Decimal) : IsAscii (d.render format).toList := by
  rw [render]
  dsimp only
  generalize (normalize (toString d.magnitude).length d.magnitude d.exponent) = found
  obtain ⟨m, e⟩ := found
  have front := d.isAscii_sign
  -- Zero, numbers with an exponent, whole numbers, and a point inside or in front of the digits.
  split
  · rw [String.toList_append]
    exact front.append (by decide)
  split
  · simp only [String.toList_append]
    have fraction : IsAscii (if (toString m).length = 1 then ""
        else "." ++ ((toString m).drop 1).toString).toList := by
      split
      · decide
      · rw [String.toList_append]
        exact .append (by decide) (isAscii_drop m 1)
    exact (((front.append (isAscii_take m 1)).append fraction).append (by decide)).append
      (isAscii_exponentText _)
  split
  · simp only [String.toList_append]
    exact ((front.append (isAscii_nat m)).append (isAscii_zeros _)).append (by decide)
  split
  · simp only [String.toList_append]
    exact ((front.append (isAscii_take m _)).append (by decide)).append (isAscii_drop m _)
  · simp only [String.toList_append]
    exact ((front.append (by decide)).append (isAscii_zeros _)).append (isAscii_nat m)

end Decimal

namespace Json

theorem isAscii_escapeUnit (n : Nat) : IsAscii (escapeUnit n) := by
  have digit : ∀ k < 16, (Hex.digit k).toNat < 128 := by decide
  have digits (count : Nat) : IsAscii (Hex.digits count n) := by
    induction count with
    | zero => exact .nil
    | succ count ih => exact ih.cons (digit _ (Nat.mod_lt _ (by decide)))
  exact (digits 4).cons (by decide) |>.cons (by decide)

theorem isAscii_escapeChar (c : Char) : IsAscii (escapeChar c) := by
  rw [escapeChar]
  iterate 7
    split
    · decide
  split
  · rename_i range
    have upper : c.toNat ≤ 126 := UInt32.le_iff_toNat_le.mp range.2
    exact .cons (by omega) .nil
  split
  · exact isAscii_escapeUnit _
  · exact (isAscii_escapeUnit _).append (isAscii_escapeUnit _)

theorem isAscii_quote (s : String) : IsAscii (quote s).toList := by
  rw [quote, String.toList_ofList]
  exact .cons (by decide) (.append (.flatMap fun c _ => isAscii_escapeChar c) (by decide))

theorem isAscii_int (n : Int) : IsAscii (toString n).toList := by
  obtain ⟨first, more, spelled, digit | rfl, digits⟩ := exists_toString n
  · rw [spelled]
    exact .of_isDigit (List.forall_mem_cons.mpr ⟨digit, digits⟩)
  · rw [spelled]
    exact .cons (by decide) (.of_isDigit digits)

/-- The marks between parts are in ASCII. -/
structure Style.Plain (style : Style) : Prop where
  item : IsAscii style.item.toList
  name : IsAscii style.name.toList

variable {style : Style}

mutual

theorem isAscii_render (plain : style.Plain) : ∀ value : Value, IsAscii (render style value).toList
  | .null => by
      rw [render]
      decide
  | .bool true => by
      rw [render]
      decide
  | .bool false => by
      rw [render]
      decide
  | .int n => by
      rw [render]
      exact isAscii_int n
  | .decimal d => by
      rw [render]
      exact d.isAscii_render .standard
  | .text s => by
      rw [render]
      exact isAscii_quote s
  | .list items => by
      rw [render, String.toList_append, String.toList_append]
      have items := IsAscii.intercalate plain.item (isAscii_renderItems plain items)
      exact (items.cons (by decide)).append (by decide)
  | .record fields => by
      rw [render, String.toList_append, String.toList_append]
      have fields := IsAscii.intercalate plain.item (isAscii_renderFields plain fields)
      exact (fields.cons (by decide)).append (by decide)

theorem isAscii_renderItems (plain : style.Plain) :
    ∀ items : List Value, ∀ s ∈ renderItems style items, IsAscii s.toList
  | [] => by
      rw [renderItems]
      exact List.forall_mem_nil _
  | value :: rest => by
      rw [renderItems]
      exact List.forall_mem_cons.mpr ⟨isAscii_render plain value, isAscii_renderItems plain rest⟩

theorem isAscii_renderFields (plain : style.Plain) :
    ∀ fields : List (String × Value), ∀ s ∈ renderFields style fields, IsAscii s.toList
  | [] => by
      rw [renderFields]
      exact List.forall_mem_nil _
  | (name, value) :: rest => by
      rw [renderFields]
      refine List.forall_mem_cons.mpr ⟨?_, isAscii_renderFields plain rest⟩
      rw [String.toList_append, String.toList_append]
      exact ((isAscii_quote name).append plain.name).append (isAscii_render plain value)

end

end Json
end TestAtlas
